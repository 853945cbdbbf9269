import RedirectLogin.Cipher.Aead
import RedirectLogin.Cipher.Argon2id
import RedirectLogin.Store.Basic
import RedirectLogin.Text.Base64

/-!
# The vault's file format

A vault file is a JSON object: the version of the format, the costs of the key derivation, and
salt, nonce and sealed tokens in Base64. `Envelope` is that object, `Envelope.Parts` what it says
once the Base64 is read.
-/

set_option autoImplicit false

namespace RedirectLogin

open Cipher (Argon2id.Params)

structure Envelope where
  version : Nat
  costs : Argon2id.Params
  salt : String
  nonce : String
  ciphertext : String
  deriving DecidableEq, Repr

namespace Envelope

/-- The one version of the format. -/
def currentVersion : Nat := 1

def saltLength : Nat := 16
def nonceLength : Nat := 12
def keyLength : Nat := 32

def costsJson (p : Argon2id.Params) : Json :=
  .object [("m_cost", .nat p.memory.toNat), ("t_cost", .nat p.passes.toNat),
    ("p_cost", .nat p.lanes.toNat)]

def toJson (e : Envelope) : Json :=
  .object
    [("version", .nat e.version), ("kdf", costsJson e.costs), ("salt", .string e.salt),
     ("nonce", .string e.nonce), ("ciphertext", .string e.ciphertext)]

/-- The content of a vault file. -/
def text (e : Envelope) : String :=
  e.toJson.compact

/-- Costs while their fields are being read. -/
structure CostsDraft where
  memory : Option Nat
  passes : Option Nat
  lanes : Option Nat

/-- A natural number of 32 bits. -/
def asWord : Json.Decoder Nat :=
  Json.asNatural UInt32.size "u32"

def costsFields : List (Json.Field CostsDraft) :=
  [⟨"m_cost", false, fun j d => do .ok { d with memory := some (← asWord j) }⟩,
   ⟨"t_cost", false, fun j d => do .ok { d with passes := some (← asWord j) }⟩,
   ⟨"p_cost", false, fun j d => do .ok { d with lanes := some (← asWord j) }⟩]

def costsDecoder : Json.Decoder Argon2id.Params := fun j => do
  let d ← Json.readRecord .text "struct KdfParams" costsFields ⟨none, none, none⟩ j
  let memory ← Json.required "m_cost" d.memory
  let passes ← Json.required "t_cost" d.passes
  let lanes ← Json.required "p_cost" d.lanes
  .ok ⟨UInt32.ofNat memory, UInt32.ofNat passes, UInt32.ofNat lanes⟩

/-- An envelope while its fields are being read. -/
structure Draft where
  version : Option Nat
  costs : Option Argon2id.Params
  salt : Option String
  nonce : Option String
  ciphertext : Option String

def fields : List (Json.Field Draft) :=
  [⟨"version", false,
     fun j d => do .ok { d with version := some (← Json.asNatural UInt8.size "u8" j) }⟩,
   ⟨"kdf", false, fun j d => do .ok { d with costs := some (← costsDecoder j) }⟩,
   ⟨"salt", false, fun j d => do .ok { d with salt := some (← Json.asString j) }⟩,
   ⟨"nonce", false, fun j d => do .ok { d with nonce := some (← Json.asString j) }⟩,
   ⟨"ciphertext", false, fun j d => do .ok { d with ciphertext := some (← Json.asString j) }⟩]

def decoder : Json.Decoder Envelope := fun j => do
  let d ← Json.readRecord .text "struct Envelope" fields ⟨none, none, none, none, none⟩ j
  let version ← Json.required "version" d.version
  let costs ← Json.required "kdf" d.costs
  let salt ← Json.required "salt" d.salt
  let nonce ← Json.required "nonce" d.nonce
  let ciphertext ← Json.required "ciphertext" d.ciphertext
  .ok ⟨version, costs, salt, nonce, ciphertext⟩

/-- What an envelope says. -/
structure Parts where
  costs : Argon2id.Params
  salt : List UInt8
  nonce : List UInt8
  sealed : List UInt8
  deriving DecidableEq, Repr

/-- Read a field in Base64. -/
def readField (name text : String) : Except StoreError (List UInt8) :=
  match Text.Base64.decode (Text.bytes text) with
  | .ok bytes => .ok bytes
  | .error refusal => .error (.corrupt (name ++ ": " ++ refusal.message))

/-- Read a field of fixed length in Base64. -/
def readFixed (name : String) (length : Nat) (text : String) : Except StoreError (List UInt8) := do
  let bytes ← readField name text
  if bytes.length = length then .ok bytes
  else .error (.corrupt (name ++ " has the wrong length"))

/-- What the envelope says, if its version is known and its fields are well-formed. -/
def parts (e : Envelope) : Except StoreError Parts :=
  if e.version ≠ currentVersion then
    .error (.corrupt ("unsupported vault version " ++ toString e.version))
  else do
    let salt ← readFixed "salt" saltLength e.salt
    let nonce ← readFixed "nonce" nonceLength e.nonce
    let sealed ← readField "ciphertext" e.ciphertext
    .ok ⟨e.costs, salt, nonce, sealed⟩

/-- The envelope that says this. -/
def ofParts (p : Parts) : Envelope where
  version := currentVersion
  costs := p.costs
  salt := Text.Base64.write p.salt
  nonce := Text.Base64.write p.nonce
  ciphertext := Text.Base64.write p.sealed

/-- The envelope a text holds. -/
def ofText (text : String) : Except StoreError Envelope :=
  match Json.decode decoder text with
  | .ok e => .ok e
  | .error problem => .error (.corrupt problem.message)

end Envelope

end RedirectLogin
