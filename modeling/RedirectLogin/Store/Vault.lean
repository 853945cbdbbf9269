import RedirectLogin.Config
import RedirectLogin.Store.Envelope

/-!
# The vault

A store in one encrypted file. The key comes from a passphrase and the salt in the file; deriving
it is slow, so the key derived last is kept with the salt and the costs it belongs to (`KeyCache`).

A save writes a new file beside the old one and renames it, so the name never leads to anything
but a whole envelope: `savePlan` is the list of those steps.

Principal results: `load_files` — a load changes no file.
-/

set_option autoImplicit false

namespace RedirectLogin

open Cipher (Argon2id.Params Argon2id.derive)

/-- A source of random bytes: byte after byte, of which the first `used` are spent. -/
structure Entropy where
  byte : Nat → UInt8
  used : Nat

/-- Draw `n` bytes. -/
def Entropy.draw (e : Entropy) (n : Nat) : List UInt8 × Entropy :=
  ((List.range n).map (fun i => e.byte (e.used + i)), { e with used := e.used + n })

theorem Entropy.draw_length (e : Entropy) (n : Nat) : (e.draw n).1.length = n := by
  simp [Entropy.draw]

/-- A key with what it was derived from. -/
structure DerivedKey where
  salt : List UInt8
  costs : Argon2id.Params
  key : List UInt8
  deriving DecidableEq, Repr

abbrev KeyCache := Option DerivedKey

/-- A vault: where it is, and how its owner derives keys. -/
structure Vault where
  path : Path
  passphrase : String
  costs : Argon2id.Params
  deriving DecidableEq, Repr

/-- What a vault works on. -/
structure VaultState where
  files : Files
  cache : KeyCache
  entropy : Entropy

namespace Vault

/-- Permission bits of a vault file: its owner may read and write it, nobody else may do
anything. -/
def fileMode : Nat := 0o600

/-- Where a save writes before it renames. -/
def draftPath (v : Vault) : Path :=
  v.path.withExtension "tmp"

/-- The steps that put `content` at the vault's path. -/
def savePlan (v : Vault) (content : List UInt8) : List FileStep :=
  v.path.parent?.toList.map .makeDirectories ++
    [.truncate v.draftPath fileMode, .append v.draftPath content, .sync v.draftPath,
     .rename v.draftPath v.path]

/-- Derive a key; costs from a file may be unacceptable. -/
def deriveKey (v : Vault) (salt : List UInt8) (costs : Argon2id.Params) :
    Except StoreError (List UInt8) :=
  match costs.check with
  | .error e => .error (.corrupt ("invalid KDF parameters: " ++ e.message))
  | .ok () => .ok (Argon2id.derive costs (Text.bytes v.passphrase) salt Envelope.keyLength)

/-- The key for a salt and costs, from the cache if it is the one kept there. -/
def keyFor (v : Vault) (cache : KeyCache) (salt : List UInt8) (costs : Argon2id.Params) :
    Except StoreError (List UInt8) × KeyCache :=
  match cache.filter (fun d => d.salt == salt && d.costs == costs) with
  | some kept => (.ok kept.key, cache)
  | none =>
    match v.deriveKey salt costs with
    | .ok key => (.ok key, some ⟨salt, costs, key⟩)
    | .error e => (.error e, cache)

/-- The salt of the kept key if it was derived with this vault's costs, else a new one. -/
def chooseSalt (v : Vault) (s : VaultState) : List UInt8 × Entropy :=
  match s.cache.filter (fun d => d.costs == v.costs) with
  | some kept => (kept.salt, s.entropy)
  | none => s.entropy.draw Envelope.saltLength

/-- The content of the file that keeps these tokens. -/
def sealTokens (v : Vault) (key salt nonce : List UInt8) (tokens : TokenSet) : String :=
  (Envelope.ofParts
    { costs := v.costs
      salt := salt
      nonce := nonce
      sealed := Cipher.encrypt key nonce (Text.bytes tokens.record) }).text

def save (v : Vault) (tokens : TokenSet) (s : VaultState) : Except StoreError Unit × VaultState :=
  let (salt, entropy) := v.chooseSalt s
  match v.keyFor s.cache salt v.costs with
  | (.error e, cache) => (.error e, { s with cache := cache, entropy := entropy })
  | (.ok key, cache) =>
    let (nonce, entropy) := entropy.draw Envelope.nonceLength
    let plan := v.savePlan (Text.bytes (v.sealTokens key salt nonce tokens))
    match FileStep.runAll plan s.files with
    | (.ok (), files) => (.ok (), ⟨files, cache, entropy⟩)
    | (.error e, files) => (.error (.io e), ⟨files, cache, entropy⟩)

/-- The envelope at the vault's path, if there is a file. -/
def readEnvelope (v : Vault) (files : Files) : Except StoreError (Option Envelope) :=
  match files.readText v.path with
  | .ok text => (Envelope.ofText text).map some
  | .error .notFound => .ok none
  | .error e => .error (.io e)

/-- The tokens in what was sealed with `key`. -/
def openTokens (key nonce sealed : List UInt8) : Except StoreError TokenSet :=
  match Cipher.decrypt? key nonce sealed with
  | none => .error (.crypto "wrong passphrase or tampered vault")
  | some record =>
    match Json.decodeBytes TokenSet.decoder record with
    | .ok tokens => .ok tokens
    | .error problem => .error (.corrupt problem.message)

/-- The tokens an envelope keeps, and the cache after deriving its key. -/
def openEnvelope (v : Vault) (cache : KeyCache) (e : Envelope) :
    Except StoreError TokenSet × KeyCache :=
  match e.parts with
  | .error error => (.error error, cache)
  | .ok parts =>
    match v.keyFor cache parts.salt parts.costs with
    | (.error error, cache) => (.error error, cache)
    | (.ok key, cache) => (openTokens key parts.nonce parts.sealed, cache)

def load (v : Vault) (s : VaultState) : Except StoreError (Option TokenSet) × VaultState :=
  match v.readEnvelope s.files with
  | .error e => (.error e, s)
  | .ok none => (.ok none, s)
  | .ok (some envelope) =>
    let (result, cache) := v.openEnvelope s.cache envelope
    (result.map some, { s with cache := cache })

/-- Remove the file; one that is not there is fine. -/
def clear (v : Vault) (s : VaultState) : Except StoreError Unit × VaultState :=
  match s.files.remove v.path with
  | .ok files => (.ok (), { s with files := files })
  | .error .notFound => (.ok (), s)
  | .error e => (.error (.io e), s)

def store (v : Vault) : TokenStore VaultState where
  name := "vault"
  save := v.save
  load := v.load
  clear := v.clear

theorem load_files (v : Vault) (s : VaultState) : (v.load s).2.files = s.files := by
  unfold load
  split <;> rfl

end Vault

namespace Config

def vaultFileName : String := "session.vault"

/-- Where the vault is: as configured, or below the directory for data, if there is one. -/
def vaultLocation (c : Config) (dataDirectory : Option Path) : Option Path :=
  match c.vaultPath with
  | some path => some (.ofText path)
  | none => dataDirectory.map fun directory => (directory.child appName).child vaultFileName

end Config

end RedirectLogin
