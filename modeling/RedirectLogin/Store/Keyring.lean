import RedirectLogin.Store.Basic

/-!
# The keyring store

A store in one entry of a keyring, which holds the record of a token set as text, or nothing. The
keyring is a service of the system: `Keyring` is what an entry of it does when it is asked, and
`Keyring.store` is the store over whatever that is. `KeyringEntry` is an entry that lives in the
process, and is gone when that ends.
-/

set_option autoImplicit false

namespace RedirectLogin

/-- Why a keyring does not do what it is asked. -/
inductive KeyringError where
  | noEntry
  | other (reason : String)
  deriving DecidableEq, Repr

def KeyringError.message : KeyringError → String
  | .noEntry => "No matching entry found in secure storage"
  | .other reason => reason

/-- What an entry of a keyring does when it is asked; `κ` is the state that the system keeps. -/
structure Keyring (κ : Type) where
  set : String → κ → Except KeyringError Unit × κ
  get : κ → Except KeyringError String × κ
  delete : κ → Except KeyringError Unit × κ

namespace Keyring

variable {κ : Type} (entry : Keyring κ)

def save (tokens : TokenSet) (s : κ) : Except StoreError Unit × κ :=
  match entry.set tokens.record s with
  | (.ok (), s) => (.ok (), s)
  | (.error e, s) => (.error (.keyring e.message), s)

def load (s : κ) : Except StoreError (Option TokenSet) × κ :=
  match entry.get s with
  | (.ok record, s) =>
    match TokenSet.ofRecord record with
    | .ok tokens => (.ok (some tokens), s)
    | .error problem => (.error (.corrupt problem.message), s)
  | (.error .noEntry, s) => (.ok none, s)
  | (.error e, s) => (.error (.keyring e.message), s)

/-- Delete the entry; one that is not there is fine. -/
def clear (s : κ) : Except StoreError Unit × κ :=
  match entry.delete s with
  | (.ok (), s) => (.ok (), s)
  | (.error .noEntry, s) => (.ok (), s)
  | (.error e, s) => (.error (.keyring e.message), s)

def store : TokenStore κ where
  name := "keyring"
  save := entry.save
  load := entry.load
  clear := entry.clear

end Keyring

/-- An entry in the process: the account it belongs to and the secret it holds. -/
structure KeyringEntry where
  account : String
  secret : Option String
  deriving DecidableEq, Repr

namespace KeyringEntry

def new (account : String) : KeyringEntry :=
  ⟨account, none⟩

/-- The keyring of such entries. -/
def keyring : Keyring KeyringEntry where
  set secret e := (.ok (), { e with secret := some secret })
  get e :=
    match e.secret with
    | some secret => (.ok secret, e)
    | none => (.error .noEntry, e)
  delete e :=
    match e.secret with
    | some _ => (.ok (), { e with secret := none })
    | none => (.error .noEntry, e)

def store : TokenStore KeyringEntry :=
  keyring.store

end KeyringEntry

end RedirectLogin
