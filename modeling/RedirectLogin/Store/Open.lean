import RedirectLogin.Store.Keyring
import RedirectLogin.Store.Vault

/-!
# Opening a store

The store that a configuration asks for: a vault, which needs a passphrase and a place, or an entry
of the system's keyring, which needs a keyring. A build without one refuses it, since tokens in a
keyring of the process would be gone when that ends.
-/

set_option autoImplicit false

namespace RedirectLogin

/-- The keyring of a system: for each account an entry, or the reason why there is none. -/
abbrev SystemKeyring (κ : Type) := String → Except KeyringError (Keyring κ)

/-- A store that was opened. -/
inductive OpenStore (κ : Type) where
  | vault (vault : Vault)
  | keyring (entry : Keyring κ)

/-- Open the store that the configuration asks for. -/
def Config.openStore {κ : Type} (c : Config) (dataDirectory : Option Path)
    (keyring : Option (SystemKeyring κ)) (passphrase : Option String) :
    Except StoreError (OpenStore κ) :=
  match c.storage with
  | .keyring =>
    match keyring with
    | none => .error .keyringUnavailable
    | some entries =>
      match entries c.keyringAccount with
      | .ok entry => .ok (.keyring entry)
      | .error e => .error (.keyring e.message)
  | .vault =>
    match passphrase with
    | none => .error .missingPassphrase
    | some passphrase =>
      match c.vaultLocation dataDirectory with
      | some path => .ok (.vault ⟨path, passphrase, .default⟩)
      | none => .error (.noVaultLocation "Could not find local data directory")

end RedirectLogin
