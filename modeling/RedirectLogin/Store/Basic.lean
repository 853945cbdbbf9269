import RedirectLogin.Failure
import RedirectLogin.Store.Files
import RedirectLogin.Token

/-!
# Token stores

A token store saves, loads and clears one token set. What it works on (a register, a file system,
a random source) is its state `σ`, passed through every operation, so one definition of a session
serves all stores.

Principal results: `attemptTwice_of_ok` — an operation that succeeds at once is attempted once.
-/

set_option autoImplicit false

namespace RedirectLogin

inductive StoreError where
  | keyring (reason : String)
  | io (error : IoError)
  | corrupt (reason : String)
  | crypto (reason : String)
  | missingPassphrase
  | noVaultLocation (reason : String)
  | keyringUnavailable
  deriving DecidableEq, Repr

namespace StoreError

/-- The name of the kind of error. -/
def label : StoreError → String
  | .keyring _ => "Keyring"
  | .io _ => "Io"
  | .corrupt _ => "Corrupt"
  | .crypto _ => "Crypto"
  | .missingPassphrase => "MissingPassphrase"
  | .noVaultLocation _ => "NoVaultLocation"
  | .keyringUnavailable => "KeyringUnavailable"

def message : StoreError → String
  | .keyring reason => "Keyring error: " ++ reason
  | .io error => "I/O error: " ++ error.message
  | .corrupt reason => "Stored record is corrupt: " ++ reason
  | .crypto reason => "Encryption error: " ++ reason
  | .missingPassphrase => "Vault passphrase is required"
  | .noVaultLocation reason => "Could not determine vault location: " ++ reason
  | .keyringUnavailable => "Keyring storage is not available in this build; use the vault backend"

/-- How the failure reaches the session. -/
def toSessionError (e : StoreError) : SessionError :=
  .storageFailure e.message

end StoreError

/-- The operations of a store with state `σ`. -/
structure TokenStore (σ : Type) where
  name : String
  save : TokenSet → σ → Except StoreError Unit × σ
  load : σ → Except StoreError (Option TokenSet) × σ
  clear : σ → Except StoreError Unit × σ

/-- Attempt an operation on a store, and once more if it fails. -/
def attemptTwice {σ α : Type} (operation : σ → Except StoreError α × σ) (s : σ) :
    Except SessionError α × σ :=
  match operation s with
  | (.ok a, s) => (.ok a, s)
  | (.error _, s) =>
    match operation s with
    | (.ok a, s) => (.ok a, s)
    | (.error e, s) => (.error e.toSessionError, s)

theorem attemptTwice_of_ok {σ α : Type} {operation : σ → Except StoreError α × σ} {s t : σ} {a : α}
    (h : operation s = (.ok a, t)) : attemptTwice operation s = (.ok a, t) := by
  simp [attemptTwice, h]

end RedirectLogin
