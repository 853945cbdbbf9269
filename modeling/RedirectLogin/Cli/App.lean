import RedirectLogin.Cli.Command
import RedirectLogin.Cli.Directories
import RedirectLogin.Cli.Failure
import RedirectLogin.Coordinator.Live
import RedirectLogin.Loopback
import RedirectLogin.Store.Open

/-!
# The program

What the program does with its arguments and with what it finds around it: the environment, files,
a keyring, a server, the time. What it has to wait for is what the user types, at the prompt for a
passphrase or behind the one for a redirect, and a browser that comes back to the loopback listener;
`Progress` stops there and goes on with either. `Inputs` is all of that, and `Progress.outcome`
carries a run to its end with it.

Left out are the log, which nothing reads back, and what becomes of a browser that is sent to a URL.
-/

set_option autoImplicit false

namespace RedirectLogin.Cli

/-- What the program finds when it starts; `κ` is the state of the system's keyring. -/
structure Surroundings (κ : Type) where
  environment : Environment
  /-- The files, seen from the working directory. -/
  files : Files
  directories : Directories
  /-- The system's keyring, if this build has one. -/
  keyring : Option (SystemKeyring κ)
  secrets : κ
  clock : Timestamp
  entropy : Entropy
  server : Server

/-- What the program leaves behind. -/
structure Outcome where
  code : Nat
  output : String
  errors : String
  files : Files
  sent : List SentRequest

/-- How far the program has come. -/
inductive Progress where
  | done (outcome : Outcome)
  /-- Asks for a passphrase on the terminal, if there is one. -/
  | askPassphrase (prompt : String) (next : Except IoError String → Progress)
  /-- Waits for a line of input, after printing; what comes in are bytes. -/
  | readLine (printed : String) (next : Except IoError (List UInt8) → Progress)
  /-- Wants to listen on a port; zero leaves the choice open. -/
  | bind (port : Nat) (next : Except SessionError Nat → Progress)
  /-- Waits for a browser to come to the port, after printing. -/
  | listen (printed : String) (port seconds : Nat)
      (next : Except SessionError CallbackEvent → Progress)

/-- What comes from outside while the program runs: the passphrase that the user types, the input,
the port that is bound when one is asked for, and what arrives at a port. -/
structure Inputs where
  passphrase : Except IoError String
  input : Except IoError (List UInt8)
  bound : Nat → Except SessionError Nat
  arrived : Nat → Except SessionError CallbackEvent

/-- What the system says to a program that has no terminal to ask on. -/
def noTerminal : IoError :=
  .other "No such device or address (os error 6)"

/-- The end of a run. -/
def Progress.outcome (i : Inputs) : Progress → Outcome
  | .done outcome => outcome
  | .askPassphrase _ next => (next i.passphrase).outcome i
  | .readLine _ next => (next i.input).outcome i
  | .bind port next => (next (i.bound port)).outcome i
  | .listen _ port _ next => (next (i.arrived port)).outcome i

def backendVariable : String := "AUTHLINK_BACKEND_URL"
def providerVariable : String := "AUTHLINK_PROVIDER"
def passphraseVariable : String := "AUTHLINK_VAULT_PASSPHRASE"

/-- The longest redirect that is accepted, in bytes. -/
def maxRedirectLength : Nat := 8192

/-- The value of a variable that is not blank. -/
def valueFor (env : Environment) (name : String) : Option String :=
  (env.value? name).filter (fun v => !Text.isBlankText v)

/-- The configuration with what the environment says instead. -/
def withOverrides (env : Environment) (c : Config) : Config :=
  { c with
    backendUrl := (valueFor env backendVariable).getD c.backendUrl
    provider := (valueFor env providerVariable).getD c.provider }

/-- The passphrase in the environment, if there is one. -/
def passphraseIn (env : Environment) : Option String :=
  (env.value? passphraseVariable).filter (fun v => !v.isEmpty)

def passphrasePrompt : String := "Vault passphrase: "

namespace Surroundings

variable {κ : Type}

/-- The configuration that is stored. -/
def storedConfig (s : Surroundings κ) : Except ConfigError Config :=
  match s.directories.config s.environment with
  | none => .error .noDirectory
  | some directory => Config.load directory s.files

/-- A stored configuration as this run goes by it, with or without the listener. -/
def adapt (s : Surroundings κ) (loopback : Bool) (stored : Config) : Config :=
  let config := withOverrides s.environment stored
  if loopback then config.trustLoopback else config

/-- End before anything has been done. -/
def failed (s : Surroundings κ) (failure : Failure) : Outcome :=
  ⟨1, "", failure.report, s.files, []⟩

end Surroundings

/-- The program once it is set up: its configuration, and its coordinator at work over a store with
state `σ`, which the files can be read off. -/
structure App (σ : Type) where
  config : Config
  client : Client σ
  files : σ → Files
  live : Live σ

namespace App

variable {σ κ : Type}

def api (a : App σ) : ApiClient :=
  .ofConfig a.config

/-- Take up the session that a store holds. -/
def start [Application] (s : Surroundings κ) (config : Config) (store : TokenStore σ)
    (files : σ → Files) (stored : σ) : App σ :=
  let client := Client.ofConfig config store s.server
  ⟨config, client, files, client.start stored s.clock⟩

/-- The program over a vault. -/
def overVault [Application] (s : Surroundings κ) (config : Config) (v : Vault) : App VaultState :=
  start s config v.store VaultState.files ⟨s.files, none, s.entropy⟩

/-- The program over the keyring, which leaves files alone. -/
def overKeyring [Application] (s : Surroundings κ) (config : Config) (entry : Keyring κ) : App κ :=
  start s config entry.store (fun _ => s.files) s.secrets

/-- End with what was printed, and a failure if there was one. -/
def finish (a : App σ) (live : Live σ) (printed : String) (failure : Option Failure) :
    Outcome where
  code := if failure.isSome then 1 else 0
  output := printed
  errors := (failure.map Failure.report).getD ""
  files := a.files live.stored
  sent := live.sent

/-- What is printed while a login starts. -/
def loginText (a : App σ) (url : Url) : String :=
  "Logging in with " ++ a.client.coordinator.provider ++ "\n" ++
    "If the browser did not open, visit:\n  " ++ url.text ++ "\n"

def pastePrompt [Application] : String :=
  "Paste the redirect URI (" ++ appScheme ++ "://" ++ callbackHost ++ "?...): "

def waitingText : String :=
  "Waiting for the browser to finish logging in...\n"

/-- Why a redirect did not end in a login. -/
def loginFailure : Except SessionError LoginOutcome → Option Failure
  | .ok .authenticated => none
  | .ok .ignored => some (.plain "Login timed out, run `authlink login` again")
  | .ok .notCallback => some (.plain "That is not a login redirect")
  | .error (.untrustedOrigin origin) =>
    some (.plain ("Refusing redirect from untrusted origin " ++ origin))
  | .error e => some (.ofSessionError e)

/-- Take in the redirect, and end; `printed` is what was printed before. -/
def finishLogin (a : App σ) (printed : String) (event : CallbackEvent) : Outcome :=
  let (result, live) := a.client.handleCallback event a.live
  match loginFailure result with
  | none => a.finish live (printed ++ "Login successful!\n") none
  | some failure => a.finish live printed (some failure)

/-- Start a login, and go on with the URL to open. -/
def startLogin (a : App σ) (redirect? : Option String) (next : App σ → Url → Progress) :
    Progress :=
  match a.client.beginLogin redirect? a.live with
  | (.error e, live) => .done (a.finish live "" (some (.plain e.message)))
  | (.ok url, live) => next { a with live := live } url

/-- The redirect on the first line of the input. -/
def pasted (input : Except IoError (List UInt8)) : Except IoError String := do
  .ok (Text.trim (String.ofList (← Loopback.readLine (← input))))

/-- A login whose redirect the user pastes. -/
def loginByPaste [Application] (a : App σ) : Progress :=
  a.startLogin none fun a url =>
    let printed := a.loginText url ++ pastePrompt
    .readLine printed fun input =>
      .done <|
        match pasted input with
        | .error e => a.finish a.live printed (some (.plain e.message))
        | .ok uri =>
          if maxRedirectLength < uri.utf8ByteSize then
            a.finish a.live printed (some (.plain "Redirect URI is too long"))
          else a.finishLogin printed ⟨.deepLink, uri⟩

/-- A login whose redirect comes to the loopback listener. -/
def loginByLoopback (a : App σ) (port : Nat) : Progress :=
  .bind port fun bound =>
    match bound with
    | .error e => .done (a.finish a.live "" (some (.plain e.message)))
    | .ok port =>
      a.startLogin (some (Loopback.redirectUri port)) fun a url =>
        let printed := a.loginText url ++ waitingText
        .listen printed port a.config.loginTimeoutSecs fun arrived =>
          match arrived with
          | .error e => .done (a.finish a.live printed (some (.ofSessionError e)))
          | .ok event => .done (a.finishLogin printed event)

/-- A status in one line. -/
def describe : SessionStatus → String
  | .unauthenticated => "Not logged in"
  | .loginPending provider => "Login with " ++ provider ++ " in progress"
  | .authenticated true => "Logged in (refreshable)"
  | .authenticated false => "Logged in"
  | .refreshPending => "Refreshing session"
  | .failed ⟨kind, some code⟩ => "Error: " ++ kind.label ++ " (" ++ code ++ ")"
  | .failed ⟨kind, none⟩ => "Error: " ++ kind.label

def status (a : App σ) : Outcome :=
  let (status, live) := a.client.status a.live
  a.finish live (describe status ++ "\n" ++ status.toJson.pretty ++ "\n") none

def logout (a : App σ) : Outcome :=
  match a.client.logOut a.live with
  | (.ok (), live) => a.finish live "Logged out.\n" none
  | (.error e, live) => a.finish live "" (some (.plain e.message))

/-- What `validate` prints of the backend's opinion. -/
def opinionText : Except SessionError Bool → String
  | .ok true => "Session is valid.\n"
  | .ok false => "The backend no longer accepts this session. Log in again.\n"
  | .error _ => "Stored session found, but the backend could not be reached.\n"

def validate (a : App σ) : Outcome :=
  match a.client.isSessionValid a.live with
  | (.error e, live) => a.finish live "" (some (.plain e.message))
  | (.ok false, live) => a.finish live "No stored session.\n" none
  | (.ok true, live) =>
    let (opinion, live) := a.client.validateRemote live
    a.finish live (opinionText opinion) none

def get (a : App σ) (path : String) : Outcome :=
  match a.client.runCall (a.api.getJson path) a.live with
  | (.ok document, live) => a.finish live (document.normal.pretty ++ "\n") none
  | (.error e, live) =>
    a.finish live "" (some ((Failure.ofApiError e).within ("GET " ++ path ++ " failed")))

end App

section

variable {κ : Type}

/-- Go on with the passphrase, if the store that is asked for needs one. -/
def withPassphrase (s : Surroundings κ) (storage : StorageBackend)
    (next : Option String → Progress) : Progress :=
  match storage with
  | .keyring => next none
  | .vault =>
    match passphraseIn s.environment with
    | some secret => next (some secret)
    | none =>
      .askPassphrase passphrasePrompt fun typed =>
        match typed with
        | .ok secret => next (some secret)
        | .error e => .done (s.failed (.plain e.message))

/-- Set up the program and go on with it, over whichever store. -/
def withApp [Application] (s : Surroundings κ) (loopback : Bool)
    (next : {σ : Type} → App σ → Progress) : Progress :=
  match s.storedConfig with
  | .error e => .done (s.failed (.ofConfigError e))
  | .ok stored =>
    let config := s.adapt loopback stored
    withPassphrase s config.storage fun secret =>
      match config.openStore (s.directories.data s.environment) s.keyring secret with
      | .error e => .done (s.failed (.ofStoreError e))
      | .ok (.vault v) => next (App.overVault s config v)
      | .ok (.keyring entry) => next (App.overKeyring s config entry)

def runCommand [Application] (s : Surroundings κ) : Command → Progress
  | .help => .done ⟨0, usage ++ "\n", "", s.files, []⟩
  | .login true port => withApp s true (fun a => a.loginByLoopback port)
  | .login false _ => withApp s false (fun a => a.loginByPaste)
  | .status => withApp s false (fun a => .done a.status)
  | .logout => withApp s false (fun a => .done a.logout)
  | .validate => withApp s false (fun a => .done a.validate)
  | .get path => withApp s false (fun a => .done (a.get path))

/-- The surroundings with the variables of an environment file. -/
def withDotenv (s : Surroundings κ) : Surroundings κ :=
  { s with environment := Dotenv.environment s.files s.environment }

/-- Run the program with these arguments. -/
def run [Application] (args : List String) (s : Surroundings κ) : Progress :=
  match Command.ofArgs args with
  | .error e => .done (s.failed (.plain e.message))
  | .ok command => runCommand (withDotenv s) command

end

end RedirectLogin.Cli
