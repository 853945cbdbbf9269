/-!
# Commands

What the arguments of the program ask for. Reading them is strict for `login`; the other commands
take what they need and do not look further.

Principal results: `readOptions_loopback` — the option `--loopback` asks for the listener and
leaves the port.
-/

set_option autoImplicit false

namespace RedirectLogin.Cli

inductive Command where
  | login (loopback : Bool) (port : Nat)
  | status
  | logout
  | validate
  | get (path : String)
  | help
  deriving DecidableEq, Repr

/-- Why arguments are refused. -/
inductive UsageError where
  | missingPort
  | badPort (value : String)
  | unknownOption (option : String)
  | missingPath
  | unknownCommand (command : String)
  deriving DecidableEq, Repr

def usage : String :=
  "Usage: authlink <command>\n\nCommands:\n" ++
  "  login [--loopback] [--port <port>]   Log in through the browser\n" ++
  "  status                               Show the session state\n" ++
  "  logout                               Clear the stored session\n" ++
  "  validate                             Check the session locally and with the backend\n" ++
  "  get <path>                           Authorized GET against the API, prints JSON\n" ++
  "  help                                 Show this message\n\n" ++
  "Set RUST_LOG to control log output (default: warn)."

def UsageError.message : UsageError → String
  | .missingPort => "--port needs a value"
  | .badPort value => "Invalid port: " ++ value
  | .unknownOption option => "Unknown login option: " ++ option
  | .missingPath => "get needs a path"
  | .unknownCommand command => "Unknown command: " ++ command ++ "\n\n" ++ usage

namespace Command

/-- The digits of a port number behind an optional plus sign. -/
def portDigits (value : String) : List Char :=
  match value.toList with
  | '+' :: digits => digits
  | digits => digits

def isDigit (c : Char) : Bool :=
  '0' ≤ c && c ≤ '9'

def digitsValue (digits : List Char) : Nat :=
  digits.foldl (fun n c => n * 10 + (c.toNat - 48)) 0

/-- A port number: at least one digit and at most 65535. -/
def port? (value : String) : Option Nat :=
  let digits := portDigits value
  if digits.isEmpty || !digits.all isDigit then none
  else if digitsValue digits ≤ 65535 then some (digitsValue digits)
  else none

/-- Read the options of `login`, given what those before them say. A port asks for the listener
too, and the last port counts. -/
def readOptions (loopback : Bool) (port : Nat) : List String → Except UsageError Command
  | [] => .ok (.login loopback port)
  | "--loopback" :: rest => readOptions true port rest
  | ["--port"] => .error .missingPort
  | "--port" :: value :: rest =>
    match port? value with
    | some port => readOptions true port rest
    | none => .error (.badPort value)
  | option :: _ => .error (.unknownOption option)

theorem readOptions_loopback (loopback : Bool) (port : Nat) (rest : List String) :
    readOptions loopback port ("--loopback" :: rest) = readOptions true port rest := by
  simp [readOptions]

def ofArgs : List String → Except UsageError Command
  | [] => .ok .help
  | "login" :: rest => readOptions false 0 rest
  | "status" :: _ => .ok .status
  | "logout" :: _ => .ok .logout
  | "validate" :: _ => .ok .validate
  | "get" :: path :: _ => .ok (.get path)
  | ["get"] => .error .missingPath
  | "help" :: _ => .ok .help
  | "--help" :: _ => .ok .help
  | "-h" :: _ => .ok .help
  | command :: _ => .error (.unknownCommand command)

end Command

end RedirectLogin.Cli
