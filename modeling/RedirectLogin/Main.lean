import RedirectLogin.Cli.App
import Std.Time.DateTime.Timestamp

/-!
# The command line

Reads the few files and variables the program looks at, runs it, and writes the vault back if it
changed. This build has no network: requests cannot reach a server, and no browser comes to the
loopback listener.
-/

set_option autoImplicit false

namespace RedirectLogin.Cli

/-- Take a file of the disk into the model, if it is there. -/
def takeIn (path : Path) (files : Files) : IO Files := do
  try
    let bytes ← IO.FS.readBinFile path.text
    return (files.write path Vault.fileMode bytes.toList).2
  catch _ => return files

/-- Bring a file of the disk to what the model says. -/
def bringOut (path : Path) (before after : Files) : IO Unit := do
  let old := (before.read path).toOption
  let new := (after.read path).toOption
  if old = new then return
  match new with
  | some bytes =>
    let draft := (path.withExtension "tmp").text
    if let some parent := path.parent? then IO.FS.createDirAll parent.text
    IO.FS.writeBinFile draft (ByteArray.mk bytes.toArray)
    IO.setAccessRights draft ⟨⟨true, true, false⟩, ⟨false, false, false⟩, ⟨false, false, false⟩⟩
    IO.FS.rename draft path.text
  | none => IO.FS.removeFile path.text

/-- End a run whose output begins with what is on the terminal already. -/
def finishPrinted (printed : String) : Progress → IO Outcome
  | .done outcome => do
    IO.print (outcome.output.drop printed.length).toString
    IO.eprint outcome.errors
    return outcome
  | .askPassphrase _ next => finishPrinted printed (next (.error noTerminal))
  | .readLine _ next => finishPrinted printed (next (.ok []))
  | .bind port next => finishPrinted printed (next (.ok port))
  | .listen _ _ _ next => finishPrinted printed (next (.error .loginTimedOut))

/-- Ask for a line on the terminal, past whatever input and output are connected to. -/
def askTerminal (prompt : String) : IO (Except IoError String) := do
  try
    let terminal ← IO.FS.Handle.mk "/dev/tty" .readWrite
    terminal.putStr prompt
    terminal.flush
    return .ok (String.ofList (Text.trimEndWhile (· = '\n') (← terminal.getLine).toList))
  catch _ => return .error noTerminal

/-- The bytes of the input up to the end of its first line. -/
def readInput : IO (Except IoError (List UInt8)) := do
  try
    return .ok (Text.bytes (← (← IO.getStdin).getLine))
  catch _ => return .error .notText

/-- Carry a run to its end on the terminal. -/
def drive : Progress → IO Outcome
  | .done outcome => finishPrinted "" (.done outcome)
  | .askPassphrase prompt next => do drive (next (← askTerminal prompt))
  | .readLine printed next => do
    IO.print printed
    (← IO.getStdout).flush
    finishPrinted printed (next (← readInput))
  | .bind port next => drive (next (.ok port))
  | .listen printed _ seconds next => do
    IO.print printed
    (← IO.getStdout).flush
    IO.sleep (UInt32.ofNat (min (seconds * 1000) 4294967295))
    finishPrinted printed (next (.error .loginTimedOut))

/-- The variables the program looks at, as far as they are set. -/
def readEnvironment : IO Environment := do
  let names := [backendVariable, providerVariable, passphraseVariable, Directories.homeVariable,
    Directories.configVariable, Directories.dataVariable]
  names.filterMapM fun name => return (← IO.getEnv name).map (fun value => (name, value))

/-- Take in the environment files of a directory and of those above it. -/
def takeInDotenv (files : Files) : List String → IO Files
  | [] => takeIn (.ofNames [Dotenv.fileName]) files
  | name :: above => do
    let files ← takeIn (.ofNames ((name :: above).reverse ++ [Dotenv.fileName])) files
    takeInDotenv files above

/-- The time now. -/
def readClock : IO Timestamp := do
  let now ← Std.Time.Timestamp.now
  return .ofNanos now.toNanosecondsSinceUnixEpoch.toInt

end RedirectLogin.Cli

open RedirectLogin RedirectLogin.Cli

/-- Run the program on the disk and on the terminal; the answer is its exit code. -/
def main (args : List String) : IO UInt32 := do
  let here := (Path.ofText (← IO.currentDir).toString).parts
  let files ← takeInDotenv { Files.empty with here := here } here.reverse
  let random ← IO.getRandomBytes 256
  let found : Surroundings KeyringEntry :=
    { environment := ← readEnvironment
      files := files
      directories := .xdg none
      keyring := none
      secrets := .new ""
      clock := ← readClock
      entropy := ⟨fun i => random.data.getD (i % 256) 0, 0⟩
      server := Server.unreachable }
  let environment := (withDotenv found).environment
  let files ← match found.directories.config environment with
    | some directory => takeIn (Config.location directory) files
    | none => pure files
  let config := ({ withDotenv found with files := files }.storedConfig).toOption.getD .default
  let vault := config.vaultLocation (found.directories.data environment)
  let files ← match vault with
    | some path => takeIn path files
    | none => pure files
  let outcome ← drive (run args { found with files := files })
  if let some path := vault then bringOut path files outcome.files
  return UInt32.ofNat outcome.code
