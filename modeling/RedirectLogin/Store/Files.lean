import RedirectLogin.Store.Path

/-!
# Files

Directories and files with their permission bits, and the few operations a store needs. Each of
them is done, or refused for one of the reasons in `IoError`.

A place is what names lead to from the root, without dots. `Files.find?` is the view: what stands at
a place. A path leads to a place only through directories that exist, so every operation on a path
first follows it (`target`), and may be refused on the way.

Writing a file in a way that survives interruption takes several operations, so operations that
change files also exist as data (`FileStep`), and a plan is a list of them.

There are no symbolic links, permission bits are kept but refuse nobody, and there is always room.

Principal results: `find?_put_self`, `find?_put_of_ne`, `find?_drop_self`,
`find?_drop_of_ne` — a change shows at its own place and nowhere else.
-/

set_option autoImplicit false

namespace RedirectLogin

/-- The names on the way from the root directory; no names at all is the root itself. -/
abbrev Place := List String

/-- Why the system refuses an operation on files. -/
inductive IoError where
  | notFound
  | notDirectory
  | isDirectory
  | exists
  | busy
  | nameTooLong
  /-- A path that no system call can take. -/
  | badPath
  /-- The content should be text and is not. -/
  | notText
  | other (reason : String)
  deriving DecidableEq, Repr

def IoError.message : IoError → String
  | .notFound => "No such file or directory (os error 2)"
  | .notDirectory => "Not a directory (os error 20)"
  | .isDirectory => "Is a directory (os error 21)"
  | .exists => "File exists (os error 17)"
  | .busy => "Device or resource busy (os error 16)"
  | .nameTooLong => "File name too long (os error 36)"
  | .badPath => "file name contained an unexpected NUL byte"
  | .notText => "stream did not contain valid UTF-8"
  | .other reason => reason

/-- What can stand at a place. -/
inductive Entry where
  | directory
  | file (bytes : List UInt8) (mode : Nat)
  deriving DecidableEq, Repr

/-- All entries below the root, which is always a directory, and the place that relative paths start
from. -/
structure Files where
  entries : List (Place × Entry)
  here : Place
  deriving DecidableEq, Repr

namespace Files

def empty : Files := ⟨[], []⟩

/-- What stands at a place. -/
def find? (fs : Files) (place : Place) : Option Entry :=
  if place = [] then some .directory
  else (fs.entries.find? (fun e => e.1 == place)).map (·.2)

/-- Let `entry` stand at a place, whatever stood there. -/
def put (fs : Files) (place : Place) (entry : Entry) : Files :=
  { fs with entries := (place, entry) :: fs.entries.filter (fun e => e.1 != place) }

/-- Let nothing stand at a place. -/
def drop (fs : Files) (place : Place) : Files :=
  { fs with entries := fs.entries.filter (fun e => e.1 != place) }

theorem find?_filter_ne {α : Type} (entries : List (Place × α)) {p q : Place} (h : q ≠ p) :
    (entries.filter (fun e => e.1 != p)).find? (fun e => e.1 == q) =
      entries.find? (fun e => e.1 == q) := by
  induction entries with
  | nil => rfl
  | cons e entries ih =>
    by_cases hp : e.1 = p
    · have hq : e.1 ≠ q := fun hq => h (hq.symm.trans hp)
      simp [hp, ih, h.symm]
    · simp [hp, List.find?_cons, ih]

theorem find?_put_self (fs : Files) {p : Place} (e : Entry) (h : p ≠ []) :
    (fs.put p e).find? p = some e := by
  simp [find?, put, h]

theorem find?_put_of_ne (fs : Files) {p q : Place} (e : Entry) (h : q ≠ p) :
    (fs.put p e).find? q = fs.find? q := by
  unfold find? put
  split
  · rfl
  · have hpq : (p == q) = false := by simpa using fun hpq : p = q => h hpq.symm
    simp only [List.find?_cons, hpq]
    rw [find?_filter_ne fs.entries h]

theorem find?_drop_self (fs : Files) {p : Place} (h : p ≠ []) : (fs.drop p).find? p = none := by
  have hnone : (fs.entries.filter (fun e => e.1 != p)).find? (fun e => e.1 == p) = none := by
    simp
  simp [find?, drop, h, hnone]

theorem find?_drop_of_ne (fs : Files) {p q : Place} (h : q ≠ p) :
    (fs.drop p).find? q = fs.find? q := by
  unfold find? drop
  split
  · rfl
  · rw [find?_filter_ne fs.entries h]

/-- The longest name, in bytes. -/
def maxName : Nat := 255

/-- Paths must be shorter than this, in bytes. -/
def pathLimit : Nat := 4096

/-- What stands under a name in a directory. -/
def entryIn? (fs : Files) (directory : Place) (name : String) : Except IoError (Option Entry) :=
  if maxName < name.utf8ByteSize then .error .nameTooLong
  else .ok (fs.find? (directory ++ [name]))

/-- Follow parts that must all lead to directories. -/
def walk (fs : Files) (place : Place) : List String → Except IoError Place
  | [] => .ok place
  | part :: parts =>
    if part = "" ∨ part = "." then walk fs place parts
    else if part = ".." then walk fs place.dropLast parts
    else
      match fs.entryIn? place part with
      | .error e => .error e
      | .ok none => .error .notFound
      | .ok (some (.file _ _)) => .error .notDirectory
      | .ok (some .directory) => walk fs (place ++ [part]) parts

/-- What a path asks for in the directory it leads to. -/
inductive Last where
  /-- A directory that is on the way: the one itself, or one above it. -/
  | onTheWay (place : Place)
  /-- A name, and whether a slash follows it, which only a directory may have. -/
  | name (name : String) (slash : Bool)
  deriving DecidableEq, Repr

/-- The directory a path leads to and what it asks for there. -/
def target (fs : Files) (p : Path) : Except IoError (Place × Last) :=
  if p.text.toList.contains (Char.ofNat 0) then .error .badPath
  else if p.text.isEmpty then .error .notFound
  else if pathLimit ≤ p.text.utf8ByteSize then .error .nameTooLong
  else
    let start := if p.isAbsolute then [] else fs.here
    let parts := (p.parts.reverse.dropWhile (· = "")).reverse
    match parts.getLast? with
    | none => .ok (start, .onTheWay start)
    | some last => do
      let place ← fs.walk start parts.dropLast
      if last = "." then .ok (place, .onTheWay place)
      else if last = ".." then .ok (place, .onTheWay place.dropLast)
      else .ok (place, .name last (p.parts.getLast? == some ""))

/-- The entry that a path leads to. -/
def lookup (fs : Files) (p : Path) : Except IoError Entry := do
  match ← fs.target p with
  | (_, .onTheWay _) => .ok .directory
  | (place, .name name slash) =>
    match ← fs.entryIn? place name with
    | none => .error .notFound
    | some .directory => .ok .directory
    | some (.file bytes mode) => if slash then .error .notDirectory else .ok (.file bytes mode)

def isPresent (fs : Files) (p : Path) : Bool :=
  (fs.lookup p).isOk

def isDirectory (fs : Files) (p : Path) : Bool :=
  match fs.lookup p with
  | .ok .directory => true
  | _ => false

def read (fs : Files) (p : Path) : Except IoError (List UInt8) := do
  match ← fs.lookup p with
  | .directory => .error .isDirectory
  | .file bytes _ => .ok bytes

/-- The content of a file that must be text. -/
def readText (fs : Files) (p : Path) : Except IoError String := do
  match Text.decode? (← fs.read p) with
  | some cs => .ok (String.ofList cs)
  | none => .error .notText

/-- Make one directory where nothing stands. -/
def makeDirectory (fs : Files) (p : Path) : Except IoError Files := do
  match ← fs.target p with
  | (_, .onTheWay _) => .error .exists
  | (place, .name name _) =>
    match ← fs.entryIn? place name with
    | none => .ok (fs.put (place ++ [name]) .directory)
    | some _ => .error .exists

/-- Make a directory unless it is one already. -/
def ensureDirectory (fs : Files) (p : Path) : Except IoError Files :=
  match fs.makeDirectory p with
  | .ok fs => .ok fs
  | .error e => if fs.isDirectory p then .ok fs else .error e

/-- Make a directory with all that is missing above it; what was made stays if that breaks off. -/
def makeDirectories (p : Path) (fs : Files) : Except IoError Unit × Files :=
  match _h : p.parent? with
  | none => (.ok (), fs)
  | some parent =>
    match fs.ensureDirectory p with
    | .ok fs => (.ok (), fs)
    | .error .notFound =>
      match makeDirectories parent fs with
      | (.error e, fs) => (.error e, fs)
      | (.ok (), fs) =>
        match fs.ensureDirectory p with
        | .ok fs => (.ok (), fs)
        | .error e => (.error e, fs)
    | .error e => (.error e, fs)
termination_by p.parts.length
decreasing_by exact Path.parent?_parts_lt (by assumption)

/-- Make a file empty; `mode` counts only if it is new. -/
def truncate (fs : Files) (p : Path) (mode : Nat) : Except IoError Files := do
  match ← fs.target p with
  | (_, .onTheWay _) => .error .isDirectory
  | (_, .name _ true) => .error .isDirectory
  | (place, .name name false) =>
    match ← fs.entryIn? place name with
    | none => .ok (fs.put (place ++ [name]) (.file [] mode))
    | some .directory => .error .isDirectory
    | some (.file _ old) => .ok (fs.put (place ++ [name]) (.file [] old))

def append (fs : Files) (p : Path) (bytes : List UInt8) : Except IoError Files := do
  match ← fs.target p with
  | (_, .onTheWay _) => .error .isDirectory
  | (place, .name name slash) =>
    match ← fs.entryIn? place name with
    | none => .error .notFound
    | some .directory => .error .isDirectory
    | some (.file start mode) =>
      if slash then .error .notDirectory
      else .ok (fs.put (place ++ [name]) (.file (start ++ bytes) mode))

/-- Move a file; one that stood at the target is gone. -/
def rename (fs : Files) (source destination : Path) : Except IoError Files := do
  match ← fs.target source, ← fs.target destination with
  | (place, .name old oldSlash), (newPlace, .name new newSlash) =>
    match ← fs.entryIn? place old with
    | none => .error .notFound
    | some .directory => .error .isDirectory
    | some (.file bytes mode) =>
      match ← fs.entryIn? newPlace new with
      | found =>
        if oldSlash || newSlash then .error .notDirectory
        else if found = some .directory then .error .isDirectory
        else .ok ((fs.drop (place ++ [old])).put (newPlace ++ [new]) (.file bytes mode))
  | _, _ => .error .busy

def remove (fs : Files) (p : Path) : Except IoError Files := do
  match ← fs.target p with
  | (_, .onTheWay _) => .error .isDirectory
  | (place, .name name slash) =>
    match ← fs.entryIn? place name with
    | none => .error .notFound
    | some .directory => .error .isDirectory
    | some (.file _ _) =>
      if slash then .error .notDirectory else .ok (fs.drop (place ++ [name]))

end Files

/-- One operation that changes files. -/
inductive FileStep where
  | makeDirectories (path : Path)
  | truncate (path : Path) (mode : Nat)
  | append (path : Path) (bytes : List UInt8)
  /-- Wait until the file's content is on the disk. -/
  | sync (path : Path)
  | rename (source destination : Path)
  deriving DecidableEq, Repr

namespace FileStep

/-- The files after an operation that is done or leaves everything as it was. -/
def wholly (fs : Files) : Except IoError Files → Except IoError Unit × Files
  | .ok fs => (.ok (), fs)
  | .error e => (.error e, fs)

def run : FileStep → Files → Except IoError Unit × Files
  | .makeDirectories path, fs => Files.makeDirectories path fs
  | .truncate path mode, fs => wholly fs (fs.truncate path mode)
  | .append path bytes, fs => wholly fs (fs.append path bytes)
  | .sync _, fs => (.ok (), fs)
  | .rename source destination, fs => wholly fs (fs.rename source destination)

/-- Run a plan up to its end or to the first refusal, which leaves the files as they are then. -/
def runAll : List FileStep → Files → Except IoError Unit × Files
  | [], fs => (.ok (), fs)
  | step :: steps, fs =>
    match step.run fs with
    | (.ok (), fs) => runAll steps fs
    | (.error e, fs) => (.error e, fs)

/-- The steps that put a file at a path, with the directories above it. -/
def writing (path : Path) (mode : Nat) (bytes : List UInt8) : List FileStep :=
  path.parent?.toList.map .makeDirectories ++ [.truncate path mode, .append path bytes]

end FileStep

namespace Files

/-- Write a whole file and the directories above it. -/
def write (fs : Files) (path : Path) (mode : Nat) (bytes : List UInt8) :
    Except IoError Unit × Files :=
  FileStep.runAll (FileStep.writing path mode bytes) fs

/-- Everything below a place, in order; directories end in a slash. -/
def listing (fs : Files) (place : Place) : List String :=
  let below := fs.entries.filter (fun e => place.isPrefixOf e.1 && e.1 != place)
  let name := fun e : Place × Entry =>
    String.intercalate "/" (e.1.drop place.length) ++ (if e.2 = .directory then "/" else "")
  (below.map name).mergeSort (fun a b => decide (a ≤ b))

end Files

end RedirectLogin
