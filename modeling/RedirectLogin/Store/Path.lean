import RedirectLogin.Text.Utf8

/-!
# Paths

A path as it is written: whether it begins at the root, and its parts between slashes, empty ones
and dots included. Where a path leads depends on the files and is decided there; what is decided
here is how a path is taken apart and put together. Empty parts and dots at the end of a path do
not count for that (`trimmed`), but a dot that begins a path does.

Principal results: `withExtension_of_no_name` — without a file name there is nothing to extend.
-/

set_option autoImplicit false

namespace RedirectLogin

structure Path where
  isAbsolute : Bool
  parts : List String
  deriving DecidableEq, Repr

namespace Path

/-- The parts of a text between slashes. -/
def splitSlashes : List Char → List (List Char)
  | [] => [[]]
  | c :: cs =>
    if c = '/' then [] :: splitSlashes cs
    else
      match splitSlashes cs with
      | part :: parts => (c :: part) :: parts
      | [] => [[c]]

def ofText (text : String) : Path :=
  match text.toList with
  | '/' :: cs => ⟨true, (splitSlashes cs).map String.ofList⟩
  | cs => ⟨false, (splitSlashes cs).map String.ofList⟩

def text (p : Path) : String :=
  (if p.isAbsolute then "/" else "") ++ String.intercalate "/" p.parts

/-- The path from the root along these names. -/
def ofNames (names : List String) : Path :=
  ⟨true, names⟩

/-- Parts in reverse, without those at the end that do not count. -/
def trimReversed (isAbsolute : Bool) : List String → List String
  | [] => []
  | part :: rest =>
    if part = "" ∨ part = "." ∧ (isAbsolute ∨ !rest.isEmpty) then trimReversed isAbsolute rest
    else part :: rest

/-- The parts without those at the end that do not count. -/
def trimmed (p : Path) : List String :=
  (trimReversed p.isAbsolute p.parts.reverse).reverse

/-- The name a path ends in, if it does not end in the root or a dot part. -/
def fileName? (p : Path) : Option String :=
  p.trimmed.getLast?.filter (fun name => name ≠ "." ∧ name ≠ "..")

/-- The path without its last part; the root and the empty path have none. -/
def parent? (p : Path) : Option Path :=
  if p.trimmed.isEmpty then none
  else some ⟨p.isAbsolute, (⟨p.isAbsolute, p.trimmed.dropLast⟩ : Path).trimmed⟩

/-- A path seen from a directory. -/
def join (directory p : Path) : Path :=
  if p.isAbsolute then p
  else
    let front := match directory.parts.getLast? with
      | some "" => directory.parts.dropLast
      | _ => directory.parts
    ⟨directory.isAbsolute, front ++ p.parts⟩

/-- The path to a name in a directory. -/
def child (directory : Path) (name : String) : Path :=
  directory.join ⟨false, [name]⟩

/-- A name up to its last dot, which must not be its first character. -/
def stem (name : String) : String :=
  let cs := name.toList
  let front := (cs.reverse.dropWhile (· ≠ '.')).tail.reverse
  if front.isEmpty then name else String.ofList front

/-- The same place with another ending of the file name, if there is a file name. The old ending is
cut off first: where that leaves two dots at the end, they lead one directory up and take no other
ending. -/
def withExtension (p : Path) (extension : String) : Path :=
  match p.fileName? with
  | none => p
  | some name =>
    let front := p.trimmed.dropLast
    if stem name = "." ∧ p.parts.getLast? = some name then ⟨p.isAbsolute, front ++ [".."]⟩
    else ⟨p.isAbsolute, front ++ [stem name ++ "." ++ extension]⟩

/-- What a path adds to a directory that it begins with. -/
def below? (directory p : Path) : Option Path :=
  let counting := fun parts : List String => parts.filter (fun part => part ≠ "" ∧ part ≠ ".")
  let front := counting directory.parts
  let all := counting p.parts
  if p.isAbsolute = directory.isAbsolute ∧ front.isPrefixOf all then
    some ⟨false, all.drop front.length⟩
  else none

theorem withExtension_of_no_name {p : Path} (h : p.fileName? = none) (extension : String) :
    p.withExtension extension = p := by
  simp [withExtension, h]

theorem trimReversed_length_le (isAbsolute : Bool) (parts : List String) :
    (trimReversed isAbsolute parts).length ≤ parts.length := by
  induction parts with
  | nil => simp [trimReversed]
  | cons part rest ih =>
    unfold trimReversed
    split
    · simp only [List.length_cons]
      omega
    · simp

/-- A parent has fewer parts. -/
theorem parent?_parts_lt {p q : Path} (h : p.parent? = some q) :
    q.parts.length < p.parts.length := by
  have htrim : ∀ r : Path, r.trimmed.length ≤ r.parts.length := fun r => by
    simpa [trimmed] using trimReversed_length_le r.isAbsolute r.parts.reverse
  unfold parent? at h
  split at h
  · simp at h
  · rename_i hne
    simp only [Option.some.injEq] at h
    subst h
    have h1 := htrim ⟨p.isAbsolute, p.trimmed.dropLast⟩
    have h2 := htrim p
    have h3 : 0 < p.trimmed.length := by
      cases ht : p.trimmed with
      | nil => simp [ht] at hne
      | cons a l => simp
    simp only [List.length_dropLast] at h1
    simp only
    omega

end Path

end RedirectLogin
