import RedirectLogin.Text.Blank
import RedirectLogin.Text.Hex

/-!
# Tables of characters

A property of characters that follows no rule is kept as a table: intervals of code points in
rising order, each with the value that its characters have. `find?` is the view; it halves the
table until one interval is left.

A table is written as text, one word for each interval: the first code point in hexadecimal, the
last one behind a hyphen unless it is the same, and the value behind an equals sign unless the
table is a mere set.
-/

set_option autoImplicit false

namespace RedirectLogin.Text

/-- Code points from `first` to `last`, and what their characters have in common. -/
structure Interval (α : Type) where
  first : Nat
  last : Nat
  value : α
  deriving Repr

/-- Intervals in rising order that do not overlap. -/
structure CodeTable (α : Type) where
  intervals : Array (Interval α)

/-- A set of characters. -/
abbrev CodeSet := CodeTable Unit

namespace Interval

/-- The interval a word writes; `read` reads the text of its value. -/
def ofWord {α : Type} (read : List Char → α) (word : List Char) : Interval α :=
  let place := word.takeWhile (· ≠ '=')
  let first := place.takeWhile (· ≠ '-')
  let last := (place.dropWhile (· ≠ '-')).drop 1
  { first := hexNumber first
    last := hexNumber (if last.isEmpty then first else last)
    value := read ((word.dropWhile (· ≠ '=')).drop 1) }

def contains {α : Type} (i : Interval α) (c : Char) : Bool :=
  i.first ≤ c.toNat && c.toNat ≤ i.last

end Interval

namespace CodeTable

variable {α : Type}

/-- The table a text writes. -/
def ofText (read : List Char → α) (text : String) : CodeTable α :=
  ⟨((words text.toList).map (Interval.ofWord read)).toArray⟩

/-- How many intervals begin at or before `n`, if it is from `low` to `high` many. -/
def rank (t : CodeTable α) (n low high : Nat) : Nat :=
  if low < high then
    let middle := (low + high) / 2
    match t.intervals[middle]? with
    | none => low
    | some i => if i.first ≤ n then rank t n (middle + 1) high else rank t n low middle
  else low
termination_by high - low

/-- The interval that holds a character. -/
def find? (t : CodeTable α) (c : Char) : Option (Interval α) :=
  (t.intervals[t.rank c.toNat 0 t.intervals.size - 1]?).filter (fun i => i.contains c)

/-- The value of a character. -/
def value? (t : CodeTable α) (c : Char) : Option α :=
  (t.find? c).map Interval.value

def contains (t : CodeTable α) (c : Char) : Bool :=
  (t.find? c).isSome

end CodeTable

/-- The set a text writes. -/
def CodeSet.ofText (text : String) : CodeSet :=
  CodeTable.ofText (fun _ => ()) text

end RedirectLogin.Text
