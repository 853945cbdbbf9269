/-!
# Blank characters

The white-space characters of Unicode, and the three things the library does with them: tell
whether a text is blank, trim a text, and split a line into words.

Principal results: `trimWhile_eq_self` — a text whose ends are not blank is its own trimming;
`isBlankText_iff` — a text is blank exactly when every character is.
-/

set_option autoImplicit false

namespace RedirectLogin.Text

/-- The code points with the Unicode property `White_Space`. -/
def isBlank (c : Char) : Bool :=
  let n := c.toNat
  (9 ≤ n && n ≤ 13) || n == 32 || n == 0x85 || n == 0xA0 || n == 0x1680 ||
    (0x2000 ≤ n && n ≤ 0x200A) || n == 0x2028 || n == 0x2029 || n == 0x202F || n == 0x205F ||
    n == 0x3000

/-- Nothing but white space, the empty text included. -/
def isBlankText (s : String) : Bool :=
  s.toList.all isBlank

theorem isBlankText_iff {s : String} : isBlankText s = true ↔ ∀ c ∈ s.toList, isBlank c = true := by
  simp [isBlankText]

/-- Drop from both ends the characters that satisfy `p`. -/
def trimWhile (p : Char → Bool) (cs : List Char) : List Char :=
  ((cs.dropWhile p).reverse.dropWhile p).reverse

/-- Drop from the end the characters that satisfy `p`. -/
def trimEndWhile (p : Char → Bool) (cs : List Char) : List Char :=
  (cs.reverse.dropWhile p).reverse

def trim (s : String) : String :=
  String.ofList (trimWhile isBlank s.toList)

theorem trimWhile_eq_self {p : Char → Bool} {cs : List Char}
    (hfirst : ∀ c, cs.head? = some c → p c = false)
    (hlast : ∀ c, cs.getLast? = some c → p c = false) : trimWhile p cs = cs := by
  have hdrop : ∀ {xs : List Char},
      (∀ c, xs.head? = some c → p c = false) → xs.dropWhile p = xs := by
    intro xs h
    cases xs with
    | nil => rfl
    | cons x xs => simp [List.dropWhile, h x rfl]
  have hrev : cs.reverse.dropWhile p = cs.reverse :=
    hdrop (fun c hc => hlast c (by rwa [List.head?_reverse] at hc))
  simp [trimWhile, hdrop hfirst, hrev]

/-- The maximal runs of characters that are not blank, from left to right. -/
def words : List Char → List (List Char)
  | [] => []
  | c :: cs =>
    if isBlank c then words cs
    else (c :: cs.takeWhile (fun d => !isBlank d)) :: words (cs.dropWhile (fun d => !isBlank d))
termination_by cs => cs.length
decreasing_by
  · simp
  · have h := (List.dropWhile_sublist (fun d => !isBlank d) (l := cs)).length_le
    simp only [List.length_cons]
    omega

end RedirectLogin.Text
