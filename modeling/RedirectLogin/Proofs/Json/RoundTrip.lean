import RedirectLogin.Json.Decode
import RedirectLogin.Proofs.Text.Digits

/-!
# JSON documents, there and back

A document is read back from the text that is written for it. The text is first cut into the
document's tokens (`tokens`), whatever white space stands between them, and the tokens build the
document's outline; the two halves meet in `tokens` only, so any other way to write a document has
to be compared with its tokens alone.

Numbers are natural and fit 64 bits here (`Plain`); no others are written into a store.

Principal results: `ofTokens_tokens` — the outline from the tokens; `scan_compact` — the tokens
from the text; `ofText_compact` — both together.
-/

set_option autoImplicit false

namespace RedirectLogin.Json

open Outline (Building Frame Next)

/-! ## The tokens of a document -/

mutual

/-- The tokens a document is written with, in order. -/
def tokens : Json → List Token
  | .null => [.null]
  | .bool b => [.bool b]
  | .number n => [.number (some n)]
  | .string s => [.string (some s)]
  | .array items => .openArray :: itemTokens items ++ [.closeArray]
  | .object members => .openObject :: memberTokens members ++ [.closeObject]

def itemTokens : List Json → List Token
  | [] => []
  | [j] => tokens j
  | j :: k :: rest => tokens j ++ .comma :: itemTokens (k :: rest)

def memberTokens : List (String × Json) → List Token
  | [] => []
  | [(key, v)] => .string (some key) :: .colon :: tokens v
  | (key, v) :: m :: rest =>
    .string (some key) :: .colon :: (tokens v ++ .comma :: memberTokens (m :: rest))

end

/-! ## From tokens to the outline -/

namespace Outline.Building

/-- Where an array may end, a value may begin just as well. -/
theorem step_valueOrEnd {frames : List Frame} {token : Token} (h : token ≠ .closeArray) :
    step (.inside frames .valueOrEnd) token = step (.inside frames .value) token := by
  simp only [step]
  split
  · rename_i hclose
    exact absurd rfl h
  · rfl

end Outline.Building

/-- No document begins with the end of an array. -/
theorem tokens_cons (j : Json) : ∃ t ts, tokens j = t :: ts ∧ t ≠ .closeArray := by
  cases j <;> simp [tokens]

/-- Nor does a list of items. -/
theorem itemTokens_cons (j : Json) (rest : List Json) :
    ∃ t ts, itemTokens (j :: rest) = t :: ts ∧ t ≠ .closeArray := by
  obtain ⟨t, ts, htokens, hne⟩ := tokens_cons j
  cases rest with
  | nil => exact ⟨t, ts, by rw [itemTokens, htokens], hne⟩
  | cons k rest => exact ⟨t, _, by rw [itemTokens, htokens, List.cons_append], hne⟩

mutual

/-- The tokens of a document, where a value may stand, end with that value in place. -/
theorem foldl_tokens (j : Json) (frames : List Frame) :
    (tokens j).foldl Building.step (.inside frames .value) =
      Building.settle (outline j) frames := by
  match j with
  | .null => rfl
  | .bool b => rfl
  | .number n => rfl
  | .string s => rfl
  | .array [] => rfl
  | .array (j :: rest) =>
    have hitems := foldl_itemTokens (j :: rest) (List.cons_ne_nil _ _) [] frames
    obtain ⟨t, ts, htokens, hne⟩ := itemTokens_cons j rest
    rw [tokens, List.cons_append, List.foldl_cons]
    rw [htokens, List.cons_append, List.foldl_cons] at hitems ⊢
    rw [← Building.step_valueOrEnd hne] at hitems
    exact hitems
  | .object [] => rfl
  | .object [m] => exact foldl_memberTokens [m] (List.cons_ne_nil _ _) [] frames
  | .object (m :: n :: rest) =>
    exact foldl_memberTokens (m :: n :: rest) (List.cons_ne_nil _ _) [] frames

theorem foldl_itemTokens (items : List Json) (hne : items ≠ []) (done : List Outline)
    (outer : List Frame) :
    (itemTokens items ++ [Token.closeArray]).foldl Building.step
        (.inside (.array done :: outer) .value) =
      Building.settle (.array (done.reverse ++ outlines items)) outer := by
  match items with
  | [] => exact absurd rfl hne
  | [j] =>
    rw [itemTokens, List.foldl_append, foldl_tokens j, outlines, outlines, ← List.reverse_cons]
    rfl
  | j :: k :: rest =>
    have hrest := foldl_itemTokens (k :: rest) (List.cons_ne_nil _ _) (outline j :: done) outer
    rw [List.reverse_cons, List.append_assoc, List.singleton_append] at hrest
    rw [itemTokens, List.append_assoc, List.foldl_append, foldl_tokens j, outlines, ← hrest]
    rfl

/-- Members are read alike behind a comma and at the start of the object. -/
theorem foldl_memberTokens (members : List (String × Json)) (hne : members ≠ [])
    (done : List (Option String × Outline)) (outer : List Frame) :
    (memberTokens members ++ [Token.closeObject]).foldl Building.step
        (.inside (.object done none :: outer) .key) =
      Building.settle (.object (done.reverse ++ memberOutlines members)) outer := by
  match members with
  | [] => exact absurd rfl hne
  | [(key, v)] =>
    have hend : (tokens v ++ [Token.closeObject]).foldl Building.step
        (.inside (.object done (some key) :: outer) .value) =
          Building.settle (.object (done.reverse ++ [(some key, outline v)])) outer := by
      rw [List.foldl_append, foldl_tokens v, ← List.reverse_cons]
      rfl
    exact hend
  | (key, v) :: m :: rest =>
    have hrest := foldl_memberTokens (m :: rest) (List.cons_ne_nil _ _)
      ((some key, outline v) :: done) outer
    have hnext : (tokens v ++ .comma :: memberTokens (m :: rest) ++ [Token.closeObject]).foldl
        Building.step (.inside (.object done (some key) :: outer) .value) =
          Building.settle (.object (done.reverse ++ memberOutlines ((key, v) :: m :: rest)))
            outer := by
      rw [List.reverse_cons, List.append_assoc, List.singleton_append] at hrest
      rw [List.append_assoc, List.foldl_append, foldl_tokens v, memberOutlines, ← hrest]
      rfl
    exact hnext

end

/-- **A document's tokens build its outline**, with nothing left over. -/
theorem ofTokens_tokens (j : Json) : Outline.ofTokens (tokens j) = (outline j, true) := by
  rw [Outline.ofTokens, foldl_tokens j []]
  rfl

/-! ## From the text to the tokens -/

namespace Token

/-- Cutting `cs` into tokens begins with `ts` and goes on with `rest`. -/
inductive Cuts : List Char → List Token → List Char → Prop
  | done (rest : List Char) : Cuts rest [] rest
  | token {cs : List Char} {c : Char} {cs' : List Char} {t : Token} {mid : List Char}
      {ts : List Token} {rest : List Char} (skip : skipSpace cs = c :: cs')
      (read : read (c :: cs') = some (t, mid)) (less : mid.length ≤ cs'.length)
      (more : Cuts mid ts rest) : Cuts cs (t :: ts) rest

theorem Cuts.append {cs mid rest : List Char} {ts us : List Token} (h : Cuts cs ts mid)
    (hu : Cuts mid us rest) : Cuts cs (ts ++ us) rest := by
  induction h with
  | done rest => exact hu
  | token skip read less _ ih => exact .token skip read less (ih hu)

/-- A cut into tokens that takes the whole text is what `scan` finds. -/
theorem Cuts.scan_eq {cs : List Char} {ts : List Token} (h : Cuts cs ts []) : scan cs = ts := by
  have hfrom : ∀ {cs ts rest}, Cuts cs ts rest → rest = [] → ∀ done fuel, cs.length ≤ fuel →
      scanFrom done fuel cs = done.reverse ++ ts := by
    intro cs ts rest h
    induction h with
    | done rest =>
      rintro rfl done fuel -
      cases fuel <;> simp [scanFrom, skipSpace]
    | @token cs c cs' t mid ts rest skip read less _ ih =>
      intro hrest done fuel hfuel
      have hle : (skipSpace cs).length ≤ cs.length := (List.dropWhile_sublist _).length_le
      rw [skip, List.length_cons] at hle
      cases fuel with
      | zero => omega
      | succ fuel =>
        rw [scanFrom, skip]
        simp only [read]
        rw [ih hrest (t :: done) fuel (by omega), List.reverse_cons, List.append_assoc]
        rfl
  exact hfrom h rfl [] cs.length (Nat.le_refl _)

end Token

/-! ### String literals -/

/-- The four digits of a control character. -/
theorem controlEscape_eq : ∀ {n : Nat}, n < 32 →
    controlEscape (Char.ofNat n) =
        ['\x5c', 'u', '0', '0', Nat.digitChar (n / 16), Nat.digitChar (n % 16)] ∧
      codeUnit? '0' '0' (Nat.digitChar (n / 16)) (Nat.digitChar (n % 16)) = some n := by
  decide

/-- A character that is not escaped is read as itself. -/
theorem readChar_plain {c : Char} (rest : List Char) (hslash : c ≠ '\x5c')
    (hvisible : 0x20 ≤ c.toNat) : readChar (c :: rest) = some (some c, rest) := by
  have hnot : ¬(c.toNat < 0x20 || c = '\x5c') = true := by
    simp only [Bool.or_eq_true, decide_eq_true_eq]
    rintro (h | h)
    · omega
    · exact hslash h
  rw [readChar.eq_def]
  split
  · rename_i heq
    exact absurd (List.cons.inj heq).1 hslash
  · rename_i heq
    exact absurd (List.cons.inj heq).1 hslash
  · rename_i heq
    obtain ⟨rfl, rfl⟩ := List.cons.inj heq
    rw [if_neg hnot]
  · rename_i heq
    exact absurd heq (List.cons_ne_nil _ _)

/-- A control character is read back from its four digits. -/
theorem readChar_controlEscape {c : Char} (rest : List Char) (h : c.toNat < 0x20) :
    readChar (controlEscape c ++ rest) = some (some c, rest) := by
  obtain ⟨hescape, hunit⟩ := controlEscape_eq h
  rw [Char.ofNat_toNat] at hescape
  rw [hescape]
  simp only [List.cons_append, List.nil_append, readChar, hunit, Option.bind_eq_bind,
    Option.bind_some, Char.ofNat_toNat]
  rw [if_neg (by omega), if_neg (by omega)]

/-- A character is read back from the way it is escaped. -/
theorem readChar_escapeChar (c : Char) (rest : List Char) :
    readChar (escapeChar c ++ rest) = some (some c, rest) := by
  have hcode : ∀ n, c.toNat = n → c = Char.ofNat n := fun n h => by rw [← h, Char.ofNat_toNat]
  unfold escapeChar
  split
  · rename_i h
    rcases (by simpa using h : c = '\x22' ∨ c = '\x5c') with rfl | rfl <;> simp [readChar]
  split
  · rename_i hquote hvisible
    exact readChar_plain rest (by simp_all) hvisible
  split
  · simp_all [readChar]
  split
  · simp_all [readChar]
  split
  · simp_all [readChar]
  split
  · rename_i h
    simp [readChar, hcode 8 h]
  split
  · rename_i h
    simp [readChar, hcode 12 h]
  · rename_i hvisible _ _ _ _ _
    exact readChar_controlEscape rest (by omega)

/-- How a character is escaped never looks like the end of the literal. -/
theorem escapeChar_cons (c : Char) : ∃ d ds, escapeChar c = d :: ds ∧ d ≠ '\x22' := by
  unfold escapeChar
  split
  · exact ⟨_, _, rfl, by decide⟩
  split
  · rename_i hquote _
    exact ⟨c, [], rfl, by simp_all⟩
  repeat' split
  all_goals exact ⟨_, _, rfl, by decide⟩

/-- The rest of a literal is read up to its closing quote, with fuel for every character. -/
theorem readString_escaped (cs done rest : List Char) {fuel : Nat}
    (hfuel : (cs.flatMap escapeChar).length < fuel) :
    readString (some done) fuel (cs.flatMap escapeChar ++ '\x22' :: rest) =
      some (some (String.ofList (done.reverse ++ cs)), rest) := by
  induction cs generalizing done fuel with
  | nil =>
    cases fuel with
    | zero => omega
    | succ fuel => simp [readString]
  | cons c cs ih =>
    obtain ⟨d, ds, hescape, hquote⟩ := escapeChar_cons c
    have hchar := readChar_escapeChar c (cs.flatMap escapeChar ++ '\x22' :: rest)
    rw [List.flatMap_cons, List.length_append] at hfuel
    rw [List.flatMap_cons, List.append_assoc]
    rw [hescape, List.length_cons] at hfuel
    rw [hescape, List.cons_append] at hchar ⊢
    cases fuel with
    | zero => omega
    | succ fuel =>
      rw [readString, if_neg hquote, hchar]
      simp only [Option.map_some]
      rw [ih (c :: done) (by omega), List.reverse_cons, List.append_assoc]
      rfl

namespace Token

theorem read_stringLiteral (s : String) (rest : List Char) :
    read (stringLiteral s ++ rest) = some (.string (some s), rest) := by
  have hfuel : (s.toList.flatMap escapeChar).length <
      (s.toList.flatMap escapeChar ++ '\x22' :: rest).length.succ := by
    rw [List.length_append, List.length_cons]
    omega
  have hstring := readString_escaped s.toList [] rest hfuel
  rw [List.reverse_nil, List.nil_append, String.ofList_toList] at hstring
  rw [stringLiteral, List.cons_append, List.cons_append, List.append_assoc, List.singleton_append,
    read, hstring]
  rfl

end Token

/-! ### Numbers -/

/-- What may stand behind a number: nothing that would go on with it. -/
def NumberEnds (rest : List Char) : Prop :=
  ∀ c cs, rest = c :: cs → isDigit c = false ∧ c ≠ '.' ∧ c ≠ 'e' ∧ c ≠ 'E'

theorem numberEnds_nil : NumberEnds [] := fun _ _ h => absurd h.symm (List.cons_ne_nil _ _)

theorem numberEnds_cons {c : Char} {cs : List Char}
    (h : isDigit c = false ∧ c ≠ '.' ∧ c ≠ 'e' ∧ c ≠ 'E') : NumberEnds (c :: cs) := by
  rintro d ds heq
  obtain ⟨rfl, -⟩ := List.cons.inj heq
  exact h

theorem foldl_value_ge (cs : List Char) (n : Nat) :
    n ≤ cs.foldl (fun n c => n * 10 + digitValue c) n := by
  induction cs generalizing n with
  | nil => exact Nat.le_refl n
  | cons c cs ih => exact Nat.le_trans (by omega) (ih (n * 10 + digitValue c))

/-- As long as the number fits, no digit is dropped. -/
theorem foldl_push (cs : List Char) {d : Digits} (hfull : d.full = false)
    (hfit : cs.foldl (fun n c => n * 10 + digitValue c) d.significand < UInt64.size) :
    cs.foldl Digits.push d =
      ⟨cs.foldl (fun n c => n * 10 + digitValue c) d.significand, false, d.dropped⟩ := by
  induction cs generalizing d with
  | nil => rw [List.foldl_nil, List.foldl_nil, ← hfull]
  | cons c cs ih =>
    have hnext := Nat.lt_of_le_of_lt (foldl_value_ge cs _) hfit
    have hpush : d.push c = { d with significand := d.significand * 10 + digitValue c } := by
      rw [Digits.push]
      exact if_neg (by rw [hfull]; simpa using hnext)
    rw [List.foldl_cons, List.foldl_cons, hpush]
    exact ih hfull hfit

theorem readExponent?_of_ends {rest : List Char} (h : NumberEnds rest) :
    readExponent? rest = some (none, rest) := by
  cases rest with
  | nil => rfl
  | cons c cs =>
    obtain ⟨-, -, he, hE⟩ := h c cs rfl
    simp [readExponent?.eq_def, he, hE]

theorem isDigit_of_mem_toDigits {n : Nat} : ∀ c ∈ Nat.toDigits 10 n, isDigit c = true :=
  fun _ h => Text.digit_of_mem_toDigits h

/-- The digits of a number that fits are read as that number. -/
theorem readUnsigned_toDigits {n : Nat} {rest : List Char} (hfit : n < UInt64.size)
    (h : NumberEnds rest) :
    readUnsigned false (Nat.toDigits 10 n ++ rest) = some (some (.natural n), rest) := by
  have hvalue : (Nat.toDigits 10 n).foldl (fun n c => n * 10 + digitValue c) 0 = n :=
    Text.foldl_toDigits n
  have hpush : (Nat.toDigits 10 n).foldl Digits.push ⟨0, false, 0⟩ = ⟨n, false, 0⟩ := by
    rw [foldl_push _ rfl (by rw [hvalue]; exact hfit), hvalue]
  have hlead : ((Nat.toDigits 10 n).isEmpty ||
      ((Nat.toDigits 10 n).length > 1 && (Nat.toDigits 10 n).head? == some '0')) = false := by
    by_cases hzero : n = 0
    · rw [hzero]
      rfl
    · have hhead := Text.head?_toDigits (Nat.pos_of_ne_zero hzero)
      simp [Nat.toDigits_ne_nil, hhead]
  have hpoint : ∀ r, rest ≠ '.' :: r := fun r hr => (h '.' r hr).2.1 rfl
  have hend : ∀ c cs, rest = c :: cs → isDigit c = false := fun c cs hr => (h c cs hr).1
  rw [readUnsigned]
  simp only [Text.takeWhile_run isDigit_of_mem_toDigits hend,
    Text.dropWhile_run isDigit_of_mem_toDigits hend, hlead, hpush]
  simp [readExponent?_of_ends h]

namespace Token

theorem readNumber_toDigits {n : Nat} {rest : List Char} (hfit : n < UInt64.size)
    (h : NumberEnds rest) :
    readNumber (Nat.toDigits 10 n ++ rest) = some (some (.natural n), rest) := by
  have hminus : ∀ r, Nat.toDigits 10 n ++ rest ≠ '-' :: r := by
    intro r hr
    obtain ⟨c, cs, hdigits⟩ := List.exists_cons_of_ne_nil (Nat.toDigits_ne_nil (n := n) (b := 10))
    have hc := isDigit_of_mem_toDigits (n := n) c (by simp [hdigits])
    rw [hdigits, List.cons_append] at hr
    rw [(List.cons.inj hr).1] at hc
    exact absurd hc (by decide)
  rw [readNumber.eq_2 _ hminus]
  exact readUnsigned_toDigits hfit h

/-- No token but a number begins with a digit. -/
theorem read_toDigits {n : Nat} {rest : List Char} (hfit : n < UInt64.size)
    (h : NumberEnds rest) :
    read (Nat.toDigits 10 n ++ rest) = some (.number (some (.natural n)), rest) := by
  obtain ⟨c, cs, hdigits⟩ := List.exists_cons_of_ne_nil (Nat.toDigits_ne_nil (n := n) (b := 10))
  have hc : isDigit c = true := isDigit_of_mem_toDigits (n := n) c (by simp [hdigits])
  have hother : ∀ d r, isDigit d = false → Nat.toDigits 10 n ++ rest ≠ d :: r := by
    intro d r hd hr
    rw [hdigits, List.cons_append] at hr
    rw [(List.cons.inj hr).1, hd] at hc
    exact Bool.noConfusion hc
  rw [read.eq_def]
  split
  case h_11 => rw [readNumber_toDigits hfit h]; rfl
  all_goals
    rename_i heq
    exact absurd heq (hother _ _ (by decide))

/-! ### Documents -/

theorem Cuts.one {c : Char} {cs rest : List Char} {t : Token} (hspace : isSpace c = false)
    (hread : read (c :: cs) = some (t, rest)) (hless : rest.length ≤ cs.length) :
    Cuts (c :: cs) [t] rest :=
  .token (by rw [skipSpace, List.dropWhile_cons_of_neg (by simp [hspace])]) hread hless (.done rest)

theorem cuts_stringLiteral (s : String) (rest : List Char) :
    Cuts (stringLiteral s ++ rest) [.string (some s)] rest := by
  have hread := read_stringLiteral s rest
  rw [stringLiteral, List.cons_append, List.cons_append, List.append_assoc] at hread ⊢
  exact .one (by decide) hread (by simp; omega)

theorem cuts_toDigits {n : Nat} {rest : List Char} (hfit : n < UInt64.size)
    (h : NumberEnds rest) :
    Cuts (Nat.toDigits 10 n ++ rest) [.number (some (.natural n))] rest := by
  have hread := read_toDigits hfit h
  obtain ⟨c, cs, hdigits⟩ := List.exists_cons_of_ne_nil (Nat.toDigits_ne_nil (n := n) (b := 10))
  have hc : isDigit c = true := isDigit_of_mem_toDigits (n := n) c (by simp [hdigits])
  have hspace : isSpace c = false := by
    simp only [isSpace, Bool.or_eq_false_iff, decide_eq_false_iff_not]
    refine ⟨⟨⟨?_, ?_⟩, ?_⟩, ?_⟩ <;> rintro rfl <;> exact absurd hc (by decide)
  rw [hdigits, List.cons_append] at hread ⊢
  exact .one hspace hread (by simp)

end Token

mutual

/-- Whether all numbers in a document are natural and fit 64 bits. -/
def Plain : Json → Prop
  | .number (.natural n) => n < UInt64.size
  | .number _ => False
  | .array items => PlainItems items
  | .object members => PlainMembers members
  | _ => True

def PlainItems : List Json → Prop
  | [] => True
  | j :: rest => Plain j ∧ PlainItems rest

def PlainMembers : List (String × Json) → Prop
  | [] => True
  | (_, j) :: rest => Plain j ∧ PlainMembers rest

end

theorem memberOutlines_eq_map (members : List (String × Json)) :
    memberOutlines members = members.map fun m => (some m.1, outline m.2) := by
  induction members with
  | nil => rfl
  | cons m members ih => rw [memberOutlines, ih, List.map_cons]

theorem plainMembers_iff {members : List (String × Json)} :
    PlainMembers members ↔ ∀ m ∈ members, m.2.Plain := by
  induction members with
  | nil => simp [PlainMembers]
  | cons m members ih => rw [PlainMembers, ih, List.forall_mem_cons]

open Token (Cuts)

mutual

/-- The text written for a document is cut into the document's tokens, and nothing of what stands
behind it is touched. -/
theorem cuts_compact (j : Json) (h : j.Plain) {rest : List Char} (hend : NumberEnds rest) :
    Cuts (compactChars j ++ rest) (tokens j) rest := by
  match j with
  | .null => exact .one (by decide) rfl (by simp; omega)
  | .bool true => exact .one (by decide) rfl (by simp; omega)
  | .bool false => exact .one (by decide) rfl (by simp; omega)
  | .number (.natural n) =>
    rw [compactChars, Number.text, Nat.toString_eq_repr, Nat.toList_repr]
    exact Token.cuts_toDigits h hend
  | .string s => exact Token.cuts_stringLiteral s rest
  | .array items =>
    have hitems := cuts_compactItems items h (']' :: rest) (numberEnds_cons (by decide))
    rw [compactChars, tokens, List.cons_append, List.cons_append, List.append_assoc]
    exact .token rfl rfl (Nat.le_refl _) (hitems.append (.one (by decide) rfl (Nat.le_refl _)))
  | .object members =>
    have hmembers := cuts_compactMembers members h ('\x7d' :: rest) (numberEnds_cons (by decide))
    rw [compactChars, tokens, List.cons_append, List.cons_append, List.append_assoc]
    exact .token rfl rfl (Nat.le_refl _) (hmembers.append (.one (by decide) rfl (Nat.le_refl _)))

theorem cuts_compactItems (items : List Json) (h : PlainItems items) (rest : List Char)
    (hend : NumberEnds rest) : Cuts (compactItems items ++ rest) (itemTokens items) rest := by
  match items with
  | [] => exact .done rest
  | [j] =>
    rw [compactItems, itemTokens]
    exact cuts_compact j h.1 hend
  | j :: k :: more =>
    have hmore := cuts_compactItems (k :: more) h.2 rest hend
    rw [compactItems, itemTokens, List.append_assoc, List.cons_append]
    exact (cuts_compact j h.1 (numberEnds_cons (by decide))).append
      (.token rfl rfl (Nat.le_refl _) hmore)

theorem cuts_compactMembers (members : List (String × Json)) (h : PlainMembers members)
    (rest : List Char) (hend : NumberEnds rest) :
    Cuts (compactMembers members ++ rest) (memberTokens members) rest := by
  match members with
  | [] => exact .done rest
  | [(key, v)] =>
    rw [compactMembers, memberTokens, List.append_assoc, List.cons_append]
    exact (Token.cuts_stringLiteral key _).append
      (.token rfl rfl (Nat.le_refl _) (cuts_compact v h.1 hend))
  | (key, v) :: m :: more =>
    have hmore := cuts_compactMembers (m :: more) h.2 rest hend
    rw [compactMembers, memberTokens, List.append_assoc, List.cons_append, List.append_assoc,
      List.cons_append]
    exact (Token.cuts_stringLiteral key _).append
      (.token rfl rfl (Nat.le_refl _) ((cuts_compact v h.1 (numberEnds_cons (by decide))).append
        (.token rfl rfl (Nat.le_refl _) hmore)))

end

/-- The compact text of a document is cut into the document's tokens. -/
theorem scan_compact {j : Json} (h : j.Plain) : Token.scan (compactChars j) = tokens j := by
  have hcuts := cuts_compact j h numberEnds_nil
  rw [List.append_nil] at hcuts
  exact hcuts.scan_eq

/-- **The compact text of a document has the document's outline**, and is nothing else. -/
theorem ofText_compact {j : Json} (h : j.Plain) :
    Outline.ofText j.compact = (outline j, true) := by
  rw [Outline.ofText, compact, String.toList_ofList, scan_compact h, ofTokens_tokens]

/-- **What a decoder makes of a written document** is what it makes of its outline. -/
theorem decode_compact {α : Type} (read : Decoder α) {j : Json} (h : j.Plain) :
    decode read j.compact = read (outline j) := by
  rw [decode, ofText_compact h]
  cases read (outline j) <;> rfl

end RedirectLogin.Json
