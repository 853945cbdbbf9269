import Mathlib.Data.List.Basic
import RedirectLogin.Loopback
import RedirectLogin.Proofs.Text.Blank
import RedirectLogin.Proofs.Text.Utf8

/-!
# What is read of a request

The listener reads lines until a blank one, within a limit that the request line and the header lines
share. The limit and the end of the stream cut wherever they come to stand, in a line or in a
character. Here what is read is said of the bytes as a whole: they are divided into lines
(`lines`), the header lines are those up to a blank one (`throughBlank`), and each of them has to be
text. The request line asks for a target if it begins with two words of which the first is the method
(`AsksFor`).

Principal results: `skipHeaders_spec` — reading headers; `targetOf?_eq_some_iff` — reading a request
line; `readTarget_meets_spec` — both on every stream, and what the result does not depend on.
-/

set_option autoImplicit false

namespace RedirectLogin.Loopback

/-! ## Lines -/

/-- The lines of a byte stream, each with its newline. What is behind the last newline is a line
too. -/
def lines : List UInt8 → List (List UInt8)
  | [] => []
  | b :: bs =>
    if b = 10 then [b] :: lines bs
    else
      match lines bs with
      | [] => [[b]]
      | line :: more => (b :: line) :: more

/-- These bytes are UTF-8. -/
def IsText (bs : List UInt8) : Prop :=
  ∃ cs, Text.encode cs = bs

/-- A line of nothing but white space. -/
def isBlankLine (line : List UInt8) : Bool :=
  (Text.decode? line).any (fun cs => cs.all Text.isBlank)

/-- The lines up to a blank one, or all of them if none is. -/
def throughBlank : List (List UInt8) → List (List UInt8)
  | [] => []
  | line :: more => if isBlankLine line then [line] else line :: throughBlank more

/-- Two words begin the line, the method and this target. -/
def AsksFor (line : List Char) (target : String) : Prop :=
  ∃ before between rest, line = before ++ ("GET".toList ++ (between ++ (target.toList ++ rest))) ∧
    (∀ c ∈ before, Text.isBlank c = true) ∧
    between ≠ [] ∧ (∀ c ∈ between, Text.isBlank c = true) ∧
    target ≠ "" ∧ (∀ c ∈ target.toList, Text.isBlank c = false) ∧
    (∀ c cs, rest = c :: cs → Text.isBlank c = true)

section Lines

variable {line bs : List UInt8}

theorem lines_flatten (bs : List UInt8) : (lines bs).flatten = bs := by
  induction bs with
  | nil => rfl
  | cons b bs ih =>
    rw [lines]
    split
    · rw [List.flatten_cons, ih, List.singleton_append]
    · split
      · rename_i hnil
        rw [hnil] at ih
        rw [← ih]
        rfl
      · rename_i l more hcons
        rw [hcons, List.flatten_cons] at ih
        rw [List.flatten_cons, List.cons_append, ih]

/-- The reader takes the lines off one by one. -/
theorem lines_eq (hne : bs ≠ []) : lines bs = (splitLine bs).1 :: lines (splitLine bs).2 := by
  induction bs with
  | nil => exact absurd rfl hne
  | cons b bs ih =>
    rw [lines, splitLine]
    by_cases hb : b = 10
    · rw [if_pos hb, if_pos hb]
    · rw [if_neg hb, if_neg hb]
      cases bs with
      | nil => rfl
      | cons d ds => rw [ih (List.cons_ne_nil d ds)]

theorem splitLine_run (h : 10 ∉ line) (rest : List UInt8) :
    splitLine (line ++ 10 :: rest) = (line ++ [10], rest) := by
  induction line with
  | nil => rfl
  | cons b line ih =>
    rw [List.mem_cons, not_or] at h
    rw [List.cons_append, splitLine, if_neg (Ne.symm h.1), ih h.2]
    rfl

theorem splitLine_of_not_mem (h : 10 ∉ bs) : splitLine bs = (bs, []) := by
  induction bs with
  | nil => rfl
  | cons b bs ih =>
    rw [List.mem_cons, not_or] at h
    rw [splitLine, if_neg (Ne.symm h.1), ih h.2]

theorem lines_length_le (bs : List UInt8) : (lines bs).length ≤ bs.length := by
  induction bs with
  | nil => exact Nat.le_refl 0
  | cons b bs ih =>
    rw [lines]
    split
    · exact Nat.succ_le_succ ih
    · split
      · exact Nat.succ_le_succ (Nat.zero_le _)
      · rename_i l more hcons
        rw [hcons] at ih
        exact Nat.le_succ_of_le ih

/-- The lines up to a blank one come first. -/
theorem exists_unread (ls : List (List UInt8)) : ∃ unread, throughBlank ls ++ unread = ls := by
  induction ls with
  | nil => exact ⟨[], rfl⟩
  | cons l ls ih =>
    rw [throughBlank]
    split
    · exact ⟨ls, rfl⟩
    · obtain ⟨unread, hunread⟩ := ih
      exact ⟨unread, by rw [List.cons_append, hunread]⟩

end Lines

/-! ## Headers -/

section Headers

variable {bs blank : List UInt8}

theorem isText_of_decode {cs : List Char} (h : Text.decode? bs = some cs) : IsText bs :=
  ⟨cs, (Text.decode?_eq_some_iff.1 h).symm⟩

theorem not_isText_of_decode (h : Text.decode? bs = none) : ¬ IsText bs := by
  rintro ⟨cs, rfl⟩
  rw [Text.decode?_encode] at h
  cases h

theorem skipHeaders_nil : skipHeaders [] = .ok () := by
  rw [skipHeaders]

/-- Reading headers, by the first line. -/
theorem skipHeaders_eq (hne : bs ≠ []) :
    skipHeaders bs =
      match Text.decode? (splitLine bs).1 with
      | none => .error .notText
      | some cs => if cs.all Text.isBlank then .ok () else skipHeaders (splitLine bs).2 := by
  cases bs with
  | nil => exact absurd rfl hne
  | cons b bs =>
    rw [skipHeaders, readLine]
    cases Text.decode? (splitLine (b :: bs)).1 <;> rfl

/-- **Reading headers fails exactly if a line up to the blank one is not text**, and in no other
way. -/
theorem skipHeaders_spec (bs : List UInt8) :
    ((∀ l ∈ throughBlank (lines bs), IsText l) ∧ skipHeaders bs = .ok ()) ∨
      ((∃ l ∈ throughBlank (lines bs), ¬ IsText l) ∧ skipHeaders bs = .error .notText) := by
  by_cases hne : bs = []
  · subst hne
    exact Or.inl ⟨nofun, skipHeaders_nil⟩
  rw [lines_eq hne, throughBlank, skipHeaders_eq hne]
  cases hread : Text.decode? (splitLine bs).1 with
  | none =>
    refine Or.inr ⟨⟨_, ?_, not_isText_of_decode hread⟩, rfl⟩
    split <;> exact List.mem_cons_self
  | some cs =>
    have hblank : isBlankLine (splitLine bs).1 = cs.all Text.isBlank := by
      rw [isBlankLine, hread]
      rfl
    have hfirst : IsText (splitLine bs).1 := isText_of_decode hread
    dsimp only
    rw [hblank]
    split
    · exact Or.inl ⟨fun l hl => List.mem_singleton.1 hl ▸ hfirst, rfl⟩
    · have hshorter : (splitLine bs).2.length < bs.length := splitLine_rest_lt hne
      rcases skipHeaders_spec (splitLine bs).2 with ⟨htexts, hskip⟩ | ⟨⟨l, hl, hnot⟩, hskip⟩
      · exact Or.inl ⟨List.forall_mem_cons.2 ⟨hfirst, htexts⟩, hskip⟩
      · exact Or.inr ⟨⟨l, List.mem_cons_of_mem _ hl, hnot⟩, hskip⟩
termination_by bs.length

/-- Reading headers that begin with this line. -/
theorem skipHeaders_line {line : List UInt8} (h : 10 ∉ line) (rest : List UInt8) :
    skipHeaders (line ++ 10 :: rest) =
      match Text.decode? (line ++ [10]) with
      | none => .error .notText
      | some cs => if cs.all Text.isBlank then .ok () else skipHeaders rest := by
  rw [skipHeaders_eq (List.append_ne_nil_of_right_ne_nil line (List.cons_ne_nil 10 rest)),
    splitLine_run h]

theorem skipHeaders_blank (hline : 10 ∉ blank) (hblank : isBlankLine (blank ++ [10]) = true)
    (more : List UInt8) : skipHeaders (blank ++ 10 :: more) = .ok () := by
  rw [isBlankLine] at hblank
  cases hread : Text.decode? (blank ++ [10]) with
  | none => rw [hread] at hblank; cases hblank
  | some cs =>
    have hall : cs.all Text.isBlank = true := by rwa [hread] at hblank
    rw [skipHeaders_line hline, hread]
    exact if_pos hall

/-- **What is behind a blank line is not read.** -/
theorem skipHeaders_behind (hline : 10 ∉ blank) (hblank : isBlankLine (blank ++ [10]) = true)
    (front more more' : List UInt8) :
    skipHeaders (front ++ 10 :: (blank ++ 10 :: more)) =
      skipHeaders (front ++ 10 :: (blank ++ 10 :: more')) := by
  by_cases hmem : 10 ∈ front
  · obtain ⟨line, behind, rfl, hfirst⟩ := List.eq_append_cons_of_mem hmem
    rw [List.append_assoc, List.append_assoc, List.cons_append, List.cons_append,
      skipHeaders_line hfirst, skipHeaders_line hfirst, skipHeaders_behind hline hblank behind]
  · rw [skipHeaders_line hmem, skipHeaders_line hmem, skipHeaders_blank hline hblank,
      skipHeaders_blank hline hblank]
termination_by front.length
decreasing_by
  rename_i hsplit
  rw [hsplit, List.length_append, List.length_cons]
  omega

end Headers

/-! ## The request line -/

section RequestLine

variable {line : List Char} {target : String}

theorem targetOf?_eq_some_words :
    targetOf? line = some target ↔
      ∃ more, Text.words line = "GET".toList :: target.toList :: more := by
  unfold targetOf?
  split
  · rename_i verb word more hwords
    rw [hwords]
    by_cases hverb : verb = "GET".toList
    · rw [if_pos hverb, Option.some.injEq, ← String.toList_inj, String.toList_ofList]
      constructor
      · rintro rfl
        exact ⟨more, by rw [hverb]⟩
      · rintro ⟨_, h⟩
        exact (List.cons.inj (List.cons.inj h).2).1
    · rw [if_neg hverb]
      exact ⟨nofun, fun ⟨_, h⟩ => absurd (List.cons.inj h).1 hverb⟩
  · rename_i hfew
    exact ⟨nofun, fun ⟨_, h⟩ => absurd h (hfew _ _ _)⟩

/-- **A target is read off a line exactly if the line asks for it.** -/
theorem targetOf?_eq_some_iff : targetOf? line = some target ↔ AsksFor line target := by
  rw [targetOf?_eq_some_words]
  constructor
  · rintro ⟨more, hwords⟩
    obtain ⟨before, behind, rfl, hbefore, -, -, hblank, hbehind⟩ := Text.words_eq_cons_iff.1 hwords
    obtain ⟨between, rest, rfl, hbetween, hne, hword, hrest, -⟩ := Text.words_eq_cons_iff.1 hbehind
    refine ⟨before, between, rest, rfl, hbefore, ?_, hbetween, ?_, hword, hrest⟩
    · -- Without a blank between them, method and target would be one word.
      rintro rfl
      cases htarget : target.toList with
      | nil => exact hne htarget
      | cons c cs =>
        have hc := hblank c (cs ++ rest) (by rw [htarget]; rfl)
        rw [hword c (by rw [htarget]; exact List.mem_cons_self)] at hc
        cases hc
    · rintro rfl
      exact hne rfl
  · rintro ⟨before, between, rest, rfl, hbefore, hne, hbetween, hsome, hword, hrest⟩
    refine ⟨Text.words rest, Text.words_eq_cons_iff.2
      ⟨before, between ++ (target.toList ++ rest), rfl, hbefore, by decide,
        fun _ hc => Text.forall_mem hc (by decide), ?_,
        Text.words_eq_cons_iff.2 ⟨between, rest, rfl, hbetween, ?_, hword, hrest, rfl⟩⟩⟩
    · intro c cs hcons
      cases between with
      | nil => exact absurd rfl hne
      | cons d ds =>
        rw [← (List.cons.inj hcons).1]
        exact hbetween d List.mem_cons_self
    · exact fun h => hsome (String.toList_inj.1 h)

theorem targetOf?_eq_none_iff : targetOf? line = none ↔ ∀ target, ¬ AsksFor line target := by
  rw [Option.eq_none_iff_forall_ne_some]
  exact forall_congr' (fun target => not_congr targetOf?_eq_some_iff)

end RequestLine

/-! ## The head of a request -/

section Head

variable {stream line rest : List UInt8}

/-- The character at the end of a text is a newline exactly if its last byte is. -/
theorem newline_mem_iff {cs : List Char} : '\n' ∈ cs ↔ 10 ∈ Text.encode cs := by
  constructor
  · intro h
    exact List.mem_flatMap.2 ⟨'\n', h, by decide⟩
  · intro h
    exact Text.mem_of_mem_encode h (by decide)

theorem getLast?_of_line {cs : List Char} (h : Text.encode cs = line ++ [10]) :
    cs.getLast? = some '\n' := by
  rcases List.eq_nil_or_concat cs with rfl | ⟨ds, c, rfl⟩
  · exact absurd h.symm (List.append_ne_nil_of_right_ne_nil line (List.cons_ne_nil 10 []))
  · rw [List.concat_eq_append] at h ⊢
    have hlast : (Text.encode ds ++ Text.encode [c]).getLast? = some 10 := by
      rw [← Text.encode_append, h, List.getLast?_concat]
    have hsome : Text.encode [c] ≠ [] := by simp [Text.encode]
    rw [List.getLast?_append_of_ne_nil _ hsome] at hlast
    have hmem : '\n' ∈ [c] := newline_mem_iff.2 (List.mem_of_getLast? hlast)
    rw [← List.mem_singleton.1 hmem, List.getLast?_concat]

/-- Without a newline within the limit there is no request line. -/
theorem readTarget_of_not_mem (h : 10 ∉ stream.take headLimit) :
    (IsText (stream.take headLimit) ∧ readTarget stream = .ok none) ∨
      (¬ IsText (stream.take headLimit) ∧ readTarget stream = .error .notText) := by
  rw [readTarget, readLine, splitLine_of_not_mem h]
  cases hread : Text.decode? (stream.take headLimit) with
  | none => exact Or.inr ⟨not_isText_of_decode hread, rfl⟩
  | some cs =>
    refine Or.inl ⟨isText_of_decode hread, if_pos (fun hlast => h ?_)⟩
    rw [Text.decode?_eq_some_iff.1 hread, ← newline_mem_iff]
    exact List.mem_of_getLast? hlast

/-- With a newline there is one, and header lines behind it. -/
theorem readTarget_of_line (h : 10 ∉ line) (hhead : stream.take headLimit = line ++ 10 :: rest) :
    readTarget stream =
      match Text.decode? (line ++ [10]) with
      | none => .error .notText
      | some cs => (skipHeaders rest).map (fun _ => targetOf? cs) := by
  rw [readTarget, readLine, hhead, splitLine_run h]
  cases hread : Text.decode? (line ++ [10]) with
  | none => rfl
  | some cs =>
    have hlast : ¬(cs.getLast? ≠ some '\n') :=
      not_not.2 (getLast?_of_line (Text.decode?_eq_some_iff.1 hread).symm)
    simp only [bind, Except.bind, if_neg hlast]
    cases skipHeaders rest <;> rfl

/-- A request line, and the lines behind it that are read. -/
def consumed (line rest : List UInt8) : List (List UInt8) :=
  (line ++ [10]) :: throughBlank (lines rest)

/-- **Reading a head** that has a request line: it fails exactly if a line that is read is not text,
and else finds what the request line asks for. -/
theorem readTarget_cases (h : 10 ∉ line) (hhead : stream.take headLimit = line ++ 10 :: rest) :
    ((∃ l ∈ consumed line rest, ¬ IsText l) ∧ readTarget stream = .error .notText) ∨
      (∀ l ∈ consumed line rest, IsText l) ∧
        ∃ cs, Text.encode cs = line ++ [10] ∧ readTarget stream = .ok (targetOf? cs) := by
  rw [readTarget_of_line h hhead]
  cases hread : Text.decode? (line ++ [10]) with
  | none => exact Or.inl ⟨⟨_, List.mem_cons_self, not_isText_of_decode hread⟩, rfl⟩
  | some cs =>
    rcases skipHeaders_spec rest with ⟨htexts, hskip⟩ | ⟨⟨l, hl, hnot⟩, hskip⟩
    · exact Or.inr ⟨List.forall_mem_cons.2 ⟨isText_of_decode hread, htexts⟩, cs,
        (Text.decode?_eq_some_iff.1 hread).symm, by rw [hskip]; rfl⟩
    · exact Or.inl ⟨⟨l, List.mem_cons_of_mem _ hl, hnot⟩, by rw [hskip]; rfl⟩

/-- What is read are the first bytes within the limit. -/
theorem consumed_flatten (hhead : stream.take headLimit = line ++ 10 :: rest) :
    ∃ unread, (consumed line rest).flatten ++ unread = stream.take headLimit := by
  obtain ⟨unread, hunread⟩ := exists_unread (lines rest)
  refine ⟨unread.flatten, ?_⟩
  rw [hhead, consumed, List.flatten_cons, List.append_assoc, ← List.flatten_append, hunread,
    lines_flatten, List.append_assoc, List.singleton_append]

/-- No more lines are read than bytes. -/
theorem consumed_length_le (hhead : stream.take headLimit = line ++ 10 :: rest) :
    (consumed line rest).length ≤ headLimit := by
  have hlimit : (line ++ 10 :: rest).length ≤ headLimit := hhead ▸ List.length_take_le _ _
  obtain ⟨unread, hunread⟩ := exists_unread (lines rest)
  have hread : (throughBlank (lines rest)).length ≤ rest.length := by
    have hlength := congrArg List.length hunread
    rw [List.length_append] at hlength
    have hlines := lines_length_le rest
    omega
  rw [List.length_append, List.length_cons] at hlimit
  rw [consumed, List.length_cons]
  omega

/-- What the head of a request is read as, and what it is not read as. -/
structure ReadsHead (stream line rest : List UInt8) : Prop where
  /-- It is not read exactly if a line that has to be read is not text. -/
  fails : (∃ e, readTarget stream = .error e) ↔ ∃ l ∈ consumed line rest, ¬ IsText l
  /-- A target is found exactly if all is text and the request line asks for it. -/
  finds : ∀ target, readTarget stream = .ok (some target) ↔
    (∀ l ∈ consumed line rest, IsText l) ∧
      ∃ cs, Text.encode cs = line ++ [10] ∧ AsksFor cs target
  /-- None is found exactly if all is text and the request line asks for none. -/
  misses : readTarget stream = .ok none ↔
    (∀ l ∈ consumed line rest, IsText l) ∧
      ∀ cs target, Text.encode cs = line ++ [10] → ¬ AsksFor cs target
  /-- What is read comes first, and reading ends. -/
  begins : ∃ unread, (consumed line rest).flatten ++ unread = stream.take headLimit
  ends : (consumed line rest).length ≤ headLimit

theorem readsHead (h : 10 ∉ line) (hhead : stream.take headLimit = line ++ 10 :: rest) :
    ReadsHead stream line rest := by
  have hfirst := consumed_flatten hhead
  have hbound := consumed_length_le hhead
  rcases readTarget_cases h hhead with ⟨⟨l, hl, hnot⟩, hread⟩ | ⟨htexts, cs, hcs, hread⟩
  · have hall : ¬ ∀ l ∈ consumed line rest, IsText l := fun hall => hnot (hall l hl)
    refine ⟨⟨fun _ => ⟨l, hl, hnot⟩, fun _ => ⟨_, hread⟩⟩, fun target => ?_, ?_, hfirst,
      hbound⟩
    · rw [hread]
      exact ⟨nofun, fun ⟨htexts, _⟩ => absurd htexts hall⟩
    · rw [hread]
      exact ⟨nofun, fun ⟨htexts, _⟩ => absurd htexts hall⟩
  · -- A line is the encoding of one text only.
    have honly : ∀ ds, Text.encode ds = line ++ [10] → ds = cs := fun ds hds => by
      have hsame := congrArg Text.decode? (hds.trans hcs.symm)
      rwa [Text.decode?_encode, Text.decode?_encode, Option.some.injEq] at hsame
    refine ⟨⟨fun ⟨e, he⟩ => ?_, fun ⟨l, hl, hnot⟩ => absurd (htexts l hl) hnot⟩, fun target => ?_,
      ?_, hfirst, hbound⟩
    · rw [hread] at he
      cases he
    · rw [hread, Except.ok.injEq, targetOf?_eq_some_iff]
      exact ⟨fun hasks => ⟨htexts, cs, hcs, hasks⟩,
        fun ⟨_, ds, hds, hasks⟩ => honly ds hds ▸ hasks⟩
    · rw [hread, Except.ok.injEq, targetOf?_eq_none_iff]
      exact ⟨fun hnone => ⟨htexts, fun ds target hds => honly ds hds ▸ hnone target⟩,
        fun ⟨_, hnone⟩ target => hnone cs target hcs⟩

/-- What is behind a blank line within the limit has no say in the result. -/
theorem readTarget_behind {front blank : List UInt8} (hline : 10 ∉ blank)
    (hblank : isBlankLine (blank ++ [10]) = true)
    (hfits : (front ++ 10 :: (blank ++ [10])).length ≤ headLimit) (more more' : List UInt8) :
    readTarget (front ++ 10 :: (blank ++ 10 :: more)) =
      readTarget (front ++ 10 :: (blank ++ 10 :: more')) := by
  have hhead : ∀ more, ∃ kept, (front ++ 10 :: (blank ++ 10 :: more)).take headLimit =
      front ++ 10 :: (blank ++ 10 :: kept) := by
    intro more
    have hsplit : ∀ kept, front ++ 10 :: (blank ++ 10 :: kept) =
        (front ++ 10 :: (blank ++ [10])) ++ kept := by simp
    refine ⟨more.take (headLimit - (front ++ 10 :: (blank ++ [10])).length), ?_⟩
    rw [hsplit more, List.take_append, List.take_of_length_le hfits]
    exact (hsplit _).symm
  obtain ⟨kept, hkept⟩ := hhead more
  obtain ⟨kept', hkept'⟩ := hhead more'
  by_cases hmem : 10 ∈ front
  · obtain ⟨line, behind, rfl, hfirst⟩ := List.eq_append_cons_of_mem hmem
    simp only [List.append_assoc, List.cons_append] at hkept hkept' ⊢
    rw [readTarget_of_line hfirst hkept, readTarget_of_line hfirst hkept',
      skipHeaders_behind hline hblank behind kept kept']
  · rw [readTarget_of_line hmem hkept, readTarget_of_line hmem hkept',
      skipHeaders_blank hline hblank, skipHeaders_blank hline hblank]

/-- **The reader of request heads meets its specification** on every stream that is sent and closed.
Without a newline within the limit there is no request line, and no target. Otherwise the lines up to
a blank one or to the limit are read; that fails if one of them is not text, and else a target is
found exactly if the request line asks for it. No target comes from a request line that does not end
within the limit, one that ends with it is good, and neither what is behind the limit nor what is
behind the blank line makes a difference. -/
theorem readTarget_meets_spec (stream : List UInt8) :
    (10 ∉ stream.take headLimit →
      (IsText (stream.take headLimit) → readTarget stream = .ok none) ∧
        (¬ IsText (stream.take headLimit) → readTarget stream = .error .notText)) ∧
    (∀ line rest, 10 ∉ line → stream.take headLimit = line ++ 10 :: rest →
      ReadsHead stream line rest) ∧
    (∀ e, readTarget stream = .error e → e = .notText) ∧
    (∀ target, readTarget stream = .ok (some target) →
      ∃ line rest, 10 ∉ line ∧ stream = line ++ 10 :: rest ∧ line.length + 1 ≤ headLimit) ∧
    (∀ line rest cs target, 10 ∉ line → stream = line ++ 10 :: rest →
      line.length + 1 = headLimit → Text.encode cs = line ++ [10] → AsksFor cs target →
        readTarget stream = .ok (some target)) ∧
    (∀ other, other.take headLimit = stream.take headLimit →
      readTarget other = readTarget stream) ∧
    (∀ front blank more more', 10 ∉ blank → isBlankLine (blank ++ [10]) = true →
      (front ++ 10 :: (blank ++ [10])).length ≤ headLimit →
        stream = front ++ 10 :: (blank ++ 10 :: more) →
          readTarget (front ++ 10 :: (blank ++ 10 :: more')) = readTarget stream) := by
  refine ⟨fun h => ?_, fun _ _ => readsHead, fun e he => ?_, fun target htarget => ?_, ?_,
    fun other hother => ?_, ?_⟩
  · rcases readTarget_of_not_mem h with ⟨htext, hread⟩ | ⟨hnot, hread⟩
    · exact ⟨fun _ => hread, fun hnot => absurd htext hnot⟩
    · exact ⟨fun htext => absurd htext hnot, fun _ => hread⟩
  · by_cases hmem : 10 ∈ stream.take headLimit
    · obtain ⟨line, rest, hhead, hfirst⟩ := List.eq_append_cons_of_mem hmem
      rcases readTarget_cases hfirst hhead with ⟨_, hread⟩ | ⟨_, cs, _, hread⟩
      · exact Except.error.inj (he.symm.trans hread)
      · cases he.symm.trans hread
    · rcases readTarget_of_not_mem hmem with ⟨_, hread⟩ | ⟨_, hread⟩
      · cases he.symm.trans hread
      · exact Except.error.inj (he.symm.trans hread)
  · by_cases hmem : 10 ∈ stream.take headLimit
    · obtain ⟨line, rest, hhead, hfirst⟩ := List.eq_append_cons_of_mem hmem
      refine ⟨line, rest ++ stream.drop headLimit, hfirst, ?_, ?_⟩
      · rw [← List.cons_append, ← List.append_assoc, ← hhead, List.take_append_drop]
      · have hlimit : (line ++ 10 :: rest).length ≤ headLimit := hhead ▸ List.length_take_le _ _
        rw [List.length_append, List.length_cons] at hlimit
        omega
    · rcases readTarget_of_not_mem hmem with ⟨_, hread⟩ | ⟨_, hread⟩
      · cases htarget.symm.trans hread
      · cases htarget.symm.trans hread
  · rintro line rest cs target h rfl hlength hcs hasks
    have hhead : (line ++ 10 :: rest).take headLimit = line ++ 10 :: [] := by
      rw [← hlength, List.take_append, List.take_of_length_le (Nat.le_succ _),
        Nat.add_sub_cancel_left]
      rfl
    refine ((readsHead h hhead).finds target).2 ⟨?_, cs, hcs, hasks⟩
    exact List.forall_mem_cons.2 ⟨⟨cs, hcs⟩, nofun⟩
  · rw [readTarget, readTarget, hother]
  · rintro front blank more more' hline hblank hfits rfl
    exact readTarget_behind hline hblank hfits more' more

end Head

/-! ## At the limit -/

/-- A request line without its newline, whose target has so many letters. -/
def longLine (letters : Nat) : List Char :=
  "GET ".toList ++ List.replicate letters 'a'

theorem mem_longLine {letters : Nat} {c : Char} (h : c ∈ longLine letters) :
    c.toNat < 128 ∧ c ≠ '\n' := by
  rcases List.mem_append.1 h with h | h
  · exact Text.forall_mem h (by decide)
  · rw [List.eq_of_mem_replicate h]
    decide

theorem longLine_length (letters : Nat) : (Text.encode (longLine letters)).length = letters + 4 := by
  rw [Text.encode_of_ascii (fun c hc => (mem_longLine hc).1), List.length_map, longLine,
    List.length_append, List.length_replicate, Nat.add_comm]
  rfl

theorem not_mem_longLine (letters : Nat) : 10 ∉ Text.encode (longLine letters) := fun h =>
  (mem_longLine (newline_mem_iff.2 h)).2 rfl

theorem asksFor_longLine {letters : Nat} (h : 0 < letters) :
    AsksFor (longLine letters ++ ['\n']) (String.ofList (List.replicate letters 'a')) := by
  have hverb : "GET ".toList = "GET".toList ++ [' '] := by decide
  have htarget : (String.ofList (List.replicate letters 'a')).toList = List.replicate letters 'a' :=
    String.toList_ofList
  have hspace : ∀ c ∈ [' '], Text.isBlank c = true := fun _ hc => Text.forall_mem hc (by decide)
  refine ⟨[], [' '], ['\n'], ?_, nofun, nofun, hspace, ?_, ?_, ?_⟩
  · rw [htarget, longLine, hverb]
    simp only [List.append_assoc, List.nil_append]
  · intro hempty
    rw [← String.toList_inj, htarget] at hempty
    exact Nat.ne_of_gt h (List.replicate_eq_nil_iff 'a' |>.1 hempty)
  · intro c hc
    rw [htarget] at hc
    rw [List.eq_of_mem_replicate hc]
    decide
  · intro c cs hcons
    rw [← (List.cons.inj hcons).1]
    decide

/-- A request line of 16384 bytes is good, whatever is behind it; one byte more and it asks for
nothing. -/
theorem readTarget_at_the_limit :
    readTarget (Text.encode (longLine 16379) ++ [10, 0xFF]) =
        .ok (some (String.ofList (List.replicate 16379 'a'))) ∧
      readTarget (Text.encode (longLine 16380) ++ [10]) = .ok none := by
  constructor
  · obtain ⟨-, -, -, -, hlimit, -⟩ :=
      readTarget_meets_spec (Text.encode (longLine 16379) ++ [10, 0xFF])
    have hbytes : Text.encode (longLine 16379 ++ ['\n']) = Text.encode (longLine 16379) ++ [10] := by
      rw [Text.encode_append]
      rfl
    refine hlimit _ [0xFF] _ _ (not_mem_longLine 16379) rfl ?_ hbytes
      (asksFor_longLine (by decide))
    rw [longLine_length]
    rfl
  · have hhead : (Text.encode (longLine 16380) ++ [10]).take headLimit =
        Text.encode (longLine 16380) := by
      have hlength : headLimit = (Text.encode (longLine 16380)).length :=
        (longLine_length 16380).symm
      rw [hlength, List.take_left]
    obtain ⟨hnone, -⟩ := readTarget_meets_spec (Text.encode (longLine 16380) ++ [10])
    rw [hhead] at hnone
    exact (hnone (not_mem_longLine 16380)).1 ⟨_, rfl⟩

end RedirectLogin.Loopback
