import Mathlib.Data.List.TakeWhile
import RedirectLogin.Proofs.Text.Digits
import RedirectLogin.Text.Blank

/-!
# Trimming and words

What trimming leaves of a text whose parts are known, and the first words of a line. Trimming never
reaches past a character that is not to be dropped, so a text keeps its front whatever is written
behind it; this is what makes statements about the beginning of a URL possible.

Principal results: `trimWhile_front` — a front without characters to drop stays; `trimWhile_around`
— what is put around a text is dropped again; `words_eq_cons_iff` — the first word of a line.
-/

set_option autoImplicit false

namespace RedirectLogin.Text

section Trim

variable {p : Char → Bool}

theorem dropWhile_eq_self {cs : List Char} (h : ∀ c ∈ cs, p c = false) : cs.dropWhile p = cs := by
  cases cs with
  | nil => rfl
  | cons c cs => rw [List.dropWhile_cons_of_neg (by simp [h c List.mem_cons_self])]

theorem trimEndWhile_eq_self {cs : List Char} (h : ∀ c ∈ cs, p c = false) :
    trimEndWhile p cs = cs := by
  rw [trimEndWhile, dropWhile_eq_self (fun c hc => h c (List.mem_reverse.1 hc)),
    List.reverse_reverse]

/-- Dropping from the end does not reach past a character that stays. -/
theorem trimEndWhile_front {front : List Char} (h : ∀ c ∈ front, p c = false)
    (behind : List Char) : trimEndWhile p (front ++ behind) = front ++ trimEndWhile p behind := by
  have hfront : front.reverse.dropWhile p = front.reverse :=
    dropWhile_eq_self (fun c hc => h c (List.mem_reverse.1 hc))
  rw [trimEndWhile, trimEndWhile, List.reverse_append, List.dropWhile_append, hfront]
  split
  · rename_i hempty
    simp [List.isEmpty_iff.1 hempty]
  · simp

/-- Nor does it reach what is in front of that character. -/
theorem trimEndWhile_behind {c : Char} (hc : p c = false) (front behind : List Char) :
    trimEndWhile p (front ++ c :: behind) = front ++ c :: trimEndWhile p behind := by
  have hself : trimEndWhile p (c :: behind) = c :: trimEndWhile p behind := by
    have hone : ∀ d ∈ [c], p d = false := fun d hd => List.mem_singleton.1 hd ▸ hc
    exact trimEndWhile_front hone behind
  have hstay : ¬((c :: behind).reverse.dropWhile p).isEmpty = true := by
    intro hempty
    have hall := List.dropWhile_eq_nil_iff.1 (List.isEmpty_iff.1 hempty) c
      (List.mem_reverse.2 List.mem_cons_self)
    rw [hc] at hall
    cases hall
  rw [← hself, trimEndWhile, trimEndWhile, List.reverse_append, List.dropWhile_append,
    if_neg hstay, List.reverse_append, List.reverse_reverse]

/-- What trimming drops from the end. -/
theorem trimEndWhile_append_dropped (cs : List Char) :
    ∃ dropped, trimEndWhile p cs ++ dropped = cs ∧ (∀ c ∈ dropped, p c = true) ∧
      ((∀ c, cs.getLast? = some c → p c = false) → dropped = []) := by
  refine ⟨(cs.reverse.takeWhile p).reverse, ?_, fun c hc => ?_, fun hlast => ?_⟩
  · rw [trimEndWhile, ← List.reverse_append, List.takeWhile_append_dropWhile, List.reverse_reverse]
  · exact List.mem_takeWhile_imp (List.mem_reverse.1 hc)
  · rw [← List.head?_reverse] at hlast
    cases hcs : cs.reverse with
    | nil => rfl
    | cons c more =>
      rw [hcs] at hlast
      rw [List.takeWhile_cons_of_neg (by simp [hlast c rfl])]
      rfl

/-- **A front without characters to drop stays**, whatever is behind it. -/
theorem trimWhile_front {front : List Char} (hne : front ≠ []) (h : ∀ c ∈ front, p c = false)
    (behind : List Char) : trimWhile p (front ++ behind) = front ++ trimEndWhile p behind := by
  have hstart : (front ++ behind).dropWhile p = front ++ behind := by
    cases front with
    | nil => exact absurd rfl hne
    | cons c front =>
      rw [List.cons_append, List.dropWhile_cons_of_neg (by simp [h c List.mem_cons_self])]
  rw [trimWhile, hstart]
  exact trimEndWhile_front h behind

/-- **What is put around a text is dropped again.** -/
theorem trimWhile_around {before cs after : List Char} (hbefore : ∀ c ∈ before, p c = true)
    (hne : cs ≠ []) (h : ∀ c ∈ cs, p c = false) (hafter : ∀ c ∈ after, p c = true) :
    trimWhile p (before ++ cs ++ after) = cs := by
  have hend : trimEndWhile p after = [] := by
    have hdrop : (after.reverse ++ []).dropWhile p = [] :=
      List.dropWhile_append_of_pos (fun c hc => hafter c (List.mem_reverse.1 hc))
    rw [List.append_nil] at hdrop
    rw [trimEndWhile, hdrop, List.reverse_nil]
  have hstart := trimWhile_front hne h after
  rw [hend, List.append_nil] at hstart
  rw [List.append_assoc, trimWhile, List.dropWhile_append_of_pos hbefore]
  exact hstart

end Trim

/-- Printable ASCII characters are not blank, the space aside. -/
theorem isBlank_of_printable {c : Char} (hlow : 0x20 < c.toNat) (hhigh : c.toNat < 0x7F) :
    isBlank c = false := by
  simp only [isBlank, Bool.or_eq_false_iff, Bool.and_eq_false_iff, decide_eq_false_iff_not,
    beq_eq_false_iff_ne]
  omega

/-! ## Words -/

section Words

variable {word : List Char}

/-- The words of a line, by its first character. -/
theorem words_eq (c : Char) (cs : List Char) :
    words (c :: cs) =
      if isBlank c then words cs
      else
        (c :: cs.takeWhile (fun d => !isBlank d)) ::
          words (cs.dropWhile (fun d => !isBlank d)) :=
  words.eq_def (c :: cs)

/-- Blanks before the words do not count. -/
theorem words_blank {c : Char} (h : isBlank c = true) (cs : List Char) :
    words (c :: cs) = words cs := by
  rw [words_eq, if_pos h]

theorem words_blanks {before : List Char} (h : ∀ c ∈ before, isBlank c = true) (cs : List Char) :
    words (before ++ cs) = words cs := by
  induction before with
  | nil => rfl
  | cons c before ih =>
    rw [List.cons_append, words_blank (h c List.mem_cons_self),
      ih (fun d hd => h d (List.mem_cons_of_mem _ hd))]

/-- A word that a blank follows, or nothing. -/
theorem words_run {rest : List Char} (hne : word ≠ []) (hword : ∀ c ∈ word, isBlank c = false)
    (hrest : ∀ c cs, rest = c :: cs → isBlank c = true) :
    words (word ++ rest) = word :: words rest := by
  cases word with
  | nil => exact absurd rfl hne
  | cons c cs =>
    have hcs : ∀ d ∈ cs, (!isBlank d) = true := fun d hd => by
      simp [hword d (List.mem_cons_of_mem _ hd)]
    have hend : ∀ d ds, rest = d :: ds → (!isBlank d) = false := fun d ds h => by
      simp [hrest d ds h]
    rw [List.cons_append, words_eq, if_neg (by simp [hword c List.mem_cons_self]),
      takeWhile_run hcs hend, dropWhile_run hcs hend]

/-- **The first word of a line** is what stands before the first blank. -/
theorem words_cons (hne : word ≠ []) (hword : ∀ c ∈ word, isBlank c = false)
    {blank : Char} (hblank : isBlank blank = true) (rest : List Char) :
    words (word ++ blank :: rest) = word :: words (blank :: rest) :=
  words_run hne hword (fun _ _ h => (List.cons.inj h).1 ▸ hblank)

/-- **What it is to have a first word**: it stands behind blanks or nothing, and before a blank or
nothing. -/
theorem words_eq_cons_iff {cs : List Char} {more : List (List Char)} :
    words cs = word :: more ↔
      ∃ before rest, cs = before ++ (word ++ rest) ∧ (∀ c ∈ before, isBlank c = true) ∧
        word ≠ [] ∧ (∀ c ∈ word, isBlank c = false) ∧
        (∀ c ds, rest = c :: ds → isBlank c = true) ∧ words rest = more := by
  constructor
  · intro h
    induction cs with
    | nil => rw [words] at h; cases h
    | cons c cs ih =>
      rw [words_eq] at h
      by_cases hc : isBlank c = true
      · rw [if_pos hc] at h
        obtain ⟨before, rest, rfl, hbefore, hword⟩ := ih h
        exact ⟨c :: before, rest, rfl, List.forall_mem_cons.2 ⟨hc, hbefore⟩, hword⟩
      · rw [if_neg hc] at h
        obtain ⟨rfl, rfl⟩ := List.cons.inj h
        refine ⟨[], cs.dropWhile (fun d => !isBlank d), ?_, List.forall_mem_nil _,
          List.cons_ne_nil c _, ?_, fun d ds hrest => ?_, rfl⟩
        · rw [List.nil_append, List.cons_append, List.takeWhile_append_dropWhile]
        · refine List.forall_mem_cons.2 ⟨by simpa using hc, fun d hd => ?_⟩
          simpa using List.mem_takeWhile_imp hd
        · have hhead := List.head?_dropWhile_not (fun d => !isBlank d) cs
          rw [hrest] at hhead
          simpa using hhead
  · rintro ⟨before, rest, rfl, hbefore, hne, hword, hrest, rfl⟩
    rw [words_blanks hbefore, words_run hne hword hrest]

end Words

end RedirectLogin.Text
