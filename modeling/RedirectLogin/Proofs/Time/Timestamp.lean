import RedirectLogin.Proofs.Text.Digits
import RedirectLogin.Proofs.Time.Calendar
import RedirectLogin.Time.Timestamp

/-!
# Timestamps, there and back

A moment is read back from its text to the nanosecond, in every year that dates have and in leap
seconds too. Each part of the text is read by itself, whatever stands behind it.

Principal results: `parse?_text` — a moment is read back from its text; `parse?_text_iff` — nothing
but a moment is.
-/

set_option autoImplicit false

namespace RedirectLogin.Timestamp

/-- What a timestamp of the calendar is: it lies in a year that dates have, its fraction is below
one second, and only the last second of a minute may be a leap second, with a fraction from one
second on. -/
structure IsMoment (t : Timestamp) : Prop where
  datable : t.isDatable = true
  fraction : t.nanos < nanosPerSecond ∨ t.nanos < 2 * nanosPerSecond ∧ t.seconds % 60 = 59

/-- Every reading of a clock is a moment, as long as it is a date. -/
theorem isMoment_ofNanos {n : Int} (h : (ofNanos n).isDatable = true) :
    (ofNanos n).IsMoment := by
  refine ⟨h, .inl ?_⟩
  have hunit : (nanosPerSecond : Int) = 1000000000 := rfl
  rw [ofNanos, hunit, Int.fdiv_eq_ediv_of_nonneg n (by decide)]
  show (n - n / 1000000000 * 1000000000).toNat < 1000000000
  omega

/-! ## Digits -/

theorem isBlank_of_isDigit {c : Char} (h : isDigit c = true) : Text.isBlank c = false := by
  simp only [isDigit, Bool.and_eq_true, decide_eq_true_eq, Char.le_def,
    UInt32.le_iff_toNat_le] at h
  have hlow : 48 ≤ c.toNat := h.1
  have hhigh : c.toNat ≤ 57 := h.2
  simp only [Text.isBlank, Bool.or_eq_false_iff, Bool.and_eq_false_iff, decide_eq_false_iff_not,
    beq_eq_false_iff_ne]
  omega

theorem padded_digits (width n : Nat) : ∀ c ∈ padded width n, isDigit c = true := by
  intro c hc
  rcases List.mem_append.1 hc with hc | hc
  · rw [List.eq_of_mem_replicate hc]
    decide
  · exact Text.digit_of_mem_toDigits hc

theorem padded_ne_nil (width n : Nat) : padded width n ≠ [] :=
  List.append_ne_nil_of_right_ne_nil _ Nat.toDigits_ne_nil

theorem padded_length {width n : Nat} (hwidth : 0 < width) (h : n < Nat.pow 10 width) :
    (padded width n).length = width := by
  have hle := (Nat.length_toDigits_le_iff (b := 10) (by decide) hwidth).2 h
  simp only [padded, List.length_append, List.length_replicate]
  omega

theorem digitsValue_padded (width n : Nat) : digitsValue (padded width n) = n := by
  have hzeros : ∀ k, (List.replicate k '0').foldl (fun n c => n * 10 + (c.toNat - 48)) 0 = 0 := by
    intro k
    induction k with
    | zero => rfl
    | succ k ih => rw [List.replicate_succ, List.foldl_cons]; exact ih
  rw [digitsValue, padded, List.foldl_append, hzeros, Text.foldl_toDigits]

/-- What cannot go on with a number. -/
def EndsDigits (rest : List Char) : Prop :=
  ∀ c cs, rest = c :: cs → isDigit c = false

theorem endsDigits_nil : EndsDigits [] := fun _ _ h => absurd h.symm (List.cons_ne_nil _ _)

theorem endsDigits_cons {c : Char} {cs : List Char} (h : isDigit c = false) :
    EndsDigits (c :: cs) := by
  rintro d ds heq
  obtain ⟨rfl, -⟩ := List.cons.inj heq
  exact h

/-- Digits are read up to the greatest number of them, or to where they end. -/
theorem takeWhile_take_digits {width : Nat} {ds rest : List Char}
    (hds : ∀ c ∈ ds, isDigit c = true) (hlen : ds.length ≤ width)
    (hend : ds.length = width ∨ EndsDigits rest) :
    ((ds ++ rest).take width).takeWhile isDigit = ds := by
  rcases hend with hfull | hend
  · have hself := Text.takeWhile_run hds endsDigits_nil
    rw [List.append_nil] at hself
    rw [← hfull, List.take_left, hself]
  · rw [List.take_append, List.take_of_length_le hlen]
    refine Text.takeWhile_run hds fun c cs heq => ?_
    cases rest with
    | nil => simp at heq
    | cons d rest =>
      cases hroom : width - ds.length with
      | zero => simp [hroom] at heq
      | succ k =>
        rw [hroom, List.take_succ_cons] at heq
        rw [← (List.cons.inj heq).1]
        exact hend d rest rfl

theorem readDigits_padded {width k n : Nat} {rest : List Char}
    (hlen : (padded k n).length ≤ width)
    (hend : (padded k n).length = width ∨ EndsDigits rest) :
    readDigits width (padded k n ++ rest) = some (n, rest) := by
  rw [readDigits, takeWhile_take_digits (padded_digits k n) hlen hend, List.drop_left,
    digitsValue_padded]
  exact if_neg (by simp [padded_ne_nil])

/-! ## Parts -/

theorem skipBlank_cons {c : Char} {cs : List Char} (h : Text.isBlank c = false) :
    skipBlank (c :: cs) = c :: cs :=
  List.dropWhile_cons_of_neg (by simp [h])

theorem skipBlank_padded (width n : Nat) (rest : List Char) :
    skipBlank (padded width n ++ rest) = padded width n ++ rest := by
  obtain ⟨c, cs, hcs⟩ := List.exists_cons_of_ne_nil (padded_ne_nil width n)
  have hc : isDigit c = true := padded_digits width n c (by simp [hcs])
  rw [hcs, List.cons_append, skipBlank_cons (isBlank_of_isDigit hc)]

theorem readSign_cons {c : Char} {cs : List Char} (h : Text.isBlank c = false) :
    readSign c (c :: cs) = some cs := by
  rw [readSign, skipBlank_cons h]
  exact if_pos rfl

theorem readPart_padded {n : Nat} (rest : List Char) (h : n < 100) :
    readPart (padded 2 n ++ rest) = some (n, rest) := by
  have hlen : (padded 2 n).length = 2 := padded_length (by decide) h
  rw [readPart, skipBlank_padded, readDigits_padded (Nat.le_of_eq hlen) (.inl hlen)]

/-- A year with a sign has as many digits as it needs. -/
theorem readDigits_signed (n : Nat) (rest : List Char) :
    readDigits (padded 4 n ++ '-' :: rest).length (padded 4 n ++ '-' :: rest) =
      some (n, '-' :: rest) :=
  readDigits_padded (by simp) (.inr (endsDigits_cons (by decide)))

/-- A year is read up to the hyphen behind it. -/
theorem readYear_yearText (y : Int) (rest : List Char) :
    readYear (yearText y ++ '-' :: rest) = some (y, '-' :: rest) := by
  unfold yearText
  split
  · rename_i hy
    have hlen : (padded 4 y.toNat).length = 4 :=
      padded_length (by decide) (by show _ < 10000; omega)
    have hread : readDigits 4 (padded 4 y.toNat ++ '-' :: rest) = some (y.toNat, '-' :: rest) :=
      readDigits_padded (Nat.le_of_eq hlen) (.inl hlen)
    obtain ⟨c, cs, hcs⟩ := List.exists_cons_of_ne_nil (padded_ne_nil 4 y.toNat)
    have hc : isDigit c = true := padded_digits 4 y.toNat c (by simp [hcs])
    have hsign : ∀ d r, isDigit d = false → padded 4 y.toNat ++ '-' :: rest ≠ d :: r := by
      intro d r hd hr
      rw [hcs, List.cons_append] at hr
      rw [(List.cons.inj hr).1, hd] at hc
      exact Bool.noConfusion hc
    rw [readYear, skipBlank_padded]
    split
    · rename_i heq
      exact absurd heq (hsign _ _ (by decide))
    · rename_i heq
      exact absurd heq (hsign _ _ (by decide))
    · rw [hread, Option.map_some, Int.toNat_of_nonneg hy.1]
  split
  · rename_i hy hneg
    rw [readYear, List.cons_append, skipBlank_cons (by decide)]
    simp only [readDigits_signed, Option.map_some]
    rw [Int.ofNat_natAbs_of_nonpos (by omega), Int.neg_neg]
  · rename_i hy hpos
    rw [readYear, List.cons_append, skipBlank_cons (by decide)]
    simp only [readDigits_signed, Option.map_some]
    rw [Int.natAbs_of_nonneg (by omega)]

/-- A fraction is read to the nanosecond, whichever way it is written. -/
theorem readFraction_fractionText {nanos : Nat} (h : nanos < nanosPerSecond) :
    readFraction (fractionText nanos ++ ['Z']) = some (nanos, ['Z']) := by
  have hend : EndsDigits ['Z'] := endsDigits_cons (by decide)
  have hread : ∀ {k n : Nat}, 0 < k → k ≤ 9 → n < Nat.pow 10 k → nanos = n * Nat.pow 10 (9 - k) →
      readFraction ('.' :: padded k n ++ ['Z']) = some (nanos, ['Z']) := by
    intro k n hpos hk hn hnanos
    have hlen : (padded k n).length = k := padded_length hpos hn
    have hroom : (padded k n).length ≤ 9 := by rw [hlen]; exact hk
    have hdigits := readDigits_padded hroom (.inr hend)
    have htake := takeWhile_take_digits (padded_digits k n) hroom (.inr hend)
    rw [List.cons_append, readFraction, hdigits, htake, hlen, Option.map_some, ← hnanos]
    rfl
  simp only [nanosPerSecond] at h
  unfold fractionText
  split
  · rename_i hzero
    rw [hzero]
    rfl
  split
  · exact hread (by decide) (by decide) (by show _ < 1000; omega) (by show _ = _ * 1000000; omega)
  split
  · exact hread (by decide) (by decide) (by show _ < 1000000; omega) (by show _ = _ * 1000; omega)
  · exact hread (by decide) (by decide) (by show _ < 1000000000; omega) (by show _ = _ * 1; omega)

/-! ## Whole texts -/

theorem bind_of_eq_some {α β : Type} {x : Option α} {a : α} {f : α → Option β} (h : x = some a) :
    x >>= f = f a := by
  rw [h]
  rfl

/-- How the parts of a date and time are written. -/
def written (y : Int) (m d hour minute second nanos : Nat) : List Char :=
  yearText y ++ '-' :: (padded 2 m ++ '-' :: (padded 2 d ++ 'T' :: (padded 2 hour ++ ':' ::
    (padded 2 minute ++ ':' :: (padded 2 second ++ (fractionText nanos ++ ['Z']))))))

/-- The moment of a date and time; second 60 is the leap second behind second 59. -/
def momentOf (y : Int) (m d hour minute second nanos : Nat) : Timestamp :=
  ⟨Time.dayNumber y m d * 86400 + (hour * 3600 + minute * 60 + min second 59 : Nat),
    nanos + if second = 60 then nanosPerSecond else 0⟩

/-- Parts that can be those of a date and time are read as their moment. -/
theorem parse?_written {y : Int} {m d hour minute second nanos : Nat}
    (hm : 1 ≤ m ∧ m ≤ 12) (hd : 1 ≤ d ∧ d ≤ Time.daysInMonth y m) (hhour : hour ≤ 23)
    (hminute : minute ≤ 59) (hsecond : second ≤ 60) (hy : minYear ≤ y ∧ y ≤ maxYear)
    (hnanos : nanos < nanosPerSecond)
    (hdatable : (momentOf y m d hour minute second nanos).isDatable = true) :
    parse? (String.ofList (written y m d hour minute second nanos)) =
      some (momentOf y m d hour minute second nanos) := by
  have hmonth : Time.daysInMonth y m ≤ 31 := by
    unfold Time.daysInMonth
    repeat' split
    all_goals omega
  have hdash : Text.isBlank '-' = false := by decide
  have hcolon : Text.isBlank ':' = false := by decide
  have hzone : readOffset (skipBlank ['Z']) = some (0, []) := rfl
  rw [parse?, String.toList_ofList, written, readYear_yearText]
  -- the parts, one after the other
  refine (Option.bind_some _ _).trans ((bind_of_eq_some (readSign_cons hdash)).trans ?_)
  refine (bind_of_eq_some (readPart_padded _ (by omega : m < 100))).trans
    ((bind_of_eq_some (readSign_cons hdash)).trans ?_)
  refine (bind_of_eq_some (readPart_padded _ (by omega : d < 100))).trans
    ((bind_of_eq_some (if_pos (.inl rfl))).trans ?_)
  refine (bind_of_eq_some (readPart_padded _ (by omega : hour < 100))).trans
    ((bind_of_eq_some (readSign_cons hcolon)).trans ?_)
  refine (bind_of_eq_some (readPart_padded _ (by omega : minute < 100))).trans
    ((bind_of_eq_some (readSign_cons hcolon)).trans ?_)
  refine (bind_of_eq_some (readPart_padded _ (by omega : second < 100))).trans
    ((bind_of_eq_some (readFraction_fractionText hnanos)).trans
      ((bind_of_eq_some hzone).trans ?_))
  simp only
  have hmoment : (⟨Time.dayNumber y m d * 86400 + (hour * 3600 + minute * 60 +
        (if second = 60 then (59, nanosPerSecond) else (second, 0)).1 : Nat) - 0,
      nanos + (if second = 60 then (59, nanosPerSecond) else (second, 0)).2⟩ : Timestamp) =
        momentOf y m d hour minute second nanos := by
    rw [momentOf, Int.sub_zero]
    by_cases hleap : second = 60
    · simp [hleap]
    · rw [if_neg hleap, if_neg hleap, Nat.min_eq_left (by omega)]
  rw [hmoment, if_pos hdatable, if_neg (by decide), if_neg (by omega), if_neg (by omega),
    if_neg (by decide), if_neg (by omega)]

theorem text_eq (t : Timestamp) :
    t.text =
      let date := Time.civil (t.seconds.fdiv 86400)
      let second := (t.seconds - t.seconds.fdiv 86400 * 86400).toNat
      String.ofList (written date.1 date.2.1 date.2.2 (second / 3600) (second / 60 % 60)
        (second % 60 + t.nanos / nanosPerSecond) (t.nanos % nanosPerSecond)) := by
  simp only [text, written, List.append_assoc, List.cons_append]

/-- **A moment is read back from its text.** -/
theorem parse?_text {t : Timestamp} (h : t.IsMoment) : parse? t.text = some t := by
  have hdays := t.seconds.fdiv_eq_ediv_of_nonneg (by decide : (0 : Int) ≤ 86400)
  obtain ⟨hm, hd⟩ := Time.civil_valid (t.seconds.fdiv 86400)
  have hdatable := h.datable
  have hyears : minYear ≤ (Time.civil (t.seconds.fdiv 86400)).1 ∧
      (Time.civil (t.seconds.fdiv 86400)).1 ≤ maxYear := by
    simp only [isDatable, Bool.and_eq_true, decide_eq_true_eq] at hdatable
    exact Time.civil_between (by omega) (by omega)
  obtain ⟨second, hsecond, hlt⟩ : ∃ n : Nat,
      (t.seconds - t.seconds.fdiv 86400 * 86400).toNat = n ∧ n < 86400 := ⟨_, rfl, by omega⟩
  have hfraction : t.nanos / nanosPerSecond = 0 ∨
      t.nanos / nanosPerSecond = 1 ∧ second % 60 = 59 := by
    have h := h.fraction
    simp only [nanosPerSecond] at h ⊢
    omega
  have hnanos : t.nanos % nanosPerSecond < nanosPerSecond := Nat.mod_lt _ (by decide)
  have hmoment : momentOf (Time.civil (t.seconds.fdiv 86400)).1
      (Time.civil (t.seconds.fdiv 86400)).2.1 (Time.civil (t.seconds.fdiv 86400)).2.2
      (second / 3600) (second / 60 % 60) (second % 60 + t.nanos / nanosPerSecond)
      (t.nanos % nanosPerSecond) = t := by
    have hparts := Nat.mod_add_div t.nanos nanosPerSecond
    have hseconds : t.seconds.fdiv 86400 * 86400 + (second / 3600 * 3600 + second / 60 % 60 * 60 +
        min (second % 60 + t.nanos / nanosPerSecond) 59 : Nat) = t.seconds := by omega
    have htotal : t.nanos % nanosPerSecond +
        (if second % 60 + t.nanos / nanosPerSecond = 60 then nanosPerSecond else 0) = t.nanos := by
      rcases hfraction with hnone | ⟨hleap, hlast⟩
      · rw [hnone] at hparts ⊢
        rw [if_neg (by omega)]
        omega
      · rw [hleap] at hparts ⊢
        rw [if_pos (by omega)]
        omega
    rw [momentOf, Time.dayNumber_civil, hseconds, htotal]
  rw [text_eq]
  simp only [hsecond]
  rw [parse?_written hm hd (by omega) (by omega) (by omega) hyears hnanos
    (by rw [hmoment]; exact hdatable), hmoment]

/-! ## What is read -/

theorem digitValue_le {c : Char} (h : isDigit c = true) : c.toNat - 48 ≤ 9 := by
  simp only [isDigit, Bool.and_eq_true, decide_eq_true_eq, Char.le_def,
    UInt32.le_iff_toNat_le] at h
  have hhigh : c.toNat ≤ 57 := h.2
  omega

theorem foldl_digits_lt {ds : List Char} (h : ∀ c ∈ ds, isDigit c = true) (n : Nat) :
    ds.foldl (fun n c => n * 10 + (c.toNat - 48)) n < (n + 1) * Nat.pow 10 ds.length := by
  induction ds generalizing n with
  | nil => simp
  | cons c ds ih =>
    have hc := digitValue_le (h c List.mem_cons_self)
    have hrest := ih (fun d hd => h d (List.mem_cons_of_mem _ hd)) (n * 10 + (c.toNat - 48))
    rw [List.foldl_cons, List.length_cons, Nat.pow_eq, Nat.pow_succ,
      Nat.mul_comm (10 ^ ds.length) 10, ← Nat.mul_assoc]
    exact Nat.lt_of_lt_of_le hrest (Nat.mul_le_mul_right _ (by omega))

/-- A fraction that is read is below one second. -/
theorem readFraction_lt {cs rest : List Char} {nanos : Nat}
    (h : readFraction cs = some (nanos, rest)) : nanos < nanosPerSecond := by
  unfold readFraction at h
  split at h
  · rename_i r
    obtain ⟨⟨value, after⟩, hread, hvalue⟩ := Option.map_eq_some_iff.1 h
    have hdigits : ∀ c ∈ (r.take 9).takeWhile isDigit, isDigit c = true := fun c hc =>
      List.all_eq_true.1 List.all_takeWhile c hc
    have hlen : ((r.take 9).takeWhile isDigit).length ≤ 9 :=
      Nat.le_trans (List.takeWhile_sublist _).length_le (List.length_take_le _ _)
    unfold readDigits at hread
    simp only at hread
    split at hread
    · cases hread
    · obtain ⟨rfl, -⟩ := Prod.mk.inj (Option.some.inj hread)
      obtain ⟨rfl, -⟩ := Prod.mk.inj hvalue
      have hlt := foldl_digits_lt hdigits 0
      rw [Nat.zero_add, Nat.one_mul] at hlt
      generalize ((r.take 9).takeWhile isDigit).length = k at hlt hlen
      calc digitsValue ((r.take 9).takeWhile isDigit) * Nat.pow 10 (9 - k)
          < Nat.pow 10 k * Nat.pow 10 (9 - k) :=
            Nat.mul_lt_mul_of_pos_right hlt (Nat.pow_pos (by decide))
        _ = Nat.pow 10 (k + (9 - k)) := (Nat.pow_add 10 k (9 - k)).symm
        _ = nanosPerSecond := by rw [Nat.add_sub_cancel' hlen]; rfl
  · obtain ⟨rfl, -⟩ := Prod.mk.inj (Option.some.inj h)
    decide

/-- Offsets are whole minutes. -/
theorem readOffset_mod {cs rest : List Char} {offset : Int}
    (h : readOffset cs = some (offset, rest)) : offset % 60 = 0 := by
  have hminutes : ∀ {r : List Char} {p : Nat × List Char},
      readOffset.hoursMinutes r = some p → p.1 % 60 = 0 := by
    intro r p hp
    unfold readOffset.hoursMinutes at hp
    split at hp
    · split at hp
      · split at hp
        · split at hp
          · obtain rfl := Option.some.inj hp
            simp only
            omega
          · cases hp
        · cases hp
      · cases hp
    · cases hp
  have hsigned : ∀ {r : List Char}, readOffset.signed r = some (offset, rest) →
      offset % 60 = 0 := by
    intro r hr
    unfold readOffset.signed at hr
    split at hr
    · split at hr
      · obtain ⟨rfl, -⟩ := Prod.mk.inj (Option.some.inj hr)
        rfl
      · split at hr
        · obtain ⟨p, hp, heq⟩ := Option.map_eq_some_iff.1 hr
          obtain ⟨rfl, -⟩ := Prod.mk.inj heq
          have hmod := hminutes hp
          omega
        · split at hr
          · obtain ⟨p, hp, heq⟩ := Option.map_eq_some_iff.1 hr
            obtain ⟨rfl, -⟩ := Prod.mk.inj heq
            have hmod := hminutes hp
            omega
          · cases hr
    · cases hr
  unfold readOffset at h
  simp only at h
  split at h
  · split at h
    · obtain ⟨rfl, -⟩ := Prod.mk.inj (Option.some.inj h)
      rfl
    · exact hsigned h
  · exact hsigned h

/-- Whatever is read is a timestamp of the calendar. -/
theorem isMoment_of_parse? {s : String} {t : Timestamp} (h : parse? s = some t) : t.IsMoment := by
  unfold parse? at h
  obtain ⟨⟨y, _⟩, -, h⟩ := Option.bind_eq_some_iff.1 h
  obtain ⟨_, -, h⟩ := Option.bind_eq_some_iff.1 h
  obtain ⟨⟨m, _⟩, -, h⟩ := Option.bind_eq_some_iff.1 h
  obtain ⟨_, -, h⟩ := Option.bind_eq_some_iff.1 h
  obtain ⟨⟨d, _⟩, -, h⟩ := Option.bind_eq_some_iff.1 h
  obtain ⟨_, -, h⟩ := Option.bind_eq_some_iff.1 h
  obtain ⟨⟨hour, _⟩, -, h⟩ := Option.bind_eq_some_iff.1 h
  obtain ⟨_, -, h⟩ := Option.bind_eq_some_iff.1 h
  obtain ⟨⟨minute, _⟩, -, h⟩ := Option.bind_eq_some_iff.1 h
  obtain ⟨_, -, h⟩ := Option.bind_eq_some_iff.1 h
  obtain ⟨⟨second, _⟩, -, h⟩ := Option.bind_eq_some_iff.1 h
  obtain ⟨⟨nanos, _⟩, hnanos, h⟩ := Option.bind_eq_some_iff.1 h
  obtain ⟨⟨offset, _⟩, hoffset, h⟩ := Option.bind_eq_some_iff.1 h
  simp only at h
  have hlt := readFraction_lt hnanos
  have hmod := readOffset_mod hoffset
  simp only [nanosPerSecond] at hlt
  -- five refusals, then what the seconds are
  iterate 5
    split at h
    · cases h
  split at h <;> split at h
  · rename_i hdatable
    obtain rfl := Option.some.inj h
    exact ⟨hdatable, .inr ⟨by simp only [nanosPerSecond]; omega, by simp only; omega⟩⟩
  · cases h
  · rename_i hdatable
    obtain rfl := Option.some.inj h
    exact ⟨hdatable, .inl (by simp only [nanosPerSecond]; omega)⟩
  · cases h

/-- **Exactly the timestamps of the calendar** are read back from their texts. -/
theorem parse?_text_iff {t : Timestamp} : parse? t.text = some t ↔ t.IsMoment :=
  ⟨isMoment_of_parse?, parse?_text⟩

end RedirectLogin.Timestamp
