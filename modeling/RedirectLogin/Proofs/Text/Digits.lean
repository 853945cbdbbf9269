/-!
# Decimal digits

What is known of the digits of a number without computing them: they are digits, they are worth the
number when they are read from the left, and only zero begins with a zero. Where they stand before
something that is no digit, a reader takes them and nothing else. The readers of JSON numbers and of
timestamps both rest on this.
-/

set_option autoImplicit false

namespace RedirectLogin.Text

/-- The digits of a number are those that the readers take for digits. -/
theorem digit_of_mem_toDigits {n : Nat} {c : Char} (h : c ∈ Nat.toDigits 10 n) :
    ('0' ≤ c && c ≤ '9') = true := by
  have hdigit := Nat.isDigit_of_mem_toDigits (by decide) (by decide) h
  simpa [Char.isDigit, Char.le_def] using hdigit

theorem toNat_of_mem_toDigits {n : Nat} {c : Char} (h : c ∈ Nat.toDigits 10 n) :
    48 ≤ c.toNat ∧ c.toNat ≤ 57 := by
  have hdigit := digit_of_mem_toDigits h
  simp only [Bool.and_eq_true, decide_eq_true_eq, Char.le_def, UInt32.le_iff_toNat_le] at hdigit
  exact hdigit

/-- Read from the left, the digits of a number are worth the number. -/
theorem foldl_toDigits (n : Nat) :
    (Nat.toDigits 10 n).foldl (fun n c => n * 10 + (c.toNat - 48)) 0 = n := by
  have h : Nat.ofDigitChars 10 (Nat.toDigits 10 n) 0 = n := Nat.ofDigitChars_ten_toDigits
  rw [Nat.ofDigitChars_eq_foldl] at h
  simpa [Nat.mul_comm] using h

/-- A number that is not zero does not begin with a zero. -/
theorem head?_toDigits {n : Nat} (h : 0 < n) : (Nat.toDigits 10 n).head? ≠ some '0' := by
  induction n using Nat.strongRecOn with
  | ind n ih =>
    by_cases hsmall : n < 10
    · simp only [Nat.toDigits_of_lt_base hsmall, List.head?_cons, ne_eq, Option.some.injEq,
        Nat.digitChar_eq_zero]
      omega
    · rw [Nat.toDigits_of_base_le (by decide) (by omega),
        List.head?_append, Option.or_of_isSome (by simp [Nat.toDigits_ne_nil])]
      exact ih (n / 10) (by omega) (by omega)

section Run

variable {p : Char → Bool} {run rest : List Char}

/-- A run of characters is taken up to the first character that is not one of them. -/
theorem takeWhile_run (hrun : ∀ c ∈ run, p c = true)
    (hend : ∀ c cs, rest = c :: cs → p c = false) : (run ++ rest).takeWhile p = run := by
  rw [List.takeWhile_append_of_pos hrun]
  cases rest with
  | nil => simp
  | cons c cs => rw [List.takeWhile_cons_of_neg (by simp [hend c cs rfl]), List.append_nil]

/-- What stands behind the run is left over. -/
theorem dropWhile_run (hrun : ∀ c ∈ run, p c = true)
    (hend : ∀ c cs, rest = c :: cs → p c = false) : (run ++ rest).dropWhile p = rest := by
  rw [List.dropWhile_append_of_pos hrun]
  cases rest with
  | nil => rfl
  | cons c cs => rw [List.dropWhile_cons_of_neg (by simp [hend c cs rfl])]

end Run

end RedirectLogin.Text
