import RedirectLogin.Proofs.Text.Utf8
import RedirectLogin.Text.Base64

/-!
# Base64, there and back

What is written for a byte list is read as that byte list: three bytes and four symbols carry the
same 24 bits, and the last group is padded just as the reader asks.

Principal results: `decode_encode` — for byte lists; `decode_write` — for the written string, whose
bytes are the symbols.
-/

set_option autoImplicit false

namespace RedirectLogin.Text.Base64

/-! ## Symbols -/

theorem value?_symbol : ∀ {n : Nat}, n < 64 → value? (symbol n) = some n := by
  decide

theorem symbol_ne_pad : ∀ {n : Nat}, n < 64 → symbol n ≠ pad := by
  decide

theorem symbol_ascii : ∀ {n : Nat}, n < 64 → (symbol n).toNat < 128 := by
  decide

theorem require_symbol {n : Nat} (offset : Nat) (h : n < 64) :
    require offset (symbol n) = .ok n := by
  rw [require, value?_symbol h]

/-! ## The last group -/

theorem readSymbols_symbol {n i start : Nat} {rest : List UInt8} {vs : List Nat} {padding : Nat}
    (h : n < 64) (hrest : readSymbols start (i + 1) rest = .ok (vs, padding)) :
    readSymbols start i (symbol n :: rest) = .ok (n :: vs, padding) := by
  rw [readSymbols, if_neg (symbol_ne_pad h), value?_symbol h]
  simp only [hrest]
  rfl

theorem readSymbols_pads (start k : Nat) (rest : List UInt8) (h : rest.all (· == pad) = true) :
    readSymbols start (k + 2) (pad :: rest) = .ok ([], rest.length + 1) := by
  rw [readSymbols, if_pos rfl, if_neg (by omega), if_pos h]

variable (start : Nat) {n₁ n₂ n₃ n₄ : Nat}

theorem readLast_two (h₁ : n₁ < 64) (h₂ : n₂ < 64) (hzero : n₂ % 16 = 0) :
    readLast start [symbol n₁, symbol n₂, pad, pad] = .ok [UInt8.ofNat (n₁ * 4 + n₂ / 16)] := by
  have hread : readSymbols start 0 [symbol n₁, symbol n₂, pad, pad] = .ok ([n₁, n₂], 2) :=
    readSymbols_symbol h₁ (readSymbols_symbol h₂ (readSymbols_pads start 0 [pad] rfl))
  rw [readLast, hread]
  simp [bind, Except.bind, hzero]

theorem readLast_three (h₁ : n₁ < 64) (h₂ : n₂ < 64) (h₃ : n₃ < 64) (hzero : n₃ % 4 = 0) :
    readLast start [symbol n₁, symbol n₂, symbol n₃, pad] =
      .ok [UInt8.ofNat (((n₁ * 64 + n₂) * 16 + n₃ / 4) / 256),
        UInt8.ofNat (((n₁ * 64 + n₂) * 16 + n₃ / 4) % 256)] := by
  have hread : readSymbols start 0 [symbol n₁, symbol n₂, symbol n₃, pad] =
      .ok ([n₁, n₂, n₃], 1) :=
    readSymbols_symbol h₁ (readSymbols_symbol h₂ (readSymbols_symbol h₃
      (readSymbols_pads start 1 [] rfl)))
  rw [readLast, hread]
  simp [bind, Except.bind, hzero]

theorem readLast_four (h₁ : n₁ < 64) (h₂ : n₂ < 64) (h₃ : n₃ < 64) (h₄ : n₄ < 64) :
    readLast start [symbol n₁, symbol n₂, symbol n₃, symbol n₄] =
      .ok [UInt8.ofNat ((((n₁ * 64 + n₂) * 64 + n₃) * 64 + n₄) / 65536),
        UInt8.ofNat ((((n₁ * 64 + n₂) * 64 + n₃) * 64 + n₄) / 256 % 256),
        UInt8.ofNat ((((n₁ * 64 + n₂) * 64 + n₃) * 64 + n₄) % 256)] := by
  have hread : readSymbols start 0 [symbol n₁, symbol n₂, symbol n₃, symbol n₄] =
      .ok ([n₁, n₂, n₃, n₄], 0) :=
    readSymbols_symbol h₁ (readSymbols_symbol h₂ (readSymbols_symbol h₃
      (readSymbols_symbol h₄ rfl)))
  rw [readLast, hread]
  simp [bind, Except.bind]

/-! ## Whole texts -/

/-- Four symbols with more behind them. -/
theorem decodeFrom_symbols (h₁ : n₁ < 64) (h₂ : n₂ < 64) (h₃ : n₃ < 64) (h₄ : n₄ < 64)
    {rest bs : List UInt8} (hne : rest ≠ []) (hrest : decodeFrom (start + 4) rest = .ok bs) :
    decodeFrom start (symbol n₁ :: symbol n₂ :: symbol n₃ :: symbol n₄ :: rest) =
      .ok (UInt8.ofNat ((((n₁ * 64 + n₂) * 64 + n₃) * 64 + n₄) / 65536) ::
        UInt8.ofNat ((((n₁ * 64 + n₂) * 64 + n₃) * 64 + n₄) / 256 % 256) ::
        UInt8.ofNat ((((n₁ * 64 + n₂) * 64 + n₃) * 64 + n₄) % 256) :: bs) := by
  cases rest with
  | nil => exact absurd rfl hne
  | cons e rest =>
    rw [decodeFrom, require_symbol _ h₁, require_symbol _ h₂, require_symbol _ h₃,
      require_symbol _ h₄]
    simp only [bind, Except.bind, hrest]

theorem encode_ne_nil {bs : List UInt8} (h : bs ≠ []) : encode bs ≠ [] := by
  match bs with
  | [] => exact absurd rfl h
  | [_] => simp [encode]
  | [_, _] => simp [encode]
  | _ :: _ :: _ :: _ => simp [encode]

theorem decodeFrom_encode {bs : List UInt8} (h : bs ≠ []) :
    decodeFrom start (encode bs) = .ok bs := by
  induction bs using encode.induct generalizing start with
  | case1 => exact absurd rfl h
  | case2 a =>
    have ha := a.toNat_lt
    rw [encode, decodeFrom, readLast_two start (by omega) (by omega) (by omega),
      ← eq_ofNat_of_toNat (b := a) (by omega)]
    simp
  | case3 a b =>
    have ha := a.toNat_lt
    have hb := b.toNat_lt
    rw [encode, decodeFrom, readLast_three start (by omega) (by omega) (by omega) (by omega),
      ← eq_ofNat_of_toNat (b := a) (by omega), ← eq_ofNat_of_toNat (b := b) (by omega)]
    simp
  | case4 a b c rest ih =>
    have ha := a.toNat_lt
    have hb := b.toNat_lt
    have hc := c.toNat_lt
    rw [encode]
    by_cases hrest : rest = []
    · rw [hrest, encode, decodeFrom,
        readLast_four start (by omega) (by omega) (by omega) (by omega),
        ← eq_ofNat_of_toNat (b := a) (by omega), ← eq_ofNat_of_toNat (b := b) (by omega),
        ← eq_ofNat_of_toNat (b := c) (by omega)]
      simp
    · rw [decodeFrom_symbols start (by omega) (by omega) (by omega) (by omega)
          (encode_ne_nil hrest) (ih (start + 4) hrest),
        ← eq_ofNat_of_toNat (b := a) (by omega), ← eq_ofNat_of_toNat (b := b) (by omega),
        ← eq_ofNat_of_toNat (b := c) (by omega)]

theorem encode_length_mod (bs : List UInt8) : (encode bs).length % 4 = 0 := by
  induction bs using encode.induct with
  | case1 => rfl
  | case2 a => simp [encode]
  | case3 a b => simp [encode]
  | case4 a b c rest ih =>
    simp only [encode, List.length_cons]
    omega

/-- **What is written is read back.** -/
theorem decode_encode (bs : List UInt8) : decode (encode bs) = .ok bs := by
  by_cases h : bs = []
  · rw [h]
    rfl
  · rw [decode, List.getLast?_eq_some_getLast (encode_ne_nil h)]
    have hmod := encode_length_mod bs
    simp only [hmod]
    rw [if_neg (by simp), decodeFrom_encode 0 h]

theorem encode_ascii (bs : List UInt8) : ∀ b ∈ encode bs, b.toNat < 128 := by
  have hpad : pad.toNat < 128 := by decide
  induction bs using encode.induct with
  | case1 => simp [encode]
  | case2 a =>
    have ha := a.toNat_lt
    simp only [encode, List.forall_mem_cons]
    exact ⟨symbol_ascii (by omega), symbol_ascii (by omega), hpad, hpad, by simp⟩
  | case3 a b =>
    have ha := a.toNat_lt
    have hb := b.toNat_lt
    simp only [encode, List.forall_mem_cons]
    exact ⟨symbol_ascii (by omega), symbol_ascii (by omega), symbol_ascii (by omega), hpad,
      by simp⟩
  | case4 a b c rest ih =>
    have ha := a.toNat_lt
    have hb := b.toNat_lt
    have hc := c.toNat_lt
    simp only [encode, List.forall_mem_cons]
    exact ⟨symbol_ascii (by omega), symbol_ascii (by omega), symbol_ascii (by omega),
      symbol_ascii (by omega), ih⟩

/-- **What is written as a string is read back** from the bytes of the string. -/
theorem decode_write (bs : List UInt8) : decode (Text.bytes (write bs)) = .ok bs := by
  rw [Text.bytes, write, String.toList_ofList, Text.encode_ascii (encode_ascii bs), decode_encode]

end RedirectLogin.Text.Base64
