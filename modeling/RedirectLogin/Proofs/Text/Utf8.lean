import RedirectLogin.Text.Utf8

/-!
# UTF-8, both ways

Every text is read back from its bytes, and bytes that are read as a text are the bytes of that
text: there is one way to write each character, and the strict reader accepts no other.

Principal results: `split_encodeChar`, `encodeChar_of_split` — the two directions for one character;
`decode?_eq_some_iff` — for whole texts; `decodeMarked_encode` — nothing in the bytes of a text is
marked.
-/

set_option autoImplicit false

namespace RedirectLogin.Text

/-- What a character's number can be. -/
theorem toNat_valid (c : Char) : c.toNat < 0xD800 ∨ 0xDFFF < c.toNat ∧ c.toNat < 0x110000 :=
  c.valid

theorem toNat_charOfNat {n : Nat} (h : n < 0xD800 ∨ 0xDFFF < n ∧ n < 0x110000) :
    (Char.ofNat n).toNat = n := by
  have hvalid : n.isValidChar := h
  unfold Char.ofNat
  rw [dif_pos hvalid]
  rfl

/-- What holds of the first 128 characters by their numbers. -/
@[elab_as_elim] theorem forall_ascii {motive : Char → Prop} {c : Char} (hc : c.toNat < 128)
    (h : ∀ n, n < 128 → motive (Char.ofNat n)) : motive c := by
  have hn := h c.toNat hc
  rwa [Char.ofNat_toNat] at hn

/-- What holds of all bytes by their numbers. -/
@[elab_as_elim] theorem forall_byte {motive : UInt8 → Prop} (b : UInt8)
    (h : ∀ n, n < 256 → motive (UInt8.ofNat n)) : motive b := by
  have hn := h b.toNat b.toNat_lt
  rwa [UInt8.ofNat_toNat] at hn

/-- What holds of the characters of a text one by one. A search through all characters there are,
which deciding a statement about them may turn to, is out of the question. -/
@[elab_as_elim] theorem forall_mem {motive : Char → Prop} [DecidablePred motive] {cs : List Char}
    {c : Char} (hc : c ∈ cs) (h : cs.all (fun c => decide (motive c)) = true) : motive c :=
  of_decide_eq_true (List.all_eq_true.1 h c hc)

/-- The bytes of a character by its number. -/
theorem encodeChar_eq (c : Char) :
    String.utf8EncodeChar c =
      if c.toNat ≤ 0x7F then [UInt8.ofNat c.toNat]
      else if c.toNat ≤ 0x7FF then
        [UInt8.ofNat (c.toNat / 64 % 32 + 192), UInt8.ofNat (c.toNat % 64 + 128)]
      else if c.toNat ≤ 0xFFFF then
        [UInt8.ofNat (c.toNat / 4096 % 16 + 224), UInt8.ofNat (c.toNat / 64 % 64 + 128),
          UInt8.ofNat (c.toNat % 64 + 128)]
      else
        [UInt8.ofNat (c.toNat / 262144 % 8 + 240), UInt8.ofNat (c.toNat / 4096 % 64 + 128),
          UInt8.ofNat (c.toNat / 64 % 64 + 128), UInt8.ofNat (c.toNat % 64 + 128)] := rfl

/-! ## From characters to bytes and back -/

theorem toNat_ofNat_of_lt {n : Nat} (h : n < 256) : (UInt8.ofNat n).toNat = n := by
  rw [UInt8.toNat_ofNat']
  exact Nat.mod_eq_of_lt h

/-- The byte that goes on with six bits of a number. -/
theorem toNat_byte (n : Nat) : (UInt8.ofNat (n % 64 + 128)).toNat = n % 64 + 128 :=
  toNat_ofNat_of_lt (by omega)

theorem payload_byte (n : Nat) : payload (UInt8.ofNat (n % 64 + 128)) = n % 64 := by
  rw [payload, toNat_byte]
  omega

theorem continueWith_byte (k acc n : Nat) (rest : List UInt8) :
    continueWith (k + 1) acc (UInt8.ofNat (n % 64 + 128) :: rest) =
      continueWith k (acc * 64 + n % 64) rest := by
  have hcont : isContinuation (UInt8.ofNat (n % 64 + 128)) = true := by
    simp only [isContinuation, Bool.and_eq_true, decide_eq_true_eq, UInt8.le_iff_toNat_le, toNat_byte]
    exact ⟨by simp, by simp; omega⟩
  simp only [continueWith, hcont, if_true, payload_byte]

theorem continueBetween_byte {lo hi : UInt8} {k acc n : Nat} (rest : List UInt8)
    (hlo : lo.toNat ≤ n % 64 + 128) (hhi : n % 64 + 128 ≤ hi.toNat) :
    continueBetween lo hi k acc (UInt8.ofNat (n % 64 + 128) :: rest) =
      continueWith k (acc * 64 + n % 64) rest := by
  have hin : (lo ≤ UInt8.ofNat (n % 64 + 128) && UInt8.ofNat (n % 64 + 128) ≤ hi) = true := by
    simp only [Bool.and_eq_true, decide_eq_true_eq, UInt8.le_iff_toNat_le, toNat_byte]
    exact ⟨hlo, hhi⟩
  simp only [continueBetween, hin, if_true, payload_byte]

/-- The lead byte decides by its number. -/
theorem split_eq (b : UInt8) (rest : List UInt8) :
    split b rest =
      if b.toNat < 0x80 then (some (Char.ofNat b.toNat), rest)
      else if b.toNat < 0xC2 then (none, rest)
      else if b.toNat < 0xE0 then continueWith 1 (b.toNat % 32) rest
      else if b.toNat = 0xE0 then continueBetween 0xA0 0xBF 1 0 rest
      else if b.toNat = 0xED then continueBetween 0x80 0x9F 1 13 rest
      else if b.toNat < 0xF0 then continueWith 2 (b.toNat % 16) rest
      else if b.toNat = 0xF0 then continueBetween 0x90 0xBF 2 0 rest
      else if b.toNat < 0xF4 then continueWith 3 (b.toNat % 8) rest
      else if b.toNat = 0xF4 then continueBetween 0x80 0x8F 2 4 rest
      else (none, rest) := by
  simp only [split, UInt8.lt_iff_toNat_lt, ← UInt8.toNat_inj]
  rfl

/-- **A character is read back from its bytes**, whatever follows them. -/
theorem split_encodeChar (c : Char) (rest : List UInt8) :
    ∃ b bs, String.utf8EncodeChar c = b :: bs ∧ split b (bs ++ rest) = (some c, rest) := by
  have hvalid := toNat_valid c
  have hdone : ∀ n, n = c.toNat → continueWith 0 n rest = (some c, rest) := fun n hn => by
    rw [continueWith, hn, Char.ofNat_toNat]
  rw [encodeChar_eq]
  split
  · rename_i hone
    refine ⟨_, _, rfl, ?_⟩
    have hlead : (UInt8.ofNat c.toNat).toNat = c.toNat := toNat_ofNat_of_lt (by omega)
    rw [split_eq, hlead, if_pos (by omega), Char.ofNat_toNat, List.nil_append]
  split
  · rename_i hone htwo
    refine ⟨_, _, rfl, ?_⟩
    have hlead := toNat_ofNat_of_lt (n := c.toNat / 64 % 32 + 192) (by omega)
    rw [split_eq, hlead, if_neg (by omega), if_neg (by omega), if_pos (by omega)]
    simp only [List.cons_append, List.nil_append]
    rw [continueWith_byte 0]
    exact hdone _ (by omega)
  split
  · rename_i hone htwo hthree
    refine ⟨_, _, rfl, ?_⟩
    have hlead := toNat_ofNat_of_lt (n := c.toNat / 4096 % 16 + 224) (by omega)
    rw [split_eq, hlead, if_neg (by omega), if_neg (by omega), if_neg (by omega)]
    simp only [List.cons_append, List.nil_append]
    split
    · rw [continueBetween_byte _ (by simp; omega) (by simp; omega), continueWith_byte 0]
      exact hdone _ (by omega)
    split
    · rw [continueBetween_byte _ (by simp) (by simp; omega), continueWith_byte 0]
      exact hdone _ (by omega)
    · rw [if_pos (by omega), continueWith_byte 1, continueWith_byte 0]
      exact hdone _ (by omega)
  · rename_i hone htwo hthree
    refine ⟨_, _, rfl, ?_⟩
    have hlead := toNat_ofNat_of_lt (n := c.toNat / 262144 % 8 + 240) (by omega)
    rw [split_eq, hlead, if_neg (by omega), if_neg (by omega), if_neg (by omega),
      if_neg (by omega), if_neg (by omega), if_neg (by omega)]
    simp only [List.cons_append, List.nil_append]
    split
    · rw [continueBetween_byte _ (by simp; omega) (by simp; omega), continueWith_byte 1,
        continueWith_byte 0]
      exact hdone _ (by omega)
    split
    · rw [continueWith_byte 2, continueWith_byte 1, continueWith_byte 0]
      exact hdone _ (by omega)
    · rw [if_pos (by omega), continueBetween_byte _ (by simp) (by simp; omega),
        continueWith_byte 1, continueWith_byte 0]
      exact hdone _ (by omega)

/-! ## From bytes to characters and back -/

/-- Continuation bytes are what a number's last six bits are written as. -/
theorem eq_byte_of_payload {b : UInt8} (h : isContinuation b = true) :
    b = UInt8.ofNat (payload b + 128) := by
  simp only [isContinuation, Bool.and_eq_true, decide_eq_true_eq, UInt8.le_iff_toNat_le] at h
  have hlo : 128 ≤ b.toNat := h.1
  have hhi : b.toNat ≤ 191 := h.2
  rw [← UInt8.toNat_inj, toNat_ofNat_of_lt (by rw [payload]; omega), payload]
  omega

/-- One more continuation byte, if there is one. -/
theorem continueWith_some {k acc : Nat} {bs rest : List UInt8} {c : Char}
    (h : continueWith (k + 1) acc bs = (some c, rest)) :
    ∃ n bs', n < 64 ∧ bs = UInt8.ofNat (n + 128) :: bs' ∧
      continueWith k (acc * 64 + n) bs' = (some c, rest) := by
  cases bs with
  | nil => simp [continueWith] at h
  | cons b bs' =>
    rw [continueWith] at h
    split at h
    · rename_i hcont
      refine ⟨payload b, bs', Nat.mod_lt _ (by decide), ?_, h⟩
      rw [← eq_byte_of_payload hcont]
    · cases h

theorem continueBetween_some {lo hi : UInt8} {k acc : Nat} {bs rest : List UInt8} {c : Char}
    (hlo : 128 ≤ lo.toNat) (hhi : hi.toNat ≤ 191)
    (h : continueBetween lo hi k acc bs = (some c, rest)) :
    ∃ n bs', lo.toNat ≤ n + 128 ∧ n + 128 ≤ hi.toNat ∧ bs = UInt8.ofNat (n + 128) :: bs' ∧
      continueWith k (acc * 64 + n) bs' = (some c, rest) := by
  cases bs with
  | nil => simp [continueBetween] at h
  | cons b bs' =>
    rw [continueBetween] at h
    split at h
    · rename_i hin
      simp only [Bool.and_eq_true, decide_eq_true_eq, UInt8.le_iff_toNat_le] at hin
      have hcont : isContinuation b = true := by
        simp only [isContinuation, Bool.and_eq_true, decide_eq_true_eq, UInt8.le_iff_toNat_le]
        exact ⟨Nat.le_trans hlo hin.1, Nat.le_trans hin.2 hhi⟩
      have hpayload : payload b + 128 = b.toNat := by rw [payload]; omega
      exact ⟨payload b, bs', by omega, by omega, by rw [← eq_byte_of_payload hcont], h⟩
    · cases h

/-- With no byte left to read, the number that was read is the character's. -/
theorem continueWith_done {n : Nat} {bs rest : List UInt8} {c : Char}
    (h : continueWith 0 n bs = (some c, rest))
    (hvalid : n < 0xD800 ∨ 0xDFFF < n ∧ n < 0x110000) : c.toNat = n ∧ bs = rest := by
  injection h with hc hrest
  injection hc with hc
  exact ⟨by rw [← hc, toNat_charOfNat hvalid], hrest⟩

/-- A byte is known by its number. -/
theorem eq_ofNat_of_toNat {b : UInt8} {n : Nat} (h : b.toNat = n) : b = UInt8.ofNat n := by
  rw [← h, UInt8.ofNat_toNat]

section Read

variable {c : Char} {rest : List UInt8} {n n₁ n₂ n₃ n₄ : Nat}

/-- What two bytes carry. -/
theorem encodeChar_two (hc : c.toNat = n₁ * 64 + n₂) (h₁ : 2 ≤ n₁) (h₁' : n₁ < 32)
    (h₂ : n₂ < 64) :
    String.utf8EncodeChar c = [UInt8.ofNat (n₁ + 192), UInt8.ofNat (n₂ + 128)] := by
  rw [encodeChar_eq, if_neg (by omega), if_pos (by omega)]
  have e₁ : c.toNat / 64 % 32 = n₁ := by omega
  have e₂ : c.toNat % 64 = n₂ := by omega
  rw [e₁, e₂]

theorem encodeChar_three (hc : c.toNat = (n₁ * 64 + n₂) * 64 + n₃) (h₁ : 32 ≤ n₁ * 64 + n₂)
    (h₁' : n₁ < 16) (h₂ : n₂ < 64) (h₃ : n₃ < 64) :
    String.utf8EncodeChar c =
      [UInt8.ofNat (n₁ + 224), UInt8.ofNat (n₂ + 128), UInt8.ofNat (n₃ + 128)] := by
  rw [encodeChar_eq, if_neg (by omega), if_neg (by omega), if_pos (by omega)]
  have e₁ : c.toNat / 4096 % 16 = n₁ := by omega
  have e₂ : c.toNat / 64 % 64 = n₂ := by omega
  have e₃ : c.toNat % 64 = n₃ := by omega
  rw [e₁, e₂, e₃]

theorem encodeChar_four (hc : c.toNat = ((n₁ * 64 + n₂) * 64 + n₃) * 64 + n₄)
    (h₁ : 16 ≤ n₁ * 64 + n₂) (h₁' : n₁ < 8) (h₂ : n₂ < 64) (h₃ : n₃ < 64) (h₄ : n₄ < 64) :
    String.utf8EncodeChar c =
      [UInt8.ofNat (n₁ + 240), UInt8.ofNat (n₂ + 128), UInt8.ofNat (n₃ + 128),
        UInt8.ofNat (n₄ + 128)] := by
  rw [encodeChar_eq, if_neg (by omega), if_neg (by omega), if_neg (by omega)]
  have e₁ : c.toNat / 262144 % 8 = n₁ := by omega
  have e₂ : c.toNat / 4096 % 64 = n₂ := by omega
  have e₃ : c.toNat / 64 % 64 = n₃ := by omega
  have e₄ : c.toNat % 64 = n₄ := by omega
  rw [e₁, e₂, e₃, e₄]

end Read

/-- **What is read as a character is the bytes of that character.** -/
theorem encodeChar_of_split {b : UInt8} {bs rest : List UInt8} {c : Char}
    (h : split b bs = (some c, rest)) : b :: bs = String.utf8EncodeChar c ++ rest := by
  have hb := b.toNat_lt
  rw [split_eq] at h
  split at h
  · rename_i hone
    obtain ⟨hc, rfl⟩ := continueWith_done h (by omega)
    rw [encodeChar_eq, if_pos (by omega), hc, UInt8.ofNat_toNat]
    rfl
  split at h
  · cases h
  split at h
  · obtain ⟨n₂, bs, h₂, rfl, hend₁⟩ := continueWith_some (k := 0) h
    obtain ⟨hc, rfl⟩ := continueWith_done hend₁ (by omega)
    rw [encodeChar_two hc (by omega) (by omega) h₂,
      ← eq_ofNat_of_toNat (b := b) (n := b.toNat % 32 + 192) (by omega)]
    rfl
  split at h
  · rename_i hlead
    obtain ⟨n₂, bs, hlo, hhi, rfl, hend₁⟩ := continueBetween_some (by decide) (by decide) h
    obtain ⟨n₃, bs, h₃, rfl, hend₂⟩ := continueWith_some (k := 0) hend₁
    have hlo : 160 ≤ n₂ + 128 := hlo
    have hhi : n₂ + 128 ≤ 191 := hhi
    obtain ⟨hc, rfl⟩ := continueWith_done hend₂ (by omega)
    have hc : c.toNat = (0 * 64 + n₂) * 64 + n₃ := hc
    rw [encodeChar_three hc (by omega) (by omega) (by omega) h₃,
      eq_ofNat_of_toNat (b := b) hlead]
    rfl
  split at h
  · rename_i hlead
    obtain ⟨n₂, bs, hlo, hhi, rfl, hend₁⟩ := continueBetween_some (by decide) (by decide) h
    obtain ⟨n₃, bs, h₃, rfl, hend₂⟩ := continueWith_some (k := 0) hend₁
    have hhi : n₂ + 128 ≤ 159 := hhi
    obtain ⟨hc, rfl⟩ := continueWith_done hend₂ (by omega)
    have hc : c.toNat = (13 * 64 + n₂) * 64 + n₃ := hc
    rw [encodeChar_three hc (by omega) (by omega) (by omega) h₃,
      eq_ofNat_of_toNat (b := b) hlead]
    rfl
  split at h
  · obtain ⟨n₂, bs, h₂, rfl, hend₁⟩ := continueWith_some (k := 1) h
    obtain ⟨n₃, bs, h₃, rfl, hend₂⟩ := continueWith_some (k := 0) hend₁
    obtain ⟨hc, rfl⟩ := continueWith_done hend₂ (by omega)
    rw [encodeChar_three hc (by omega) (by omega) h₂ h₃,
      ← eq_ofNat_of_toNat (b := b) (n := b.toNat % 16 + 224) (by omega)]
    rfl
  split at h
  · rename_i hlead
    obtain ⟨n₂, bs, hlo, hhi, rfl, hend₁⟩ := continueBetween_some (by decide) (by decide) h
    obtain ⟨n₃, bs, h₃, rfl, hend₂⟩ := continueWith_some (k := 1) hend₁
    obtain ⟨n₄, bs, h₄, rfl, hend₃⟩ := continueWith_some (k := 0) hend₂
    have hlo : 144 ≤ n₂ + 128 := hlo
    have hhi : n₂ + 128 ≤ 191 := hhi
    obtain ⟨hc, rfl⟩ := continueWith_done hend₃ (by omega)
    have hc : c.toNat = ((0 * 64 + n₂) * 64 + n₃) * 64 + n₄ := hc
    rw [encodeChar_four hc (by omega) (by omega) (by omega) h₃ h₄,
      eq_ofNat_of_toNat (b := b) hlead]
    rfl
  split at h
  · obtain ⟨n₂, bs, h₂, rfl, hend₁⟩ := continueWith_some (k := 2) h
    obtain ⟨n₃, bs, h₃, rfl, hend₂⟩ := continueWith_some (k := 1) hend₁
    obtain ⟨n₄, bs, h₄, rfl, hend₃⟩ := continueWith_some (k := 0) hend₂
    obtain ⟨hc, rfl⟩ := continueWith_done hend₃ (by omega)
    rw [encodeChar_four hc (by omega) (by omega) h₂ h₃ h₄,
      ← eq_ofNat_of_toNat (b := b) (n := b.toNat % 8 + 240) (by omega)]
    rfl
  split at h
  · rename_i hlead
    obtain ⟨n₂, bs, hlo, hhi, rfl, hend₁⟩ := continueBetween_some (by decide) (by decide) h
    obtain ⟨n₃, bs, h₃, rfl, hend₂⟩ := continueWith_some (k := 1) hend₁
    obtain ⟨n₄, bs, h₄, rfl, hend₃⟩ := continueWith_some (k := 0) hend₂
    have hhi : n₂ + 128 ≤ 143 := hhi
    obtain ⟨hc, rfl⟩ := continueWith_done hend₃ (by omega)
    have hc : c.toNat = ((4 * 64 + n₂) * 64 + n₃) * 64 + n₄ := hc
    rw [encodeChar_four hc (by omega) (by omega) (by omega) h₃ h₄,
      eq_ofNat_of_toNat (b := b) hlead]
    rfl
  · cases h

/-! ## Whole texts -/

theorem encode_nil : encode [] = [] := rfl

theorem encode_cons (c : Char) (cs : List Char) :
    encode (c :: cs) = String.utf8EncodeChar c ++ encode cs := rfl

/-- **A text is read back from its bytes.** -/
theorem decode?_encode (cs : List Char) : decode? (encode cs) = some cs := by
  induction cs with
  | nil => rw [encode_nil, decode?]
  | cons c cs ih =>
    obtain ⟨b, bs, hbytes, hsplit⟩ := split_encodeChar c (encode cs)
    rw [encode_cons, hbytes, List.cons_append, decode?, hsplit, ih]
    rfl

/-- **The strict reader is the inverse of writing**: what it reads as a text is that text's
bytes. -/
theorem decode?_eq_some_iff {bs : List UInt8} {cs : List Char} :
    decode? bs = some cs ↔ bs = encode cs := by
  refine ⟨fun h => ?_, fun h => h ▸ decode?_encode cs⟩
  induction bs using decodeMarked.induct generalizing cs with
  | case1 =>
    simp only [decode?, Option.some.injEq] at h
    rw [← h, encode_nil]
  | case2 b rest ih =>
    rw [decode?] at h
    obtain ⟨c, hc, h⟩ := Option.bind_eq_some_iff.1 h
    obtain ⟨ds, hds, rfl⟩ := Option.map_eq_some_iff.1 h
    rw [encode_cons, ← ih hds]
    exact encodeChar_of_split (Prod.ext hc rfl)

/-- Bytes below 128 are a text of as many characters. -/
theorem encode_ascii {bs : List UInt8} (h : ∀ b ∈ bs, b.toNat < 128) :
    encode (bs.map (fun b => Char.ofNat b.toNat)) = bs := by
  induction bs with
  | nil => rfl
  | cons b bs ih =>
    have hb : b.toNat < 128 := h b List.mem_cons_self
    have hnum : (Char.ofNat b.toNat).toNat = b.toNat := toNat_charOfNat (by omega)
    rw [List.map_cons, encode_cons, encodeChar_eq, hnum, if_pos (by omega), UInt8.ofNat_toNat,
      ih (fun c hc => h c (List.mem_cons_of_mem _ hc))]
    rfl

theorem encode_append (cs ds : List Char) : encode (cs ++ ds) = encode cs ++ encode ds := by
  simp [encode]

/-- A character below 128 is one byte. -/
theorem encodeChar_ascii {c : Char} (h : c.toNat < 128) :
    String.utf8EncodeChar c = [UInt8.ofNat c.toNat] := by
  rw [encodeChar_eq, if_pos (by omega)]

/-- Characters below 128 are as many bytes. -/
theorem encode_of_ascii {cs : List Char} (h : ∀ c ∈ cs, c.toNat < 128) :
    encode cs = cs.map (fun c => UInt8.ofNat c.toNat) := by
  induction cs with
  | nil => rfl
  | cons c cs ih =>
    rw [encode_cons, encodeChar_ascii (h c List.mem_cons_self), List.map_cons,
      ih (fun d hd => h d (List.mem_cons_of_mem _ hd)), List.singleton_append]

/-- Bytes below 128 stand for characters of that number, and for nothing else. -/
theorem eq_of_mem_encodeChar {c : Char} {b : UInt8} (hb : b ∈ String.utf8EncodeChar c)
    (hlt : b.toNat < 128) : b.toNat = c.toNat := by
  rw [encodeChar_eq] at hb
  split at hb
  · rw [List.mem_singleton.1 hb, toNat_ofNat_of_lt (by omega)]
  · exfalso
    have hhigh : ∀ {n : Nat}, 128 ≤ n → n < 256 → b ≠ UInt8.ofNat n := by
      rintro n hlow hbyte rfl
      rw [toNat_ofNat_of_lt hbyte] at hlt
      omega
    split at hb
    · simp only [List.mem_cons, List.not_mem_nil, or_false] at hb
      rcases hb with h | h
      all_goals exact hhigh (by omega) (by omega) h
    · split at hb
      all_goals simp only [List.mem_cons, List.not_mem_nil, or_false] at hb
      · rcases hb with h | h | h
        all_goals exact hhigh (by omega) (by omega) h
      · rcases hb with h | h | h | h
        all_goals exact hhigh (by omega) (by omega) h

theorem mem_of_mem_encode {cs : List Char} {b : UInt8} (hb : b ∈ encode cs) (hlt : b.toNat < 128) :
    Char.ofNat b.toNat ∈ cs := by
  obtain ⟨c, hc, hmem⟩ := List.mem_flatMap.1 hb
  rw [eq_of_mem_encodeChar hmem hlt, Char.ofNat_toNat]
  exact hc

/-- Nothing in the bytes of a text is marked. -/
theorem decodeMarked_encode (mark cs : List Char) : decodeMarked mark (encode cs) = cs :=
  decodeMarked_eq_of_decode? mark (decode?_encode cs)

end RedirectLogin.Text
