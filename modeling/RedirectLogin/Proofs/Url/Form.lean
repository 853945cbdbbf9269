import RedirectLogin.Proofs.Text.Utf8
import RedirectLogin.Url.Form

/-!
# Forms, both ways

Pairs that were written as a form are read back as they were, whatever texts they are. A part of a
form is written with letters, digits and a few other characters that stand for themselves, so the
ampersands and equals signs around it are never taken for its own; everything else in it, a plus
sign and a percent sign included, goes through its bytes.

Principal results: `decode_encode` — a part is read as the text it was written for;
`parseBytes_append` — an ampersand divides a form into two; `parse_write` — all pairs are read as
they were written.
-/

set_option autoImplicit false

namespace RedirectLogin

/-! ## Percent signs and their digits -/

namespace Percent

/-- The byte of a hexadecimal digit. -/
def digitByte (n : Nat) : UInt8 :=
  UInt8.ofNat (hexDigit n).toNat

theorem digitByte_all : ∀ n, n < 16 →
    String.utf8EncodeChar (hexDigit n) = [digitByte n] ∧ hexValue? (digitByte n) = some n ∧
      digitByte n ≠ 43 := by
  decide

/-- A byte that is no percent sign stands for itself. -/
theorem decode_cons {b : UInt8} (h : b ≠ 37) (rest : List UInt8) :
    decode (b :: rest) = b :: decode rest := by
  cases rest with
  | nil => simp [decode]
  | cons a rest =>
    cases rest with
    | nil => simp [decode]
    | cons c rest => simp [decode, h]

/-- A percent sign with two digits stands for the byte they make. -/
theorem decode_digits (b : UInt8) (rest : List UInt8) :
    decode (37 :: digitByte (b.toNat / 16) :: digitByte (b.toNat % 16) :: rest) =
      b :: decode rest := by
  have hb : b.toNat < 256 := b.toNat_lt
  obtain ⟨_, hhigh, _⟩ := digitByte_all (b.toNat / 16) (by omega)
  obtain ⟨_, hlow, _⟩ := digitByte_all (b.toNat % 16) (by omega)
  simp only [decode, hhigh, hlow]
  rw [← Text.eq_ofNat_of_toNat (b := b) (by omega)]

/-- A byte is written as a percent sign and two digits. -/
theorem bytes_encodeByte (b : UInt8) :
    Text.encode (encodeByte b) =
      [37, digitByte (b.toNat / 16), digitByte (b.toNat % 16)] := by
  have hb : b.toNat < 256 := b.toNat_lt
  obtain ⟨hhigh, _⟩ := digitByte_all (b.toNat / 16) (by omega)
  obtain ⟨hlow, _⟩ := digitByte_all (b.toNat % 16) (by omega)
  have hsign : String.utf8EncodeChar '%' = [37] := by decide
  rw [encodeByte, Text.encode_cons, Text.encode_cons, Text.encode_cons, Text.encode_nil, hsign,
    hhigh, hlow]
  rfl

end Percent

namespace Form

/-! ## The characters of a form -/

/-- Characters that a name or a value is written with. -/
def isPartChar (c : Char) : Bool :=
  ('0' ≤ c && c ≤ '9') || ('A' ≤ c && c ≤ 'Z') || ('a' ≤ c && c ≤ 'z') ||
    "*-._+%".toList.contains c

/-- Characters that a form is written with. -/
def isWritten (c : Char) : Bool :=
  isPartChar c || c = '=' || c = '&'

theorem isPartChar_encodeByte (b : UInt8) : (encodeByte b).all isPartChar = true :=
  Text.forall_byte b (by decide +kernel)

theorem isPartChar_encode {cs : List Char} {c : Char} (h : c ∈ encode cs) :
    isPartChar c = true := by
  obtain ⟨b, _, hc⟩ := List.mem_flatMap.1 h
  exact List.all_eq_true.1 (isPartChar_encodeByte b) c hc

theorem isPartChar_lt {c : Char} (h : isPartChar c = true) : c.toNat < 128 := by
  simp only [isPartChar, Bool.or_eq_true, Bool.and_eq_true, decide_eq_true_eq, Char.le_def,
    UInt32.le_iff_toNat_le, List.contains_iff_mem] at h
  rcases h with ((⟨_, h⟩ | ⟨_, h⟩) | ⟨_, h⟩) | h
  · exact Nat.lt_of_le_of_lt h (by decide)
  · exact Nat.lt_of_le_of_lt h (by decide)
  · exact Nat.lt_of_le_of_lt h (by decide)
  · exact Text.forall_mem h (by decide)

/-- A URL takes a form in as it is: it holds no blanks, no number sign and nothing that a query or a
fragment would write in another way. -/
theorem of_isWritten {c : Char} (h : isWritten c = true) :
    0x20 < c.toNat ∧ c.toNat < 0x7F ∧ c ≠ '#' ∧ Percent.inQuerySet c = false ∧
      Percent.inSpecialQuerySet c = false ∧ Percent.inFragmentSet c = false := by
  have hlt : c.toNat < 128 := by
    simp only [isWritten, Bool.or_eq_true, decide_eq_true_eq] at h
    rcases h with (h | rfl) | rfl
    · exact isPartChar_lt h
    · decide
    · decide
  revert h
  exact Text.forall_ascii hlt (by decide +kernel)

/-- The bytes of a name or a value are none of those that divide a form. -/
theorem ne_divider_of_mem {cs : List Char} {b : UInt8} (h : b ∈ Text.encode (encode cs)) :
    b ≠ 38 ∧ b ≠ 61 := by
  rw [Text.encode_of_ascii (fun c hc => isPartChar_lt (isPartChar_encode hc))] at h
  obtain ⟨c, hc, rfl⟩ := List.mem_map.1 h
  have hpart := isPartChar_encode hc
  have hlt := isPartChar_lt hpart
  revert hpart
  exact Text.forall_ascii hlt (by decide +kernel)

/-! ## Names and values -/

/-- The byte that a plus sign stands for is a space. -/
def spaced (b : UInt8) : UInt8 :=
  if b = 43 then 32 else b

/-- A byte is read back from the characters it is written with, whatever follows them. -/
theorem decode_encodeByte (b : UInt8) (rest : List UInt8) :
    Percent.decode ((Text.encode (encodeByte b)).map spaced ++ rest) =
      b :: Percent.decode rest := by
  unfold encodeByte
  split
  · rename_i hspace
    subst hspace
    exact Percent.decode_cons (by decide) rest
  split
  · rename_i hplain
    obtain ⟨hlt, hsign, hspaced⟩ : b.toNat < 128 ∧ b ≠ 37 ∧ spaced b = b := by
      revert hplain
      exact Text.forall_byte b (by decide +kernel)
    have hlts : ∀ d ∈ [b], d.toNat < 128 := fun d hd => by rwa [List.mem_singleton.1 hd]
    have hbytes : Text.encode [Char.ofNat b.toNat] = [b] := Text.encode_ascii hlts
    rw [hbytes, List.map_cons, List.map_nil, hspaced]
    exact Percent.decode_cons hsign rest
  · have hb : b.toNat < 256 := b.toNat_lt
    obtain ⟨_, _, hhigh⟩ := Percent.digitByte_all (b.toNat / 16) (by omega)
    obtain ⟨_, _, hlow⟩ := Percent.digitByte_all (b.toNat % 16) (by omega)
    have hspaced : [37, Percent.digitByte (b.toNat / 16), Percent.digitByte (b.toNat % 16)].map
        spaced = [37, Percent.digitByte (b.toNat / 16), Percent.digitByte (b.toNat % 16)] := by
      simp [spaced, hhigh, hlow]
    rw [Percent.bytes_encodeByte, hspaced]
    exact Percent.decode_digits b rest

/-- **A name or a value is read as the text it was written for.** -/
theorem decode_encode (cs : List Char) : decode (Text.encode (encode cs)) = String.ofList cs := by
  have hbytes : ∀ bs : List UInt8,
      Percent.decode ((Text.encode (bs.flatMap encodeByte)).map spaced) = bs := by
    intro bs
    induction bs with
    | nil => rfl
    | cons b bs ih =>
      rw [List.flatMap_cons, Text.encode_append, List.map_append, decode_encodeByte, ih]
  show String.ofList (Text.decodeLossy
    (Percent.decode ((Text.encode ((Text.encode cs).flatMap encodeByte)).map spaced))) = _
  rw [hbytes, Text.decodeLossy, Text.decodeMarked_encode]

/-! ## Dividing a form -/

theorem splitParts_ne_nil (bs : List UInt8) : splitParts bs ≠ [] := by
  cases bs with
  | nil => simp [splitParts]
  | cons b bs =>
    unfold splitParts
    split
    · simp
    · split <;> simp

/-- **An ampersand divides a form into two.** -/
theorem splitParts_append (as bs : List UInt8) :
    splitParts (as ++ 38 :: bs) = splitParts as ++ splitParts bs := by
  induction as with
  | nil => simp [splitParts]
  | cons a as ih =>
    rw [List.cons_append, splitParts, splitParts, ih]
    split
    · rfl
    · cases hparts : splitParts as with
      | nil => exact absurd hparts (splitParts_ne_nil as)
      | cons part parts => rfl

theorem parseBytes_append (as bs : List UInt8) :
    parseBytes (as ++ 38 :: bs) = parseBytes as ++ parseBytes bs := by
  simp [parseBytes, splitParts_append]

/-- Without ampersands there is one part. -/
theorem splitParts_single {bs : List UInt8} (h : ∀ b ∈ bs, b ≠ 38) : splitParts bs = [bs] := by
  induction bs with
  | nil => rfl
  | cons b bs ih =>
    have hb : b ≠ 38 := h b List.mem_cons_self
    rw [splitParts, if_neg hb, ih (fun x hx => h x (List.mem_cons_of_mem _ hx))]

/-- A text without ampersands is one pair, unless it is empty. -/
theorem parseBytes_single {bs : List UInt8} (hne : bs ≠ []) (h : ∀ b ∈ bs, b ≠ 38) :
    parseBytes bs = [parsePart bs] := by
  rw [parseBytes, splitParts_single h]
  cases bs with
  | nil => exact absurd rfl hne
  | cons b bs => rfl

/-- The first equals sign divides a part. -/
theorem parsePart_append {name : List UInt8} (h : ∀ b ∈ name, b ≠ 61) (value : List UInt8) :
    parsePart (name ++ 61 :: value) = (decode name, decode value) := by
  have hname : ∀ b ∈ name, decide (b ≠ 61) = true := fun b hb => decide_eq_true (h b hb)
  rw [parsePart, List.takeWhile_append_of_pos hname, List.dropWhile_append_of_pos hname,
    List.takeWhile_cons_of_neg (by decide), List.dropWhile_cons_of_neg (by decide),
    List.append_nil, List.drop_succ_cons, List.drop_zero]

/-- A pair is read as it was written. -/
theorem parseBytes_writePair (name value : String) :
    parseBytes (Text.encode (writePair name value)) = [(name, value)] := by
  have hbytes : Text.encode (writePair name value) =
      Text.encode (encode name.toList) ++ 61 :: Text.encode (encode value.toList) := by
    rw [writePair, Text.encode_append, Text.encode_cons]
    rfl
  rw [hbytes, parseBytes_single (by simp), parsePart_append (fun b hb => (ne_divider_of_mem hb).2),
    decode_encode, decode_encode, String.ofList_toList, String.ofList_toList]
  intro b hb
  rw [List.mem_append, List.mem_cons] at hb
  rcases hb with hb | rfl | hb
  · exact (ne_divider_of_mem hb).1
  · decide
  · exact (ne_divider_of_mem hb).1

/-! ## Whole forms -/

/-- Pairs as a form. -/
def write : List (String × String) → List Char
  | [] => []
  | [p] => writePair p.1 p.2
  | p :: q :: more => writePair p.1 p.2 ++ '&' :: write (q :: more)

/-- **All pairs are read as they were written.** -/
theorem parse_write (pairs : List (String × String)) :
    parse (String.ofList (write pairs)) = pairs := by
  rw [parse, Text.bytes, String.toList_ofList]
  induction pairs with
  | nil => rfl
  | cons p more ih =>
    cases more with
    | nil => exact parseBytes_writePair p.1 p.2
    | cons q more =>
      have hbytes : Text.encode (write (p :: q :: more)) =
          Text.encode (writePair p.1 p.2) ++ 38 :: Text.encode (write (q :: more)) := by
        rw [write, Text.encode_append, Text.encode_cons]
        rfl
      rw [hbytes, parseBytes_append, parseBytes_writePair, ih]
      rfl

theorem isWritten_writePair {name value : String} {c : Char} (h : c ∈ writePair name value) :
    isWritten c = true := by
  rw [writePair, List.mem_append, List.mem_cons] at h
  rcases h with h | rfl | h
  · simp [isWritten, isPartChar_encode h]
  · decide
  · simp [isWritten, isPartChar_encode h]

/-- A form is written with few characters. -/
theorem isWritten_of_mem {pairs : List (String × String)} {c : Char} (h : c ∈ write pairs) :
    isWritten c = true := by
  induction pairs with
  | nil => cases h
  | cons p more ih =>
    cases more with
    | nil => exact isWritten_writePair h
    | cons q more =>
      rw [write, List.mem_append, List.mem_cons] at h
      rcases h with h | rfl | h
      · exact isWritten_writePair h
      · decide
      · exact ih h

end Form

end RedirectLogin
