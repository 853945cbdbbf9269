import RedirectLogin.Proofs.Text.Utf8
import RedirectLogin.Proofs.Url.Form
import RedirectLogin.Url.Parser

/-!
# The end of a host

A control or a space is dropped at the end of a URL text, but not in its middle. Where it ends up at
the end of a host, the host is refused: percent-decoding, folding and composing all leave the last
character where it is, and no domain may hold it. Nothing has to be known of the tables for that.

Principal results: `Domain.toAscii?_concat` — no domain ends in a control or a space;
`Url.readSpecialHost_append` — neither does any other host.
-/

set_option autoImplicit false

namespace RedirectLogin

/-- A byte that belongs to no percent sign stands for itself at the end, too. -/
theorem Percent.decode_concat {b : UInt8} (hsign : b ≠ 37) (hdigit : hexValue? b = none)
    (bs : List UInt8) : decode (bs ++ [b]) = decode bs ++ [b] := by
  induction bs using decode.induct with
  | case1 a c rest x y hx hy ih =>
    simp only [List.cons_append, decode, hx, hy]
    rw [ih]
  | case2 a c rest hno ih =>
    have hstep : ∀ more, decode (37 :: a :: c :: more) = 37 :: decode (a :: c :: more) := by
      intro more
      rw [decode]
      split
      · rename_i x y hx hy
        exact absurd hy (hno x y hx)
      · rfl
    rw [List.cons_append, List.cons_append, List.cons_append, hstep, hstep]
    exact congrArg (37 :: ·) ih
  | case3 a rest hno ih =>
    by_cases ha : a = 37
    · subst ha
      -- A sign with at most one byte behind it cannot use `b` as a digit.
      rcases rest with _ | ⟨c, _ | ⟨d, more⟩⟩
      · simp [decode]
      · rw [List.cons_append, List.cons_append, List.nil_append, decode, hdigit]
        simp only [decode]
        cases hc : hexValue? c with
        | none => rfl
        | some x => rfl
      · exact absurd rfl (hno c d more rfl)
    · rw [List.cons_append, decode_cons ha, decode_cons ha, ih]
      rfl
  | case4 => simp [decode]

/-- Controls and the space take no part in a percent sign. -/
theorem Percent.of_le_space {b : UInt8} (hb : b.toNat ≤ 0x20) : b ≠ 37 ∧ hexValue? b = none := by
  revert hb
  exact Text.forall_byte b (by decide +kernel)

/-- A text whose bytes end in one below 128 ends in the character of that number. -/
theorem Text.decode?_concat {b : UInt8} (hb : b.toNat < 128) {bs : List UInt8} {cs : List Char}
    (h : decode? (bs ++ [b]) = some cs) : ∃ ds, cs = ds ++ [Char.ofNat b.toNat] := by
  have hbytes := decode?_eq_some_iff.1 h
  rcases List.eq_nil_or_concat cs with rfl | ⟨ds, c, rfl⟩
  · exact absurd hbytes (by simp [encode_nil])
  · rw [List.concat_eq_append] at hbytes ⊢
    obtain ⟨d, more, hchar, -⟩ := split_encodeChar c []
    have hlast : b ∈ String.utf8EncodeChar c := by
      have hends : (encode (ds ++ [c])).getLast? = some b := by
        rw [← hbytes, List.getLast?_concat]
      rw [encode_append, encode_cons, encode_nil, List.append_nil, hchar,
        List.getLast?_append, Option.or_of_isSome (by simp)] at hends
      rw [hchar]
      exact List.mem_of_getLast? hends
    exact ⟨ds, by rw [eq_of_mem_encodeChar hlast hb, Char.ofNat_toNat]⟩

namespace Domain

/-! ## Composing -/

section Compose

variable {c : Char}

theorem takeApartBy_low (hc : c.toNat < 0x80) (pair? : Char → Option (Char × Char))
    (depth : Nat) : takeApartBy pair? depth c = [c] := by
  cases depth with
  | zero => rfl
  | succ depth => rw [takeApartBy, if_pos (by omega)]

theorem takeApart_low (hc : c.toNat < 0x80) : takeApart c = [c] :=
  takeApartBy_low hc _ _

theorem combiningClass_low (hc : c.toNat < 0x80) : combiningClass c = 0 :=
  if_pos (show c.toNat < 0x300 by omega)

theorem join?_low (hc : c.toNat < 0x80) (a : Char) : join? a c = none :=
  if_pos (show c.toNat < 0x300 by omega)

theorem insertMark_low (hc : c.toNat < 0x80) (before : List Char) :
    insertMark c before = c :: before := by
  cases before with
  | nil => rfl
  | cons d before => exact if_neg (fun h => h.1 (combiningClass_low hc))

/-- A character below the first mark starts anew. -/
theorem Composing.push_low (hc : c.toNat < 0x80) (s : Composing) :
    s.push c = ⟨s.text, some c, []⟩ := by
  have hnone : (s.starter.bind fun a => join? a c) = none := by
    cases s.starter with
    | none => rfl
    | some a => exact join?_low hc a
  simp only [Composing.push, hnone, ite_self, combiningClass_low hc, if_true]

/-- **Composing leaves an ASCII character at the end where it is.** -/
theorem compose_concat (hc : c.toNat < 0x80) (cs : List Char) :
    ∃ ds, compose (cs ++ [c]) = ds ++ [c] := by
  by_cases hascii : (cs ++ [c]).all (fun d => d.toNat < 0x80) = true
  · exact ⟨cs, by rw [compose, if_pos hascii]⟩
  · let apart := (cs.flatMap takeApart).foldl (fun done d => insertMark d done) []
    let before := apart.reverse.foldl Composing.push ⟨[], none, []⟩
    have happart : ((cs ++ [c]).flatMap takeApart).foldl
        (fun done d => insertMark d done) [] = c :: apart := by
      rw [List.flatMap_append, List.flatMap_singleton, takeApart_low hc, List.foldl_append,
        List.foldl_cons, List.foldl_nil, insertMark_low hc]
    have hpushed : (c :: apart).reverse.foldl Composing.push ⟨[], none, []⟩ =
        ⟨before.text, some c, []⟩ := by
      rw [List.reverse_cons, List.foldl_append, List.foldl_cons, List.foldl_nil,
        Composing.push_low hc]
    have htext : (⟨before.text, some c, []⟩ : Composing).text = c :: before.text := by
      rw [Composing.text]
      rfl
    refine ⟨before.text.reverse, ?_⟩
    rw [compose, if_neg hascii]
    simp only [happart, hpushed, htext]
    exact List.reverse_cons

end Compose

/-! ## Domains -/

/-- Controls and the space are spelled in one way only, which no domain may hold. -/
theorem of_le_space {c : Char} (hc : c.toNat ≤ 0x20) :
    isAscii c = true ∧ isForbidden c = true ∧ lowerAscii c = c := by
  refine ⟨?_, ?_, ?_⟩
  · exact decide_eq_true (by omega)
  · simp [isForbidden, hc]
  · rw [lowerAscii, if_neg]
    simp only [Bool.and_eq_true, decide_eq_true_eq, Char.le_def, UInt32.le_iff_toNat_le]
    rintro ⟨hlow, -⟩
    have hlow : 65 ≤ c.toNat := hlow
    omega

/-- Folding leaves a control or a space at the end where it is. -/
theorem fold?_concat {c : Char} (hc : c.toNat ≤ 0x20) {cs folded : List Char}
    (h : fold? (cs ++ [c]) = some folded) : ∃ ds, folded = ds ++ [c] := by
  obtain ⟨hascii, -, hlower⟩ := of_le_space hc
  have hlast : [c].mapM foldChar? = some [[c]] := by
    rw [List.mapM_cons, List.mapM_nil, foldChar?_of_ascii hascii, hlower]
    rfl
  obtain ⟨texts, htexts, rfl⟩ := Option.map_eq_some_iff.1 h
  rw [List.mapM_append, hlast] at htexts
  obtain ⟨front, -, hrest⟩ := Option.bind_eq_some_iff.1 htexts
  obtain rfl : front ++ [[c]] = texts := Option.some.inj hrest
  rw [List.flatten_append, List.flatten_singleton]
  exact compose_concat (by omega) _

/-- **No domain ends in a control or a space.** -/
theorem toAscii?_concat {b : UInt8} (hb : b.toNat ≤ 0x20) (bs : List UInt8) :
    toAscii? (bs ++ [b]) = none := by
  have hlow : (Char.ofNat b.toNat).toNat ≤ 0x20 := by
    rw [Text.toNat_charOfNat (by omega)]
    exact hb
  rw [Option.eq_none_iff_forall_ne_some]
  intro domain h
  obtain ⟨cs, htext, h⟩ := Option.bind_eq_some_iff.1 h
  obtain ⟨folded, hfold, h⟩ := Option.bind_eq_some_iff.1 h
  obtain ⟨ds, rfl⟩ := Text.decode?_concat (by omega) htext
  obtain ⟨before, rfl⟩ := fold?_concat hlow hfold
  rw [if_pos (by simp [(of_le_space hlow).2.1])] at h
  cases h

end Domain

namespace Url

/-- **No host of a special scheme ends in a control or a space.** -/
theorem readSpecialHost_append {low : List Char} (hne : low ≠ [])
    (hlow : ∀ c ∈ low, c.toNat ≤ 0x20) (cs : List Char) :
    ∃ problem, readSpecialHost (cs ++ low) = .error problem := by
  rcases List.eq_nil_or_concat low with rfl | ⟨front, c, rfl⟩
  · exact absurd rfl hne
  · have hc : c.toNat ≤ 0x20 := hlow c (by simp)
    have hnum : (UInt8.ofNat c.toNat).toNat = c.toNat := Text.toNat_ofNat_of_lt (by omega)
    rw [List.concat_eq_append, ← List.append_assoc, readSpecialHost]
    split
    · refine ⟨.badIpv6, ?_⟩
      rw [readBracketed, if_neg]
      rintro ⟨hlast, -⟩
      rw [List.getLast?_concat, Option.some.injEq] at hlast
      rw [hlast] at hc
      exact absurd hc (by decide)
    · refine ⟨.badDomain, ?_⟩
      have hbytes : Text.encode (cs ++ front ++ [c]) =
          Text.encode (cs ++ front) ++ [UInt8.ofNat c.toNat] := by
        rw [Text.encode_append, Text.encode_cons, Text.encodeChar_ascii (by omega),
          Text.encode_nil, List.append_nil]
      obtain ⟨hsign, hdigit⟩ := Percent.of_le_space (b := UInt8.ofNat c.toNat) (by omega)
      rw [hbytes, Percent.decode_concat hsign hdigit, Domain.toAscii?_concat (by omega)]

end Url

end RedirectLogin
