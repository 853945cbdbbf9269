import RedirectLogin.Proofs.Store.Files
import RedirectLogin.Proofs.Text.Base64
import RedirectLogin.Proofs.Token
import RedirectLogin.Store.Envelope

/-!
# Envelopes, there and back

What an envelope says is read back from the text it is written as; and what a text must hold to say
something, field by field.

Principal results: `parts_eq_ok_iff` — when an envelope says something; `ofText_text`,
`parts_ofParts` — the two halves of the round trip.
-/

set_option autoImplicit false

namespace RedirectLogin.Envelope

open Cipher (Argon2id.Params)

/-! ## What an envelope says -/

theorem readField_eq_ok_iff {name text : String} {bs : List UInt8} :
    readField name text = .ok bs ↔ Text.Base64.decode (Text.bytes text) = .ok bs := by
  unfold readField
  cases Text.Base64.decode (Text.bytes text) <;> simp

theorem readFixed_eq_ok_iff {name text : String} {length : Nat} {bs : List UInt8} :
    readFixed name length text = .ok bs ↔
      Text.Base64.decode (Text.bytes text) = .ok bs ∧ bs.length = length := by
  rw [readFixed, bind_eq_ok_iff]
  constructor
  · rintro ⟨cs, hread, hlen⟩
    split at hlen
    · rename_i hlength
      obtain rfl := Except.ok.inj hlen
      exact ⟨readField_eq_ok_iff.1 hread, hlength⟩
    · cases hlen
  · rintro ⟨hread, hlength⟩
    exact ⟨bs, readField_eq_ok_iff.2 hread, if_pos hlength⟩

/-- **An envelope says something** exactly when its version is known, its salt and its nonce are
Base64 for as many bytes as they must have, and its ciphertext is Base64. -/
theorem parts_eq_ok_iff {e : Envelope} {p : Parts} :
    e.parts = .ok p ↔
      e.version = currentVersion ∧ e.costs = p.costs ∧
        (Text.Base64.decode (Text.bytes e.salt) = .ok p.salt ∧ p.salt.length = saltLength) ∧
        (Text.Base64.decode (Text.bytes e.nonce) = .ok p.nonce ∧ p.nonce.length = nonceLength) ∧
        Text.Base64.decode (Text.bytes e.ciphertext) = .ok p.sealed := by
  unfold parts
  by_cases hversion : e.version = currentVersion
  · rw [if_neg (by simpa using hversion), ← readFixed_eq_ok_iff, ← readFixed_eq_ok_iff,
      ← readField_eq_ok_iff, bind_eq_ok_iff]
    simp only [bind_eq_ok_iff]
    constructor
    · rintro ⟨salt, hsalt, nonce, hnonce, sealed, hsealed, hparts⟩
      obtain rfl := Except.ok.inj hparts
      exact ⟨hversion, rfl, hsalt, hnonce, hsealed⟩
    · rintro ⟨-, hcosts, hsalt, hnonce, hsealed⟩
      exact ⟨p.salt, hsalt, p.nonce, hnonce, p.sealed, hsealed, by rw [hcosts]⟩
  · rw [if_pos (by simpa using hversion)]
    exact ⟨fun h => (nomatch h), fun h => absurd h.1 hversion⟩

/-! ## There and back -/

theorem parts_ofParts {p : Parts} (hsalt : p.salt.length = saltLength)
    (hnonce : p.nonce.length = nonceLength) : (ofParts p).parts = .ok p :=
  parts_eq_ok_iff.2 ⟨rfl, rfl, ⟨Text.Base64.decode_write p.salt, hsalt⟩,
    ⟨Text.Base64.decode_write p.nonce, hnonce⟩, Text.Base64.decode_write p.sealed⟩

/-- A number below the bound is read as itself. -/
theorem asNatural_natural {n bound : Nat} (what : String) (h : n < bound) :
    Json.asNatural bound what (.number (.natural n)) = .ok n := by
  rw [Json.asNatural, if_pos h]

theorem costsDecoder_outline (p : Argon2id.Params) :
    costsDecoder (Json.outline (costsJson p)) = .ok p := by
  have hmemory := asNatural_natural "u32" p.memory.toNat_lt
  have hpasses := asNatural_natural "u32" p.passes.toNat_lt
  have hlanes := asNatural_natural "u32" p.lanes.toNat_lt
  have hmembers : Json.readMembersInto costsFields []
      [(some "m_cost", .number (.natural p.memory.toNat)),
        (some "t_cost", .number (.natural p.passes.toNat)),
        (some "p_cost", .number (.natural p.lanes.toNat))] ⟨none, none, none⟩ =
      .ok ⟨some p.memory.toNat, some p.passes.toNat, some p.lanes.toNat⟩ := by
    refine (Json.readMembersInto_member rfl rfl (by simp only [asWord, hmemory]; rfl)).trans ?_
    refine (Json.readMembersInto_member rfl rfl (by simp only [asWord, hpasses]; rfl)).trans ?_
    refine (Json.readMembersInto_member rfl rfl (by simp only [asWord, hlanes]; rfl)).trans ?_
    rfl
  have hrecord : Json.readRecord .text "struct KdfParams" costsFields ⟨none, none, none⟩
      (Json.outline (costsJson p)) =
        .ok ⟨some p.memory.toNat, some p.passes.toNat, some p.lanes.toNat⟩ := hmembers
  rw [costsDecoder, hrecord]
  simp [Json.required, bind, Except.bind]

theorem toJson_plain {e : Envelope} (h : e.version < UInt64.size) : e.toJson.Plain := by
  have hword : ∀ w : UInt32, w.toNat < UInt64.size := fun w =>
    Nat.lt_of_lt_of_le w.toNat_lt (by decide)
  simp [toJson, costsJson, Json.nat, Json.Plain, Json.PlainMembers, h, hword]

theorem decoder_outline {e : Envelope} (h : e.version < UInt8.size) :
    decoder (Json.outline e.toJson) = .ok e := by
  have hversion := asNatural_natural "u8" h
  have hcosts := costsDecoder_outline e.costs
  have hmembers : Json.readMembersInto fields []
      [(some "version", .number (.natural e.version)),
        (some "kdf", Json.outline (costsJson e.costs)),
        (some "salt", .string e.salt), (some "nonce", .string e.nonce),
        (some "ciphertext", .string e.ciphertext)] ⟨none, none, none, none, none⟩ =
      .ok ⟨some e.version, some e.costs, some e.salt, some e.nonce, some e.ciphertext⟩ := by
    refine (Json.readMembersInto_member rfl rfl (by simp only [hversion]; rfl)).trans ?_
    refine (Json.readMembersInto_member rfl rfl (by simp only [hcosts]; rfl)).trans ?_
    refine (Json.readMembersInto_member rfl rfl rfl).trans ?_
    refine (Json.readMembersInto_member rfl rfl rfl).trans ?_
    refine (Json.readMembersInto_member rfl rfl rfl).trans ?_
    rfl
  have hrecord : Json.readRecord .text "struct Envelope" fields ⟨none, none, none, none, none⟩
      (Json.outline e.toJson) =
        .ok ⟨some e.version, some e.costs, some e.salt, some e.nonce, some e.ciphertext⟩ := hmembers
  rw [decoder, hrecord]
  rfl

/-- **An envelope is read back from its text.** -/
theorem ofText_text {e : Envelope} (h : e.version < UInt8.size) : ofText e.text = .ok e := by
  rw [ofText, text, Json.decode_compact decoder (toJson_plain (Nat.lt_trans h (by decide))),
    decoder_outline h]

/-- Different salts make different files. -/
theorem salt_eq_of_text_eq {p q : Parts} (h : (ofParts p).text = (ofParts q).text) :
    p.salt = q.salt := by
  have hread : ∀ r : Parts, ofText (ofParts r).text = .ok (ofParts r) :=
    fun r => ofText_text (show currentVersion < UInt8.size by decide)
  have henvelope : ofParts p = ofParts q :=
    Except.ok.inj ((hread p).symm.trans ((congrArg ofText h).trans (hread q)))
  have hwritten : Text.Base64.write p.salt = Text.Base64.write q.salt :=
    congrArg Envelope.salt henvelope
  have hdecoded := Text.Base64.decode_write p.salt
  rw [hwritten, Text.Base64.decode_write] at hdecoded
  exact (Except.ok.inj hdecoded).symm

/-- A vault file is longer than one byte. -/
theorem two_le_length_text (p : Parts) : 2 ≤ (Text.bytes (ofParts p).text).length := by
  have hchars : ∀ cs : List Char, cs.length ≤ (Text.encode cs).length := by
    intro cs
    induction cs with
    | nil => exact Nat.zero_le _
    | cons c cs ih =>
      have hone : 0 < (String.utf8EncodeChar c).length := by
        rw [String.length_utf8EncodeChar]
        exact c.utf8Size_pos
      rw [Text.encode_cons, List.length_append, List.length_cons]
      omega
  refine Nat.le_trans ?_ (hchars _)
  rw [text, Json.compact, String.toList_ofList, toJson, Json.compactChars]
  simp

end RedirectLogin.Envelope
