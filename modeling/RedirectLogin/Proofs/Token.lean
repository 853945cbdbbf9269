import RedirectLogin.Proofs.Json.RoundTrip
import RedirectLogin.Proofs.Time.Timestamp
import RedirectLogin.Token

/-!
# Records of token sets

A token set is read back from its record, whatever characters its tokens are made of.

Principal results: `readMembersInto_member` — how a record takes in one member;
`TokenSet.ofRecord_record` — the round trip.
-/

set_option autoImplicit false

namespace RedirectLogin

namespace Json

/-- A member that a field reads and that is there for the first time goes into the draft. -/
theorem readMembersInto_member {σ : Type} {fields : List (Field σ)} {seen : List String}
    {key : String} {o : Outline} {rest : List (Option String × Outline)} {draft next : σ}
    {f : Field σ} (hfield : fields.find? (fun f => f.name == key) = some f)
    (hnew : seen.contains key = false) (hread : f.read o draft = .ok next) :
    readMembersInto fields seen ((some key, o) :: rest) draft =
      readMembersInto fields (key :: seen) rest next := by
  rw [readMembersInto, keyOf]
  simp only [bind, Except.bind, hfield, hnew, hread]
  rfl

end Json

theorem AccessToken.decoder_outline (t : AccessToken) :
    AccessToken.decoder (Json.outline t.toJson) = .ok t := by
  simp [AccessToken.decoder, AccessToken.toJson, Json.outline, Json.asString, Json.asStringOf,
    bind, Except.bind, AccessToken.ofString?_value]

theorem RefreshToken.decoder_outline (t : RefreshToken) :
    RefreshToken.decoder (Json.outline t.toJson) = .ok t := by
  simp [RefreshToken.decoder, RefreshToken.toJson, Json.outline, Json.asString, Json.asStringOf,
    bind, Except.bind, RefreshToken.ofString?_value]

/-- A refresh token that may be missing is read back, present or not. -/
theorem RefreshToken.asOptional_outline (t : Option RefreshToken) :
    Json.asOptional RefreshToken.decoder (Json.outline (Json.ofOption RefreshToken.toJson t)) =
      .ok t := by
  cases t with
  | none => rfl
  | some t =>
    have hread := RefreshToken.decoder_outline t
    rw [RefreshToken.toJson, Json.outline] at hread
    rw [Json.ofOption, RefreshToken.toJson, Json.outline, Json.asOptional, hread]
    · rfl
    · simp

theorem Timestamp.decoder_outline {t : Timestamp} (h : t.IsMoment) :
    Timestamp.decoder (Json.outline t.toJson) = .ok t := by
  simp [Timestamp.decoder, Timestamp.toJson, Json.outline, Json.asStringOf, bind, Except.bind,
    Timestamp.parse?_text h]

namespace TokenSet

theorem toJson_plain (t : TokenSet) : t.toJson.Plain := by
  cases hrefresh : t.refresh <;>
    simp [toJson, AccessToken.toJson, RefreshToken.toJson, Timestamp.toJson, Json.ofOption,
      hrefresh, Json.Plain, Json.PlainMembers]

theorem decoder_outline {t : TokenSet} (h : t.savedAt.IsMoment) :
    decoder (Json.outline t.toJson) = .ok t := by
  have haccess := AccessToken.decoder_outline t.access
  have hrefresh := RefreshToken.asOptional_outline t.refresh
  have hsavedAt := Timestamp.decoder_outline h
  have hmembers : Json.readMembersInto fields []
      [(some "access_token", Json.outline t.access.toJson),
        (some "refresh_token", Json.outline (Json.ofOption RefreshToken.toJson t.refresh)),
        (some "saved_at", Json.outline t.savedAt.toJson)] ⟨none, none, none⟩ =
      .ok ⟨some t.access, some t.refresh, some t.savedAt⟩ := by
    refine (Json.readMembersInto_member rfl rfl (by simp only [haccess]; rfl)).trans ?_
    refine (Json.readMembersInto_member rfl rfl (by simp only [hrefresh]; rfl)).trans ?_
    refine (Json.readMembersInto_member rfl rfl (by simp only [hsavedAt]; rfl)).trans ?_
    rfl
  have hrecord : Json.readRecord .text "struct TokenSet" fields ⟨none, none, none⟩
      (Json.outline t.toJson) = .ok ⟨some t.access, some t.refresh, some t.savedAt⟩ := hmembers
  rw [decoder, hrecord]
  rfl

/-- **A token set is read back from its record.** -/
theorem ofRecord_record {t : TokenSet} (h : t.savedAt.IsMoment) : ofRecord t.record = .ok t := by
  rw [ofRecord, record, Json.decode_compact decoder t.toJson_plain, decoder_outline h]

end TokenSet

end RedirectLogin
