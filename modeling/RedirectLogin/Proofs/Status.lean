import RedirectLogin.Proofs.Token
import RedirectLogin.Session

/-!
# Status views as JSON

A status is written as an object whose member `state` is the tag of its variant. Reading one back
takes the tag out first and keeps every other member aside until the variant is known; what was kept
aside is then read as the fields of that variant. A failure is read in both ways: on its own, and as
the kept field of a status.

Principal results: `AuthFailure.decoder_outline` and `SessionStatus.decoder_outline` — what is
written is read back; `Session.status_eq_failed_iff` — which sessions show a failure, and which one;
`Session.status_survives_json` — the round trips on texts, for every provider, kind and code.
-/

set_option autoImplicit false

namespace RedirectLogin

/-! ## Failures -/

/-- An error has a code if it is one of a provider, and then it is the code that provider gave. -/
theorem SessionError.code?_eq_some_iff {e : SessionError} {code : String} :
    e.code? = some code ↔ ∃ description, e = .providerError code description := by
  cases e <;> simp [code?]

/-- The name of a kind is read as that kind, wherever it was found. -/
theorem ErrorKind.decoder_key (origin : Json.Origin) (k : ErrorKind) :
    ErrorKind.decoder origin (.string k.key) = .ok k := by
  cases k <;> rfl

namespace Json

/-- A string that may be missing is read back, present or not. -/
theorem asOptional_ofOption_string (s : Option String) :
    asOptional asString (outline (ofOption .string s)) = .ok s := by
  cases s <;> rfl

end Json

namespace AuthFailure

theorem toJson_plain (f : AuthFailure) : f.toJson.Plain := by
  cases hcode : f.code <;>
    simp [toJson, hcode, Json.ofOption, Json.Plain, Json.PlainMembers]

theorem depth_toJson (f : AuthFailure) : f.toJson.depth = 1 := by
  cases hcode : f.code <;>
    simp [toJson, hcode, Json.ofOption, Json.depth, Json.depthOfMembers]

/-- A failure is read back, on its own and as a field that was kept aside. -/
theorem decoder_outline (origin : Json.Origin) (f : AuthFailure) :
    decoder origin (Json.outline f.toJson) = .ok f := by
  have hkind := ErrorKind.decoder_key origin f.kind
  have hcode := Json.asOptional_ofOption_string f.code
  have hmembers : Json.readMembersInto (fields origin) []
      [(some "kind", .string f.kind.key),
        (some "code", Json.outline (Json.ofOption .string f.code))] ⟨none, none⟩ =
      .ok ⟨some f.kind, some f.code⟩ := by
    refine (Json.readMembersInto_member rfl rfl (by simp only [hkind]; rfl)).trans ?_
    refine (Json.readMembersInto_member rfl rfl (by simp only [hcode]; rfl)).trans ?_
    rfl
  have hrecord : Json.readRecord origin "struct AuthFailure" (fields origin) ⟨none, none⟩
      (Json.outline f.toJson) = .ok ⟨some f.kind, some f.code⟩ := hmembers
  rw [decoder, hrecord]
  rfl

end AuthFailure

/-! ## Status -/

namespace SessionStatus

theorem toJson_plain (s : SessionStatus) : s.toJson.Plain := by
  cases s <;> simp [toJson, Json.Plain, Json.PlainMembers, AuthFailure.toJson_plain]

/-- A document that nests less deeply than allowed can be kept aside. -/
theorem keepAside_outline {j : Json} (h : j.depth < Json.maxDepth) :
    keepAside (Json.outline j) = .ok (Json.outline j) := by
  rw [keepAside, Json.value?_outline j _ (by omega)]
  rfl

/-- A variant without fields is recognised by its tag alone. -/
theorem decoder_unit (name : String) {tag : Tag} (htag : readTag (.string name) = .ok tag) :
    decoder (.object [(some "state", .string name)]) = readContent tag (.object []) := by
  have hsplit : splitTag none [(some "state", .string name)] = .ok (some tag, []) := by
    simp only [splitTag, Json.keyOf, bind, Except.bind, htag]
    rfl
  rw [decoder, hsplit]
  rfl

/-- With the tag in front, the field behind it is what the variant is read from. -/
theorem decoder_field {name key : String} {tag : Tag} {j : Json}
    (htag : readTag (.string name) = .ok tag) (hkey : key ≠ "state")
    (hdepth : j.depth < Json.maxDepth) :
    decoder (.object [(some "state", .string name), (some key, Json.outline j)]) =
      readContent tag (.object [(some key, Json.outline j)]) := by
  have hkept : splitTag (some tag) [(some key, Json.outline j)] =
      .ok (some tag, [(some key, Json.outline j)]) := by
    simp only [splitTag, Json.keyOf, bind, Except.bind, keepAside_outline hdepth, if_neg hkey]
  have hsplit : splitTag none [(some "state", .string name), (some key, Json.outline j)] =
      .ok (some tag, [(some key, Json.outline j)]) := by
    rw [splitTag]
    simp only [Json.keyOf, bind, Except.bind, htag, hkept]
    rfl
  rw [decoder, hsplit]
  rfl

/-- The field of a variant is read from an object that holds nothing else. -/
theorem readField_member {α : Type} {name : String} (shape : String) {read : Json.Decoder α}
    {o : Json.Outline} {a : α} (h : read o = .ok a) :
    readField name shape read (.object [(some name, o)]) = .ok a := by
  have hmember : (read o).bind (fun a => .ok (some a)) = .ok (some a) := by
    rw [h]
    rfl
  rw [readField, Json.readRecord, Json.readMembersInto_member (by simp; rfl) rfl hmember]
  rfl

/-- **A status is read back from its outline.** -/
theorem decoder_outline (s : SessionStatus) : decoder (Json.outline s.toJson) = .ok s := by
  cases s with
  | unauthenticated => exact decoder_unit "unauthenticated" rfl
  | loginPending provider =>
    have hread : readContent .loginPending (.object [(some "provider", .string provider)]) =
        .ok (.loginPending provider) := by
      rw [readContent, readField_member "LoginPending" (a := provider) rfl]
      rfl
    exact (decoder_field (j := .string provider) rfl (by decide) (Nat.zero_lt_succ _)).trans hread
  | authenticated canRefresh =>
    have hread : readContent .authenticated (.object [(some "can_refresh", .bool canRefresh)]) =
        .ok (.authenticated canRefresh) := by
      rw [readContent, readField_member "Authenticated" (a := canRefresh) rfl]
      rfl
    exact (decoder_field (j := .bool canRefresh) rfl (by decide) (Nat.zero_lt_succ _)).trans hread
  | refreshPending => exact decoder_unit "refresh_pending" rfl
  | failed failure =>
    have hread : readContent .failed (.object [(some "error", Json.outline failure.toJson)]) =
        .ok (.failed failure) := by
      rw [readContent, readField_member "Error" (AuthFailure.decoder_outline .kept failure)]
      rfl
    have hdepth : failure.toJson.depth < Json.maxDepth := by
      rw [failure.depth_toJson]
      decide
    exact (decoder_field rfl (by decide) hdepth).trans hread

/-- A status is read back from its text. -/
theorem decode_compact (s : SessionStatus) :
    Json.decode decoder s.toJson.compact = .ok s := by
  rw [Json.decode_compact decoder s.toJson_plain, decoder_outline]

/-- No two statuses are written alike, since the text says which one it was. -/
theorem compact_injective : Function.Injective fun s : SessionStatus => s.toJson.compact := by
  intro s t h
  have hread : Json.decode decoder s.toJson.compact = Json.decode decoder t.toJson.compact :=
    congrArg (Json.decode decoder) h
  rw [decode_compact, decode_compact] at hread
  exact Except.ok.inj hread

end SessionStatus

namespace Session

/-- **A session shows a failure when it has failed**, and shows its kind and code, no more. -/
theorem status_eq_failed_iff {s : Session} {f : AuthFailure} :
    s.status = .failed f ↔ ∃ e, s = .failed e ∧ f = ⟨e.kind, e.code?⟩ := by
  cases s with
  | failed e => simp [status, AuthFailure.ofError, eq_comm]
  | _ => simp [status]

/-- **Status views survive their JSON.** Every status and every failure is read back from its
compact text, no two statuses have the same text, and a failed session shows a code exactly when a
provider error made it fail: the code of that provider. -/
theorem status_survives_json :
    (∀ s : SessionStatus, Json.decode SessionStatus.decoder s.toJson.compact = .ok s) ∧
    (∀ f : AuthFailure, Json.decode (AuthFailure.decoder .text) f.toJson.compact = .ok f) ∧
    (Function.Injective fun s : SessionStatus => s.toJson.compact) ∧
    ∀ (s : Session) (code : String),
      (∃ kind, s.status = .failed ⟨kind, some code⟩) ↔
        ∃ description, s = .failed (.providerError code description) := by
  refine ⟨SessionStatus.decode_compact, fun f => ?_, SessionStatus.compact_injective,
    fun s code => ⟨?_, ?_⟩⟩
  · rw [Json.decode_compact _ f.toJson_plain, AuthFailure.decoder_outline]
  · rintro ⟨kind, hstatus⟩
    obtain ⟨e, rfl, hf⟩ := status_eq_failed_iff.1 hstatus
    have hcode : some code = e.code? := congrArg AuthFailure.code hf
    obtain ⟨description, rfl⟩ := SessionError.code?_eq_some_iff.1 hcode.symm
    exact ⟨description, rfl⟩
  · rintro ⟨description, rfl⟩
    exact ⟨.providerError, rfl⟩

end Session

end RedirectLogin
