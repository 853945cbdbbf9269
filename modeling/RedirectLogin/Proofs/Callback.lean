import RedirectLogin.Callback

/-!
# What a redirect is read as

A redirect is read in one way only: as tokens if its origin is trusted, one of its values is a
token and none is an error; as an error of the provider if one of its values is an error; and it is
refused if it says neither. A redirect that is no URL is refused in the same way, and the only
other refusal is that of an origin that is not trusted.

Principal results: `collect_eq` — taking one pair in after the other comes to looking each name up;
`receive_eq_token_iff` — when a redirect brings tokens; `receive_error` — the two refusals there are.
-/

set_option autoImplicit false

namespace RedirectLogin

variable {r : CallbackReceiver} {event : CallbackEvent}

namespace CallbackResult

variable {pairs : List (String × String)}

theorem valueOf?_eq_none_iff {name : String} :
    valueOf? pairs name = none ↔ ∀ p ∈ pairs, p.1 = name → Text.isBlankText p.2 = true := by
  simp [valueOf?]

/-- What is found under a name stands there, and is not blank. -/
theorem valueOf?_some {name value : String} (h : valueOf? pairs name = some value) :
    (name, value) ∈ pairs ∧ Text.isBlankText value = false := by
  unfold valueOf? at h
  obtain ⟨p, hp, rfl⟩ := Option.map_eq_some_iff.1 h
  have hmem := List.mem_of_find?_eq_some hp
  have hfound := List.find?_some hp
  simp only [Bool.and_eq_true, beq_iff_eq, Bool.not_eq_true'] at hfound
  obtain ⟨rfl, hblank⟩ := hfound
  exact ⟨hmem, hblank⟩

/-- What stands under a name, and nothing else does, is what is found there. -/
theorem valueOf?_of_unique {name value : String} (hmem : (name, value) ∈ pairs)
    (hblank : Text.isBlankText value = false) (honly : ∀ v, (name, v) ∈ pairs → v = value) :
    valueOf? pairs name = some value := by
  cases hfound : valueOf? pairs name with
  | none =>
    have hall := valueOf?_eq_none_iff.1 hfound (name, value) hmem rfl
    rw [hblank] at hall
    cases hall
  | some v => rw [honly v (valueOf?_some hfound).1]

/-- What does not stand under a name is not found there. -/
theorem valueOf?_of_absent {name : String} (h : ∀ v, (name, v) ∉ pairs) :
    valueOf? pairs name = none :=
  valueOf?_eq_none_iff.2 (fun p hp hname => absurd (hname ▸ hp) (h p.2))

theorem ofPairs_eq_token_iff {access : AccessToken} {refresh : Option RefreshToken} :
    ofPairs pairs = .ok (.token access refresh) ↔
      valueOf? pairs "error" = none ∧ valueOf? pairs "token" = some access.value ∧
        refresh = (valueOf? pairs "refresh_token").bind RefreshToken.ofString? := by
  unfold ofPairs
  constructor
  · intro h
    split at h
    · cases h
    · rename_i hnone
      split at h
      · rename_i found hfound
        cases h
        obtain ⟨value, hvalue, htoken⟩ := Option.bind_eq_some_iff.1 hfound
        unfold AccessToken.ofString? at htoken
        split at htoken <;> cases htoken
        exact ⟨hnone, hvalue, rfl⟩
      · cases h
  · rintro ⟨hnone, hvalue, rfl⟩
    simp only [hnone, hvalue, Option.bind_some, AccessToken.ofString?_value]

/-- Values that say neither are refused as such. -/
theorem ofPairs_refused {e : SessionError} (h : ofPairs pairs = .error e) :
    e = .malformedCallback := by
  unfold ofPairs at h
  split at h
  · cases h
  · split at h <;> cases h
    rfl

end CallbackResult

namespace CallbackParameters

/-- A slot that a pair fills if it is empty and the pair has its name and a value that is not
blank. -/
def IsSlot (slot : CallbackParameters → Option String) (name : String) : Prop :=
  ∀ p pair, slot (take p pair) =
    (slot p).or (if pair.1 == name && !Text.isBlankText pair.2 then some pair.2 else none)

/-- **A slot holds the first value under its name that is not blank** when all pairs are taken in,
unless it held one before. -/
theorem IsSlot.foldl {slot : CallbackParameters → Option String} {name : String}
    (h : IsSlot slot name) (pairs : List (String × String)) (p : CallbackParameters) :
    slot (pairs.foldl take p) = (slot p).or (CallbackResult.valueOf? pairs name) := by
  induction pairs generalizing p with
  | nil => exact (Option.or_none).symm
  | cons pair pairs ih =>
    rw [List.foldl_cons, ih, h, Option.or_assoc, CallbackResult.valueOf?, CallbackResult.valueOf?,
      List.find?_cons]
    cases pair.1 == name && !Text.isBlankText pair.2 <;> rfl

theorem isSlot : IsSlot token "token" ∧ IsSlot refreshToken "refresh_token" ∧
    IsSlot error "error" ∧ IsSlot errorDescription "error_description" := by
  refine ⟨?_, ?_, ?_, ?_⟩
  all_goals
    intro p pair
    unfold take
    split
    · simp [*]
    · split <;> simp_all

/-- **Collecting is looking up**: each slot ends with what is found under its name. -/
theorem collect_eq (pairs : List (String × String)) :
    collect pairs =
      ⟨CallbackResult.valueOf? pairs "token", CallbackResult.valueOf? pairs "refresh_token",
        CallbackResult.valueOf? pairs "error",
        CallbackResult.valueOf? pairs "error_description"⟩ := by
  obtain ⟨htoken, hrefresh, herror, hdescription⟩ := isSlot
  have htoken := htoken.foldl pairs empty
  have hrefresh := hrefresh.foldl pairs empty
  have herror := herror.foldl pairs empty
  have hdescription := hdescription.foldl pairs empty
  simp only [empty, Option.none_or] at htoken hrefresh herror hdescription
  rw [← htoken, ← hrefresh, ← herror, ← hdescription]
  rfl

end CallbackParameters

/-- What a URL says is what its pairs say, by what is found under each name. -/
theorem CallbackResult.ofUrl_eq (u : Url) :
    CallbackResult.ofUrl u = CallbackResult.ofPairs (u.queryPairs ++ u.fragmentPairs) := by
  rw [CallbackResult.ofUrl, CallbackParameters.collect_eq]
  rfl

namespace CallbackReceiver

/-- The values of a redirect, those of the query first. -/
def valuesOf (u : Url) : List (String × String) :=
  u.queryPairs ++ u.fragmentPairs

/-- A redirect from a trusted origin with a token that is not blank, and no error that is not. -/
structure BringsToken (r : CallbackReceiver) (event : CallbackEvent) (u : Url) : Prop where
  reads : urlOf? event.uri = some u
  trusted : r.trusts u = true
  token : ∃ p ∈ valuesOf u, p.1 = "token" ∧ Text.isBlankText p.2 = false
  noError : ∀ p ∈ valuesOf u, p.1 = "error" → Text.isBlankText p.2 = true

/-- What comes from a trusted origin is read, whatever the way it came. -/
theorem receive_of_trusted (transport : Transport) {uri : String} {u : Url}
    (hurl : urlOf? uri = some u) (htrust : r.trusts u = true) :
    r.receive ⟨transport, uri⟩ = (CallbackResult.ofUrl u).map some := by
  have hplain : r.isPlainNavigation uri = false := by simp [isPlainNavigation, hurl, htrust]
  rw [receive, if_neg (by simp [hplain]), parse, hurl]
  simp only [htrust, if_true]

theorem receive_eq_ok_iff {result : CallbackResult} :
    r.receive event = .ok (some result) ↔
      ∃ u, urlOf? event.uri = some u ∧ r.trusts u = true ∧
        CallbackResult.ofUrl u = .ok result := by
  unfold receive parse
  cases hurl : urlOf? event.uri with
  | none =>
    have hplain : r.isPlainNavigation event.uri = false := by simp [isPlainNavigation, hurl]
    simp [hplain, Except.map]
  | some u =>
    cases htrust : r.trusts u with
    | true =>
      have hplain : r.isPlainNavigation event.uri = false := by
        simp [isPlainNavigation, hurl, htrust]
      cases hresult : CallbackResult.ofUrl u with
      | ok found => simp [hplain, hresult, htrust, Except.map]
      | error e => simp [hplain, hresult, htrust, Except.map]
    | false =>
      split
      · simp [htrust]
      · simp [htrust, Except.map]

/-- **A redirect is read as tokens exactly if it brings one.** -/
theorem receive_eq_token_iff :
    (∃ access refresh, r.receive event = .ok (some (.token access refresh))) ↔
      ∃ u, r.BringsToken event u := by
  constructor
  · rintro ⟨access, refresh, h⟩
    obtain ⟨u, hreads, htrusted, hresult⟩ := receive_eq_ok_iff.1 h
    rw [CallbackResult.ofUrl_eq] at hresult
    obtain ⟨hnone, htoken, _⟩ := CallbackResult.ofPairs_eq_token_iff.1 hresult
    have hfound := CallbackResult.valueOf?_some htoken
    exact ⟨u, hreads, htrusted, ⟨_, hfound.1, rfl, hfound.2⟩,
      CallbackResult.valueOf?_eq_none_iff.1 hnone⟩
  · rintro ⟨u, hreads, htrusted, ⟨p, hp, hname, hblank⟩, hnone⟩
    cases htoken : CallbackResult.valueOf? (valuesOf u) "token" with
    | none =>
      have := CallbackResult.valueOf?_eq_none_iff.1 htoken p hp hname
      rw [hblank] at this
      cases this
    | some value =>
      have hvalue := (CallbackResult.valueOf?_some htoken).2
      exact ⟨⟨value, hvalue⟩, _, receive_eq_ok_iff.2 ⟨u, hreads, htrusted,
        (CallbackResult.ofUrl_eq u).trans (CallbackResult.ofPairs_eq_token_iff.2
          ⟨CallbackResult.valueOf?_eq_none_iff.2 hnone, htoken, rfl⟩)⟩⟩

/-- **What is refused is malformed, or comes from an origin that is not trusted.** -/
theorem receive_error {e : SessionError} (h : r.receive event = .error e) :
    e = .malformedCallback ∨ ∃ origin, e = .untrustedOrigin origin := by
  unfold receive parse at h
  split at h
  · cases h
  · cases hurl : urlOf? event.uri with
    | none =>
      simp only [hurl, Except.map, Except.error.injEq] at h
      exact Or.inl h.symm
    | some u =>
      simp only [hurl] at h
      split at h
      · cases hresult : CallbackResult.ofUrl u with
        | ok found => simp only [hresult, Except.map] at h; cases h
        | error refusal =>
          simp only [hresult, Except.map, Except.error.injEq] at h
          subst h
          exact Or.inl (CallbackResult.ofPairs_refused
            ((CallbackResult.ofUrl_eq u).symm.trans hresult))
      · simp only [Except.map, Except.error.injEq] at h
        exact Or.inr ⟨_, h.symm⟩

/-- What a pending login is told by a redirect: what a trusted one says, or that there is no URL.
Redirects to other places tell it nothing. -/
inductive Tells (r : CallbackReceiver) (event : CallbackEvent) :
    Except SessionError CallbackResult → Prop where
  | result {result : CallbackResult} (h : r.receive event = .ok (some result)) :
      Tells r event (.ok result)
  | malformed (h : r.receive event = .error .malformedCallback) :
      Tells r event (.error .malformedCallback)

theorem tells_of_trusted {u : Url} (hurl : urlOf? event.uri = some u) (htrust : r.trusts u = true) :
    ∃ result, r.Tells event result := by
  have hreceive := receive_of_trusted event.transport hurl htrust
  cases hresult : CallbackResult.ofUrl u with
  | ok found => exact ⟨_, .result (by rw [hreceive, hresult]; rfl)⟩
  | error e =>
    obtain rfl := CallbackResult.ofPairs_refused ((CallbackResult.ofUrl_eq u).symm.trans hresult)
    exact ⟨_, .malformed (by rw [hreceive, hresult]; rfl)⟩

end CallbackReceiver

end RedirectLogin
