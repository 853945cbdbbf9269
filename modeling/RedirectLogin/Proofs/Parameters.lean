import RedirectLogin.Proofs.Delivery

/-!
# What counts in a redirect

A redirect says something through four names. Under each of them the first value that is not blank
counts, the query being read before the fragment, and nothing else does: not a blank value, not a
name that is spelled in another way, not a second value. An error counts before a token, so where
there is one the token and its refresh token may be there or not.

Principal results: `ofPairs_of_counts`, `ofPairs_of_error` — pairs that do not count may stand
anywhere; `first_values_decide` — what a redirect from a trusted origin is read as.
-/

set_option autoImplicit false

namespace RedirectLogin

namespace CallbackResult

variable {pairs others : List (String × String)}

/-- The names that mean something. -/
def knownNames : List String :=
  ["token", "refresh_token", "error", "error_description"]

/-- Those of them that mean something beside an error. -/
def errorNames : List String :=
  ["error", "error_description"]

/-- A pair counts if its name is one of these, letter by letter, and its value is not blank. -/
def counts (names : List String) (pair : String × String) : Bool :=
  names.contains pair.1 && !Text.isBlankText pair.2

/-- What is found under a name is among the pairs that count. -/
theorem valueOf?_filter {names : List String} {name : String} (hname : name ∈ names)
    (pairs : List (String × String)) :
    valueOf? (pairs.filter (counts names)) name = valueOf? pairs name := by
  have hsame : ∀ p : String × String,
      decide (counts names p = true ∧ (p.1 == name && !Text.isBlankText p.2) = true) =
        (p.1 == name && !Text.isBlankText p.2) := by
    intro p
    by_cases hp : p.1 = name
    · subst hp
      simp [counts, hname]
    · simp [hp]
  rw [valueOf?, valueOf?, List.find?_filter]
  simp only [hsame]

/-- So pairs of which the same count have the same values. -/
theorem valueOf?_of_counts {names : List String} {name : String} (hname : name ∈ names)
    (h : others.filter (counts names) = pairs.filter (counts names)) :
    valueOf? others name = valueOf? pairs name := by
  rw [← valueOf?_filter hname others, h, valueOf?_filter hname]

/-- **Pairs that do not count change nothing**, wherever they stand and however many they are. -/
theorem ofPairs_of_counts
    (h : others.filter (counts knownNames) = pairs.filter (counts knownNames)) :
    ofPairs others = ofPairs pairs := by
  have hsame : ∀ name ∈ knownNames, valueOf? others name = valueOf? pairs name :=
    fun name hname => valueOf?_of_counts hname h
  simp only [ofPairs, hsame "error" (by decide), hsame "error_description" (by decide),
    hsame "token" (by decide), hsame "refresh_token" (by decide)]

/-- **Beside an error no token counts.** -/
theorem ofPairs_of_error {code : String} (herror : valueOf? pairs "error" = some code)
    (h : others.filter (counts errorNames) = pairs.filter (counts errorNames)) :
    ofPairs others = ofPairs pairs := by
  have hcode : valueOf? others "error" = some code :=
    (valueOf?_of_counts (by decide) h).trans herror
  have hdescription : valueOf? others "error_description" = valueOf? pairs "error_description" :=
    valueOf?_of_counts (by decide) h
  rw [ofPairs_error herror, ofPairs_error hcode, hdescription]

/-- A token that is found is not blank, and neither is its refresh token. -/
theorem ofPairs_of_token {value : String} (hnone : valueOf? pairs "error" = none)
    (htoken : valueOf? pairs "token" = some value) :
    ∃ access refresh, ofPairs pairs = .ok (.token access refresh) ∧ access.value = value ∧
      refresh.map RefreshToken.value = valueOf? pairs "refresh_token" := by
  refine ⟨⟨value, (valueOf?_some htoken).2⟩, _,
    ofPairs_eq_token_iff.2 ⟨hnone, htoken, rfl⟩, rfl, ?_⟩
  cases hrefresh : valueOf? pairs "refresh_token" with
  | none => rfl
  | some other =>
    simp [RefreshToken.ofString?, (valueOf?_some hrefresh).2]

end CallbackResult

namespace CallbackReceiver

variable {r : CallbackReceiver} {uri : String} {u : Url}

open CallbackResult (valueOf? counts knownNames errorNames)

/-- A redirect from a trusted origin says what its values say. -/
theorem parse_of_trusted (hurl : urlOf? uri = some u) (htrusts : r.trusts u = true) :
    r.parse uri = CallbackResult.ofPairs (valuesOf u) := by
  rw [parse, hurl]
  simp only [htrusts, if_true]
  exact CallbackResult.ofUrl_eq u

/-- **The first values that are not blank decide what a redirect is read as**, and an error is never
masked. It is read as an error if there is one under that name, else as a token if there is one,
else refused. Another trusted redirect is read as the same if the same pairs count in it, or, where
there is an error, if the same pairs with an error's names do. -/
theorem first_values_decide (hurl : urlOf? uri = some u) (htrusts : r.trusts u = true) :
    (∀ code, valueOf? (valuesOf u) "error" = some code →
      r.parse uri = .ok (.error code (valueOf? (valuesOf u) "error_description"))) ∧
    (∀ value, valueOf? (valuesOf u) "error" = none → valueOf? (valuesOf u) "token" = some value →
      ∃ access refresh, r.parse uri = .ok (.token access refresh) ∧ access.value = value ∧
        refresh.map RefreshToken.value = valueOf? (valuesOf u) "refresh_token") ∧
    (valueOf? (valuesOf u) "error" = none → valueOf? (valuesOf u) "token" = none →
      r.parse uri = .error .malformedCallback) ∧
    ∀ other w, urlOf? other = some w → r.trusts w = true →
      ((valuesOf w).filter (counts knownNames) = (valuesOf u).filter (counts knownNames) →
        r.parse other = r.parse uri) ∧
      ∀ code, valueOf? (valuesOf u) "error" = some code →
        (valuesOf w).filter (counts errorNames) = (valuesOf u).filter (counts errorNames) →
          r.parse other = r.parse uri := by
  rw [parse_of_trusted hurl htrusts]
  refine ⟨fun code => CallbackResult.ofPairs_error, fun value => CallbackResult.ofPairs_of_token,
    fun hnone hmissing => ?_, fun other w hother hw => ?_⟩
  · rw [CallbackResult.ofPairs, hnone, hmissing]
    rfl
  · rw [parse_of_trusted hother hw]
    exact ⟨CallbackResult.ofPairs_of_counts, fun code => CallbackResult.ofPairs_of_error⟩

/-- A token put before an error, an error in capitals, a blank one and a second one do not make
anything else of a refusal. -/
theorem refusal_stays_refusal :
    let r : CallbackReceiver := ⟨Config.default.allowList⟩
    let plain := [("error", "access_denied"), ("error_description", "No")]
    let noisy := [("token", "evil"), ("ERROR", "none"), ("error", " "), ("error", "access_denied"),
      ("refresh_token", "r"), ("error", "2"), ("error_description", "No")]
    r.parse (" " ++ redirectText appTarget .query plain ++ "") =
        .ok (.error "access_denied" (some "No")) ∧
      r.parse (" " ++ redirectText appTarget .fragment noisy ++ "") =
        .ok (.error "access_denied" (some "No")) := by
  intro r plain noisy
  have htarget : r.ComesBackTo appTarget := .app (by decide)
  have hbefore : Text.isBlankText " " = true := by decide
  have hafter : Text.isBlankText "" = true := by decide
  obtain ⟨u, hurl, htrusts, hvalues⟩ := htarget.urlOf? .query plain hbefore hafter
  obtain ⟨w, hother, hw, hnoisy⟩ := htarget.urlOf? .fragment noisy hbefore hafter
  obtain ⟨herror, -⟩ := first_values_decide hurl htrusts
  obtain ⟨herrorNoisy, -⟩ := first_values_decide hother hw
  rw [hvalues] at herror
  rw [hnoisy] at herrorNoisy
  exact ⟨herror "access_denied" (by decide), herrorNoisy "access_denied" (by decide)⟩

end CallbackReceiver

end RedirectLogin
