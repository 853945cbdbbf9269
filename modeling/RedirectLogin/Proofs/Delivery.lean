import RedirectLogin.Config
import RedirectLogin.Loopback
import RedirectLogin.Proofs.Callback
import RedirectLogin.Proofs.Url.Reading

/-!
# What a redirect delivers

A redirect carries its values as a form, in the query or in the fragment, to a place that the login
may come back to. The way it comes makes no difference, nor does white space around it: what is read
is what was written. The URL reader has rules of its own for what it takes in, so this rests on the
characters that a form is written with: they pass through query and fragment as they are.

Principal results: `receive_redirect` — a redirect to a trusted place is read as the values it was
written with; `credentials_survive` — so credentials and errors arrive unchanged.
-/

set_option autoImplicit false

namespace RedirectLogin

/-- The part of a redirect that carries its values. -/
inductive Carrier where
  | query
  | fragment
  deriving DecidableEq, Repr

/-- What stands before the values. -/
def Carrier.mark : Carrier → Char
  | .query => '?'
  | .fragment => '#'

/-- A redirect to `target`. -/
def redirectText (target : String) (carrier : Carrier) (values : List (String × String)) : String :=
  target ++ String.ofList (carrier.mark :: Form.write values)

example : redirectText "authlink://auth" .query [("token", "a+b c"), ("refresh_token", "é=")] =
    "authlink://auth?token=a%2Bb+c&refresh_token=%C3%A9%3D" := by
  decide +kernel

/-- Where the application itself is redirected to. -/
def appTarget [Application] : String :=
  appScheme ++ "://" ++ callbackHost

/-- What a redirect with credentials carries. -/
def tokenValues (access : AccessToken) (refresh : Option RefreshToken) : List (String × String) :=
  ("token", access.value) :: (refresh.map fun r => ("refresh_token", r.value)).toList

/-- What a redirect with an error carries. -/
def errorValues (code : String) (description : Option String) : List (String × String) :=
  ("error", code) :: (description.map fun d => ("error_description", d)).toList

namespace CallbackReceiver

/-- Places to come back to that this receiver trusts: the application, and the listener on this
machine, whatever its port. -/
inductive ComesBackTo [Application] (r : CallbackReceiver) : String → Prop where
  | app (h : ∃ o ∈ r.allowList, equalFold o.scheme appScheme = true ∧
      equalFold o.host callbackHost = true) : ComesBackTo r appTarget
  | loopback (port : Nat) (hport : port ≤ 65535)
      (h : ∃ o ∈ r.allowList, equalFold o.scheme "http" = true ∧
        equalFold o.host "127.0.0.1" = true) : ComesBackTo r (Loopback.redirectUri port)

end CallbackReceiver

/-! ## The values of a redirect -/

namespace CallbackResult

variable {values : List (String × String)}

/-- Credentials are read from their values, in whatever order these stand. -/
theorem ofPairs_tokenValues {access : AccessToken} {refresh : Option RefreshToken}
    (h : values.Perm (tokenValues access refresh)) :
    ofPairs values = .ok (.token access refresh) := by
  refine ofPairs_eq_token_iff.2 ⟨valueOf?_of_absent (fun v hv => ?_), ?_, ?_⟩
  · have hmem := h.mem_iff.1 hv
    cases refresh <;> simp [tokenValues] at hmem
  · refine valueOf?_of_unique (h.mem_iff.2 List.mem_cons_self) access.nonblank (fun v hv => ?_)
    have hmem := h.mem_iff.1 hv
    cases refresh <;> simpa [tokenValues] using hmem
  · cases refresh with
    | none =>
      rw [valueOf?_of_absent (fun v hv => ?_), Option.bind_none]
      have hmem := h.mem_iff.1 hv
      simp [tokenValues] at hmem
    | some refresh =>
      have hfound : valueOf? values "refresh_token" = some refresh.value := by
        refine valueOf?_of_unique (h.mem_iff.2 (by simp [tokenValues])) refresh.nonblank
          (fun v hv => ?_)
        have hmem := h.mem_iff.1 hv
        simpa [tokenValues] using hmem
      rw [hfound, Option.bind_some, RefreshToken.ofString?_value]

/-- So is an error. -/
theorem ofPairs_errorValues {code : String} {description : Option String}
    (hcode : Text.isBlankText code = false)
    (hdescription : ∀ d, description = some d → Text.isBlankText d = false)
    (h : values.Perm (errorValues code description)) :
    ofPairs values = .ok (.error code description) := by
  have hfound : valueOf? values "error" = some code := by
    refine valueOf?_of_unique (h.mem_iff.2 List.mem_cons_self) hcode (fun v hv => ?_)
    have hmem := h.mem_iff.1 hv
    cases description <;> simpa [errorValues] using hmem
  rw [ofPairs_error hfound]
  cases description with
  | none =>
    rw [valueOf?_of_absent (fun v hv => ?_)]
    have hmem := h.mem_iff.1 hv
    simp [errorValues] at hmem
  | some d =>
    rw [valueOf?_of_unique (h.mem_iff.2 (by simp [errorValues])) (hdescription d rfl)
      (fun v hv => ?_)]
    have hmem := h.mem_iff.1 hv
    simpa [errorValues] using hmem

end CallbackResult

/-! ## The URL of a redirect -/

namespace Url

/-- Query and fragment are what is behind the path. -/
theorem valuesOf_finish (kind : SchemeKind) (scheme path : List Char) (authority : Option Authority)
    (hpath : ∀ c ∈ path, isPathChar c = true) (carrier : Carrier) (values : List (String × String)) :
    CallbackReceiver.valuesOf
      (finish kind scheme authority (path ++ carrier.mark :: Form.write values)) = values := by
  have hwritten : ∀ c ∈ Form.write values, Form.isWritten c = true :=
    fun c hc => Form.isWritten_of_mem hc
  have hmark : isPathChar carrier.mark = false := by cases carrier <;> decide
  have hbehind : (path ++ carrier.mark :: Form.write values).dropWhile isPathChar =
      carrier.mark :: Form.write values :=
    Text.dropWhile_run hpath (by rintro c cs ⟨⟩; exact hmark)
  have hnone : Form.parse (Option.getD none "") = [] := rfl
  rw [CallbackReceiver.valuesOf, queryPairs, fragmentPairs, finish, hbehind]
  cases carrier with
  | query =>
    simp only [Carrier.mark, readQueryFragment_query kind hwritten, Option.getD_some,
      Form.parse_write, hnone, List.append_nil]
  | fragment =>
    simp only [Carrier.mark, readQueryFragment_fragment kind hwritten, Option.getD_some,
      Form.parse_write, hnone, List.nil_append]

end Url

/-- A text is equal to itself in lower case. -/
theorem equalFold_lower {a b : String} (h : equalFold a b = true) :
    equalFold a (String.ofList (b.toList.map Domain.lowerAscii)) = true := by
  rw [equalFold, decide_eq_true_iff] at h ⊢
  rw [String.toList_ofList, Domain.map_lowerAscii, h]

namespace CallbackReceiver

variable {r : CallbackReceiver} {target before after : String}

theorem redirectUri_toList (port : Nat) :
    (Loopback.redirectUri port).toList =
      "http://127.0.0.1:".toList ++ Nat.toDigits 10 port ++ '/' :: "callback".toList := by
  show ("http://127.0.0.1:" ++ toString port ++ "/callback").toList = _
  rw [String.toList_append, String.toList_append, Nat.toString_eq_repr, Nat.toList_repr]
  rfl

theorem redirectUri_printable {port : Nat} {c : Char}
    (hc : c ∈ (Loopback.redirectUri port).toList) : 0x20 < c.toNat ∧ c.toNat < 0x7F := by
  rw [redirectUri_toList, List.mem_append, List.mem_append] at hc
  rcases hc with (hc | hc) | hc
  · exact Text.forall_mem hc (by decide)
  · have := Text.toNat_of_mem_toDigits hc
    omega
  · exact Text.forall_mem hc (by decide)

/-- Places to come back to are written without blanks. -/
theorem ComesBackTo.printable [Application] (h : r.ComesBackTo target) {c : Char}
    (hc : c ∈ target.toList) :
    0x20 < c.toNat ∧ c.toNat < 0x7F := by
  cases h with
  | app h =>
    rw [appTarget, String.toList_append, String.toList_append, List.mem_append,
      List.mem_append] at hc
    rcases hc with (hc | hc) | hc
    · exact Url.isSchemeChar_printable (List.all_eq_true.1 Application.isScheme c hc)
    · exact Text.forall_mem hc (by decide)
    · exact Text.forall_mem hc (by decide)
  | loopback port hport h => exact redirectUri_printable hc

/-- Values add no blanks to a redirect. -/
theorem redirectText_printable (h : ∀ c ∈ target.toList, 0x20 < c.toNat ∧ c.toNat < 0x7F)
    {carrier : Carrier} {values : List (String × String)} {c : Char}
    (hc : c ∈ (redirectText target carrier values).toList) : 0x20 < c.toNat ∧ c.toNat < 0x7F := by
  rw [redirectText, String.toList_append, String.toList_ofList, List.mem_append,
    List.mem_cons] at hc
  rcases hc with hc | rfl | hc
  · exact h c hc
  · cases carrier <;> decide
  · obtain ⟨hlow, hhigh, _⟩ := Form.of_isWritten (Form.isWritten_of_mem hc)
    exact ⟨hlow, hhigh⟩

/-- **A redirect to a trusted place is read as a trusted URL with the values it was written
with.** -/
theorem ComesBackTo.urlOf? [Application] (h : r.ComesBackTo target) (carrier : Carrier)
    (values : List (String × String)) (hbefore : Text.isBlankText before = true)
    (hafter : Text.isBlankText after = true) :
    ∃ u, urlOf? (before ++ redirectText target carrier values ++ after) = some u ∧
      r.trusts u = true ∧ valuesOf u = values := by
  have hprintable : ∀ c ∈ (redirectText target carrier values).toList,
      0x20 < c.toNat ∧ c.toNat < 0x7F :=
    fun c hc => redirectText_printable (fun _ => h.printable) hc
  have htext : Text.trim (before ++ redirectText target carrier values ++ after) =
      redirectText target carrier values := by
    have hne : (redirectText target carrier values).toList ≠ [] := by
      simp [redirectText]
    have hstay : ∀ c ∈ (redirectText target carrier values).toList, Text.isBlank c = false :=
      fun c hc => Text.isBlank_of_printable (hprintable c hc).1 (hprintable c hc).2
    rw [Text.trim, String.toList_append, String.toList_append,
      Text.trimWhile_around (Text.isBlankText_iff.1 hbefore) hne hstay
        (Text.isBlankText_iff.1 hafter), String.ofList_toList]
  have hclean : Url.clean (redirectText target carrier values).toList =
      target.toList ++ carrier.mark :: Form.write values := by
    rw [Url.clean_eq_self (fun c hc => (hprintable c hc).1), redirectText,
      String.toList_append, String.toList_ofList]
  have hmark : (!Url.endsAuthority .other carrier.mark) = false := by cases carrier <;> decide
  have htrusts : ∀ {u : Url} {o : AllowedOrigin} {host : String}, o ∈ r.allowList →
      u.hostText? = some host → equalFold o.scheme u.scheme = true → equalFold o.host host = true →
      r.trusts u = true :=
    fun ho hhost hscheme heq =>
      List.any_eq_true.2 ⟨_, ho, AllowedOrigin.covers_iff.2 ⟨_, hhost, hscheme, heq⟩⟩
  simp only [CallbackReceiver.urlOf?, htext, Url.parse?, Url.parse]
  cases h with
  | app h =>
    obtain ⟨o, ho, hscheme, hhost⟩ := h
    have hhost' : ∀ c ∈ callbackHost.toList, Url.isLetter c = true :=
      fun _ hc => Text.forall_mem hc (by decide)
    have happ : appTarget.toList ++ carrier.mark :: Form.write values =
        appScheme.toList ++ ':' :: '/' :: '/' ::
          (callbackHost.toList ++ carrier.mark :: Form.write values) := by
      rw [appTarget, String.toList_append, String.toList_append, List.append_assoc,
        List.append_assoc]
      rfl
    have hparse := Url.parseChars_name appScheme.toList callbackHost.toList
      (carrier.mark :: Form.write values) Application.startsWithLetter
      (List.all_eq_true.1 Application.isScheme) Application.isPlain (by decide) hhost'
      (by rintro c cs ⟨⟩; exact hmark) (hclean.trans happ)
    rw [hparse]
    exact ⟨_, rfl, htrusts ho rfl (equalFold_lower hscheme) hhost,
      Url.valuesOf_finish .other _ [] _ (by simp) carrier values⟩
  | loopback port hport h =>
    obtain ⟨o, ho, hscheme, hhost⟩ := h
    rw [redirectUri_toList, List.append_assoc, List.cons_append] at hclean
    have hpath : ∀ c ∈ "/callback".toList, Url.isPathChar c = true :=
      fun _ hc => Text.forall_mem hc (by decide)
    have hparse := Url.parseChars_loopback hport hclean
    rw [hparse]
    exact ⟨_, rfl, htrusts ho rfl hscheme hhost,
      Url.valuesOf_finish .web _ "/callback".toList _ hpath carrier values⟩

/-- **Whatever the way it comes, a redirect to a trusted place is read as what it carries.** -/
theorem ComesBackTo.receive [Application] (h : r.ComesBackTo target) (transport : Transport)
    (carrier : Carrier) (values : List (String × String)) (hbefore : Text.isBlankText before = true)
    (hafter : Text.isBlankText after = true) :
    r.receive ⟨transport, before ++ redirectText target carrier values ++ after⟩ =
      (CallbackResult.ofPairs values).map some := by
  obtain ⟨u, hurl, htrusts, hvalues⟩ := h.urlOf? carrier values hbefore hafter
  rw [receive_of_trusted transport hurl htrusts, CallbackResult.ofUrl_eq, ← valuesOf, hvalues]

/-- **Credentials and errors arrive unchanged.** A redirect to a place that the login may come back
to carries them in its query or in its fragment, in any order. Whatever characters they have, however
the redirect comes and whatever white space is around it, exactly they are read. -/
theorem credentials_survive [Application] (h : r.ComesBackTo target) (transport : Transport)
    (carrier : Carrier) (hbefore : Text.isBlankText before = true)
    (hafter : Text.isBlankText after = true) :
    (∀ access refresh values, values.Perm (tokenValues access refresh) →
      r.receive ⟨transport, before ++ redirectText target carrier values ++ after⟩ =
        .ok (some (.token access refresh))) ∧
    ∀ code description values, Text.isBlankText code = false →
      (∀ d, description = some d → Text.isBlankText d = false) →
      values.Perm (errorValues code description) →
      r.receive ⟨transport, before ++ redirectText target carrier values ++ after⟩ =
        .ok (some (.error code description)) := by
  constructor
  · intro access refresh values hvalues
    rw [h.receive transport carrier values hbefore hafter,
      CallbackResult.ofPairs_tokenValues hvalues]
    rfl
  · intro code description values hcode hdescription hvalues
    rw [h.receive transport carrier values hbefore hafter,
      CallbackResult.ofPairs_errorValues hcode hdescription hvalues]
    rfl

/-- Credentials that look like a form themselves, and an error in another script, come back to a
listener on the port of the web. -/
theorem form_like_credentials_survive :
    let r : CallbackReceiver := ⟨Config.default.trustLoopback.allowList⟩
    let access : AccessToken := ⟨"a+b&token=c#%2B é😀\n", by decide⟩
    let refresh : RefreshToken := ⟨" r?1\\", by decide⟩
    let target := Loopback.redirectUri 80
    r.ComesBackTo target ∧
      r.receive ⟨.navigation, "\u3000\r\n" ++ redirectText target .fragment
          [("refresh_token", refresh.value), ("token", access.value)] ++ "\u2028\t"⟩ =
        .ok (some (.token access (some refresh))) ∧
      r.receive ⟨.navigation, "\u3000\r\n" ++ redirectText target .fragment
          [("error", "거부됨"), ("error_description", "100% = no")] ++ "\u2028\t"⟩ =
        .ok (some (.error "거부됨" (some "100% = no"))) := by
  intro r access refresh target
  have htarget : r.ComesBackTo target :=
    .loopback 80 (by decide) ⟨Config.loopbackOrigin, by decide, by decide, by decide⟩
  have hbefore : Text.isBlankText "\u3000\r\n" = true := by decide
  have hafter : Text.isBlankText "\u2028\t" = true := by decide
  obtain ⟨htokens, herrors⟩ := credentials_survive htarget .navigation .fragment hbefore hafter
  refine ⟨htarget, htokens access (some refresh) _ (List.Perm.swap _ _ _), ?_⟩
  exact herrors "거부됨" (some "100% = no") _ (by decide) (by rintro d ⟨⟩; decide) (.refl _)

end CallbackReceiver

end RedirectLogin
