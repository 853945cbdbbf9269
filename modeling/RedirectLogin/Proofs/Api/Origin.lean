import RedirectLogin.Api.Backend
import RedirectLogin.Proofs.Api.Interceptor
import RedirectLogin.Proofs.Url.Origin

/-!
# Where built URLs lead

The page a login starts on and the URLs of calls to the API are written by hand: slashes are taken
off the end of a configured text, a slash follows, and then whatever the caller names as a provider
or as a path. Whatever that is, the URL has the origin of the configured one, if it is a URL at all.
A redirect only adds to the query, and a request keeps the origin of its URL when it is sent, so a
call does not carry its token to another place than the configured one.

Principal results: `Url.parse_behind_slash` — texts written behind a slash do not move the origin;
`built_urls_keep_origin` — logins and calls lead to the configured origin.
-/

set_option autoImplicit false

namespace RedirectLogin

/-! ## Texts behind a slash -/

theorem Config.exists_end_slashes (text : String) :
    ∃ slashes, text.toList = (Config.withoutEndSlashes text).toList ++ slashes ∧
      ∀ c ∈ slashes, c = '/' := by
  obtain ⟨slashes, htext, hslashes, -⟩ :=
    Text.trimEndWhile_append_dropped (p := fun c => c = '/') text.toList
  refine ⟨slashes, ?_, fun c hc => of_decide_eq_true (hslashes c hc)⟩
  rw [Config.withoutEndSlashes, String.toList_ofList]
  exact htext.symm

namespace Url

variable {text : String} {u : Url}

/-- **What is written behind a slash does not move the origin.** -/
theorem parse_behind_slash (hparse : Url.parse text = .ok u) (hweb : u.isWeb = true)
    {built : String} {more : List Char}
    (hbuilt : built.toList = (Config.withoutEndSlashes text).toList ++ '/' :: more) :
    (∀ v, Url.parse built = .ok v → v.origin = u.origin) ∧
    ((∀ c ∈ text.toList.getLast?, 0x20 < c.toNat) → ∃ v, Url.parse built = .ok v) := by
  obtain ⟨slashes, htext, hslashes⟩ := Config.exists_end_slashes text
  rw [Url.parse, htext] at hparse
  obtain ⟨hsame, hreads⟩ := parseChars_behind_slash hslashes hparse hweb more
  rw [← htext] at hreads
  rw [Url.parse, hbuilt]
  refine ⟨fun v hv => ?_, hreads⟩
  obtain ⟨hscheme, hauthority⟩ := hsame v hv
  simp only [Url.origin, Url.host, Url.port, hscheme, hauthority]

/-- Neither do the pairs of a query. -/
theorem origin_addPair (u : Url) (name value : String) :
    (u.addPair name value).origin = u.origin := by
  obtain ⟨q, hq⟩ := addPair_query u name value
  rw [hq]
  rfl

end Url

/-! ## Logins, calls and requests -/

theorem Backend.loginUrl_origin {config : Config} {u : Url}
    (hparse : Url.parse config.backendUrl = .ok u) (hweb : u.isWeb = true) (provider : String)
    (redirect? : Option String) :
    (∀ v, (Backend.ofConfig config).loginUrl provider redirect? = .ok v → v.origin = u.origin) ∧
    ((∀ c ∈ config.backendUrl.toList.getLast?, 0x20 < c.toNat) →
      ∃ v, (Backend.ofConfig config).loginUrl provider redirect? = .ok v) := by
  have hbuilt : ((Backend.ofConfig config).root ++ "/oauth2/auth/" ++ provider).toList =
      (Config.withoutEndSlashes config.backendUrl).toList ++
        '/' :: ("oauth2/auth/".toList ++ provider.toList) := by
    rw [String.toList_append, String.toList_append, List.append_assoc]
    rfl
  obtain ⟨hsame, hreads⟩ := Url.parse_behind_slash hparse hweb hbuilt
  unfold Backend.loginUrl
  cases hpage : Url.parse ((Backend.ofConfig config).root ++ "/oauth2/auth/" ++ provider) with
  | error e =>
    refine ⟨nofun, fun hlast => ?_⟩
    obtain ⟨v, hv⟩ := hreads hlast
    rw [hpage] at hv
    cases hv
  | ok page =>
    cases redirect? with
    | none => exact ⟨fun v hv => Except.ok.inj hv ▸ hsame page hpage, fun _ => ⟨page, rfl⟩⟩
    | some redirect =>
      refine ⟨fun v hv => ?_, fun _ => ⟨_, rfl⟩⟩
      rw [← Except.ok.inj hv, Url.origin_addPair]
      exact hsame page hpage

theorem ApiClient.url_origin (api : ApiClient) {u : Url} (hparse : Url.parse api.baseUrl = .ok u)
    (hweb : u.isWeb = true) (path : String) :
    (∀ v, Url.parse (api.url path) = .ok v → v.origin = u.origin) ∧
    ((∀ c ∈ api.baseUrl.toList.getLast?, 0x20 < c.toNat) →
      ∃ v, Url.parse (api.url path) = .ok v) := by
  have hbuilt : (api.url path).toList =
      (Config.withoutEndSlashes api.baseUrl).toList ++
        '/' :: (withoutFrontSlashes path).toList := by
    rw [ApiClient.url, String.toList_append, String.toList_append, List.append_assoc]
    rfl
  exact Url.parse_behind_slash hparse hweb hbuilt

theorem Request.origin_withoutUserinfo (u : Url) : (withoutUserinfo u).origin = u.origin := by
  unfold withoutUserinfo
  split
  · rfl
  · rename_i a ha
    split
    · simp only [Url.origin, Url.host, Url.port, ha]
      rfl
    · rfl

/-- What is sent goes to the origin of the URL it names. -/
theorem Request.prepare_origin {sent : Request} {v : Url} (h : sent.prepare = .ok v) :
    ∃ u, Url.parse sent.url = .ok u ∧ v.origin = u.origin := by
  unfold Request.prepare at h
  split at h
  · cases h
  · rename_i u hparse
    refine ⟨u, hparse, ?_⟩
    split at h
    · cases h
    · split at h
      · cases h
      · dsimp only at h
        split at h
        · cases h
        · split at h
          · cases h
          · rw [← Except.ok.inj h, origin_withoutUserinfo]

/-- What a call sends is its request, with one token or another. -/
theorem ApiClient.exists_request_of_send (api : ApiClient) (method path : String)
    (body : Option String) (peer : Peer) {sent : Request} {reply : Reply}
    (hsend : .send sent reply ∈ ((api.execute method path body).play peer []).1) :
    ∃ token, sent = api.request method path body token := by
  obtain ⟨before, after, hsteps⟩ := List.append_of_mem hsend
  exact ⟨_, ((Call.execute_conforms api method path body).play peer).carries before hsteps⟩

/-- **Logins and calls lead to the configured origin.** -/
theorem built_urls_keep_origin (config : Config) :
    (∀ u, Url.parse config.backendUrl = .ok u → u.isWeb = true → ∀ provider redirect?,
      (∀ v, (Backend.ofConfig config).loginUrl provider redirect? = .ok v →
        v.origin = u.origin) ∧
      ((∀ c ∈ config.backendUrl.toList.getLast?, 0x20 < c.toNat) →
        ∃ v, (Backend.ofConfig config).loginUrl provider redirect? = .ok v)) ∧
    (∀ u, Url.parse (config.backendRoot ++ config.apiBasePath) = .ok u → u.isWeb = true →
      (∀ path,
        (∀ v, Url.parse ((ApiClient.ofConfig config).url path) = .ok v → v.origin = u.origin) ∧
        ((∀ c ∈ (config.backendRoot ++ config.apiBasePath).toList.getLast?, 0x20 < c.toNat) →
          ∃ v, Url.parse ((ApiClient.ofConfig config).url path) = .ok v)) ∧
      (∀ method path body peer sent reply v,
        .send sent reply ∈
          (((ApiClient.ofConfig config).execute method path body).play peer []).1 →
        sent.prepare = .ok v → v.origin = u.origin)) := by
  refine ⟨fun u hparse hweb => Backend.loginUrl_origin hparse hweb, fun u hparse hweb => ?_⟩
  have hurl : ∀ path, _ := fun path =>
    (ApiClient.ofConfig config).url_origin hparse hweb path
  refine ⟨hurl, fun method path body peer sent reply v hsend hv => ?_⟩
  obtain ⟨token, rfl⟩ := ApiClient.exists_request_of_send _ method path body peer hsend
  obtain ⟨w, hw, horigin⟩ := Request.prepare_origin hv
  rw [horigin]
  exact (hurl path).1 w hw

/-- Neither a provider nor a path gets away from a backend on this machine. -/
theorem built_urls_keep_origin_loopback :
    let config : Config :=
      { Config.default with backendUrl := "http://127.0.0.1:8080//", apiBasePath := "/api" }
    let here := ("http", some (Host.ipv4 2130706433), some 8080)
    (∃ v, (Backend.ofConfig config).loginUrl "../..//evil.example" (some "http://evil.example") =
      .ok v ∧ v.origin = here) ∧
    (∃ v, Url.parse ((ApiClient.ofConfig config).url "//@evil.example") = .ok v ∧
      v.origin = here) := by
  intro config here
  have hroot : config.backendRoot ++ config.apiBasePath = "http://127.0.0.1:8080/api" := by
    decide +kernel
  obtain ⟨kept, hbackend⟩ : ∃ kept, Url.parse "http://127.0.0.1:8080//" =
      .ok (Url.finish .web "http".toList (some (Url.loopbackAuthority 8080)) ('/' :: kept)) :=
    Url.parse_loopback (show 8080 ≤ 65535 by decide) ['/']
  obtain ⟨kept', hbase⟩ : ∃ kept, Url.parse "http://127.0.0.1:8080/api" =
      .ok (Url.finish .web "http".toList (some (Url.loopbackAuthority 8080)) ('/' :: kept)) :=
    Url.parse_loopback (show 8080 ≤ 65535 by decide) "api".toList
  obtain ⟨hlogin, hcall⟩ := built_urls_keep_origin config
  obtain ⟨hpage, hpageReads⟩ := hlogin _ hbackend rfl "../..//evil.example"
    (some "http://evil.example")
  rw [hroot] at hcall
  obtain ⟨hpath, hpathReads⟩ := (hcall _ hbase rfl).1 "//@evil.example"
  have hbackendEnd : ∀ c ∈ "http://127.0.0.1:8080//".toList.getLast?, 0x20 < c.toNat := by
    intro c hc
    rw [← Option.some.inj (show some '/' = some c from hc)]
    decide
  have hbaseEnd : ∀ c ∈ "http://127.0.0.1:8080/api".toList.getLast?, 0x20 < c.toNat := by
    intro c hc
    rw [← Option.some.inj (show some 'i' = some c from hc)]
    decide
  obtain ⟨page, hv⟩ := hpageReads hbackendEnd
  obtain ⟨target, hw⟩ := hpathReads hbaseEnd
  exact ⟨⟨page, hv, hpage page hv⟩, ⟨target, hw, hpath target hw⟩⟩

end RedirectLogin
