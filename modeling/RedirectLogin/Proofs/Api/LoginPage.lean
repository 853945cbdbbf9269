import RedirectLogin.Api.Backend
import RedirectLogin.Proofs.Url.Reading

/-!
# The page a login starts on

A login may ask the backend to send the browser to another place than the application's own scheme.
It does so with one more pair in the query of the page it starts on. The configured URL and the name
of the provider are glued together before they are read, so either of them may have brought a query
along, even one that ends in a separator or has nothing in it, and a fragment; the pair is read
behind whatever pairs stand there, and all else stays.

Principal results: `Url.queryPairs_addPair` — a pair that is added is read last;
`redirect_reaches_backend` — what a redirect changes of the page.
-/

set_option autoImplicit false

namespace RedirectLogin

namespace Url

/-- The pairs of a text that goes on behind an ampersand. -/
theorem parse_behind_ampersand (query form : String) :
    Form.parse (query ++ "&" ++ form) = Form.parse query ++ Form.parse form := by
  have hbytes : Text.bytes (query ++ "&" ++ form) =
      Text.bytes query ++ 38 :: Text.bytes form := by
    have hsign : Text.encode "&".toList = [38] := by decide
    rw [Text.bytes, String.toList_append, String.toList_append, Text.encode_append,
      Text.encode_append, hsign, List.append_assoc]
    rfl
  rw [Form.parse, hbytes, Form.parseBytes_append]
  rfl

/-- **A pair that is added is read last**, whatever the query is, and as it was written. -/
theorem queryPairs_addPair (u : Url) (name value : String) :
    (u.addPair name value).queryPairs = u.queryPairs ++ [(name, value)] := by
  have hpair : Form.parse (String.ofList (Form.writePair name value)) = [(name, value)] :=
    Form.parse_write [(name, value)]
  cases hquery : u.query with
  | none => simp only [addPair, queryPairs, hquery, Option.getD_some, Option.getD_none, hpair]; rfl
  | some query =>
    simp only [addPair, queryPairs, hquery, Option.getD_some]
    by_cases hempty : query.isEmpty = true
    · rw [if_pos hempty, hpair, String.isEmpty_iff.1 hempty]
      rfl
    · rw [if_neg hempty, parse_behind_ampersand, hpair]

/-- The text of a URL with one more pair: only what stands between path and fragment is new. -/
theorem text_addPair (u : Url) (name value : String) :
    ∃ query, (u.addPair name value).text =
      u.frontText ++ u.path ++ "?" ++ query ++ u.fragmentText := by
  obtain ⟨query, hquery⟩ := addPair_query u name value
  refine ⟨query, ?_⟩
  rw [hquery, text, queryText, ← String.append_assoc]
  rfl

end Url

/-- **The redirect reaches the backend intact.** Where a login has a page to start on, it has one
with any redirect as well: the decoded pairs of its query are those of the first page and then the
redirect, character by character, and scheme, authority (user information, host and port), path and
fragment are those of the first page. In its text the query is what changes, in front of the
fragment. A redirect makes no other page fail. -/
theorem redirect_reaches_backend (config : Config) (provider redirect : String) :
    let backend := Backend.ofConfig config
    (∀ u, backend.loginUrl provider none = .ok u →
      ∃ v, backend.loginUrl provider (some redirect) = .ok v ∧
        v.queryPairs = u.queryPairs ++ [("redirect_uri", redirect)] ∧
        v.scheme = u.scheme ∧ v.authority = u.authority ∧ v.path = u.path ∧
        v.fragment = u.fragment ∧
        ∃ query, v.text = u.frontText ++ u.path ++ "?" ++ query ++ u.fragmentText) ∧
    ∀ e, backend.loginUrl provider none = .error e →
      backend.loginUrl provider (some redirect) = .error e := by
  intro backend
  unfold Backend.loginUrl
  cases hpage : Url.parse (backend.root ++ "/oauth2/auth/" ++ provider) with
  | error e => exact ⟨nofun, fun _ h => h⟩
  | ok page =>
    refine ⟨fun u hu => ?_, nofun⟩
    obtain rfl := Except.ok.inj hu
    obtain ⟨query, hquery⟩ := page.addPair_query "redirect_uri" redirect
    have hpairs := page.queryPairs_addPair "redirect_uri" redirect
    have htext := page.text_addPair "redirect_uri" redirect
    refine ⟨page.addPair "redirect_uri" redirect, rfl, hpairs, ?_, ?_, ?_, ?_, htext⟩ <;> rw [hquery]

/-- A configured URL that ends in an ampersand, a provider with another question mark and a
fragment, and a redirect with parameters of its own. -/
theorem redirect_reaches_backend_behind_query :
    let config : Config :=
      { Config.default with backendUrl := "https://me:pw@api.example:8443/?next=%2Fhome&" }
    let redirect := "http://127.0.0.1:8080/callback?a=1&b=+%20#ü"
    let page : Url := ⟨"https", some ⟨"me", some "pw", some (.name "api.example"), some 8443⟩, "/",
      some "next=%2Fhome&/oauth2/auth/kakao?x", some "top"⟩
    (Backend.ofConfig config).loginUrl "kakao?x#top" none = .ok page ∧
      ∃ v, (Backend.ofConfig config).loginUrl "kakao?x#top" (some redirect) = .ok v ∧
        v.queryPairs =
          [("next", "/home"), ("/oauth2/auth/kakao?x", ""), ("redirect_uri", redirect)] ∧
        v.fragment = some "top" := by
  intro config redirect page
  have hpage : (Backend.ofConfig config).loginUrl "kakao?x#top" none = .ok page :=
    Url.eq_ok_of_toOption (by decide +kernel)
  have hold : page.queryPairs = [("next", "/home"), ("/oauth2/auth/kakao?x", "")] := by
    decide +kernel
  obtain ⟨v, hv, hpairs, -, -, -, hfragment, -⟩ :=
    (redirect_reaches_backend config "kakao?x#top" redirect).1 page hpage
  refine ⟨hpage, v, hv, ?_, hfragment⟩
  rw [hpairs, hold]
  rfl

end RedirectLogin
