import RedirectLogin.Loopback
import RedirectLogin.Proofs.Coordinator.Lifecycle
import RedirectLogin.Proofs.Delivery
import RedirectLogin.Proofs.RequestHead
import RedirectLogin.Proofs.Trust

/-!
# A login through the listener

The way of a redirect that a browser follows to this machine, from the bytes of a request to the
session. The listener finds the target in the request's first line, whatever header lines come with
it; the target is put behind the listener's origin; and what is read of the URL that results is what
the target carries. However a target is made up, it is written behind the origin and a slash, so it
has no say in scheme and host.

Principal results: `readTarget_requestHead` — the target of a request that fits the limit;
`urlOf?_event` — a callback's URL is one of the listener's; `login_through_listener` — from the
request to the stored credentials, and no callback is turned away for its origin.
-/

set_option autoImplicit false

namespace RedirectLogin

/-! ## Lines -/

namespace Loopback

variable {line : List Char}

theorem encode_line (line : List Char) (rest : List UInt8) :
    Text.encode (line ++ ['\n']) ++ rest = Text.encode line ++ 10 :: rest := by
  have hnewline : Text.encode ['\n'] = [10] := by decide
  rw [Text.encode_append, hnewline, List.append_assoc, List.singleton_append]

/-- A line ends at its newline, and no other character has the newline among its bytes. -/
theorem splitLine_encode (h : '\n' ∉ line) (rest : List UInt8) :
    splitLine (Text.encode (line ++ ['\n']) ++ rest) = (Text.encode (line ++ ['\n']), rest) := by
  have hbytes : 10 ∉ Text.encode line := fun hmem => h (newline_mem_iff.2 hmem)
  have hend := encode_line line []
  rw [List.append_nil] at hend
  rw [encode_line, splitLine_run hbytes, hend]

theorem readLine_encode (h : '\n' ∉ line) (rest : List UInt8) :
    readLine (Text.encode (line ++ ['\n']) ++ rest) = .ok (line ++ ['\n']) := by
  rw [readLine, splitLine_encode h, Text.decode?_encode]

/-- A header line is taken off the front; a blank one ends the headers. -/
theorem skipHeaders_encode (h : '\n' ∉ line) (rest : List UInt8) :
    skipHeaders (Text.encode (line ++ ['\n']) ++ rest) =
      if line.all Text.isBlank then .ok () else skipHeaders rest := by
  have hblank : (line ++ ['\n']).all Text.isBlank = line.all Text.isBlank := by
    rw [List.all_append, show ['\n'].all Text.isBlank = true by decide, Bool.and_true]
  have hne : Text.encode (line ++ ['\n']) ++ rest ≠ [] := by
    rw [encode_line]
    exact List.append_ne_nil_of_right_ne_nil _ (List.cons_ne_nil 10 rest)
  rw [skipHeaders_eq hne, splitLine_encode h]
  simp only [Text.decode?_encode, hblank]

/-! ## The request -/

/-- A request for `target` as a browser sends it, with its header lines and the blank line behind
them. -/
def requestHead (target : String) (headers : List String) : List UInt8 :=
  Text.bytes ("GET " ++ target ++ " HTTP/1.1\r\n") ++
    headers.flatMap (fun line => Text.bytes (line ++ "\r\n")) ++ Text.bytes "\r\n"

theorem bytes_line (line : String) :
    Text.bytes (line ++ "\r\n") = Text.encode (line.toList ++ ['\r'] ++ ['\n']) := by
  simp [Text.bytes, String.toList_append]

theorem newline_not_mem {line : List Char} (h : '\n' ∉ line) : '\n' ∉ line ++ ['\r'] := by
  simp [h]

/-- Whatever the header lines are, reading them ends at a blank line, the last one at the latest. -/
theorem skipHeaders_lines {headers : List String} (h : ∀ line ∈ headers, '\n' ∉ line.toList)
    (more : List UInt8) :
    skipHeaders (headers.flatMap (fun line => Text.bytes (line ++ "\r\n")) ++
      (Text.bytes "\r\n" ++ more)) = .ok () := by
  induction headers with
  | nil =>
    have hend : Text.bytes "\r\n" = Text.encode (['\r'] ++ ['\n']) := by decide
    rw [List.flatMap_nil, List.nil_append, hend, skipHeaders_encode (by decide),
      if_pos (by decide)]
  | cons line headers ih =>
    rw [List.flatMap_cons, List.append_assoc, bytes_line,
      skipHeaders_encode (newline_not_mem (h line List.mem_cons_self)),
      ih (fun d hd => h d (List.mem_cons_of_mem _ hd)), ite_self]

/-- The second word of a request line is what it asks for. -/
theorem targetOf?_line {target : String} (hne : target ≠ "")
    (hword : ∀ c ∈ target.toList, Text.isBlank c = false) (rest : List Char) :
    targetOf? ("GET ".toList ++ target.toList ++ ' ' :: rest) = some target := by
  have hverb : "GET ".toList ++ target.toList ++ ' ' :: rest =
      "GET".toList ++ ' ' :: (target.toList ++ ' ' :: rest) := by
    simp
  have hsome : target.toList ≠ [] := fun h => hne (String.toList_inj.1 h)
  have hwords : Text.words ("GET ".toList ++ target.toList ++ ' ' :: rest) =
      "GET".toList :: target.toList :: Text.words (' ' :: rest) := by
    rw [hverb, Text.words_cons (by decide) (fun _ hc => Text.forall_mem hc (by decide)) (by decide),
      Text.words_blank (by decide), Text.words_cons hsome hword (by decide)]
  simp only [targetOf?, hwords, if_true, String.ofList_toList]

/-- **The target of a request that fits the limit is found**, whatever header lines there are and
whatever comes behind the request. -/
theorem readTarget_requestHead {target : String} {headers : List String} (hne : target ≠ "")
    (hword : ∀ c ∈ target.toList, Text.isBlank c = false)
    (hheaders : ∀ line ∈ headers, '\n' ∉ line.toList)
    (hfits : (requestHead target headers).length ≤ headLimit) (more : List UInt8) :
    readTarget (requestHead target headers ++ more) = .ok (some target) := by
  let line := "GET ".toList ++ target.toList ++ ' ' :: "HTTP/1.1\r".toList
  have hline : '\n' ∉ line := by
    have htarget : '\n' ∉ target.toList := fun h => absurd (hword _ h) (by decide)
    simp [line, htarget]
  have hfirst : Text.bytes ("GET " ++ target ++ " HTTP/1.1\r\n") = Text.encode (line ++ ['\n']) := by
    simp [Text.bytes, line, String.toList_append]
  have hhead : (requestHead target headers ++ more).take headLimit =
      Text.encode (line ++ ['\n']) ++
        (headers.flatMap (fun line => Text.bytes (line ++ "\r\n")) ++
          (Text.bytes "\r\n" ++ more.take (headLimit - (requestHead target headers).length))) := by
    rw [List.take_append, List.take_of_length_le hfits]
    simp only [requestHead, hfirst, List.append_assoc]
  have htarget : targetOf? (line ++ ['\n']) = some target := by
    have hwords := targetOf?_line hne hword ("HTTP/1.1\r".toList ++ ['\n'])
    simpa only [line, List.append_assoc, List.cons_append] using hwords
  simp only [readTarget, hhead, readLine_encode hline, splitLine_encode hline,
    skipHeaders_lines hheaders, bind, Except.bind, htarget]
  rw [if_neg (by simp)]

end Loopback

/-! ## The URL of a callback -/

namespace Loopback

variable {port : Nat} {target : String}

/-- The listener is a place to come back to once it is trusted. -/
theorem comesBackTo [Application] (config : Config) (hport : port ≤ 65535) :
    CallbackReceiver.ComesBackTo ⟨config.trustLoopback.allowList⟩ (redirectUri port) :=
  .loopback port hport ⟨Config.loopbackOrigin, config.loopbackOrigin_mem, by decide, by decide⟩

/-- A browser that follows a redirect to the listener asks for the callback's path. -/
theorem isCallback_redirect (values : List (String × String)) :
    isCallback (redirectText callbackPath .query values) = true := by
  rw [isCallback, List.isPrefixOf_iff_prefix]
  exact ⟨_, (String.toList_append ..).symm⟩

/-- **The target of such a redirect is found in the request for it.** -/
theorem readTarget_redirect (values : List (String × String)) {headers : List String}
    (hheaders : ∀ line ∈ headers, '\n' ∉ line.toList)
    (hfits : (requestHead (redirectText callbackPath .query values) headers).length ≤ headLimit)
    (more : List UInt8) :
    readTarget (requestHead (redirectText callbackPath .query values) headers ++ more) =
      .ok (some (redirectText callbackPath .query values)) := by
  have hne : redirectText callbackPath .query values ≠ "" := fun h =>
    absurd (isCallback_redirect values) (by rw [h]; decide)
  refine readTarget_requestHead hne (fun c hc => ?_) hheaders hfits more
  have hpath : ∀ c ∈ callbackPath.toList, 0x20 < c.toNat ∧ c.toNat < 0x7F :=
    fun _ hc => Text.forall_mem hc (by decide)
  obtain ⟨hlow, hhigh⟩ := CallbackReceiver.redirectText_printable hpath hc
  exact Text.isBlank_of_printable hlow hhigh

/-- What the listener hands over is the redirect itself, and is read as what it carries. -/
theorem receive_redirect [Application] {r : CallbackReceiver}
    (htrusted : r.ComesBackTo (redirectUri port)) {access : AccessToken}
    {refresh : Option RefreshToken} {values : List (String × String)}
    (hvalues : values.Perm (tokenValues access refresh)) :
    r.receive (event port (redirectText callbackPath .query values)) =
      .ok (some (.token access refresh)) := by
  have huri : (event port (redirectText callbackPath .query values)).uri =
      "" ++ redirectText (redirectUri port) .query values ++ "" := by
    rw [String.empty_append, String.append_empty]
    exact (String.append_assoc ..).symm
  have hempty : Text.isBlankText "" = true := rfl
  have hreceive := htrusted.receive .loopback .query values hempty hempty
  rw [← huri, CallbackResult.ofPairs_tokenValues hvalues] at hreceive
  exact hreceive

theorem event_uri (port : Nat) {rest : List Char} (h : callbackPath.toList ++ rest = target.toList) :
    (event port target).uri = redirectUri port ++ String.ofList rest := by
  have htarget : target = callbackPath ++ String.ofList rest := by
    rw [← String.toList_inj, ← h, String.toList_append, String.toList_ofList]
  rw [htarget]
  exact (String.append_assoc ..).symm

/-- **A callback's URL is one of the listener's**, however its target goes on: with an at sign, with
dots, with backslashes or with anything else. -/
theorem urlOf?_event (hport : port ≤ 65535) (h : isCallback target = true) :
    ∃ u, CallbackReceiver.urlOf? (event port target).uri = some u ∧ u.scheme = "http" ∧
      u.hostText? = some "127.0.0.1" := by
  obtain ⟨rest, hrest⟩ := List.isPrefixOf_iff_prefix.1 h
  have hstay : ∀ c ∈ (redirectUri port).toList, Text.isBlank c = false := by
    intro c hc
    obtain ⟨hlow, hhigh⟩ := CallbackReceiver.redirectUri_printable hc
    exact Text.isBlank_of_printable hlow hhigh
  have hne : (redirectUri port).toList ≠ [] := by simp [CallbackReceiver.redirectUri_toList]
  -- Trimming stops at the origin, which is then read before anything behind it.
  have htrim : (Text.trim (event port target).uri).toList =
      "http://127.0.0.1:".toList ++ Nat.toDigits 10 port ++
        '/' :: ("callback".toList ++ Text.trimEndWhile Text.isBlank rest) := by
    rw [Text.trim, String.toList_ofList, event_uri port hrest, String.toList_append,
      String.toList_ofList, Text.trimWhile_front hne hstay,
      CallbackReceiver.redirectUri_toList]
    simp only [List.append_assoc, List.cons_append]
  obtain ⟨kept, hparse⟩ := Url.parse_loopback hport
    ("callback".toList ++ Text.trimEndWhile Text.isBlank rest)
  rw [CallbackReceiver.urlOf?, Url.parse?, Url.parse, htrim, hparse]
  exact ⟨_, rfl, rfl, rfl⟩

/-- A callback is not turned away for its origin once the listener is trusted. -/
theorem tells_event [Application] (config : Config) (hport : port ≤ 65535)
    (h : isCallback target = true) : ∃ result,
      CallbackReceiver.Tells ⟨config.trustLoopback.allowList⟩ (event port target) result := by
  obtain ⟨u, hurl, hscheme, hhost⟩ := urlOf?_event hport h
  refine CallbackReceiver.tells_of_trusted hurl (List.any_eq_true.2
    ⟨Config.loopbackOrigin, config.loopbackOrigin_mem,
      AllowedOrigin.covers_iff.2 ⟨_, hhost, ?_, by decide⟩⟩)
  rw [hscheme]
  decide

end Loopback

/-! ## The login -/

namespace Coordinator

variable {σ : Type} {c : Coordinator σ}

/-- What a login is told is never answered with a refusal of the origin. -/
theorem consume_ne_untrusted {event : CallbackEvent} {result : Except SessionError CallbackResult}
    (htells : c.receiver.Tells event result) (now : Timestamp) (s : State σ) (origin : String) :
    (c.consume result now s).1 ≠ .error (.untrustedOrigin origin) := by
  intro h
  rcases consume_eq c result now s with ⟨login, _, _, heq⟩ | ⟨_, heq⟩
  · rw [heq] at h
    cases htells with
    | malformed _ => cases h
    | @result found _ =>
      cases found with
      | error code description => cases h
      | token access refresh =>
        simp only [finishLogin, keepTokens] at h
        split at h
        · cases h
        · rename_i e stored hsave
          obtain ⟨e', _, rfl⟩ := attemptTwice_fails hsave
          cases h
  · rw [heq] at h
    cases h

/-- Credentials that a pending login is told are kept, unless the store fails twice. -/
theorem handleCallback_token {content : σ → Option TokenSet} (hregister : c.store.IsRegister content)
    {event : CallbackEvent} {access : AccessToken} {refresh : Option RefreshToken}
    (hreceive : c.receiver.receive event = .ok (some (.token access refresh)))
    {now : Timestamp} {s : State σ} {login : PendingLogin}
    (hpending : s.session = .loginPending login)
    (hgood : login.isStale now c.loginTimeout = false)
    (hworks : ∀ e, ¬ FailsTwice (c.store.save ⟨access, refresh, now⟩) s.stored e) :
    ∃ stored, c.handleCallback event now s =
        (.ok .authenticated, ⟨.authenticated ⟨access, refresh, now⟩, stored⟩) ∧
      content stored = some ⟨access, refresh, now⟩ := by
  rw [handleCallback_of_tells (.result hreceive), consume_of_good _ hpending hgood]
  obtain ⟨stored, hsave⟩ := attemptTwice_works hworks
  refine ⟨stored, ?_, hregister.saved hsave⟩
  simp only [finishLogin, keepTokens, hsave]
  rfl

end Coordinator

namespace Loopback

variable {σ : Type}

/-- **A login comes through the listener.** A browser that follows a redirect with credentials asks
for the callback's path with the credentials in the query. If the request fits the limit, whatever
its header lines and whatever is behind it, its target is found, the listener hands over the URL made
of it, and a pending login ends authenticated with these credentials, which the store then holds.
Moreover no callback, whatever its target is made up of, is read as a URL of another scheme or host
or turned away for its origin. -/
theorem login_through_listener [Application] (config : Config) {store : TokenStore σ}
    {content : σ → Option TokenSet} (hregister : store.IsRegister content) {port : Nat}
    (hport : port ≤ 65535) :
    let c := Coordinator.ofConfig config.trustLoopback store
    (∀ access refresh values headers more,
      values.Perm (tokenValues access refresh) → (∀ line ∈ headers, '\n' ∉ line.toList) →
      let target := redirectText callbackPath .query values
      let stream := requestHead target headers ++ more
      (requestHead target headers).length ≤ headLimit →
        readTarget stream = .ok (some target) ∧
        (∀ later, waitForCallback port (stream :: later) = .ok (event port target)) ∧
        ∀ now s login, s.session = .loginPending login →
          login.isStale now c.loginTimeout = false →
          (∀ e, ¬ Coordinator.FailsTwice (store.save ⟨access, refresh, now⟩) s.stored e) →
            ∃ stored, c.handleCallback (event port target) now s =
                (.ok .authenticated, ⟨.authenticated ⟨access, refresh, now⟩, stored⟩) ∧
              content stored = some ⟨access, refresh, now⟩) ∧
    ∀ target, isCallback target = true →
      (∃ u, CallbackReceiver.urlOf? (event port target).uri = some u ∧ u.scheme = "http" ∧
        u.hostText? = some "127.0.0.1") ∧
      ∀ origin, c.receiver.receive (event port target) ≠ .error (.untrustedOrigin origin) ∧
        ∀ now s, (c.handleCallback (event port target) now s).1 ≠
          .error (.untrustedOrigin origin) := by
  intro c
  constructor
  · intro access refresh values headers more hvalues hheaders target stream hfits
    have htarget : readTarget stream = .ok (some target) :=
      readTarget_redirect values hheaders hfits more
    have hserved : Served.ofStream stream = .callback target := by
      simp only [Served.ofStream, htarget, target, isCallback_redirect values, if_true]
    refine ⟨htarget, fun later => ?_, fun now s login hpending hgood hworks => ?_⟩
    · simp only [waitForCallback, List.findSome?_cons, hserved, Served.target?]
    · refine Coordinator.handleCallback_token hregister ?_ hpending hgood hworks
      exact receive_redirect (comesBackTo config hport) hvalues
  · intro target hcallback
    obtain ⟨result, htells⟩ := tells_event config hport hcallback
    refine ⟨urlOf?_event hport hcallback, fun origin => ⟨fun h => ?_, fun now s => ?_⟩⟩
    · have hreceive : CallbackReceiver.receive ⟨config.trustLoopback.allowList⟩
          (event port target) = .error (.untrustedOrigin origin) := h
      cases htells with
      | result hresult => rw [hresult] at hreceive; cases hreceive
      | malformed hresult => rw [hresult] at hreceive; cases hreceive
    · rw [Coordinator.handleCallback_of_tells (c := c) htells]
      exact Coordinator.consume_ne_untrusted htells now s origin

/-- The store is empty and a login has been pending for a minute when a request comes in whose access
token is written like a form. A target that names another host behind an at sign and climbs out of
its path gets no further than the listener. -/
theorem form_like_login_through_listener :
    let c := Coordinator.ofConfig Config.default.trustLoopback Register.store
    let tokens : TokenSet :=
      ⟨⟨"a+b&token=é", by decide⟩, some ⟨"r 1", by decide⟩, ⟨60, 0⟩⟩
    let target := redirectText callbackPath .query (tokenValues tokens.access tokens.refresh)
    let stream := requestHead target ["Host: 127.0.0.1:49152", "X-Name: é"]
    let s : Coordinator.State Register := (c.beginLogin none ⟨0, 0⟩ (c.start (.holding none))).2
    readTarget stream = .ok (some target) ∧
      (∃ stored, c.handleCallback (event 49152 target) ⟨60, 0⟩ s =
          (.ok .authenticated, ⟨.authenticated tokens, stored⟩) ∧ stored.content = some tokens) ∧
      ∃ u, CallbackReceiver.urlOf?
          (event 49152 "/callback@evil.example/../..\\evil.example?token=x").uri = some u ∧
        u.scheme = "http" ∧ u.hostText? = some "127.0.0.1" := by
  intro c tokens target stream s
  let login : PendingLogin :=
    ⟨"kakao", ⟨"http", some ⟨"", none, some (.name "localhost"), some 8080⟩, "/oauth2/auth/kakao",
      none, none⟩, ⟨0, 0⟩⟩
  have hpending : s.session = .loginPending login := by decide +kernel
  have hworks : ∀ e, ¬ Coordinator.FailsTwice (Register.store.save tokens) s.stored e :=
    Coordinator.register_save_works tokens (by decide +kernel)
  obtain ⟨harrives, hstays⟩ := login_through_listener .default register_isRegister
    (show 49152 ≤ 65535 by decide)
  obtain ⟨htarget, _, hlogin⟩ := harrives tokens.access tokens.refresh _
    ["Host: 127.0.0.1:49152", "X-Name: é"] [] (List.Perm.refl _) (by decide) (by decide +kernel)
  rw [List.append_nil] at htarget
  exact ⟨htarget, hlogin ⟨60, 0⟩ s login hpending (by decide) hworks, (hstays _ (by decide)).1⟩

end Loopback

end RedirectLogin
