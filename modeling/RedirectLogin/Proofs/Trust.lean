import Mathlib.Data.List.Nodup
import RedirectLogin.Config
import RedirectLogin.Proofs.Url.Origin

/-!
# Whom redirects are trusted from

The list of origins is made from the application's own and the configured ones, each kept where it
stands first. Entries are compared exactly there, and without regard to case when a URL is held
against them; so two spellings of one origin may both be on the list, and it makes no difference.
Nothing of a URL but scheme and host is looked at.

The scheme of a URL that was read is in lower case, and its host is an address if it is spelled as
one. So what it means to trust the listener on this machine can be said exactly: the URLs of `http`
whose host is the address 127.0.0.1, however that was written.

Principal results: `foldl_addOrigin_firstOccurrences` — what the list keeps; `trusts_iff` — scheme
and host of an entry; `covers_loopback_iff`, `loopback_address_iff` — the listener's origin;
`trust_is_exact` — all of it for a configuration.
-/

set_option autoImplicit false

namespace RedirectLogin

/-! ## First occurrences -/

namespace Config

section List

variable {o p : AllowedOrigin} {entries origins : List AllowedOrigin}

theorem mem_addOrigin : o ∈ addOrigin origins p ↔ o ∈ origins ∨ o = p := by
  unfold addOrigin
  split
  · rename_i hthere
    rw [List.contains_iff_mem] at hthere
    constructor
    · exact Or.inl
    · rintro (h | rfl)
      · exact h
      · exact hthere
  · rw [List.mem_append, List.mem_singleton]

/-- The list of these entries without repeats, each in the place of its first occurrence. -/
structure FirstOccurrences (entries origins : List AllowedOrigin) : Prop where
  nodup : origins.Nodup
  mem_iff : ∀ o, o ∈ origins ↔ o ∈ entries
  ordered : origins.Pairwise (fun o p => entries.idxOf o < entries.idxOf p)

/-- An entry that is there already changes nothing, and a new one goes to the end. -/
theorem FirstOccurrences.add (h : FirstOccurrences entries origins) (o : AllowedOrigin) :
    FirstOccurrences (entries ++ [o]) (addOrigin origins o) := by
  have hmem : ∀ p, p ∈ addOrigin origins o ↔ p ∈ entries ++ [o] := fun p => by
    rw [mem_addOrigin, h.mem_iff, List.mem_append, List.mem_singleton]
  have hstay : ∀ p ∈ origins, (entries ++ [o]).idxOf p = entries.idxOf p :=
    fun p hp => List.idxOf_append_of_mem ((h.mem_iff p).1 hp)
  have hordered : origins.Pairwise
      (fun p q => (entries ++ [o]).idxOf p < (entries ++ [o]).idxOf q) :=
    h.ordered.imp_of_mem (fun hp hq hlt => by rwa [hstay _ hp, hstay _ hq])
  by_cases hthere : o ∈ origins
  · have hsame : addOrigin origins o = origins := if_pos (List.contains_iff_mem.2 hthere)
    rw [hsame] at hmem ⊢
    exact ⟨h.nodup, hmem, hordered⟩
  · have hlonger : addOrigin origins o = origins ++ [o] :=
      if_neg (fun hcontains => hthere (List.contains_iff_mem.1 hcontains))
    have hnew : o ∉ entries := fun ho => hthere ((h.mem_iff o).2 ho)
    have hlast : (entries ++ [o]).idxOf o = entries.length := by
      rw [List.idxOf_append_of_notMem hnew, List.idxOf_cons_self, Nat.add_zero]
    rw [hlonger] at hmem ⊢
    refine ⟨?_, hmem, ?_⟩
    · rw [List.nodup_append]
      refine ⟨h.nodup, List.nodup_singleton o, fun p hp q hq hpq => hthere ?_⟩
      rwa [← List.mem_singleton.1 hq, ← hpq]
    · rw [List.pairwise_append]
      refine ⟨hordered, List.pairwise_singleton _ _, fun p hp q hq => ?_⟩
      rw [List.mem_singleton.1 hq, hlast, hstay p hp]
      exact List.idxOf_lt_length_of_mem ((h.mem_iff p).1 hp)

/-- **Adding one origin after another keeps first occurrences.** -/
theorem foldl_addOrigin_firstOccurrences (os : List AllowedOrigin)
    (h : FirstOccurrences entries origins) :
    FirstOccurrences (entries ++ os) (os.foldl addOrigin origins) := by
  induction os generalizing entries origins with
  | nil => rwa [List.append_nil]
  | cons p os ih =>
    have hnext := ih (h.add p)
    rwa [List.append_assoc, List.singleton_append] at hnext

theorem allowList_firstOccurrences [Application] (config : Config) :
    FirstOccurrences (appOrigin :: config.allowedOrigins) config.allowList :=
  foldl_addOrigin_firstOccurrences config.allowedOrigins
    ⟨List.nodup_singleton _, fun _ => Iff.rfl, List.pairwise_singleton _ _⟩

/-- Trusting the listener puts its origin on the list, and nothing else. -/
theorem mem_trustLoopback [Application] {config : Config} :
    o ∈ config.trustLoopback.allowList ↔ o ∈ config.allowList ∨ o = loopbackOrigin := by
  rw [config.allowList_firstOccurrences.mem_iff,
    config.trustLoopback.allowList_firstOccurrences.mem_iff,
    List.mem_cons, List.mem_cons, or_assoc]
  exact or_congr_right mem_addOrigin

theorem loopbackOrigin_mem [Application] (config : Config) :
    loopbackOrigin ∈ config.trustLoopback.allowList :=
  mem_trustLoopback.2 (.inr rfl)

/-- Trusting the listener twice is trusting it once. -/
theorem trustLoopback_trustLoopback (config : Config) :
    config.trustLoopback.trustLoopback = config.trustLoopback := by
  have hthere : (addOrigin config.allowedOrigins loopbackOrigin).contains loopbackOrigin = true :=
    List.contains_iff_mem.2 (mem_addOrigin.2 (.inr rfl))
  simp only [trustLoopback]
  rw [addOrigin, if_pos hthere]

end List

end Config

/-! ## What an entry covers -/

/-- Whether an origin covers a URL is decided by scheme and host. -/
theorem AllowedOrigin.covers_congr {o : AllowedOrigin} {u u' : Url} (hscheme : u'.scheme = u.scheme)
    (hhost : u'.host = u.host) : o.covers u' = o.covers u := by
  simp only [covers, Url.hostText?, hscheme, hhost]

/-- A URL is trusted for its scheme and host alone. -/
theorem CallbackReceiver.trusts_iff {r : CallbackReceiver} {u : Url} :
    r.trusts u = true ↔ ∃ host, u.hostText? = some host ∧
      ∃ o ∈ r.allowList, equalFold o.scheme u.scheme = true ∧ equalFold o.host host = true := by
  simp only [trusts, List.any_eq_true, AllowedOrigin.covers_iff]
  constructor
  · rintro ⟨o, ho, host, hhost, hcovers⟩
    exact ⟨host, hhost, o, ho, hcovers⟩
  · rintro ⟨host, hhost, o, ho, hcovers⟩
    exact ⟨o, ho, host, hhost, hcovers⟩

namespace Domain

/-- Nothing but letters becomes another character. -/
theorem lowerAscii_eq_iff {c d : Char} (hd : Url.isLetter d = false) : lowerAscii c = d ↔ c = d := by
  by_cases h : ('A' ≤ c && c ≤ 'Z') = true
  · have hletters : Url.isLetter c = true ∧ Url.isLetter (lowerAscii c) = true := by
      have hlt := toNat_of_isUpper h
      revert h
      exact Text.forall_ascii hlt (by decide +kernel)
    constructor <;> rintro rfl
    · rw [hletters.2] at hd
      cases hd
    · rw [hletters.1] at hd
      cases hd
  · rw [lowerAscii, if_neg h]

theorem map_lowerAscii_eq_iff {cs ds : List Char} (hds : ∀ d ∈ ds, Url.isLetter d = false) :
    cs.map lowerAscii = ds ↔ cs = ds := by
  induction cs generalizing ds with
  | nil => rfl
  | cons c cs ih =>
    cases ds with
    | nil => simp
    | cons d ds =>
      rw [List.map_cons, List.cons.injEq, List.cons.injEq,
        lowerAscii_eq_iff (hds d List.mem_cons_self),
        ih (fun e he => hds e (List.mem_cons_of_mem _ he))]

end Domain

namespace Url

variable {text : String} {u : Url}

/-- The scheme of a URL that was read is in lower case. -/
theorem parse_scheme (h : parse text = .ok u) :
    u.scheme.toList.map Domain.lowerAscii = u.scheme.toList := by
  rw [parse, parseChars] at h
  split at h
  · cases h
  rename_i name rest hsplit
  obtain ⟨scheme, -, -, -, rfl⟩ := splitScheme_eq_some hsplit
  have hlower : ((String.ofList (scheme.map Domain.lowerAscii)).toList).map Domain.lowerAscii =
      (String.ofList (scheme.map Domain.lowerAscii)).toList := by
    rw [String.toList_ofList, Domain.map_lowerAscii]
  split at h
  · rw [readFile_scheme h]
    decide
  · cases hread : readAuthority .web (scheme.map Domain.lowerAscii)
        (rest.dropWhile (isSlash .web)) with
    | error e => rw [hread] at h; cases h
    | ok p => rw [hread] at h; cases h; exact hlower
  · rw [readOther_scheme h]
    exact hlower

/-! ### The address of the listener -/

/-- A number ends at the point behind it. -/
theorem toDigits_point_inj {m n : Nat} {cs ds : List Char}
    (h : Nat.toDigits 10 m ++ '.' :: cs = Nat.toDigits 10 n ++ '.' :: ds) : m = n ∧ cs = ds := by
  have hend : ∀ more c rest, '.' :: more = c :: rest → ('0' ≤ c && c ≤ '9') = false := by
    rintro more c rest ⟨⟩
    decide
  have hdigits : ∀ k, ∀ c ∈ Nat.toDigits 10 k, ('0' ≤ c && c ≤ '9') = true :=
    fun _ _ hc => Text.digit_of_mem_toDigits hc
  have hfront := congrArg (List.takeWhile (fun c => '0' ≤ c && c ≤ '9')) h
  have hbehind := congrArg (List.dropWhile (fun c => '0' ≤ c && c ≤ '9')) h
  rw [Text.takeWhile_run (hdigits m) (hend cs), Text.takeWhile_run (hdigits n) (hend ds)] at hfront
  rw [Text.dropWhile_run (hdigits m) (hend cs), Text.dropWhile_run (hdigits n) (hend ds)] at hbehind
  refine ⟨?_, (List.cons.inj hbehind).2⟩
  rw [← Text.foldl_toDigits m, hfront, Text.foldl_toDigits]

/-- An address of four bytes is written in one way only. -/
theorem ipv4_text_inj {m n : Nat} (h : Ipv4.text m = Ipv4.text n) : m = n := by
  have hpoint : ".".toList = ['.'] := rfl
  simp only [Ipv4.text, String.toList_append, Nat.toString_eq_repr, Nat.toList_repr, hpoint,
    List.append_assoc, List.singleton_append] at h
  obtain ⟨hfirst, h⟩ := toDigits_point_inj h
  obtain ⟨hsecond, h⟩ := toDigits_point_inj h
  obtain ⟨hthird, h⟩ := toDigits_point_inj h
  have hfourth : m % 256 = n % 256 := by
    rw [← Text.foldl_toDigits (m % 256), h, Text.foldl_toDigits]
  omega

/-- What ends in a number is no name. -/
theorem readSpecialHost_name {cs : List Char} {text : String}
    (h : readSpecialHost cs = .ok (.name text)) :
    Ipv4.endsInNumber (Domain.splitLabels text.toList) = false := by
  rw [readSpecialHost] at h
  split at h
  · rw [readBracketed] at h
    split at h
    · split at h <;> cases h
    · cases h
  · split at h
    · cases h
    · split at h
      · cases h
      · dsimp only at h
        split at h
        · split at h <;> cases h
        · rename_i hname
          rw [← Host.name.inj (Except.ok.inj h), String.toList_ofList]
          exact Bool.eq_false_iff.2 hname

/-- **A host of the web that is spelled as the listener's address is that address.** -/
theorem readSpecialHost_loopback {cs : List Char} {host : Host} (h : readSpecialHost cs = .ok host)
    (htext : host.text = "127.0.0.1") : host = .ipv4 2130706433 := by
  have hchars := congrArg String.toList htext
  cases host with
  | name text =>
    obtain rfl : text = "127.0.0.1" := htext
    exact absurd (readSpecialHost_name h) (by decide)
  | ipv4 address =>
    rw [Host.text, String.toList_ofList] at hchars
    have haddress : Ipv4.text address = Ipv4.text 2130706433 := hchars.trans (by decide)
    rw [ipv4_text_inj haddress]
  | ipv6 pieces =>
    rw [Host.text, String.toList_append, String.toList_append] at hchars
    exact absurd (List.cons.inj hchars).1 (by decide)

/-- The host of a web-like authority is read by the rules for special schemes. -/
theorem authorityOf_host {scheme front : List Char} {a : Authority}
    (h : authorityOf scheme front = .ok a) :
    ∃ cs host, readSpecialHost cs = .ok host ∧ a.host = some host := by
  simp only [authorityOf] at h
  generalize (splitHost false ((splitLastAt front).getD ([], front)).2).1 = hostCs at h
  cases hhost : readHost .web hostCs with
  | error e => rw [hhost] at h; cases h
  | ok found =>
    obtain ⟨host, rfl⟩ := readHost_web hhost
    refine ⟨hostCs, host, ?_, ?_⟩
    · rw [readHost, if_pos (by decide)] at hhost
      split at hhost
      · cases hhost
      · cases hread : readSpecialHost hostCs with
        | error e => rw [hread] at hhost; cases hhost
        | ok other => rw [hread] at hhost; cases hhost; rfl
    · rw [hhost] at h
      simp only [bind, Except.bind] at h
      split at h <;> cases h
      rfl

end Url

/-- **The listener's origin covers the URLs of `http` to its address**, and no others. -/
theorem Config.covers_loopback_iff {text : String} {u : Url} (h : Url.parse text = .ok u) :
    loopbackOrigin.covers u = true ↔ u.scheme = "http" ∧ u.hostText? = some "127.0.0.1" := by
  have hscheme : equalFold loopbackOrigin.scheme u.scheme = true ↔ u.scheme = "http" := by
    rw [equalFold, decide_eq_true_iff, Url.parse_scheme h, ← String.toList_inj]
    exact eq_comm
  have hall : (loopbackOrigin.host.toList.all fun d => Url.isLetter d == false) = true := by decide
  have hletters : ∀ d ∈ loopbackOrigin.host.toList, Url.isLetter d = false := fun d hd =>
    eq_of_beq (List.all_eq_true.1 hall d hd)
  have hhost : ∀ host, equalFold loopbackOrigin.host host = true ↔ host = "127.0.0.1" := by
    intro host
    rw [equalFold, decide_eq_true_iff, ← String.toList_inj]
    exact eq_comm.trans (Domain.map_lowerAscii_eq_iff hletters)
  rw [AllowedOrigin.covers_iff]
  constructor
  · rintro ⟨host, hfound, hs, hh⟩
    exact ⟨hscheme.1 hs, hfound.trans (congrArg some ((hhost host).1 hh))⟩
  · rintro ⟨hs, hfound⟩
    exact ⟨_, hfound, hscheme.2 hs, (hhost _).2 rfl⟩

/-- The host text of a URL of `http` says which address it is. -/
theorem Url.loopback_address_iff {text : String} {u : Url} (h : Url.parse text = .ok u)
    (hscheme : u.scheme = "http") :
    u.hostText? = some "127.0.0.1" ↔ u.host = some (.ipv4 2130706433) := by
  have hweb : u.isWeb = true := by rw [isWeb, hscheme]; rfl
  obtain ⟨_, _, _, _, a, -, ha, -, hauthority⟩ := exists_webForm h hweb
  obtain ⟨cs, found, hread, hhost⟩ := authorityOf_host ha
  have hfound : u.host = some found := by rw [Url.host, hauthority]; exact hhost
  rw [hostText?, hfound]
  constructor
  · intro htext
    rw [readSpecialHost_loopback hread (Option.some.inj htext)]
  · intro haddress
    rw [Option.some.inj haddress]
    decide

/-- **The trust set is exactly the application's origin and the configured ones.** A redirect is
trusted if and only if its URL has a host, and scheme and host are, up to the case of ASCII letters,
those of the application or of a configured entry; user information, port, path, query and fragment
take no part. The list begins with the application's origin and keeps every entry once, where it
stands first. Trusting the listener adds the URLs of `http` whose host is 127.0.0.1, which is the
address in whatever spelling, and doing so again changes nothing. -/
theorem trust_is_exact [Application] (config : Config) :
    let receiver : CallbackReceiver := ⟨config.allowList⟩
    let listening : CallbackReceiver := ⟨config.trustLoopback.allowList⟩
    (∀ u : Url, receiver.trusts u = true ↔ ∃ host, u.hostText? = some host ∧
      ((equalFold appScheme u.scheme = true ∧ equalFold callbackHost host = true) ∨
        ∃ o ∈ config.allowedOrigins,
          equalFold o.scheme u.scheme = true ∧ equalFold o.host host = true)) ∧
    (∀ u v : Url, v.scheme = u.scheme → v.host = u.host → receiver.trusts v = receiver.trusts u) ∧
    config.allowList.head? = some ⟨appScheme, callbackHost⟩ ∧
    Config.FirstOccurrences (⟨appScheme, callbackHost⟩ :: config.allowedOrigins) config.allowList ∧
    (∀ text u, Url.parse text = .ok u →
      (listening.trusts u = true ↔
        receiver.trusts u = true ∨ (u.scheme = "http" ∧ u.hostText? = some "127.0.0.1")) ∧
      (u.scheme = "http" →
        (u.hostText? = some "127.0.0.1" ↔ u.host = some (.ipv4 2130706433)))) ∧
    config.trustLoopback.trustLoopback = config.trustLoopback := by
  intro receiver listening
  have hfirsts := config.allowList_firstOccurrences
  refine ⟨fun u => ?_, fun u v hscheme hhost => ?_, config.allowList_head, hfirsts,
    fun text u hparse => ⟨?_, Url.loopback_address_iff hparse⟩, config.trustLoopback_trustLoopback⟩
  · rw [CallbackReceiver.trusts_iff]
    refine exists_congr fun host => and_congr_right fun _ => ?_
    simp only [receiver, hfirsts.mem_iff, List.mem_cons, or_and_right, exists_or, exists_eq_left]
    rfl
  · exact congrArg (config.allowList.any) (funext fun o => AllowedOrigin.covers_congr hscheme hhost)
  · rw [← Config.covers_loopback_iff hparse]
    simp only [listening, receiver, CallbackReceiver.trusts, List.any_eq_true]
    constructor
    · rintro ⟨o, ho, hcovers⟩
      rcases Config.mem_trustLoopback.1 ho with hbefore | rfl
      · exact .inl ⟨o, hbefore, hcovers⟩
      · exact .inr hcovers
    · rintro (⟨o, ho, hcovers⟩ | hcovers)
      · exact ⟨o, Config.mem_trustLoopback.2 (.inl ho), hcovers⟩
      · exact ⟨_, config.loopbackOrigin_mem, hcovers⟩

/-- Two spellings of one origin and some repeats are configured. The listener's address is spelled
in hexadecimal. -/
theorem trust_in_any_spelling :
    let config : Config :=
      { Config.default with
        allowedOrigins := [⟨"HTTPS", "App.Example"⟩, ⟨"authlink", "auth"⟩, ⟨"https", "app.example"⟩,
          ⟨"HTTPS", "App.Example"⟩] }
    config.allowList = [⟨"authlink", "auth"⟩, ⟨"HTTPS", "App.Example"⟩, ⟨"https", "app.example"⟩] ∧
    (∃ u, Url.parse "https://me@APP.example:8443/x?y#z" = .ok u ∧
      (⟨config.allowList⟩ : CallbackReceiver).trusts u = true) ∧
    ∃ u, Url.parse "HTTP://0x7f.1:5000/cb" = .ok u ∧
      (⟨config.allowList⟩ : CallbackReceiver).trusts u = false ∧
      (⟨config.trustLoopback.allowList⟩ : CallbackReceiver).trusts u = true := by
  intro config
  let page : Url := ⟨"https", some ⟨"me", none, some (.name "app.example"), some 8443⟩, "/x",
    some "y", some "z"⟩
  let back : Url := ⟨"http", some ⟨"", none, some (.ipv4 2130706433), some 5000⟩, "/cb", none, none⟩
  have hpage : Url.parse "https://me@APP.example:8443/x?y#z" = .ok page :=
    Url.eq_ok_of_toOption (by decide +kernel)
  have hback : Url.parse "HTTP://0x7f.1:5000/cb" = .ok back :=
    Url.eq_ok_of_toOption (by decide +kernel)
  obtain ⟨htrusts, -, -, -, hlistening, -⟩ := trust_is_exact config
  obtain ⟨hadded, haddress⟩ := hlistening _ back hback
  refine ⟨by decide, ⟨page, hpage, (htrusts page).2 ?_⟩, back, hback, by decide, ?_⟩
  · exact ⟨"app.example", rfl, .inr ⟨⟨"HTTPS", "App.Example"⟩, List.mem_cons_self, by decide⟩⟩
  · exact hadded.2 (.inr ⟨rfl, (haddress rfl).2 rfl⟩)

end RedirectLogin
