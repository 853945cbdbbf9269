import Mathlib.Data.List.TakeWhile
import RedirectLogin.Proofs.Text.Blank
import RedirectLogin.Proofs.Text.Digits
import RedirectLogin.Proofs.Url.Domain
import RedirectLogin.Proofs.Url.Reading

/-!
# The origin of a URL that is built

Where a URL is built by writing a path behind a text, scheme and authority are read off that text
alone: the authority ends at the slash at the latest. Two things could come between. Slashes at the
end of the text are taken off first, and they might be all that follows the scheme; but then the
text is no URL. And controls and spaces at its end, which are dropped when it is read on its own, are
in the middle now; if they come to stand in the authority, the host or the port is refused for them.

Principal results: `readAuthority_append` — what is behind an authority has no say in it;
`authorityOf_append_low` — controls behind an authority are not overlooked;
`parseChars_behind_slash` — scheme and authority of a URL that is built.
-/

set_option autoImplicit false

namespace RedirectLogin.Url

/-! ## The authority by itself -/

/-- An authority of a web-like scheme, by all of its text. -/
def authorityOf (scheme front : List Char) : Except UrlProblem Authority :=
  let (userinfo, hostPort) := (splitLastAt front).getD ([], front)
  let (username, password) := readUserinfo userinfo
  let (hostCs, portCs) := splitHost false hostPort
  do
    let host ← readHost .web hostCs
    let port ← (match portCs with
      | _ :: digits => (readPort digits).map Prod.fst
      | [] => .ok none)
    .ok ⟨username, password, host, if port = defaultPort? scheme then none else port⟩

/-- A text that can follow an authority: none, or one that begins with what ends it. -/
def EndsFront (behind : List Char) : Prop :=
  ∀ c cs, behind = c :: cs → endsAuthority .web c = true

theorem endsAuthority_web (c : Char) :
    endsAuthority .web c = (c = '/' || c = '\x5c' || c = '?' || c = '#') := by
  simp [endsAuthority, isSlash, SchemeKind.isSpecial]

theorem endsFront_cons {c : Char} (h : endsAuthority .web c = true) (cs : List Char) :
    EndsFront (c :: cs) := by
  intro d ds hcons
  rw [← (List.cons.inj hcons).1]
  exact h

/-- Only the first character counts. -/
theorem EndsFront.of_append {before tail : List Char} (h : EndsFront (before ++ tail))
    (hne : before ≠ []) (more : List Char) : EndsFront (before ++ more) := by
  cases before with
  | nil => exact absurd rfl hne
  | cons c cs => exact endsFront_cons (h c (cs ++ tail) rfl) (cs ++ more)

section Port

variable {digits behind : List Char}

/-- What ends an authority is no digit. -/
theorem not_digit_of_endsAuthority {c : Char} (h : endsAuthority .web c = true) :
    ('0' ≤ c && c ≤ '9') = false := by
  simp only [endsAuthority_web, Bool.or_eq_true, decide_eq_true_eq] at h
  rcases h with ((rfl | rfl) | rfl) | rfl <;> decide

/-- A port with anything but digits in it is refused. -/
theorem readPort_refused {c : Char} {more : List Char}
    (hdigits : digits.dropWhile (fun c => '0' ≤ c && c ≤ '9') = c :: more)
    (hc : endsAuthority .web c = false) : readPort digits = .error .badPort := by
  rw [endsAuthority_web] at hc
  simp only [readPort, hdigits, hc]
  split
  · rfl
  · rfl

/-- **What is behind a port has no say in it.** -/
theorem readPort_append (hdigits : ∀ c ∈ digits, endsAuthority .web c = false)
    (hbehind : EndsFront behind) :
    readPort (digits ++ behind) = (readPort digits).map (fun p => (p.1, behind)) := by
  cases hrest : digits.dropWhile (fun c => '0' ≤ c && c ≤ '9') with
  | cons c more =>
    have hc : endsAuthority .web c = false :=
      hdigits c ((List.dropWhile_sublist _).subset (hrest ▸ List.mem_cons_self))
    have happend : (digits ++ behind).dropWhile (fun c => '0' ≤ c && c ≤ '9') =
        c :: (more ++ behind) := by
      rw [List.dropWhile_append, hrest]
      rfl
    rw [readPort_refused hrest hc, readPort_refused happend hc]
    rfl
  | nil =>
    have hall : ∀ c ∈ digits, ('0' ≤ c && c ≤ '9') = true := List.dropWhile_eq_nil_iff.1 hrest
    have hend : ∀ c cs, behind = c :: cs → ('0' ≤ c && c ≤ '9') = false :=
      fun c cs h => not_digit_of_endsAuthority (hbehind c cs h)
    have htake : digits.takeWhile (fun c => '0' ≤ c && c ≤ '9') = digits :=
      List.takeWhile_eq_self_iff.2 hall
    simp only [readPort, Text.takeWhile_run hall hend, Text.dropWhile_run hall hend, hrest, htake]
    split
    · rfl
    · cases behind with
      | nil => rfl
      | cons c cs =>
        have hc := hbehind c cs rfl
        rw [endsAuthority_web] at hc
        simp only [hc, if_true]
        rfl

end Port

section Front

variable {scheme front behind low : List Char}

/-- What is in front of the last at sign, and what is behind it, are parts of the text. -/
theorem mem_of_mem_hostPort {c : Char} (h : c ∈ ((splitLastAt front).getD ([], front)).2) :
    c ∈ front := by
  unfold splitLastAt at h
  split at h
  · exact List.mem_reverse.1 ((List.takeWhile_sublist _).subset (List.mem_reverse.1 h))
  · exact h

theorem mem_of_mem_portCs {inside : Bool} {cs : List Char} {c : Char}
    (h : c ∈ (splitHost inside cs).2) : c ∈ cs := by
  induction cs generalizing inside with
  | nil => exact h
  | cons d cs ih =>
    rw [splitHost] at h
    split at h
    · exact h
    · exact List.mem_cons_of_mem _ (ih h)

/-- A web-like scheme needs a host. -/
theorem readHost_web {cs : List Char} {host : Option Host} (h : readHost .web cs = .ok host) :
    ∃ found, host = some found := by
  rw [readHost, if_pos (by decide)] at h
  split at h
  · cases h
  · cases hread : readSpecialHost cs with
    | error e => rw [hread] at h; cases h
    | ok found => rw [hread] at h; cases h; exact ⟨found, rfl⟩

theorem readHost_nil : readHost .web [] = .error .emptyHost := rfl

/-- **What is behind an authority has no say in it.** -/
theorem readAuthority_append (hfront : ∀ c ∈ front, endsAuthority .web c = false)
    (hbehind : EndsFront behind) {a : Authority} {rest : List Char} :
    readAuthority .web scheme (front ++ behind) = .ok (a, rest) ↔
      authorityOf scheme front = .ok a ∧ rest = behind := by
  have hrun : ∀ c ∈ front, (!endsAuthority .web c) = true := fun c hc => by simp [hfront c hc]
  have hend : ∀ c cs, behind = c :: cs → (!endsAuthority .web c) = false :=
    fun c cs h => by simp [hbehind c cs h]
  have hmem : ∀ c ∈ ((splitLastAt front).getD ([], front)).2, endsAuthority .web c = false :=
    fun c hc => hfront c (mem_of_mem_hostPort hc)
  simp only [readAuthority, authorityOf, Text.takeWhile_run hrun hend, Text.dropWhile_run hrun hend]
  generalize (splitLastAt front).getD ([], front) = parts at hmem ⊢
  obtain ⟨userinfo, hostPort⟩ := parts
  have hport : ∀ c ∈ (splitHost false hostPort).2, endsAuthority .web c = false :=
    fun c hc => hmem c (mem_of_mem_portCs hc)
  by_cases hempty : hostPort = []
  · -- Without a host there is no authority, whether or not something is behind it.
    subst hempty
    simp only [splitHost, readHost_nil]
    split <;> simp [bind, Except.bind]
  rw [if_neg (by simp [hempty])]
  generalize splitHost false hostPort = split at hport ⊢
  obtain ⟨hostCs, portCs⟩ := split
  cases hhost : readHost .web hostCs with
  | error e => simp [bind, Except.bind]
  | ok host =>
    obtain ⟨found, rfl⟩ := readHost_web hhost
    cases portCs with
    | nil =>
      simp only [bind, Except.bind, Option.isNone_some, Bool.false_eq_true, false_and, if_false,
        Except.ok.injEq, Prod.mk.injEq]
      exact and_congr_right (fun _ => eq_comm)
    | cons colon digits =>
      have hdigits : ∀ c ∈ digits, endsAuthority .web c = false :=
        fun c hc => hport c (List.mem_cons_of_mem _ hc)
      simp only [readPort_append hdigits hbehind]
      cases readPort digits with
      | error e => simp [bind, Except.bind, Except.map]
      | ok port =>
        simp only [bind, Except.bind, Except.map, Option.isNone_some, Bool.false_eq_true, false_and,
          if_false, Except.ok.injEq, Prod.mk.injEq]
        exact and_congr_right (fun _ => eq_comm)

/-! ## Controls behind an authority -/

/-- Controls and the space divide nothing in an authority. -/
theorem of_le_space {c : Char} (hc : c.toNat ≤ 0x20) :
    c ≠ '@' ∧ c ≠ ':' ∧ ('0' ≤ c && c ≤ '9') = false ∧ endsAuthority .web c = false := by
  have hlt : c.toNat < 128 := by omega
  revert hc
  exact Text.forall_ascii hlt (by decide +kernel)

theorem splitLastAt_append (hlow : ∀ c ∈ low, c ≠ '@') :
    (splitLastAt (front ++ low)).getD ([], front ++ low) =
      (((splitLastAt front).getD ([], front)).1, ((splitLastAt front).getD ([], front)).2 ++ low) := by
  have hnot : '@' ∉ low := fun h => hlow '@' h rfl
  have hpass : ∀ c ∈ low.reverse, decide (c ≠ '@') = true :=
    fun c hc => decide_eq_true (hlow c (List.mem_reverse.1 hc))
  unfold splitLastAt
  by_cases hat : '@' ∈ front
  · have hhas : (front ++ low).contains '@' = true := by simp [hat]
    rw [if_pos hhas, if_pos (by simp [hat]), List.reverse_append,
      List.dropWhile_append_of_pos hpass, List.takeWhile_append_of_pos hpass]
    simp
  · rw [if_neg (by simp [hat, hnot]), if_neg (by simp [hat])]
    rfl

/-- Without a colon all of it is host, in brackets or not. -/
theorem splitHost_of_no_colon (hlow : ∀ c ∈ low, c ≠ ':') (inside : Bool) :
    splitHost inside low = (low, []) := by
  induction low generalizing inside with
  | nil => rfl
  | cons c low ih =>
    rw [splitHost, if_neg (by simp [hlow c List.mem_cons_self]),
      ih (fun d hd => hlow d (List.mem_cons_of_mem _ hd))]

theorem splitHost_append (hlow : ∀ c ∈ low, c ≠ ':') (inside : Bool) (cs : List Char) :
    splitHost inside (cs ++ low) =
      if (splitHost inside cs).2 = [] then ((splitHost inside cs).1 ++ low, [])
      else ((splitHost inside cs).1, (splitHost inside cs).2 ++ low) := by
  induction cs generalizing inside with
  | nil => exact splitHost_of_no_colon hlow inside
  | cons c cs ih =>
    simp only [List.cons_append, splitHost]
    by_cases hcolon : (c = ':' && !inside) = true
    · simp only [if_pos hcolon]
      rfl
    · simp only [if_neg hcolon, ih]
      generalize (if c = '[' then true else if c = ']' then false else inside) = next
      by_cases hnil : (splitHost next cs).2 = []
      · simp only [if_pos hnil, List.cons_append]
      · simp only [if_neg hnil]

/-- **Controls and spaces behind an authority are not overlooked**: with them there is none. -/
theorem authorityOf_append_low (hfront : ∀ c ∈ front, endsAuthority .web c = false) (hne : low ≠ [])
    (hlow : ∀ c ∈ low, c.toNat ≤ 0x20) :
    ∃ problem, authorityOf scheme (front ++ low) = .error problem := by
  have hat : ∀ c ∈ low, c ≠ '@' := fun c hc => (of_le_space (hlow c hc)).1
  have hcolon : ∀ c ∈ low, c ≠ ':' := fun c hc => (of_le_space (hlow c hc)).2.1
  have hmem : ∀ c ∈ ((splitLastAt front).getD ([], front)).2, endsAuthority .web c = false :=
    fun c hc => hfront c (mem_of_mem_hostPort hc)
  simp only [authorityOf, splitLastAt_append hat]
  generalize (splitLastAt front).getD ([], front) = parts at hmem ⊢
  obtain ⟨userinfo, hostPort⟩ := parts
  have hport : ∀ c ∈ (splitHost false hostPort).2, endsAuthority .web c = false :=
    fun c hc => hmem c (mem_of_mem_portCs hc)
  simp only [splitHost_append hcolon]
  generalize splitHost false hostPort = split at hport ⊢
  obtain ⟨hostCs, portCs⟩ := split
  cases portCs with
  | nil =>
    obtain ⟨problem, hread⟩ := readSpecialHost_append hne hlow hostCs
    refine ⟨problem, ?_⟩
    simp [readHost, SchemeKind.isSpecial, hne, hread, Except.map, bind, Except.bind]
  | cons colon digits =>
    cases hhost : readHost .web hostCs with
    | error e => exact ⟨e, by simp [hhost, bind, Except.bind]⟩
    | ok host =>
      obtain ⟨c, more, hrest, hc⟩ : ∃ c more,
          (digits ++ low).dropWhile (fun c => '0' ≤ c && c ≤ '9') = c :: more ∧
            endsAuthority .web c = false := by
        cases hrest : (digits ++ low).dropWhile (fun c => '0' ≤ c && c ≤ '9') with
        | nil =>
          obtain ⟨c, hc⟩ := List.exists_mem_of_ne_nil low hne
          have hdigit := List.dropWhile_eq_nil_iff.1 hrest c (List.mem_append_right _ hc)
          rw [(of_le_space (hlow c hc)).2.2.1] at hdigit
          cases hdigit
        | cons c more =>
          have hmem := (List.dropWhile_sublist _).subset (hrest ▸ List.mem_cons_self)
          rcases List.mem_append.1 hmem with hc | hc
          · exact ⟨c, more, rfl, hport c (List.mem_cons_of_mem _ hc)⟩
          · exact ⟨c, more, rfl, (of_le_space (hlow c hc)).2.2.2⟩
      refine ⟨.badPort, ?_⟩
      simp [hhost, readPort_refused hrest hc, Except.map, bind, Except.bind]

end Front

/-! ## Texts of web-like URLs -/

/-- A cleaned text of a web-like scheme, taken apart up to the end of its authority. -/
structure WebForm (text scheme slashes front behind : List Char) : Prop where
  text_eq : text = scheme ++ ':' :: (slashes ++ (front ++ behind))
  letter : scheme.head?.any isLetter = true
  spelled : ∀ c ∈ scheme, isSchemeChar c = true
  kind : SchemeKind.ofScheme (scheme.map Domain.lowerAscii) = .web
  slashed : ∀ c ∈ slashes, isSlash .web c = true
  nonempty : front ≠ []
  open_front : ∀ c ∈ front, endsAuthority .web c = false
  ended : EndsFront behind

section WebForm

variable {cs scheme slashes front behind : List Char} {u : Url}

theorem isSlash_of_not_ends {c : Char} (h : endsAuthority .web c = false) :
    isSlash .web c = false := by
  simp only [endsAuthority, Bool.or_eq_false_iff] at h
  exact h.1.1

/-- The reader gets to the authority, and takes it for what it is by itself. -/
theorem WebForm.parseChars (h : WebForm (clean cs) scheme slashes front behind) :
    parseChars cs =
      (readAuthority .web (scheme.map Domain.lowerAscii) (front ++ behind)).map
        (fun p => finish .web (scheme.map Domain.lowerAscii) (some p.1) p.2) := by
  have hsplit : splitScheme (clean cs) =
      some (scheme.map Domain.lowerAscii, slashes ++ (front ++ behind)) := by
    rw [h.text_eq, splitScheme_append h.letter h.spelled]
  have hdrop : (slashes ++ (front ++ behind)).dropWhile (isSlash .web) = front ++ behind := by
    refine Text.dropWhile_run h.slashed (fun c more hcons => ?_)
    cases hfront : front with
    | nil => exact absurd hfront h.nonempty
    | cons d rest =>
      rw [hfront, List.cons_append] at hcons
      obtain ⟨rfl, -⟩ := List.cons.inj hcons
      exact isSlash_of_not_ends (h.open_front d (hfront ▸ List.mem_cons_self))
  rw [Url.parseChars, hsplit]
  simp only [h.kind, hdrop]
  cases readAuthority .web (scheme.map Domain.lowerAscii) (front ++ behind) <;> rfl

theorem WebForm.reads (h : WebForm (clean cs) scheme slashes front behind) {a : Authority}
    (ha : authorityOf (scheme.map Domain.lowerAscii) front = .ok a) :
    Url.parseChars cs = .ok (finish .web (scheme.map Domain.lowerAscii) (some a) behind) := by
  rw [h.parseChars, (readAuthority_append h.open_front h.ended).2 ⟨ha, rfl⟩]
  rfl

theorem WebForm.refused (h : WebForm (clean cs) scheme slashes front behind) {problem : UrlProblem}
    (ha : authorityOf (scheme.map Domain.lowerAscii) front = .error problem) (v : Url) :
    Url.parseChars cs ≠ .ok v := by
  rw [h.parseChars]
  cases hread : readAuthority .web (scheme.map Domain.lowerAscii) (front ++ behind) with
  | error e => nofun
  | ok p =>
    have hsame := ((readAuthority_append h.open_front h.ended).1 hread).1
    rw [ha] at hsame
    cases hsame

/-- The schemes of the web are known by name. -/
theorem ofScheme_of_web {name : List Char}
    (h : String.ofList name = "http" ∨ String.ofList name = "https") :
    SchemeKind.ofScheme name = .web := by
  simp only [SchemeKind.ofScheme]
  rcases h with h | h
  · rw [h, if_neg (by decide), if_pos (by decide)]
  · rw [h, if_neg (by decide), if_pos (by decide)]

theorem splitScheme_eq_some {name rest : List Char} (h : splitScheme cs = some (name, rest)) :
    ∃ scheme, cs = scheme ++ ':' :: rest ∧ scheme.head?.any isLetter = true ∧
      (∀ c ∈ scheme, isSchemeChar c = true) ∧ name = scheme.map Domain.lowerAscii := by
  unfold splitScheme at h
  split at h
  · rename_i more hmore
    by_cases hletter : (cs.takeWhile isSchemeChar).head?.any isLetter = true
    · rw [if_pos hletter] at h
      cases h
      refine ⟨cs.takeWhile isSchemeChar, ?_, hletter, fun c hc => List.mem_takeWhile_imp hc, rfl⟩
      rw [← hmore, List.takeWhile_append_dropWhile]
    · rw [if_neg hletter] at h
      cases h
  · cases h

/-! Every kind of scheme is read by a reader of its own, which keeps the scheme. -/

theorem readFile_scheme {rest : List Char} (h : readFile rest = .ok u) : u.scheme = "file" := by
  unfold readFile at h
  split at h
  · split at h
    · dsimp only at h
      split at h
      · cases h; rfl
      · split at h
        · cases h; rfl
        · cases hhost : readSpecialHost (List.takeWhile (fun c => !endsAuthority .file c) _) with
          | error e => rw [hhost] at h; cases h
          | ok host =>
            rw [hhost] at h
            simp only [bind, Except.bind] at h
            split at h <;> cases h <;> rfl
    · cases h; rfl
  · cases h; rfl

theorem readOther_scheme {name rest : List Char}
    (h : (match rest with
      | '/' :: '/' :: rest => do
        let (authority, rest) ← readAuthority .other name rest
        .ok (finish .other name (some authority) rest)
      | rest => .ok (readBare name rest) : Except UrlProblem Url) = .ok u) :
    u.scheme = String.ofList name := by
  split at h
  · rename_i more
    cases hread : readAuthority .other name more with
    | error e => rw [hread] at h; cases h
    | ok p => rw [hread] at h; cases h; rfl
  · cases h
    unfold readBare
    split <;> rfl

theorem authorityOf_nil (name : List Char) : authorityOf name [] = .error .emptyHost := rfl

/-- **Every URL of the web is read from a text of this form.** -/
theorem exists_webForm (hparse : parseChars cs = .ok u) (hweb : u.isWeb = true) :
    ∃ scheme slashes front behind a, WebForm (clean cs) scheme slashes front behind ∧
      authorityOf (scheme.map Domain.lowerAscii) front = .ok a ∧
      u.scheme = String.ofList (scheme.map Domain.lowerAscii) ∧ u.authority = some a := by
  rw [Url.isWeb, Bool.or_eq_true, beq_iff_eq, beq_iff_eq] at hweb
  unfold parseChars at hparse
  split at hparse
  · cases hparse
  rename_i name rest hsplit
  obtain ⟨scheme, htext, hletter, hspelled, rfl⟩ := splitScheme_eq_some hsplit
  split at hparse
  · rw [readFile_scheme hparse] at hweb
    rcases hweb with h | h <;> exact absurd h (by decide)
  · rename_i hkind
    cases hread : readAuthority .web (scheme.map Domain.lowerAscii)
        (rest.dropWhile (isSlash .web)) with
    | error e => rw [hread] at hparse; cases hparse
    | ok p =>
      rw [hread] at hparse
      cases hparse
      let front := (rest.dropWhile (isSlash .web)).takeWhile (fun c => !endsAuthority .web c)
      let behind := (rest.dropWhile (isSlash .web)).dropWhile (fun c => !endsAuthority .web c)
      have hopen : ∀ c ∈ front, endsAuthority .web c = false := fun c hc => by
        simpa using List.mem_takeWhile_imp hc
      have hended : EndsFront behind := fun c more hcons => by
        have hhead := List.head?_dropWhile_not (fun c => !endsAuthority .web c)
          (rest.dropWhile (isSlash .web))
        rw [show List.dropWhile _ _ = c :: more from hcons] at hhead
        simpa using hhead
      rw [← List.takeWhile_append_dropWhile (p := fun c => !endsAuthority .web c)
        (l := rest.dropWhile (isSlash .web))] at hread
      obtain ⟨ha, -⟩ := (readAuthority_append hopen hended).1 hread
      refine ⟨scheme, rest.takeWhile (isSlash .web), front, behind, p.1,
        ⟨?_, hletter, hspelled, hkind, fun c hc => List.mem_takeWhile_imp hc, ?_, hopen, hended⟩,
        ha, rfl, rfl⟩
      · rw [List.takeWhile_append_dropWhile, List.takeWhile_append_dropWhile]
        exact htext
      · intro hnil
        rw [hnil, authorityOf_nil] at ha
        cases ha
  · rename_i hkind
    rw [readOther_scheme hparse] at hweb
    rw [ofScheme_of_web hweb] at hkind
    cases hkind

end WebForm

/-! ## What is written behind a slash -/

/-- A text as it is read when something visible is written behind it: without what is dropped at its
front, and without line ends. -/
def stem (cs : List Char) : List Char :=
  (cs.dropWhile (fun c => c.toNat ≤ 0x20)).filter (fun c => !(c = '\t' || c = '\n' || c = '\r'))

section Behind

variable {base slashes : List Char}

/-- What is dropped at the front of a text is dropped in front of its first visible character. -/
theorem clean_append_of_visible (hbase : ∃ c ∈ base, 0x20 < c.toNat) (more : List Char) :
    clean (base ++ more) =
      (Text.trimEndWhile (fun c => c.toNat ≤ 0x20)
        (base.dropWhile (fun c => c.toNat ≤ 0x20) ++ more)).filter
          (fun c => !(c = '\t' || c = '\n' || c = '\r')) := by
  obtain ⟨c, hc, hvisible⟩ := hbase
  have hdrop : (base ++ more).dropWhile (fun c => c.toNat ≤ 0x20) =
      base.dropWhile (fun c => c.toNat ≤ 0x20) ++ more := by
    rw [List.dropWhile_append, if_neg]
    intro hempty
    have hlow := List.dropWhile_eq_nil_iff.1 (List.isEmpty_iff.1 hempty) c hc
    rw [decide_eq_true_eq] at hlow
    omega
  rw [← hdrop]
  rfl

/-- Behind a text to which a slash and more was written, the slash is found again. -/
theorem clean_behind_slash (hbase : ∃ c ∈ base, 0x20 < c.toNat) (more : List Char) :
    ∃ kept, clean (base ++ '/' :: more) = stem base ++ '/' :: kept := by
  have hslash : decide ('/'.toNat ≤ 0x20) = false := by decide
  refine ⟨(Text.trimEndWhile (fun c => c.toNat ≤ 0x20) more).filter
    (fun c => !(c = '\t' || c = '\n' || c = '\r')), ?_⟩
  rw [clean_append_of_visible hbase, Text.trimEndWhile_behind hslash, List.filter_append,
    List.filter_cons_of_pos (by decide)]
  rfl

/-- What the same text is read as on its own, with slashes at its end or without: controls and spaces
are dropped if they are the end. -/
theorem clean_before_slashes (hbase : ∃ c ∈ base, 0x20 < c.toNat) (hslashes : ∀ c ∈ slashes, c = '/') :
    ∃ seen low tail, clean (base ++ slashes) = seen ++ tail ∧ stem base = seen ++ low ∧
      (∀ c ∈ tail, c = '/') ∧ (∀ c ∈ low, c.toNat ≤ 0x20) ∧
      ((∀ c ∈ (base ++ slashes).getLast?, 0x20 < c.toNat) → low = []) := by
  have hclean := clean_append_of_visible hbase slashes
  cases slashes with
  | nil =>
    obtain ⟨dropped, hdropped, hlow, hnone⟩ :=
      Text.trimEndWhile_append_dropped (p := fun c => c.toNat ≤ 0x20)
        (base.dropWhile (fun c => c.toNat ≤ 0x20))
    rw [List.append_nil (List.dropWhile _ _)] at hclean
    refine ⟨_, dropped.filter (fun c => !(c = '\t' || c = '\n' || c = '\r')), [],
      hclean.trans (List.append_nil _).symm, ?_, nofun, ?_, ?_⟩
    · rw [stem, ← List.filter_append, hdropped]
    · exact fun c hc => of_decide_eq_true (hlow c (List.mem_filter.1 hc).1)
    · intro hlast
      rw [hnone, List.filter_nil]
      intro c hc
      refine decide_eq_false (Nat.not_le.2 (hlast c ?_))
      rw [List.append_nil, ← List.takeWhile_append_dropWhile (p := fun c => c.toNat ≤ 0x20)
        (l := base), List.getLast?_append, hc]
      rfl
  | cons slash more =>
    have hstay : ∀ c ∈ slash :: more, decide (c.toNat ≤ 0x20) = false := by
      intro c hc
      rw [hslashes c hc]
      decide
    have hkept : (slash :: more).filter (fun c => !(c = '\t' || c = '\n' || c = '\r')) =
        slash :: more := by
      refine List.filter_eq_self.2 (fun c hc => ?_)
      rw [hslashes c hc]
      decide
    have htrim : Text.trimEndWhile (fun c => c.toNat ≤ 0x20) more = more :=
      Text.trimEndWhile_eq_self (fun c hc => hstay c (List.mem_cons_of_mem _ hc))
    refine ⟨stem base, [], slash :: more, ?_, (List.append_nil _).symm, hslashes, nofun,
      fun _ => rfl⟩
    rw [hclean, Text.trimEndWhile_behind (hstay slash List.mem_cons_self), htrim,
      List.filter_append, hkept]
    rfl

theorem mem_of_mem_clean {cs : List Char} {c : Char} (h : c ∈ clean cs) : c ∈ cs := by
  have htrimmed := (List.mem_filter.1 h).1
  have hdropped := (List.dropWhile_sublist _).subset (List.mem_reverse.1 htrimmed)
  exact (List.dropWhile_sublist _).subset (List.mem_reverse.1 hdropped)

theorem visible_of_isLetter {c : Char} (h : isLetter c = true) : 0x20 < c.toNat := by
  simp only [isLetter, Bool.or_eq_true, Bool.and_eq_true, decide_eq_true_eq, Char.le_def,
    UInt32.le_iff_toNat_le] at h
  rcases h with ⟨h, _⟩ | ⟨h, _⟩
  · exact Nat.lt_of_lt_of_le (by decide) h
  · exact Nat.lt_of_lt_of_le (by decide) h

/-- The text of a URL of the web has a letter in it, in front of all slashes at its end. -/
theorem WebForm.exists_visible {scheme slashed front behind : List Char}
    (h : WebForm (clean (base ++ slashes)) scheme slashed front behind)
    (hslashes : ∀ c ∈ slashes, c = '/') : ∃ c ∈ base, 0x20 < c.toNat := by
  cases hscheme : scheme with
  | nil =>
    have hletter := h.letter
    rw [hscheme] at hletter
    cases hletter
  | cons c cs =>
    have hletter := h.letter
    rw [hscheme] at hletter
    have hmem : c ∈ clean (base ++ slashes) := by
      rw [h.text_eq, hscheme]
      exact List.mem_cons_self
    rcases List.mem_append.1 (mem_of_mem_clean hmem) with hbase | hslash
    · exact ⟨c, hbase, visible_of_isLetter hletter⟩
    · rw [hslashes c hslash] at hletter
      cases hletter

/-- Slashes at the end of a text are behind its authority. -/
theorem exists_before {lead front behind seen tail : List Char} (hne : front ≠ [])
    (hfront : ∀ c ∈ front, endsAuthority .web c = false) (htail : ∀ c ∈ tail, c = '/')
    (h : seen ++ tail = lead ++ front ++ behind) :
    ∃ before, seen = lead ++ front ++ before ∧ behind = before ++ tail := by
  rcases List.append_eq_append_iff.1 h with ⟨past, hseen, hpast⟩ | ⟨before, hseen, hbehind⟩
  · -- The tail cannot reach into the authority: it would end with a slash.
    rcases List.eq_nil_or_concat past with rfl | ⟨past, slash, rfl⟩
    · exact ⟨[], by rw [hseen, List.append_nil, List.append_nil], by rw [hpast]; rfl⟩
    · obtain ⟨more, last, rfl⟩ : ∃ more last, front = more ++ [last] :=
        ⟨front.dropLast, front.getLast hne, (List.dropLast_concat_getLast hne).symm⟩
      have hlast : last = slash := by
        rw [List.concat_eq_append, ← List.append_assoc, ← List.append_assoc] at hseen
        exact List.singleton_inj.1 (List.append_inj' hseen rfl).2
      have hslash : slash = '/' := by
        refine htail slash ?_
        rw [hpast, List.concat_eq_append]
        exact List.mem_append_left _ (List.mem_append_right _ List.mem_cons_self)
      have hopen := hfront last (List.mem_append_right _ List.mem_cons_self)
      rw [hlast, hslash] at hopen
      cases hopen
  · exact ⟨before, hseen, hbehind⟩

/-- **What is written behind a slash has no say in scheme and authority.** Where a text is the URL of
a web page, with slashes at its end or without, any text that is written behind it and a slash makes
a URL with the same scheme and authority, or none at all; and it does make one unless the text ended
with controls or spaces. -/
theorem parseChars_behind_slash {u : Url} (hslashes : ∀ c ∈ slashes, c = '/')
    (hparse : parseChars (base ++ slashes) = .ok u) (hweb : u.isWeb = true) (more : List Char) :
    (∀ v, parseChars (base ++ '/' :: more) = .ok v →
      v.scheme = u.scheme ∧ v.authority = u.authority) ∧
    ((∀ c ∈ (base ++ slashes).getLast?, 0x20 < c.toNat) →
      ∃ v, parseChars (base ++ '/' :: more) = .ok v) := by
  obtain ⟨scheme, slashed, front, behind, a, hform, ha, hscheme, hauthority⟩ :=
    exists_webForm hparse hweb
  have hbase := hform.exists_visible hslashes
  obtain ⟨kept, hkept⟩ := clean_behind_slash hbase more
  obtain ⟨seen, low, tail, hclean, hstem, htail, hlow, hvisible⟩ :=
    clean_before_slashes hbase hslashes
  obtain ⟨before, hseen, hbehind⟩ : ∃ before,
      seen = (scheme ++ ':' :: slashed) ++ front ++ before ∧ behind = before ++ tail := by
    refine exists_before hform.nonempty hform.open_front htail ?_
    rw [← hclean, hform.text_eq]
    simp only [List.append_assoc, List.cons_append]
  have htext : clean (base ++ '/' :: more) =
      scheme ++ ':' :: (slashed ++ (front ++ (before ++ (low ++ '/' :: kept)))) := by
    rw [hkept, hstem, hseen]
    simp only [List.append_assoc, List.cons_append]
  have hended : EndsFront ('/' :: kept) := endsFront_cons rfl kept
  -- Where what ends the authority comes first, the authority is the one that was read before.
  have hsame : ∀ {after}, EndsFront after →
      clean (base ++ '/' :: more) = scheme ++ ':' :: (slashed ++ (front ++ after)) →
      ∃ v, parseChars (base ++ '/' :: more) = .ok v ∧
        v.scheme = u.scheme ∧ v.authority = u.authority := by
    intro after hended htext
    have hthere : WebForm (clean (base ++ '/' :: more)) scheme slashed front after :=
      { hform with text_eq := htext, ended := hended }
    exact ⟨_, hthere.reads ha, hscheme.symm, hauthority.symm⟩
  by_cases hinside : before = [] ∧ low ≠ []
  · -- The controls have come to stand in the authority.
    obtain ⟨rfl, hne⟩ := hinside
    obtain ⟨problem, hproblem⟩ : ∃ problem,
        authorityOf (scheme.map Domain.lowerAscii) (front ++ low) = .error problem :=
      authorityOf_append_low hform.open_front hne hlow
    have hthere : WebForm (clean (base ++ '/' :: more)) scheme slashed (front ++ low)
        ('/' :: kept) :=
      { hform with
        text_eq := by rw [htext, List.nil_append, List.append_assoc]
        nonempty := List.append_ne_nil_of_left_ne_nil hform.nonempty low
        open_front := fun c hc => (List.mem_append.1 hc).elim (hform.open_front c)
          (fun hc => (of_le_space (hlow c hc)).2.2.2)
        ended := hended }
    exact ⟨fun v hv => absurd hv (hthere.refused hproblem v), fun hlast => absurd (hvisible hlast) hne⟩
  · have hafter : EndsFront (before ++ (low ++ '/' :: kept)) := by
      by_cases hnil : before = []
      · have hnone : low = [] := not_not.1 (fun hne => hinside ⟨hnil, hne⟩)
        rw [hnil, hnone]
        exact hended
      · exact (hbehind ▸ hform.ended).of_append hnil _
    obtain ⟨v, hv, hsame⟩ := hsame hafter htext
    refine ⟨fun w hw => ?_, fun _ => ⟨v, hv⟩⟩
    rw [hv] at hw
    cases hw
    exact hsame

end Behind

end RedirectLogin.Url
