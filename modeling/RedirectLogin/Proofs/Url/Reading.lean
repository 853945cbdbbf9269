import RedirectLogin.Proofs.Text.Blank
import RedirectLogin.Proofs.Text.Digits
import RedirectLogin.Proofs.Url.Form
import RedirectLogin.Url.Parser

/-!
# Reading a URL by its parts

A URL is read from left to right, and what is behind a part decides nothing about it once the part
has ended. So a URL that begins with the origin of the loopback listener is one, whatever is written
behind the slash; and a form behind a question mark or a number sign is the query or the fragment,
character by character.

Principal results: `parse_loopback` — a URL of the loopback listener, by its front alone;
`readQueryFragment_query`, `readQueryFragment_fragment` — a form is taken in as it is.
-/

set_option autoImplicit false

namespace RedirectLogin

/-- Characters outside the set are written as they are. -/
theorem Percent.encodeWith_eq_self {set : Char → Bool} {cs : List Char}
    (h : ∀ c ∈ cs, set c = false) : encodeWith set cs = cs := by
  induction cs with
  | nil => rfl
  | cons c cs ih =>
    have hc : encodeChar set c = [c] := by
      rw [encodeChar, if_neg (by simp [h c List.mem_cons_self])]
    have hcs := ih (fun d hd => h d (List.mem_cons_of_mem _ hd))
    rw [encodeWith] at hcs ⊢
    rw [List.flatMap_cons, hc, hcs, List.singleton_append]

namespace Domain

theorem toNat_of_isUpper {c : Char} (h : ('A' ≤ c && c ≤ 'Z') = true) : c.toNat < 128 := by
  simp only [Bool.and_eq_true, decide_eq_true_eq, Char.le_def, UInt32.le_iff_toNat_le] at h
  exact Nat.lt_of_le_of_lt h.2 (by decide)

/-- What is in lower case stays so. -/
theorem lowerAscii_lowerAscii (c : Char) : lowerAscii (lowerAscii c) = lowerAscii c := by
  by_cases h : ('A' ≤ c && c ≤ 'Z') = true
  · exact Text.forall_ascii (toNat_of_isUpper h) (by decide +kernel)
  · have hsame : lowerAscii c = c := if_neg h
    rw [hsame, hsame]

theorem map_lowerAscii (cs : List Char) :
    (cs.map lowerAscii).map lowerAscii = cs.map lowerAscii := by
  rw [List.map_map]
  exact List.map_congr_left fun c _ => lowerAscii_lowerAscii c

end Domain

namespace Url

/-! ## Cleaning -/

/-- Characters above the space are no controls and no line ends. -/
theorem clean_filter {cs : List Char} (h : ∀ c ∈ cs, 0x20 < c.toNat) :
    cs.filter (fun c => !(c = '\t' || c = '\n' || c = '\r')) = cs := by
  refine List.filter_eq_self.2 (fun c hc => ?_)
  have hlow := h c hc
  simp only [Bool.not_eq_true', Bool.or_eq_false_iff, decide_eq_false_iff_not]
  refine ⟨⟨?_, ?_⟩, ?_⟩
  all_goals
    rintro rfl
    exact absurd hlow (by decide)

/-- A front of visible characters is kept, whatever is behind it. -/
theorem clean_front {front : List Char} (hne : front ≠ []) (h : ∀ c ∈ front, 0x20 < c.toNat)
    (behind : List Char) : ∃ kept, clean (front ++ behind) = front ++ kept := by
  have hstay : ∀ c ∈ front, decide (c.toNat ≤ 0x20) = false :=
    fun c hc => decide_eq_false (Nat.not_le.2 (h c hc))
  rw [clean, Text.trimWhile_front hne hstay, List.filter_append, clean_filter h]
  exact ⟨_, rfl⟩

/-- Visible characters are all kept. -/
theorem clean_eq_self {cs : List Char} (h : ∀ c ∈ cs, 0x20 < c.toNat) : clean cs = cs := by
  have hstay : ∀ c ∈ cs, decide (c.toNat ≤ 0x20) = false :=
    fun c hc => decide_eq_false (Nat.not_le.2 (h c hc))
  rw [clean, Text.trimWhile_eq_self, clean_filter h]
  · exact fun c hc => hstay c (List.mem_of_mem_head? hc)
  · exact fun c hc => hstay c (List.mem_of_mem_getLast? hc)

/-! ## Scheme and authority -/

/-- A scheme ends at its colon. -/
theorem splitScheme_append {scheme : List Char} (hfirst : scheme.head?.any isLetter = true)
    (h : ∀ c ∈ scheme, isSchemeChar c = true) (rest : List Char) :
    splitScheme (scheme ++ ':' :: rest) = some (scheme.map Domain.lowerAscii, rest) := by
  have hend : ∀ c cs, ':' :: rest = c :: cs → isSchemeChar c = false := by
    rintro c cs ⟨⟩
    decide
  simp only [splitScheme, Text.takeWhile_run h hend, Text.dropWhile_run h hend, hfirst, if_true]

/-- A text without colons and brackets is all host. -/
theorem splitHost_eq_self {cs : List Char} (h : ∀ c ∈ cs, c ≠ ':' ∧ c ≠ '[') :
    splitHost false cs = (cs, []) := by
  induction cs with
  | nil => rfl
  | cons c cs ih =>
    obtain ⟨hcolon, hbracket⟩ := h c List.mem_cons_self
    have hinside : (if c = '[' then true else if c = ']' then false else false) = false := by
      simp [hbracket]
    simp only [splitHost, hcolon, decide_false, Bool.false_and, Bool.false_eq_true, if_false,
      hinside, ih (fun d hd => h d (List.mem_cons_of_mem _ hd))]

theorem splitLastAt_eq_none {cs : List Char} (h : ∀ c ∈ cs, c ≠ '@') : splitLastAt cs = none := by
  rw [splitLastAt, if_neg]
  exact fun hat => h '@' (List.contains_iff_mem.1 hat) rfl

/-- A letter stands for itself in every host, and ends nothing. -/
theorem of_isLetter {c : Char} (h : isLetter c = true) :
    (!endsAuthority .other c) = true ∧ c ≠ '@' ∧ c ≠ ':' ∧ c ≠ '[' ∧
      isForbiddenInHost c = false ∧ Percent.isControl c = false := by
  have hlt : c.toNat < 128 := by
    simp only [isLetter, Bool.or_eq_true, Bool.and_eq_true, decide_eq_true_eq, Char.le_def,
      UInt32.le_iff_toNat_le] at h
    rcases h with ⟨_, h⟩ | ⟨_, h⟩
    · exact Nat.lt_of_le_of_lt h (by decide)
    · exact Nat.lt_of_le_of_lt h (by decide)
  revert h
  exact Text.forall_ascii hlt (by decide +kernel)

/-- The authority that is only a name. -/
def namedAuthority (host : List Char) : Authority where
  username := ""
  password := none
  host := some (.name (String.ofList host))
  port := none

/-- A name of letters, up to what ends the authority, is the host of a scheme without rules of its
own. -/
theorem readAuthority_name {host behind : List Char} (scheme : List Char) (hne : host ≠ [])
    (hhost : ∀ c ∈ host, isLetter c = true)
    (hend : ∀ c cs, behind = c :: cs → (!endsAuthority .other c) = false) :
    readAuthority .other scheme (host ++ behind) = .ok (namedAuthority host, behind) := by
  have hfront : ∀ c ∈ host, (!endsAuthority .other c) = true :=
    fun c hc => (of_isLetter (hhost c hc)).1
  have hat : splitLastAt host = none :=
    splitLastAt_eq_none (fun c hc => (of_isLetter (hhost c hc)).2.1)
  have hsplit : splitHost false host = (host, []) := splitHost_eq_self (fun c hc =>
    ⟨(of_isLetter (hhost c hc)).2.2.1, (of_isLetter (hhost c hc)).2.2.2.1⟩)
  have hread : readHost .other host = .ok (some (.name (String.ofList host))) := by
    have hbracket : host.head? ≠ some '[' := fun h =>
      (of_isLetter (hhost _ (List.mem_of_mem_head? h))).2.2.2.1 rfl
    have hforbidden : host.any isForbiddenInHost = false :=
      List.any_eq_false.2 (fun c hc => by simp [(of_isLetter (hhost c hc)).2.2.2.2.1])
    have hwritten := Percent.encodeWith_eq_self (fun c hc => (of_isLetter (hhost c hc)).2.2.2.2.2)
    simp [readHost, SchemeKind.isSpecial, readPlainHost, hbracket, hforbidden, hne, hwritten]
  simp only [readAuthority, Text.takeWhile_run hfront hend, Text.dropWhile_run hfront hend, hat,
    Option.getD_none, hsplit, hread]
  rw [if_neg (by simp [hne])]
  simp only [bind, Except.bind, ite_self]
  rfl

/-! ## The loopback listener -/

/-- The authority of the loopback listener. The port of the web is left out. -/
def loopbackAuthority (port : Nat) : Authority where
  username := ""
  password := none
  host := some (.ipv4 2130706433)
  port := if port = 80 then none else some port

theorem readPort_toDigits {port : Nat} (h : port ≤ 65535) (rest : List Char) :
    readPort (Nat.toDigits 10 port ++ '/' :: rest) = .ok (some port, '/' :: rest) := by
  have hdigits : ∀ c ∈ Nat.toDigits 10 port, ('0' ≤ c && c ≤ '9') = true :=
    fun c hc => Text.digit_of_mem_toDigits hc
  have hend : ∀ c cs, '/' :: rest = c :: cs → ('0' ≤ c && c ≤ '9') = false := by
    rintro c cs ⟨⟩
    decide
  simp only [readPort, Text.takeWhile_run hdigits hend, Text.dropWhile_run hdigits hend,
    Text.foldl_toDigits]
  rw [if_neg (by omega)]
  simp [Nat.toDigits_ne_nil]

/-- What is read from a fixed text can be decided once its problems are left aside. -/
theorem eq_ok_of_toOption {ε α : Type} {x : Except ε α} {a : α} (h : x.toOption = some a) :
    x = .ok a := by
  cases x with
  | error e => cases h
  | ok b => rw [Option.some.inj h]

theorem readHost_loopback : readHost .web "127.0.0.1".toList = .ok (some (.ipv4 2130706433)) :=
  eq_ok_of_toOption (by decide +kernel)

theorem splitHost_loopback (digits : List Char) :
    splitHost false ("127.0.0.1:".toList ++ digits) = ("127.0.0.1".toList, ':' :: digits) := by
  simp [splitHost]

/-- Digits, full stops and colons end no authority, and are no at signs. -/
theorem mem_loopbackFront {port : Nat} {c : Char}
    (h : c ∈ "127.0.0.1:".toList ++ Nat.toDigits 10 port) :
    (!endsAuthority .web c) = true ∧ c ≠ '@' := by
  rcases List.mem_append.1 h with hhost | hport
  · exact Text.forall_mem hhost (by decide)
  · obtain ⟨hlow, hhigh⟩ := Text.toNat_of_mem_toDigits hport
    have hlt : c.toNat < 128 := by omega
    clear h hport
    revert hlow hhigh
    exact Text.forall_ascii hlt (by decide +kernel)

theorem readAuthority_loopback {port : Nat} (h : port ≤ 65535) (rest : List Char) :
    readAuthority .web "http".toList ("127.0.0.1:".toList ++ Nat.toDigits 10 port ++ '/' :: rest) =
      .ok (loopbackAuthority port, '/' :: rest) := by
  have hend : ∀ c cs, '/' :: rest = c :: cs → (!endsAuthority .web c) = false := by
    rintro c cs ⟨⟩
    decide
  have hat : splitLastAt ("127.0.0.1:".toList ++ Nat.toDigits 10 port) = none :=
    splitLastAt_eq_none (fun c hc => (mem_loopbackFront hc).2)
  have hport : (some port = defaultPort? "http".toList) = (port = 80) := by
    rw [show defaultPort? "http".toList = some 80 by decide, Option.some.injEq]
  simp only [readAuthority, Text.takeWhile_run (fun c hc => (mem_loopbackFront hc).1) hend,
    Text.dropWhile_run (fun c hc => (mem_loopbackFront hc).1) hend, hat, Option.getD_none,
    splitHost_loopback, readHost_loopback]
  rw [if_neg (by simp)]
  simp only [bind, Except.bind, readPort_toDigits h rest, hport]
  rfl

/-- A URL of the loopback listener, once cleaned: only path, query and fragment are left to read. -/
theorem parseChars_loopback {cs rest : List Char} {port : Nat} (h : port ≤ 65535)
    (hclean : clean cs =
      "http://127.0.0.1:".toList ++ Nat.toDigits 10 port ++ '/' :: rest) :
    parseChars cs =
      .ok (finish .web "http".toList (some (loopbackAuthority port)) ('/' :: rest)) := by
  have hscheme : splitScheme (clean cs) = some ("http".toList,
      '/' :: '/' :: ("127.0.0.1:".toList ++ Nat.toDigits 10 port ++ '/' :: rest)) := by
    have hfirst : "http".toList.head?.any isLetter = true := by decide
    rw [hclean]
    exact splitScheme_append hfirst (fun _ hc => Text.forall_mem hc (by decide)) _
  have hkind : SchemeKind.ofScheme "http".toList = .web := by decide
  have hslashes :
      ('/' :: '/' :: ("127.0.0.1:".toList ++ Nat.toDigits 10 port ++ '/' :: rest)).dropWhile
        (isSlash .web) = "127.0.0.1:".toList ++ Nat.toDigits 10 port ++ '/' :: rest := rfl
  simp only [parseChars, hscheme, hkind, hslashes, readAuthority_loopback h rest]
  rfl

/-- **What begins with the origin of the loopback listener is one of its URLs**, whatever is behind
the slash. -/
theorem parse_loopback {port : Nat} (h : port ≤ 65535) (behind : List Char) :
    ∃ kept, parseChars ("http://127.0.0.1:".toList ++ Nat.toDigits 10 port ++ '/' :: behind) =
      .ok (finish .web "http".toList (some (loopbackAuthority port)) ('/' :: kept)) := by
  have hvisible : ∀ c ∈ "http://127.0.0.1:".toList ++ Nat.toDigits 10 port ++ ['/'],
      0x20 < c.toNat := by
    intro c hc
    rw [List.append_assoc, List.mem_append, List.mem_append, List.mem_singleton] at hc
    rcases hc with hc | hc | rfl
    · exact Text.forall_mem hc (by decide)
    · exact Nat.lt_of_lt_of_le (by decide) (Text.toNat_of_mem_toDigits hc).1
    · decide
  obtain ⟨kept, hkept⟩ := clean_front (by simp) hvisible behind
  simp only [List.append_assoc, List.singleton_append] at hkept
  refine ⟨kept, parseChars_loopback h ?_⟩
  simpa only [List.append_assoc] using hkept

/-- Schemes are written without blanks. -/
theorem isSchemeChar_printable {c : Char} (h : isSchemeChar c = true) :
    0x20 < c.toNat ∧ c.toNat < 0x7F := by
  simp only [isSchemeChar, Bool.or_eq_true, Bool.and_eq_true, decide_eq_true_eq, Char.le_def,
    UInt32.le_iff_toNat_le] at h
  have hnumbers : ('a'.val.toNat = 97 ∧ 'z'.val.toNat = 122) ∧ ('A'.val.toNat = 65 ∧
      'Z'.val.toNat = 90) ∧ '0'.val.toNat = 48 ∧ '9'.val.toNat = 57 := by decide
  have hself : c.val.toNat = c.toNat := rfl
  rcases h with ((((h | h) | h) | rfl) | rfl) | rfl
  all_goals first | decide | omega

/-- A URL of a scheme without rules of its own, whose host is a name. -/
theorem parseChars_name {cs : List Char} (scheme host behind : List Char)
    (hfirst : scheme.head?.any isLetter = true) (hscheme : ∀ c ∈ scheme, isSchemeChar c = true)
    (hkind : SchemeKind.ofScheme (scheme.map Domain.lowerAscii) = .other) (hne : host ≠ [])
    (hhost : ∀ c ∈ host, isLetter c = true)
    (hend : ∀ c cs, behind = c :: cs → (!endsAuthority .other c) = false)
    (hclean : clean cs = scheme ++ ':' :: '/' :: '/' :: (host ++ behind)) :
    parseChars cs = .ok
      (finish .other (scheme.map Domain.lowerAscii) (some (namedAuthority host)) behind) := by
  have hsplit : splitScheme (clean cs) =
      some (scheme.map Domain.lowerAscii, '/' :: '/' :: (host ++ behind)) := by
    rw [hclean, splitScheme_append hfirst hscheme]
  simp only [parseChars, hsplit, hkind, readAuthority_name _ hne hhost hend]
  rfl

/-! ## Query and fragment -/

section Values

variable {form : List Char}

/-- **A form behind a question mark is the query**, as it is. -/
theorem readQueryFragment_query (kind : SchemeKind) (h : ∀ c ∈ form, Form.isWritten c = true) :
    readQueryFragment kind ('?' :: form) = (some (String.ofList form), none) := by
  have hsign : ∀ c ∈ form, decide (c ≠ '#') = true :=
    fun c hc => decide_eq_true (Form.of_isWritten (h c hc)).2.2.1
  have hnil : ∀ c cs, ([] : List Char) = c :: cs → decide (c ≠ '#') = false := nofun
  have hquery : form.takeWhile (· ≠ '#') = form := by
    have htake := Text.takeWhile_run hsign hnil
    rwa [List.append_nil] at htake
  have hfragment : ('?' :: form).dropWhile (· ≠ '#') = [] := by
    have hdrop := Text.dropWhile_run hsign hnil
    rw [List.append_nil] at hdrop
    rw [List.dropWhile_cons_of_pos (by decide), hdrop]
  have hset : ∀ c ∈ form,
      (if kind.isSpecial then Percent.inSpecialQuerySet else Percent.inQuerySet) c = false := by
    intro c hc
    obtain ⟨_, _, _, hplain, hspecial, _⟩ := Form.of_isWritten (h c hc)
    split
    · exact hspecial
    · exact hplain
  simp only [readQueryFragment, hquery, hfragment, Percent.encodeWith_eq_self hset]

/-- **A form behind a number sign is the fragment**, as it is. -/
theorem readQueryFragment_fragment (kind : SchemeKind) (h : ∀ c ∈ form, Form.isWritten c = true) :
    readQueryFragment kind ('#' :: form) = (none, some (String.ofList form)) := by
  have hdrop : ('#' :: form).dropWhile (· ≠ '#') = '#' :: form :=
    List.dropWhile_cons_of_neg (by decide)
  have hset : ∀ c ∈ form, Percent.inFragmentSet c = false :=
    fun c hc => (Form.of_isWritten (h c hc)).2.2.2.2.2
  simp only [readQueryFragment, hdrop, Percent.encodeWith_eq_self hset]
  rfl

end Values

end Url

end RedirectLogin
