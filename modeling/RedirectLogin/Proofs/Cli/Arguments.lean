import Mathlib.Data.Nat.Digits.Defs
import RedirectLogin.Cli.Command

/-!
# The grammar of the arguments

What the program can be asked for, as a grammar (`Accepts`), and what is wrong with everything else
(`Refuses`). The options behind `login` are blocks of one or two words, and the words of a block are
never looked at in another way: what follows `--port` is its value, even if it looks like an option.

Principal results: `port?_eq_some_iff` — port numbers; `readOptions_eq_ok_iff`,
`readOptions_eq_error_iff` — the options of a login; `arguments_meet_grammar` — all arguments.
-/

set_option autoImplicit false

namespace RedirectLogin.Cli.Command

/-! ## Port numbers -/

/-- A text is a port number: one digit or more, possibly behind a plus sign, and worth at most
65535. Zeros in front do not matter. -/
def IsPort (value : String) (port : Nat) : Prop :=
  ∃ digits : List Char, (value.toList = digits ∨ value.toList = '+' :: digits) ∧ digits ≠ [] ∧
    (∀ c ∈ digits, '0' ≤ c ∧ c ≤ '9') ∧
    port = Nat.ofDigits 10 (digits.reverse.map fun c => c.toNat - '0'.toNat) ∧ port ≤ 65535

/-- Read from the left, digits are worth what they are worth by their places. -/
theorem digitsValue_eq (digits : List Char) :
    digitsValue digits = Nat.ofDigits 10 (digits.reverse.map fun c => c.toNat - '0'.toNat) := by
  rw [digitsValue, Nat.ofDigits_eq_foldr, List.foldr_map, List.foldr_reverse]
  congr 1
  funext n c
  change n * 10 + (c.toNat - 48) = (c.toNat - 48) + 10 * n
  omega

theorem all_isDigit_iff {digits : List Char} :
    digits.all isDigit = true ↔ ∀ c ∈ digits, '0' ≤ c ∧ c ≤ '9' := by
  simp [isDigit]

/-- Only one plus sign is taken off, and digits do not begin with one. -/
theorem portDigits_eq_iff {value : String} {digits : List Char}
    (hdigits : ∀ c ∈ digits, '0' ≤ c ∧ c ≤ '9') :
    portDigits value = digits ↔ value.toList = digits ∨ value.toList = '+' :: digits := by
  unfold portDigits
  split
  · rename_i rest hvalue
    have hplus : '+' :: rest ≠ digits := by
      rintro rfl
      exact absurd (hdigits '+' List.mem_cons_self).1 (by decide)
    simp [hvalue, hplus]
  · rename_i hplain
    exact ⟨.inl, fun h => h.elim id fun hplus => (hplain digits hplus).elim⟩

/-- **The reader of port numbers** takes exactly those. -/
theorem port?_eq_some_iff {value : String} {port : Nat} :
    port? value = some port ↔ IsPort value port := by
  unfold port?
  simp only
  constructor
  · intro h
    split at h
    · cases h
    rename_i hread
    obtain ⟨hne, hall⟩ : portDigits value ≠ [] ∧ (portDigits value).all isDigit = true := by
      simpa using hread
    split at h
    · rename_i hsmall
      obtain rfl := Option.some.inj h
      have hdigits := all_isDigit_iff.1 hall
      exact ⟨_, (portDigits_eq_iff hdigits).1 rfl, hne, hdigits, digitsValue_eq _, hsmall⟩
    · cases h
  · rintro ⟨digits, hvalue, hne, hdigits, hport, hsmall⟩
    rw [(portDigits_eq_iff hdigits).2 hvalue, digitsValue_eq, ← hport, all_isDigit_iff.2 hdigits]
    simp [hne, hsmall]

theorem port?_eq_none_iff {value : String} : port? value = none ↔ ∀ port, ¬IsPort value port := by
  simp only [Option.eq_none_iff_forall_ne_some, ne_eq, port?_eq_some_iff]

/-! ## The options of a login -/

/-- An option of a login. -/
inductive LoginOption where
  | loopback
  | port (number : Nat)

/-- The port that an option names. -/
def LoginOption.number? : LoginOption → Option Nat
  | .loopback => none
  | .port number => some number

/-- Words that say these options, one block after the other. -/
inductive Spells : List LoginOption → List String → Prop
  | nil : Spells [] []
  | loopback {options : List LoginOption} {words : List String} (rest : Spells options words) :
      Spells (.loopback :: options) ("--loopback" :: words)
  | port {options : List LoginOption} {words : List String} {value : String} {number : Nat}
      (isPort : IsPort value number) (rest : Spells options words) :
      Spells (.port number :: options) ("--port" :: value :: words)

/-- The port of the last option that names one. -/
def lastPort (options : List LoginOption) (otherwise : Nat) : Nat :=
  (options.filterMap LoginOption.number?).getLast?.getD otherwise

theorem lastPort_port (number otherwise : Nat) (options : List LoginOption) :
    lastPort (.port number :: options) otherwise = lastPort options number := by
  simp [lastPort, LoginOption.number?, List.getLast?_cons]

theorem spells_loopback_iff {options : List LoginOption} {words : List String} :
    Spells options ("--loopback" :: words) ↔
      ∃ rest, options = .loopback :: rest ∧ Spells rest words := by
  constructor
  · intro h
    generalize hall : "--loopback" :: words = all at h
    cases h with
    | nil => cases hall
    | loopback rest =>
      obtain ⟨-, rfl⟩ := List.cons.inj hall
      exact ⟨_, rfl, rest⟩
    | port => exact absurd (List.cons.inj hall).1 (by decide)
  · rintro ⟨rest, rfl, h⟩
    exact .loopback h

theorem spells_port_iff {options : List LoginOption} {value : String} {words : List String} :
    Spells options ("--port" :: value :: words) ↔
      ∃ number rest, options = .port number :: rest ∧ IsPort value number ∧ Spells rest words := by
  constructor
  · intro h
    generalize hall : "--port" :: value :: words = all at h
    cases h with
    | nil => cases hall
    | loopback => exact absurd (List.cons.inj hall).1 (by decide)
    | port isPort rest =>
      obtain ⟨rfl, rfl⟩ := List.cons.inj (List.cons.inj hall).2
      exact ⟨_, _, rfl, isPort, rest⟩
  · rintro ⟨number, rest, rfl, isPort, h⟩
    exact .port isPort h

/-- Words can be cut into blocks in one way. -/
theorem Spells.unique {options options' : List LoginOption} {words : List String}
    (h : Spells options words) (h' : Spells options' words) : options = options' := by
  induction h generalizing options' with
  | nil =>
    cases h'
    rfl
  | loopback _ ih =>
    obtain ⟨others, rfl, hothers⟩ := spells_loopback_iff.1 h'
    rw [ih hothers]
  | port isPort _ ih =>
    obtain ⟨number, others, rfl, isPort', hothers⟩ := spells_port_iff.1 h'
    have hnumber := (port?_eq_some_iff.2 isPort).symm.trans (port?_eq_some_iff.2 isPort')
    rw [Option.some.inj hnumber, ih hothers]

/-- Why the options of a login are refused: the first block that is none decides. -/
inductive RefusesOption : List String → UsageError → Prop
  | missingPort : RefusesOption ["--port"] .missingPort
  | badPort {value : String} (rest : List String) (notPort : ∀ port, ¬IsPort value port) :
      RefusesOption ("--port" :: value :: rest) (.badPort value)
  | unknownOption {word : String} (rest : List String) (notLoopback : word ≠ "--loopback")
      (notPort : word ≠ "--port") : RefusesOption (word :: rest) (.unknownOption word)

section Readers

variable {loopback : Bool} {port : Nat} {words : List String}

/-- What is read of words goes on behind those that were read. -/
theorem Spells.readOptions {options : List LoginOption} {front : List String}
    (h : Spells options front) (loopback : Bool) (port : Nat) (rest : List String) :
    Command.readOptions loopback port (front ++ rest) =
      Command.readOptions (loopback || !options.isEmpty) (lastPort options port) rest := by
  induction h generalizing loopback port with
  | nil => simp [lastPort]
  | loopback _ ih =>
    rw [List.cons_append, readOptions_loopback, ih]
    simp [lastPort, LoginOption.number?]
  | port isPort _ ih =>
    rw [List.cons_append, List.cons_append, Command.readOptions]
    simp only [port?_eq_some_iff.2 isPort]
    rw [ih, lastPort_port]
    simp

/-- All words are options, or begin with options up to one that is refused. -/
theorem readOptions_cases (words : List String) :
    (∃ options, Spells options words) ∨
      ∃ options front rest e, words = front ++ rest ∧ Spells options front ∧
        RefusesOption rest e := by
  fun_induction Command.readOptions false 0 words with
  | case1 => exact .inl ⟨[], .nil⟩
  | case2 loopback port rest ih =>
    rcases ih with ⟨options, h⟩ | ⟨options, front, tail, e, rfl, h, hrefuses⟩
    · exact .inl ⟨_, .loopback h⟩
    · exact .inr ⟨_, "--loopback" :: front, tail, e, rfl, .loopback h, hrefuses⟩
  | case3 => exact .inr ⟨[], [], _, _, rfl, .nil, .missingPort⟩
  | case4 loopback port value rest number hport ih =>
    have isPort := port?_eq_some_iff.1 hport
    rcases ih with ⟨options, h⟩ | ⟨options, front, tail, e, rfl, h, hrefuses⟩
    · exact .inl ⟨_, .port isPort h⟩
    · exact .inr ⟨_, "--port" :: value :: front, tail, e, rfl, .port isPort h, hrefuses⟩
  | case5 loopback port value rest hport =>
    exact .inr ⟨[], [], _, _, rfl, .nil, .badPort rest (port?_eq_none_iff.1 hport)⟩
  | case6 loopback port word rest hloopback hlone hport =>
    have hnotPort : word ≠ "--port" := by
      intro hword
      cases rest with
      | nil => exact hlone hword rfl
      | cons value rest => exact hport value rest hword rfl
    exact .inr ⟨[], [], _, _, rfl, .nil, .unknownOption rest hloopback hnotPort⟩

theorem RefusesOption.readOptions {e : UsageError} (h : RefusesOption words e) (loopback : Bool)
    (port : Nat) : Command.readOptions loopback port words = .error e := by
  cases h with
  | missingPort => rfl
  | badPort rest notPort => simp [Command.readOptions, port?_eq_none_iff.2 notPort]
  | unknownOption rest notLoopback notPort => simp [Command.readOptions, notPort]

/-- **The options of a login** are read exactly if the words spell some. -/
theorem readOptions_eq_ok_iff {command : Command} :
    Command.readOptions loopback port words = .ok command ↔
      ∃ options, Spells options words ∧
        command = .login (loopback || !options.isEmpty) (lastPort options port) := by
  have hspelled : ∀ options, Spells options words → Command.readOptions loopback port words =
      .ok (.login (loopback || !options.isEmpty) (lastPort options port)) := by
    intro options h
    have hread := h.readOptions loopback port []
    rwa [List.append_nil] at hread
  constructor
  · intro hread
    rcases readOptions_cases words with ⟨options, h⟩ | ⟨options, front, rest, e, rfl, h, hrefuses⟩
    · rw [hspelled options h] at hread
      exact ⟨options, h, (Except.ok.inj hread).symm⟩
    · rw [h.readOptions, hrefuses.readOptions] at hread
      cases hread
  · rintro ⟨options, h, rfl⟩
    exact hspelled options h

/-- They are refused exactly for the first block that is none. -/
theorem readOptions_eq_error_iff {e : UsageError} :
    Command.readOptions loopback port words = .error e ↔
      ∃ options front rest, words = front ++ rest ∧ Spells options front ∧
        RefusesOption rest e := by
  constructor
  · intro hread
    rcases readOptions_cases words with ⟨options, h⟩ | ⟨options, front, rest, e', rfl, h, hrefuses⟩
    · rw [readOptions_eq_ok_iff.2 ⟨options, h, rfl⟩] at hread
      cases hread
    · rw [h.readOptions, hrefuses.readOptions] at hread
      obtain rfl := Except.error.inj hread
      exact ⟨options, front, rest, rfl, h, hrefuses⟩
  · rintro ⟨options, front, rest, rfl, h, hrefuses⟩
    rw [h.readOptions, hrefuses.readOptions]

end Readers

/-! ## All arguments -/

/-- The first words that begin a command. -/
def firstWords : List String :=
  ["login", "status", "logout", "validate", "get", "help", "--help", "-h"]

/-- What the program is asked for. Only a login looks at all of its words. -/
inductive Accepts : List String → Command → Prop
  | nothing : Accepts [] .help
  | login {options : List LoginOption} {words : List String} (spells : Spells options words) :
      Accepts ("login" :: words) (.login (!options.isEmpty) (lastPort options 0))
  | status (words : List String) : Accepts ("status" :: words) .status
  | logout (words : List String) : Accepts ("logout" :: words) .logout
  | validate (words : List String) : Accepts ("validate" :: words) .validate
  | get (path : String) (words : List String) : Accepts ("get" :: path :: words) (.get path)
  | help {word : String} (words : List String) (isHelp : word ∈ ["help", "--help", "-h"]) :
      Accepts (word :: words) .help

/-- Why arguments are refused. -/
inductive Refuses : List String → UsageError → Prop
  | login {options : List LoginOption} {front rest : List String} {e : UsageError}
      (spells : Spells options front) (refused : RefusesOption rest e) :
      Refuses ("login" :: (front ++ rest)) e
  | missingPath : Refuses ["get"] .missingPath
  | unknownCommand {word : String} (words : List String) (unknown : word ∉ firstWords) :
      Refuses (word :: words) (.unknownCommand word)

theorem ofArgs_unknown {word : String} (words : List String) (h : word ∉ firstWords) :
    ofArgs (word :: words) = .error (.unknownCommand word) := by
  simp only [firstWords, List.mem_cons, List.not_mem_nil, or_false, not_or] at h
  simp [ofArgs, h]

theorem Accepts.ofArgs {args : List String} {command : Command} (h : Accepts args command) :
    Command.ofArgs args = .ok command := by
  cases h with
  | nothing | status | logout | validate | get => rfl
  | login spells => exact readOptions_eq_ok_iff.2 ⟨_, spells, rfl⟩
  | help words isHelp =>
    simp only [List.mem_cons, List.not_mem_nil, or_false] at isHelp
    rcases isHelp with rfl | rfl | rfl <;> rfl

theorem Refuses.ofArgs {args : List String} {e : UsageError} (h : Refuses args e) :
    Command.ofArgs args = .error e := by
  cases h with
  | login spells refused => exact readOptions_eq_error_iff.2 ⟨_, _, _, rfl, spells, refused⟩
  | missingPath => rfl
  | unknownCommand words unknown => exact ofArgs_unknown words unknown

/-- Nothing is left undecided. -/
theorem accepts_or_refuses (args : List String) :
    (∃ command, Accepts args command) ∨ ∃ e, Refuses args e := by
  cases args with
  | nil => exact .inl ⟨_, .nothing⟩
  | cons word words =>
    by_cases hfirst : word ∈ firstWords
    · simp only [firstWords, List.mem_cons, List.not_mem_nil, or_false] at hfirst
      rcases hfirst with rfl | rfl | rfl | rfl | rfl | hhelp
      · rcases readOptions_cases words with
          ⟨options, h⟩ | ⟨options, front, rest, e, rfl, h, hrefuses⟩
        · exact .inl ⟨_, .login h⟩
        · exact .inr ⟨_, .login h hrefuses⟩
      · exact .inl ⟨_, .status words⟩
      · exact .inl ⟨_, .logout words⟩
      · exact .inl ⟨_, .validate words⟩
      · cases words with
        | nil => exact .inr ⟨_, .missingPath⟩
        | cons path words => exact .inl ⟨_, .get path words⟩
      · exact .inl ⟨_, .help words (by simpa using hhelp)⟩
    · exact .inr ⟨_, .unknownCommand words hfirst⟩

/-- **Arguments are read by their grammar.** They ask for a command exactly as the grammar says, and
are refused exactly for the reason it gives: among the options of a login the first block that is
none, and the word behind `--port` is part of that block whatever it is. A login is accepted exactly
if its words are a series of blocks, and then of one series. -/
theorem arguments_meet_grammar (args : List String) :
    (∀ command, ofArgs args = .ok command ↔ Accepts args command) ∧
      (∀ e, ofArgs args = .error e ↔ Refuses args e) ∧
      ∀ words, (∃ command, ofArgs ("login" :: words) = .ok command) ↔
        ∃! options, Spells options words := by
  refine ⟨fun command => ⟨fun hread => ?_, Accepts.ofArgs⟩, fun e => ⟨fun hread => ?_,
    Refuses.ofArgs⟩, fun words => ⟨?_, ?_⟩⟩
  · rcases accepts_or_refuses args with ⟨command', h⟩ | ⟨e, h⟩
    · obtain rfl := Except.ok.inj (hread.symm.trans h.ofArgs)
      exact h
    · cases hread.symm.trans h.ofArgs
  · rcases accepts_or_refuses args with ⟨command, h⟩ | ⟨e', h⟩
    · cases hread.symm.trans h.ofArgs
    · obtain rfl := Except.error.inj (hread.symm.trans h.ofArgs)
      exact h
  · rintro ⟨command, hread⟩
    obtain ⟨options, h, -⟩ := readOptions_eq_ok_iff.1 hread
    exact ⟨options, h, fun _ h' => h'.unique h⟩
  · rintro ⟨options, h, -⟩
    exact ⟨_, (Accepts.login h).ofArgs⟩

/-- What looks like an option behind `--port` is the port that cannot be read. -/
example : ofArgs ["login", "--port", "--loopback"] = .error (.badPort "--loopback") := by decide

end RedirectLogin.Cli.Command
