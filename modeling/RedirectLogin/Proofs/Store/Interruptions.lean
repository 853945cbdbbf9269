import RedirectLogin.Proofs.Store.Files

/-!
# Plans that are interrupted

A plan of steps may be refused, fail or be stopped at any moment: between two steps, between two
directories of those that a step makes, and behind any part of the bytes that a step writes. What
then stands in the files is `During` the plan. A step that fails leaves behind what it had done, so
nothing more is needed for failures than for a process that stops.

What a reader finds at a path while a file changes elsewhere depends on that file's bytes only if
the path leads to it: `read_put` lists the three ways in which a path can be concerned.

Principal results: `runAll_during` — what a run leaves is among these states; `during_append` — a
plan in two parts; `read_put` — a reader's view of a file that is put somewhere.
-/

set_option autoImplicit false

namespace RedirectLogin

namespace Files

variable {fs gs : Files} {p : Path} {place : Place}

/-- The files at some moment while the directories up to a path are made. -/
inductive WhileMaking : Path → Files → Files → Prop
  | untouched (p : Path) (fs : Files) : WhileMaking p fs fs
  | alone {p parent : Path} {fs gs : Files} (hparent : p.parent? = some parent)
      (hensure : fs.ensureDirectory p = .ok gs) : WhileMaking p fs gs
  | above {p parent : Path} {fs gs : Files} (hparent : p.parent? = some parent)
      (hmissing : fs.ensureDirectory p = .error .notFound) (habove : WhileMaking parent fs gs) :
      WhileMaking p fs gs
  | atLast {p parent : Path} {fs gs hs : Files} (hparent : p.parent? = some parent)
      (hmissing : fs.ensureDirectory p = .error .notFound)
      (habove : makeDirectories parent fs = (.ok (), gs))
      (hensure : gs.ensureDirectory p = .ok hs) : WhileMaking p fs hs

/-- Whether the directories were made or not, what is there afterwards was there at some moment. -/
theorem whileMaking_makeDirectories (p : Path) (fs : Files) :
    WhileMaking p fs (makeDirectories p fs).2 := by
  fun_induction makeDirectories p fs with
  | case1 p hparent => exact .untouched p fs
  | case2 p parent hparent gs hensure => exact .alone hparent hensure
  | case3 p parent hparent hmissing e gs habove ih =>
    rw [habove] at ih
    exact .above hparent hmissing ih
  | case4 p parent hparent hmissing gs habove hs hensure ih =>
    exact .atLast hparent hmissing habove hensure
  | case5 p parent hparent hmissing gs habove e hensure ih =>
    rw [habove] at ih
    exact .above hparent hmissing ih
  | case6 p parent hparent e hother hensure => exact .untouched p fs

/-! ## Views of one file -/

theorem put_put (fs : Files) (place : Place) (e e' : Entry) :
    (fs.put place e).put place e' = fs.put place e' := by
  simp [put]

/-- Emptying a file is putting an empty one at a place where a file can stand. -/
theorem put_of_truncate {mode : Nat} (h : fs.truncate p mode = .ok gs) :
    ∃ place, fs.CanStand p place ∧ gs = fs.put place (.file [] (fs.modeAt place mode)) := by
  obtain ⟨place, hplace⟩ := canStand_of_truncate h
  exact ⟨place, hplace, Except.ok.inj (h.symm.trans (hplace.truncate_eq mode))⟩

/-- What is appended to a file that was just put makes another such file. -/
theorem CanStand.append_put (h : fs.CanStand p place) (start bytes : List UInt8) (mode : Nat) :
    (fs.put place (.file start mode)).append p bytes =
      .ok (fs.put place (.file (start ++ bytes) mode)) := by
  rw [(h.put h.not_directory start mode).append (find?_put_self _ _ h.ne_nil), put_put]

/-- Under a name stands what stood there, or the file that was put there. -/
theorem entryIn?_put (fs : Files) (home directory : Place) (name : String) :
    (∀ e, (fs.put home e).entryIn? directory name = fs.entryIn? directory name) ∨
      ∀ e, (fs.put home e).entryIn? directory name = .ok (some e) := by
  by_cases hlong : maxName < name.utf8ByteSize
  · exact .inl fun e => by simp only [Files.entryIn?, if_pos hlong]
  by_cases hhome : directory ++ [name] = home
  · subst hhome
    refine .inr fun e => ?_
    rw [Files.entryIn?, if_neg hlong, find?_put_self _ _ (by simp)]
  · refine .inl fun e => ?_
    rw [Files.entryIn?, Files.entryIn?, if_neg hlong, if_neg hlong, find?_put_of_ne _ _ hhome]

/-- A walk does not see a file that is put beside the way, and cannot go on where one stands in
it. -/
theorem walk_put (fs : Files) (home start : Place) (parts : List String) :
    (∀ bytes mode, (fs.put home (.file bytes mode)).walk start parts = fs.walk start parts) ∨
      ∀ bytes mode, (fs.put home (.file bytes mode)).walk start parts = .error .notDirectory := by
  induction parts generalizing start with
  | nil => exact .inl fun _ _ => rfl
  | cons part parts ih =>
    simp only [walk]
    by_cases hdot : part = "" ∨ part = "."
    · simp only [if_pos hdot]
      exact ih start
    by_cases hup : part = ".."
    · simp only [if_neg hdot, if_pos hup]
      exact ih start.dropLast
    simp only [if_neg hdot, if_neg hup]
    rcases entryIn?_put fs home start part with hother | hhome
    · simp only [hother]
      cases fs.entryIn? start part with
      | error e => exact .inl fun _ _ => rfl
      | ok found =>
        rcases found with _ | _ | ⟨bytes, mode⟩
        · exact .inl fun _ _ => rfl
        · exact ih (start ++ [part])
        · exact .inl fun _ _ => rfl
    · simp only [hhome]
      exact .inr fun _ _ => trivial

/-- Nor does a path that is followed. -/
theorem target_put (fs : Files) (home : Place) (p : Path) :
    (∀ bytes mode, (fs.put home (.file bytes mode)).target p = fs.target p) ∨
      ∀ bytes mode, (fs.put home (.file bytes mode)).target p = .error .notDirectory := by
  have hhere : ∀ e, (fs.put home e).here = fs.here := fun _ => rfl
  simp only [target, hhere]
  by_cases hchars : p.text.toList.contains (Char.ofNat 0)
  · exact .inl fun _ _ => by simp only [if_pos hchars]
  by_cases hempty : p.text.isEmpty
  · exact .inl fun _ _ => by simp only [if_neg hchars, if_pos hempty]
  by_cases hlong : pathLimit ≤ p.text.utf8ByteSize
  · exact .inl fun _ _ => by simp only [if_neg hchars, if_neg hempty, if_pos hlong]
  simp only [if_neg hchars, if_neg hempty, if_neg hlong]
  generalize (p.parts.reverse.dropWhile (· = "")).reverse = parts
  cases parts.getLast? with
  | none => exact .inl fun _ _ => rfl
  | some last =>
    simp only
    rcases walk_put fs home (if p.isAbsolute then [] else fs.here) parts.dropLast with
      hsame | hbroken
    · exact .inl fun bytes mode => by rw [hsame]
    · exact .inr fun bytes mode => by rw [hbroken]; rfl

/-- **A path does not see a file that is put elsewhere, or leads to it, or cannot go on there.** -/
theorem read_put (fs : Files) (home : Place) (p : Path) :
    (∀ bytes mode, (fs.put home (.file bytes mode)).read p = fs.read p) ∨
      (∀ bytes mode, (fs.put home (.file bytes mode)).read p = .ok bytes) ∨
      ∀ bytes mode, (fs.put home (.file bytes mode)).read p = .error .notDirectory := by
  rcases target_put fs home p with hsame | hbroken
  · simp only [read, lookup, hsame]
    cases fs.target p with
    | error e => exact .inl fun _ _ => rfl
    | ok t =>
      obtain ⟨directory, last⟩ := t
      cases last with
      | onTheWay place => exact .inl fun _ _ => rfl
      | name name slash =>
        simp only [bind, Except.bind]
        rcases entryIn?_put fs home directory name with hother | hhome
        · exact .inl fun _ _ => by simp only [hother]
        · simp only [hhome]
          cases slash with
          | true => exact .inr (.inr fun _ _ => rfl)
          | false => exact .inr (.inl fun _ _ => rfl)
  · refine .inr (.inr fun bytes mode => ?_)
    simp only [read, lookup, hbroken, bind, Except.bind]

end Files

namespace FileStep

/-- The files at some moment of a step: before it, in it, or after it. -/
inductive Passes : FileStep → Files → Files → Prop
  | untouched (step : FileStep) (fs : Files) : Passes step fs fs
  | making {path : Path} {fs gs : Files} (h : Files.WhileMaking path fs gs) :
      Passes (.makeDirectories path) fs gs
  | writing {path : Path} {bytes written : List UInt8} {fs gs : Files}
      (hwritten : written <+: bytes) (h : fs.append path written = .ok gs) :
      Passes (.append path bytes) fs gs
  | done {step : FileStep} {fs gs : Files} (h : step.run fs = (.ok (), gs)) : Passes step fs gs

/-- The files at some moment of a plan. -/
inductive During : List FileStep → Files → Files → Prop
  | untouched (steps : List FileStep) (fs : Files) : During steps fs fs
  | within {step : FileStep} {steps : List FileStep} {fs gs : Files} (h : Passes step fs gs) :
      During (step :: steps) fs gs
  | beyond {step : FileStep} {steps : List FileStep} {fs gs hs : Files}
      (hstep : step.run fs = (.ok (), gs)) (h : During steps gs hs) : During (step :: steps) fs hs

variable {step : FileStep} {steps : List FileStep} {fs gs : Files}

/-- A step that is refused leaves what was there at some moment of it. -/
theorem run_passes (step : FileStep) (fs : Files) : Passes step fs (step.run fs).2 := by
  have hwholly : ∀ result, step.run fs = wholly fs result → Passes step fs (step.run fs).2 := by
    intro result hrun
    cases result with
    | error e =>
      rw [hrun]
      exact .untouched step fs
    | ok gs =>
      rw [hrun]
      exact .done hrun
  cases step with
  | makeDirectories path => exact .making (Files.whileMaking_makeDirectories path fs)
  | truncate path mode => exact hwholly _ rfl
  | append path bytes => exact hwholly _ rfl
  | sync path => exact .untouched _ fs
  | rename source destination => exact hwholly _ rfl

/-- **What a run leaves was there at some moment**, whether the plan was done or refused. -/
theorem runAll_during (steps : List FileStep) (fs : Files) :
    During steps fs (runAll steps fs).2 := by
  induction steps generalizing fs with
  | nil => exact .untouched [] fs
  | cons step steps ih =>
    have hpasses := run_passes step fs
    rw [runAll]
    split
    · rename_i gs hstep
      exact .beyond hstep (ih gs)
    · rename_i e gs hstep
      rw [hstep] at hpasses
      exact .within hpasses

theorem passes_of_during (h : During [step] fs gs) : Passes step fs gs := by
  cases h with
  | untouched => exact .untouched _ _
  | within h => exact h
  | beyond hstep h =>
    cases h
    exact .done hstep

theorem whileMaking_of_during {p : Path} (h : During [.makeDirectories p] fs gs) :
    Files.WhileMaking p fs gs := by
  cases passes_of_during h with
  | untouched => exact .untouched p fs
  | making h => exact h
  | done hdone =>
    have hmoment := Files.whileMaking_makeDirectories p fs
    rwa [show Files.makeDirectories p fs = (.ok (), gs) from hdone] at hmoment

@[simp] theorem runAll_singleton (step : FileStep) (fs : Files) :
    runAll [step] fs = step.run fs := by
  rw [runAll]
  rcases step.run fs with ⟨_ | _, gs⟩ <;> rfl

/-- A plan in two parts goes on with the second when the first is done. -/
theorem runAll_append (steps more : List FileStep) (fs : Files) :
    runAll (steps ++ more) fs =
      match runAll steps fs with
      | (.ok (), gs) => runAll more gs
      | (.error e, gs) => (.error e, gs) := by
  induction steps generalizing fs with
  | nil => rfl
  | cons step steps ih =>
    rw [List.cons_append, runAll, runAll]
    rcases step.run fs with ⟨_ | _, gs⟩
    · rfl
    · exact ih gs

/-- A plan in two parts is in the first one, or has done it and is in the second. -/
theorem during_append {more : List FileStep} :
    During (steps ++ more) fs gs ↔
      During steps fs gs ∨ ∃ hs, runAll steps fs = (.ok (), hs) ∧ During more hs gs := by
  induction steps generalizing fs with
  | nil =>
    constructor
    · exact fun h => .inr ⟨fs, rfl, h⟩
    · rintro (h | ⟨hs, hrun, h⟩)
      · cases h
        exact .untouched _ _
      · cases hrun
        exact h
  | cons first steps ih =>
    constructor
    · intro h
      cases h with
      | untouched => exact .inl (.untouched _ _)
      | within h => exact .inl (.within h)
      | beyond hstep h =>
        rcases ih.1 h with h | ⟨hs, hrun, hpasses⟩
        · exact .inl (.beyond hstep h)
        · exact .inr ⟨hs, by rw [runAll_of_run hstep, hrun], hpasses⟩
    · rintro (h | ⟨hs, hrun, hpasses⟩)
      · cases h with
        | untouched => exact .untouched _ _
        | within h => exact .within h
        | beyond hstep h => exact .beyond hstep (ih.2 (.inl h))
      · obtain ⟨gs', hstep, hrest⟩ := run_of_runAll hrun
        exact .beyond hstep (ih.2 (.inr ⟨hs, hrest, hpasses⟩))

end FileStep

end RedirectLogin
