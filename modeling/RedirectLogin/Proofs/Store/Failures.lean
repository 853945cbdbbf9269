import RedirectLogin.Proofs.Store.KeyCache
import RedirectLogin.Proofs.Store.Register

/-!
# What attempts leave at a vault's path

An operation on a store is attempted once more if it fails, so a request is done at the first
attempt, at the second, or not at all. A save that is done leaves a file that keeps its tokens, and
a clear that is done leaves none.

That saves which fail leave the vault's file alone is `KeptByFailures`. It is so on ordinary paths:
a failed save may have made directories above the vault and left a draft, but the files are a tree
as they were before, so the next one does as little harm as the first.

Principal results: `keeps_of_attemptTwice` — tokens that were saved; `attemptTwice_clear` — a vault
that was cleared; `keptByFailures_of_downward` — ordinary paths.
-/

set_option autoImplicit false

namespace RedirectLogin

namespace Files

variable {fs gs : Files} {p : Path} {place : Place}

/-! ## Removals -/

/-- What was removed is gone. -/
theorem read_of_remove (h : fs.remove p = .ok gs) : gs.read p = .error .notFound := by
  obtain ⟨⟨directory, last⟩, htarget, hdone⟩ := bind_eq_ok_iff.1 h
  match last with
  | .onTheWay place => cases hdone
  | .name name slash =>
    obtain ⟨found, hentry, hfound⟩ := bind_eq_ok_iff.1 hdone
    obtain ⟨hshort, hfind⟩ := entryIn?_eq_ok_iff.1 hentry
    match found, slash with
    | none, _ => cases hfound
    | some .directory, _ => cases hfound
    | some (.file _ _), true => cases hfound
    | some (.file bytes mode), false =>
      obtain rfl := Except.ok.inj hfound
      have hplace : fs.CanStand p (directory ++ [name]) :=
        ⟨directory, name, htarget, hshort, rfl, by rw [hfind]; simp⟩
      exact (hplace.drop hplace.not_directory).read_of_none (find?_drop_self _ (by simp))

/-- What could not be removed because it is missing cannot be read either. -/
theorem read_of_remove_notFound (h : fs.remove p = .error .notFound) :
    fs.read p = .error .notFound := by
  unfold remove at h
  unfold read lookup
  cases htarget : fs.target p with
  | error e =>
    simp only [htarget, bind, Except.bind] at h ⊢
    rw [Except.error.inj h]
  | ok t =>
    obtain ⟨directory, last⟩ := t
    cases last with
    | onTheWay place => simp [htarget, bind, Except.bind] at h
    | name name slash =>
      cases hentry : fs.entryIn? directory name with
      | error e =>
        simp only [htarget, hentry, bind, Except.bind] at h ⊢
        rw [Except.error.inj h]
      | ok found =>
        match found with
        | none => simp only [hentry, bind, Except.bind]
        | some .directory => simp [htarget, hentry, bind, Except.bind] at h
        | some (.file bytes mode) =>
          simp only [htarget, hentry, bind, Except.bind] at h
          cases slash <;> cases h

/-! ## Trees -/

/-- Files that stand in directories only, and relative paths that start from a directory. -/
structure Rooted (fs : Files) : Prop where
  tree : fs.IsTree
  here : fs.find? fs.here = some .directory

/-- In a tree, the way up from a directory leads to one. -/
theorem IsTree.dropLast (h : fs.IsTree) (hdirectory : fs.find? place = some .directory) :
    fs.find? place.dropLast = some .directory := by
  rcases List.eq_nil_or_concat place with rfl | ⟨front, name, rfl⟩
  · exact hdirectory
  · rw [List.concat_eq_append, List.dropLast_concat]
    rw [List.concat_eq_append] at hdirectory
    exact h front name (by rw [hdirectory]; simp)

/-- A walk from a directory ends in one. -/
theorem IsTree.walk (h : fs.IsTree) {parts : List String} {start : Place}
    (hstart : fs.find? start = some .directory) (hwalk : fs.walk start parts = .ok place) :
    fs.find? place = some .directory := by
  induction parts generalizing start with
  | nil => exact Except.ok.inj hwalk ▸ hstart
  | cons part parts ih =>
    rw [Files.walk] at hwalk
    split at hwalk
    · exact ih hstart hwalk
    · split at hwalk
      · exact ih (h.dropLast hstart) hwalk
      · split at hwalk
        · cases hwalk
        · cases hwalk
        · cases hwalk
        · rename_i hentry
          exact ih (entryIn?_eq_ok_iff.1 hentry).2 hwalk

/-- What a path asks for, it asks for in a directory. -/
theorem Rooted.target (h : fs.Rooted) {last : Last} (htarget : fs.target p = .ok (place, last)) :
    fs.find? place = some .directory := by
  have hstart : fs.find? (if p.isAbsolute then [] else fs.here) = some .directory := by
    split
    · rfl
    · exact h.here
  unfold Files.target at htarget
  split at htarget
  · cases htarget
  split at htarget
  · cases htarget
  split at htarget
  · cases htarget
  simp only at htarget
  split at htarget
  · obtain ⟨rfl, -⟩ := Prod.mk.inj (Except.ok.inj htarget)
    exact hstart
  · obtain ⟨found, hwalk, hdone⟩ := bind_eq_ok_iff.1 htarget
    have hfound := h.tree.walk hstart hwalk
    split at hdone
    · exact (Prod.mk.inj (Except.ok.inj hdone)).1 ▸ hfound
    split at hdone
    · exact (Prod.mk.inj (Except.ok.inj hdone)).1 ▸ hfound
    · exact (Prod.mk.inj (Except.ok.inj hdone)).1 ▸ hfound

/-- What is put into a directory, but not in place of one, changes nothing of that. -/
theorem Rooted.put (h : fs.Rooted) (place : Place) (name : String) (e : Entry)
    (hin : fs.find? place = some .directory)
    (hfree : fs.find? (place ++ [name]) ≠ some .directory) :
    (fs.put (place ++ [name]) e).Rooted where
  tree := h.tree.put place name e hin hfree
  here := (keeps_put hfree e).directory _ h.here

theorem Rooted.put_file (h : fs.Rooted) (hplace : fs.CanStand p place) (bytes : List UInt8)
    (mode : Nat) : (fs.put place (.file bytes mode)).Rooted := by
  obtain ⟨directory, name, htarget, -, rfl, hfree⟩ := hplace
  exact h.put directory name _ (h.target htarget) hfree

theorem Rooted.ensureDirectory (h : fs.Rooted) (hensure : fs.ensureDirectory p = .ok gs) :
    gs.Rooted := by
  unfold Files.ensureDirectory at hensure
  split at hensure
  · rename_i hmake
    obtain rfl := Except.ok.inj hensure
    obtain ⟨⟨directory, last⟩, htarget, hdone⟩ := bind_eq_ok_iff.1 hmake
    cases last with
    | onTheWay place => cases hdone
    | name name slash =>
      obtain ⟨found, hentry, hfound⟩ := bind_eq_ok_iff.1 hdone
      cases found with
      | some entry => cases hfound
      | none =>
        obtain rfl := Except.ok.inj hfound
        refine h.put directory name .directory (h.target htarget) ?_
        rw [(entryIn?_eq_ok_iff.1 hentry).2]
        simp
  · split at hensure
    · exact Except.ok.inj hensure ▸ h
    · cases hensure

theorem Rooted.makeDirectories (h : fs.Rooted) (p : Path) :
    (Files.makeDirectories p fs).2.Rooted := by
  fun_induction Files.makeDirectories p fs with
  | case1 p hparent => exact h
  | case2 p parent hparent gs hensure => exact h.ensureDirectory hensure
  | case3 p parent hparent hmissing e gs habove ih =>
    rw [habove] at ih
    exact ih
  | case4 p parent hparent hmissing gs habove hs hensure ih =>
    rw [habove] at ih
    exact ih.ensureDirectory hensure
  | case5 p parent hparent hmissing gs habove e hensure ih =>
    rw [habove] at ih
    exact ih
  | case6 p parent hparent e hother hensure => exact h

/-- No directory that is made changes anything of that. -/
theorem Rooted.whileMaking (h : fs.Rooted) (hmaking : WhileMaking p fs gs) : gs.Rooted := by
  induction hmaking with
  | untouched p fs => exact h
  | alone hparent hensure => exact h.ensureDirectory hensure
  | above hparent hmissing habove ih => exact ih h
  | @atLast p parent fs gs hs hparent hmissing habove hensure =>
    have hmade := h.makeDirectories parent
    rw [habove] at hmade
    exact hmade.ensureDirectory hensure

end Files

namespace Vault

variable {v : Vault} {s t : VaultState} {tokens : TokenSet} {fs gs : Files}

/-! ## Saves that fail -/

/-- The content of the vault's file, if there is one. -/
def content? (v : Vault) (fs : Files) : Option (List UInt8) :=
  (fs.read v.path).toOption

/-- What any number of saves leaves, one after the other, if all of them fail. -/
inductive AfterFailures (v : Vault) (fs : Files) : Files → Prop
  | none : AfterFailures v fs fs
  | more {s : VaultState} {tokens : TokenSet} {e : StoreError} (before : AfterFailures v fs s.files)
      (hfails : (v.save tokens s).1 = .error e) : AfterFailures v fs (v.save tokens s).2.files

/-- Saves that fail leave the vault's file as it is. -/
def KeptByFailures (v : Vault) (fs : Files) : Prop :=
  ∀ gs, v.AfterFailures fs gs → v.content? gs = v.content? fs

/-- A request that fails has failed twice. -/
theorem afterFailures_of_attemptTwice {e : SessionError}
    (h : attemptTwice (v.save tokens) s = (.error e, t)) : v.AfterFailures s.files t.files := by
  obtain ⟨e₁, u, e₂, hfirst, hsecond, -⟩ := attemptTwice_error h
  have hagain : v.AfterFailures s.files u.files := by
    have hmore := AfterFailures.more .none (congrArg Prod.fst hfirst)
    rwa [hfirst] at hmore
  have hmore := AfterFailures.more hagain (congrArg Prod.fst hsecond)
  rwa [hsecond] at hmore

/-- Directories and a draft are all that a save leaves that is cut short. -/
theorem rooted_of_cutShort (h : s.files.Rooted) (hcut : v.CutShort tokens s gs) : gs.Rooted := by
  rcases hcut with rfl | ⟨content, -, hduring⟩
  · exact h
  refine until_rename (fun hs hdirectories => ?_)
    (fun hs spot written hrooted hspot => hrooted.put_file hspot written _) hduring
  rw [directoryPlan] at hdirectories
  cases hparent : v.path.parent? with
  | none =>
    rw [hparent] at hdirectories
    cases hdirectories
    exact h
  | some parent =>
    rw [hparent] at hdirectories
    exact h.whileMaking (FileStep.whileMaking_of_during hdirectories)

/-- **On ordinary paths, saves that fail leave the vault's file as it is**, however many there
are. -/
theorem keptByFailures_of_downward (hrooted : fs.Rooted) (hup : ".." ∉ v.path.parts)
    (hshort : ∀ part ∈ v.path.parts, part.utf8ByteSize ≤ Files.maxName)
    (hdraft : v.draftPath.fileName? ≠ v.path.fileName?) : v.KeptByFailures fs := by
  have hkept : ∀ gs, v.AfterFailures fs gs → gs.Rooted ∧ gs.read v.path = fs.read v.path := by
    intro gs hafter
    induction hafter with
    | none => exact ⟨hrooted, rfl⟩
    | @more s tokens e before hfails ih =>
      have hcut := cutShort_of_error hfails
      have hshielded : v.Shielded s.files := shielded_of_downward ih.1.tree hup hshort hdraft
      exact ⟨rooted_of_cutShort ih.1 hcut, (hshielded.read_of_cutShort hcut).trans ih.2⟩
  intro gs hafter
  rw [content?, content?, (hkept gs hafter).2]

/-! ## Saves that succeed -/

theorem save_honest (h : v.Honest s.cache) (tokens : TokenSet) :
    v.Honest (v.save tokens s).2.cache := by
  rw [save_cache]
  exact (keyFor_of_honest h (chooseSalt_length h) _).2

/-- A save that is done leaves a file that keeps the tokens. -/
theorem keeps_of_save (h : v.Honest s.cache) (hmoment : tokens.savedAt.IsMoment)
    (hsave : (v.save tokens s).1 = .ok ()) :
    ∃ content, (v.save tokens s).2.files.read v.path = .ok content ∧
      Keeps v.passphrase content tokens := by
  obtain ⟨content, hcontent, hread⟩ := read_of_save hsave
  refine ⟨content, hread, ?_⟩
  have hsalt := chooseSalt_length h
  have hanswer := (keyFor_of_honest h hsalt v.costs).1
  unfold newContent at hcontent
  cases hkey : v.deriveKey (v.chooseSalt s).1 v.costs with
  | error e =>
    rw [hanswer, hkey] at hcontent
    cases hcontent
  | ok key =>
    rw [hanswer, hkey] at hcontent
    obtain rfl := Except.ok.inj hcontent
    exact keeps_sealTokens hkey hsalt (Entropy.draw_length _ _) hmoment

/-- **So does a request that is done at the first attempt or at the second.** -/
theorem keeps_of_attemptTwice (h : v.Honest s.cache) (hmoment : tokens.savedAt.IsMoment)
    (hsave : attemptTwice (v.save tokens) s = (.ok (), t)) :
    ∃ content, t.files.read v.path = .ok content ∧ Keeps v.passphrase content tokens := by
  have hdone : ∀ {u : VaultState}, v.Honest u.cache → v.save tokens u = (.ok (), t) →
      ∃ content, t.files.read v.path = .ok content ∧ Keeps v.passphrase content tokens := by
    intro u hu hattempt
    have hkeeps := keeps_of_save hu hmoment (congrArg Prod.fst hattempt)
    rwa [hattempt] at hkeeps
  rcases attemptTwice_ok hsave with hfirst | ⟨e, u, hfirst, hsecond⟩
  · exact hdone h hfirst
  · have hhonest := save_honest h tokens
    rw [hfirst] at hhonest
    exact hdone hhonest hsecond

/-! ## Loads and clears -/

/-- Loads change no file, and leave an honest cache honest. -/
theorem attemptTwice_load (v : Vault) (s : VaultState) :
    (attemptTwice v.load s).2.files = s.files ∧
      (v.Honest s.cache → v.Honest (attemptTwice v.load s).2.cache) := by
  rcases hload : attemptTwice v.load s with ⟨e | found, t⟩
  · obtain ⟨e₁, u, e₂, hfirst, hsecond, -⟩ := attemptTwice_error hload
    obtain rfl : (v.load s).2 = u := congrArg Prod.snd hfirst
    obtain rfl : (v.load (v.load s).2).2 = t := congrArg Prod.snd hsecond
    exact ⟨(load_files _ _).trans (load_files _ _), fun h => load_honest (load_honest h)⟩
  · rcases attemptTwice_ok hload with hfirst | ⟨e, u, hfirst, hsecond⟩
    · obtain rfl : (v.load s).2 = t := congrArg Prod.snd hfirst
      exact ⟨load_files _ _, load_honest⟩
    · obtain rfl : (v.load s).2 = u := congrArg Prod.snd hfirst
      obtain rfl : (v.load (v.load s).2).2 = t := congrArg Prod.snd hsecond
      exact ⟨(load_files _ _).trans (load_files _ _), fun h => load_honest (load_honest h)⟩

/-- A file that keeps tokens is loaded at the first attempt. -/
theorem attemptTwice_load_of_keeps {content : List UInt8} (h : v.Honest s.cache)
    (hread : s.files.read v.path = .ok content) (hkeeps : Keeps v.passphrase content tokens) :
    (attemptTwice v.load s).1 = .ok (some tokens) := by
  have hload : v.load s = (.ok (some tokens), (v.load s).2) :=
    Prod.ext ((load_eq_some_iff h).2 ⟨content, hread, hkeeps⟩) rfl
  rw [attemptTwice_of_ok hload]

/-- A clear that is done leaves no file, and one that fails leaves everything. -/
theorem clear_cases (v : Vault) (s : VaultState) :
    (v.clear s).1 = .ok () ∧ (v.clear s).2.files.read v.path = .error .notFound ∨
      ∃ e, v.clear s = (.error e, s) := by
  unfold clear
  split
  · rename_i files hremove
    exact .inl ⟨rfl, Files.read_of_remove hremove⟩
  · rename_i hremove
    exact .inl ⟨rfl, Files.read_of_remove_notFound hremove⟩
  · exact .inr ⟨_, rfl⟩

/-- So do two attempts. -/
theorem attemptTwice_clear (v : Vault) (s : VaultState) :
    (attemptTwice v.clear s).1 = .ok () ∧
        (attemptTwice v.clear s).2.files.read v.path = .error .notFound ∨
      ∃ e, attemptTwice v.clear s = (.error e, s) := by
  rcases clear_cases v s with ⟨hdone, hread⟩ | ⟨e, hfails⟩
  · have hclear : v.clear s = (.ok (), (v.clear s).2) := Prod.ext hdone rfl
    rw [attemptTwice_of_ok hclear]
    exact .inl ⟨rfl, hread⟩
  · refine .inr ⟨e.toSessionError, ?_⟩
    simp only [attemptTwice, hfails]

end Vault

end RedirectLogin
