import RedirectLogin.Store.Files

/-!
# Files that stay where they are

What the operations on files rely on and leave alone. A path leads to its place through
directories, so as long as no directory goes away (`Keeps`) it leads to the same place, whatever
happens to files. A place where a file stands, or could be put, is described by `CanStand`; there
every operation on one file is done, and `read` shows what was done last.

Principal results: `CanStand.read_of_file`, `CanStand.truncate`, `CanStand.append`,
`CanStand.rename`, `CanStand.remove_of_file` — the operations at such a place; `Keeps.canStand` — it
stays one; `made_of_makeDirectories`, `Made.keeps` — directories that were made need not be made
again.
-/

set_option autoImplicit false

namespace RedirectLogin

/-- A computation that may fail succeeds when both of its parts do. -/
theorem bind_eq_ok_iff {ε α β : Type} {x : Except ε α} {f : α → Except ε β} {b : β} :
    (x >>= f) = .ok b ↔ ∃ a, x = .ok a ∧ f a = .ok b := by
  constructor
  · intro h
    cases x with
    | error e => cases h
    | ok a => exact ⟨a, rfl, h⟩
  · rintro ⟨a, rfl, h⟩
    exact h

namespace Path

/-- A part that counts at the end of a path is not cut off. -/
theorem trimmed_append {isAbsolute : Bool} {front : List String} {name : String} (hne : name ≠ "")
    (hdot : name ≠ ".") :
    (⟨isAbsolute, front ++ [name]⟩ : Path).trimmed = front ++ [name] := by
  rw [trimmed, List.reverse_append, List.reverse_singleton, List.singleton_append, trimReversed,
    if_neg (by simp [hne, hdot]), List.reverse_cons, List.reverse_reverse]

theorem trimmed_ne_nil {p : Path} {name : String} (hname : p.fileName? = some name) :
    p.trimmed ≠ [] := by
  intro hempty
  rw [fileName?, hempty] at hname
  cases hname

/-- A path with a file name has a parent. -/
theorem exists_parent? {p : Path} {name : String} (hname : p.fileName? = some name) :
    ∃ parent, p.parent? = some parent :=
  ⟨_, by rw [parent?, if_neg (by simpa using trimmed_ne_nil hname)]⟩

/-- Another ending changes the last part of a path, to one that counts. -/
theorem exists_withExtension {p : Path} {name extension : String} (hname : p.fileName? = some name)
    (hextension : extension ≠ "") :
    ∃ new, new ≠ "" ∧ new ≠ "." ∧
      p.withExtension extension = ⟨p.isAbsolute, p.trimmed.dropLast ++ [new]⟩ := by
  simp only [withExtension, hname]
  split
  · exact ⟨"..", by decide, by decide, rfl⟩
  · have hlength : ∀ {text : String}, stem name ++ "." ++ extension = text →
        1 < text.toList.length := by
      rintro _ rfl
      have hpos : 0 < extension.toList.length :=
        List.length_pos_iff.2 fun hnil => hextension (String.toList_eq_nil_iff.1 hnil)
      rw [String.toList_append, String.toList_append, List.length_append, List.length_append]
      have hpoint : ".".toList.length = 1 := rfl
      omega
    exact ⟨_, fun heq => absurd (hlength heq) (by decide),
      fun heq => absurd (hlength heq) (by decide), rfl⟩

/-- **A file keeps its directory** when it gets another ending. -/
theorem parent?_withExtension {p : Path} {name extension : String} (hname : p.fileName? = some name)
    (hextension : extension ≠ "") : (p.withExtension extension).parent? = p.parent? := by
  obtain ⟨new, hne, hdot, hother⟩ := exists_withExtension hname hextension
  rw [hother]
  simp only [parent?, trimmed_append hne hdot]
  simp [trimmed_ne_nil hname]

end Path

namespace Files

variable {fs gs : Files} {p : Path} {place : Place}

/-- A directory's entry is what is found there, unless its name is too long for any. -/
theorem entryIn?_eq_ok_iff {directory : Place} {name : String} {found : Option Entry} :
    fs.entryIn? directory name = .ok found ↔
      name.utf8ByteSize ≤ maxName ∧ fs.find? (directory ++ [name]) = found := by
  unfold entryIn?
  split
  · rename_i hlong
    exact ⟨fun h => (nomatch h), fun h => absurd h.1 (Nat.not_le.2 hlong)⟩
  · rename_i hshort
    exact ⟨fun h => ⟨Nat.le_of_not_lt hshort, Except.ok.inj h⟩, fun h => by rw [h.2]⟩

/-! ## What stays -/

/-- No directory of `fs` is missing in `gs`, and relative paths start from the same place. -/
structure Keeps (fs gs : Files) : Prop where
  here : gs.here = fs.here
  directory : ∀ place, fs.find? place = some .directory → gs.find? place = some .directory

theorem Keeps.trans {hs : Files} (h : Keeps fs gs) (h' : Keeps gs hs) : Keeps fs hs :=
  ⟨h'.here.trans h.here, fun place hp => h'.directory place (h.directory place hp)⟩

/-- Where no directory stands, anything may be put. -/
theorem keeps_put (h : fs.find? place ≠ some .directory) (e : Entry) :
    Keeps fs (fs.put place e) where
  here := rfl
  directory q hq := by
    have hne : q ≠ place := fun heq => h (heq ▸ hq)
    rw [find?_put_of_ne fs e hne, hq]

/-- Where no directory stands, anything may be dropped. -/
theorem keeps_drop (h : fs.find? place ≠ some .directory) : Keeps fs (fs.drop place) where
  here := rfl
  directory q hq := by
    have hne : q ≠ place := fun heq => h (heq ▸ hq)
    rw [find?_drop_of_ne fs hne, hq]

theorem Keeps.entryIn? (h : Keeps fs gs) {name : String}
    (hd : fs.entryIn? place name = .ok (some .directory)) :
    gs.entryIn? place name = .ok (some .directory) :=
  have hfound := entryIn?_eq_ok_iff.1 hd
  entryIn?_eq_ok_iff.2 ⟨hfound.1, h.directory _ hfound.2⟩

/-- A way through directories stays open. -/
theorem Keeps.walk (h : Keeps fs gs) {parts : List String} {start : Place}
    (hw : fs.walk start parts = .ok place) : gs.walk start parts = .ok place := by
  induction parts generalizing start with
  | nil => exact hw
  | cons part parts ih =>
    rw [Files.walk] at hw ⊢
    by_cases hdot : part = "" ∨ part = "."
    · rw [if_pos hdot] at hw ⊢
      exact ih hw
    rw [if_neg hdot] at hw ⊢
    by_cases hup : part = ".."
    · rw [if_pos hup] at hw ⊢
      exact ih hw
    rw [if_neg hup] at hw ⊢
    split at hw
    · cases hw
    · cases hw
    · cases hw
    · rename_i hentry
      rw [h.entryIn? hentry]
      exact ih hw

/-- A path leads where it led. -/
theorem Keeps.target (h : Keeps fs gs) {last : Last} (ht : fs.target p = .ok (place, last)) :
    gs.target p = .ok (place, last) := by
  unfold Files.target at ht ⊢
  rw [h.here]
  split at ht
  · cases ht
  rename_i hchars
  rw [if_neg hchars]
  split at ht
  · cases ht
  rename_i hempty
  rw [if_neg hempty]
  split at ht
  · cases ht
  rename_i hlong
  rw [if_neg hlong]
  simp only at ht ⊢
  generalize (p.parts.reverse.dropWhile (· = "")).reverse = parts at ht ⊢
  cases hlast : parts.getLast? with
  | none =>
    rw [hlast] at ht
    exact ht
  | some last =>
    rw [hlast] at ht
    obtain ⟨place, hwalk, hdone⟩ := bind_eq_ok_iff.1 ht
    exact bind_eq_ok_iff.2 ⟨place, h.walk hwalk, hdone⟩

theorem isDirectory_iff : fs.isDirectory p = true ↔ fs.lookup p = .ok .directory := by
  unfold Files.isDirectory
  split
  · rename_i h
    exact ⟨fun _ => h, fun _ => rfl⟩
  · rename_i h
    exact ⟨fun hd => (nomatch hd), fun hd => absurd hd h⟩

theorem Keeps.isDirectory (h : Keeps fs gs) (hd : fs.isDirectory p = true) :
    gs.isDirectory p = true := by
  rw [isDirectory_iff] at hd ⊢
  obtain ⟨⟨directory, last⟩, htarget, hdone⟩ := bind_eq_ok_iff.1 hd
  refine bind_eq_ok_iff.2 ⟨(directory, last), h.target htarget, ?_⟩
  cases last with
  | onTheWay place => exact hdone
  | name name slash =>
    obtain ⟨found, hentry, hfound⟩ := bind_eq_ok_iff.1 hdone
    refine bind_eq_ok_iff.2 ⟨found, ?_, hfound⟩
    match found with
    | none => cases hfound
    | some .directory => exact h.entryIn? hentry
    | some (.file bytes mode) =>
      simp only at hfound
      split at hfound <;> cases hfound

/-! ## Directories -/

/-- A directory that is made stands there afterwards, and no directory goes away. -/
theorem isDirectory_of_makeDirectory (h : fs.makeDirectory p = .ok gs) :
    gs.isDirectory p = true := by
  obtain ⟨⟨directory, last⟩, htarget, hdone⟩ := bind_eq_ok_iff.1 h
  cases last with
  | onTheWay place => cases hdone
  | name name slash =>
    obtain ⟨found, hentry, hfound⟩ := bind_eq_ok_iff.1 hdone
    cases found with
    | some entry => cases hfound
    | none =>
      obtain rfl := Except.ok.inj hfound
      obtain ⟨hshort, hfree⟩ := entryIn?_eq_ok_iff.1 hentry
      have hkeeps : Keeps fs (fs.put (directory ++ [name]) .directory) :=
        keeps_put (by rw [hfree]; simp) .directory
      rw [isDirectory_iff]
      refine bind_eq_ok_iff.2 ⟨_, hkeeps.target htarget, bind_eq_ok_iff.2 ⟨some .directory, ?_, rfl⟩⟩
      exact entryIn?_eq_ok_iff.2 ⟨hshort, find?_put_self _ _ (by simp)⟩

theorem isDirectory_of_ensureDirectory (h : fs.ensureDirectory p = .ok gs) :
    gs.isDirectory p = true := by
  unfold ensureDirectory at h
  split at h
  · rename_i hmake
    exact Except.ok.inj h ▸ isDirectory_of_makeDirectory hmake
  · split at h
    · rename_i hdir
      exact Except.ok.inj h ▸ hdir
    · cases h

/-- A directory that stands is not made again. -/
theorem ensureDirectory_of_isDirectory (h : fs.isDirectory p = true) :
    fs.ensureDirectory p = .ok fs := by
  have hmake : fs.makeDirectory p = .error .exists := by
    rw [isDirectory_iff] at h
    obtain ⟨⟨directory, last⟩, htarget, hdone⟩ := bind_eq_ok_iff.1 h
    rw [makeDirectory, htarget]
    cases last with
    | onTheWay place => rfl
    | name name slash =>
      obtain ⟨found, hentry, hfound⟩ := bind_eq_ok_iff.1 hdone
      cases found with
      | none => cases hfound
      | some entry =>
        simp only [bind, Except.bind, hentry]
  rw [ensureDirectory, hmake]
  simp only [h, if_true]

/-- The directories up to a path are there. -/
def Made (fs : Files) (p : Path) : Prop :=
  p.parent? = none ∨ fs.isDirectory p = true

theorem Made.keeps (h : Made fs p) (hkeeps : Keeps fs gs) : Made gs p :=
  h.imp_right hkeeps.isDirectory

/-- Directories that are there need not be made. -/
theorem Made.makeDirectories (h : Made fs p) : makeDirectories p fs = (.ok (), fs) := by
  unfold Files.makeDirectories
  split
  · rfl
  · rename_i parent hparent
    rcases h with hnone | hdir
    · rw [hnone] at hparent
      cases hparent
    · rw [ensureDirectory_of_isDirectory hdir]

/-- Directories that were made are there. -/
theorem made_of_makeDirectories (h : makeDirectories p fs = (.ok (), gs)) : Made gs p := by
  unfold Files.makeDirectories at h
  split at h
  · rename_i hnone
    exact .inl hnone
  · refine .inr ?_
    split at h
    · rename_i hensure
      obtain ⟨-, rfl⟩ := Prod.mk.inj h
      exact isDirectory_of_ensureDirectory hensure
    · split at h
      · cases (Prod.mk.inj h).1
      · split at h
        · rename_i hensure
          obtain ⟨-, rfl⟩ := Prod.mk.inj h
          exact isDirectory_of_ensureDirectory hensure
        · cases (Prod.mk.inj h).1
    · cases (Prod.mk.inj h).1

/-! ## One file -/

/-- The permission bits of a file that is opened at a place to be written: those that it has if it is
there, else those that are asked for. -/
def modeAt (fs : Files) (place : Place) (mode : Nat) : Nat :=
  match fs.find? place with
  | some (.file _ old) => old
  | _ => mode

/-- A path leads to a place where a file stands or could be put. -/
def CanStand (fs : Files) (p : Path) (place : Place) : Prop :=
  ∃ directory name, fs.target p = .ok (directory, .name name false) ∧
    name.utf8ByteSize ≤ maxName ∧ place = directory ++ [name] ∧ fs.find? place ≠ some .directory

theorem Keeps.canStand (h : Keeps fs gs) (hp : CanStand fs p place)
    (hfree : gs.find? place ≠ some .directory) : CanStand gs p place := by
  obtain ⟨directory, name, htarget, hshort, hplace, -⟩ := hp
  exact ⟨directory, name, h.target htarget, hshort, hplace, hfree⟩

/-- Where emptying a file is not refused, a file can stand. -/
theorem canStand_of_truncate {mode : Nat} (h : fs.truncate p mode = .ok gs) :
    ∃ place, CanStand fs p place := by
  obtain ⟨⟨directory, last⟩, htarget, hdone⟩ := bind_eq_ok_iff.1 h
  match last with
  | .onTheWay place => cases hdone
  | .name name true => cases hdone
  | .name name false =>
    obtain ⟨found, hentry, hfound⟩ := bind_eq_ok_iff.1 hdone
    obtain ⟨hshort, hfind⟩ := entryIn?_eq_ok_iff.1 hentry
    refine ⟨_, directory, name, htarget, hshort, rfl, fun hdir => ?_⟩
    obtain rfl := hfind.symm.trans hdir
    cases hfound

/-- A file is no directory, wherever it is put. -/
theorem find?_put_file (h : fs.find? place ≠ some .directory) (q : Place) (bytes : List UInt8)
    (mode : Nat) : (fs.put q (.file bytes mode)).find? place ≠ some .directory := by
  by_cases hq : place = q
  · subst hq
    have hne : place ≠ [] := fun hnil => h (by rw [hnil]; rfl)
    rw [find?_put_self _ _ hne]
    simp
  · rwa [find?_put_of_ne _ _ hq]

/-- Nor is what is dropped. -/
theorem find?_drop_file (h : fs.find? place ≠ some .directory) (q : Place) :
    (fs.drop q).find? place ≠ some .directory := by
  by_cases hq : place = q
  · subst hq
    have hne : place ≠ [] := fun hnil => h (by rw [hnil]; rfl)
    rw [find?_drop_self _ hne]
    simp
  · rwa [find?_drop_of_ne _ hq]

theorem CanStand.not_directory (h : CanStand fs p place) : fs.find? place ≠ some .directory := by
  obtain ⟨directory, name, -, -, -, hfree⟩ := h
  exact hfree

/-- A place stays one where a file can stand when a file is put there or elsewhere. -/
theorem CanStand.put (h : CanStand fs p place) {q : Place} (hq : fs.find? q ≠ some .directory)
    (bytes : List UInt8) (mode : Nat) : CanStand (fs.put q (.file bytes mode)) p place :=
  (keeps_put hq _).canStand h (find?_put_file h.not_directory q bytes mode)

theorem CanStand.drop (h : CanStand fs p place) {q : Place} (hq : fs.find? q ≠ some .directory) :
    CanStand (fs.drop q) p place :=
  (keeps_drop hq).canStand h (find?_drop_file h.not_directory q)

namespace CanStand

variable (h : CanStand fs p place)

include h

theorem ne_nil : place ≠ [] := by
  obtain ⟨directory, name, -, -, rfl, -⟩ := h
  simp

/-- Whatever stands there or not, it is what the path's directory has under the path's name. -/
theorem entry : ∃ directory name, fs.target p = .ok (directory, .name name false) ∧
    fs.entryIn? directory name = .ok (fs.find? place) ∧ place = directory ++ [name] := by
  obtain ⟨directory, name, htarget, hshort, rfl, -⟩ := h
  exact ⟨directory, name, htarget, entryIn?_eq_ok_iff.2 ⟨hshort, rfl⟩, rfl⟩

theorem read_of_none (hnone : fs.find? place = none) : fs.read p = .error .notFound := by
  obtain ⟨directory, name, htarget, hentry, -⟩ := h.entry
  simp only [read, lookup, htarget, hentry, hnone, bind, Except.bind]

theorem read_of_file {bytes : List UInt8} {mode : Nat}
    (hfile : fs.find? place = some (.file bytes mode)) : fs.read p = .ok bytes := by
  obtain ⟨directory, name, htarget, hentry, -⟩ := h.entry
  simp only [read, lookup, htarget, hentry, hfile, bind, Except.bind]
  rfl

/-- What can be read there is a file. -/
theorem file_of_read {bytes : List UInt8} (hread : fs.read p = .ok bytes) :
    ∃ mode, fs.find? place = some (.file bytes mode) := by
  match hfound : fs.find? place with
  | none =>
    rw [h.read_of_none hfound] at hread
    cases hread
  | some .directory => exact absurd hfound h.not_directory
  | some (.file start mode) =>
    rw [h.read_of_file hfound] at hread
    exact ⟨mode, by rw [Except.ok.inj hread]⟩

/-- A path shows the file that stands where it leads. -/
theorem lookup_eq_file_iff {bytes : List UInt8} {mode : Nat} :
    fs.lookup p = .ok (.file bytes mode) ↔ fs.find? place = some (.file bytes mode) := by
  obtain ⟨directory, name, htarget, hentry, -⟩ := h.entry
  simp only [lookup, htarget, hentry, bind, Except.bind]
  rcases fs.find? place with _ | _ | ⟨other, old⟩ <;> simp

/-- Emptying a file leaves it its permission bits. -/
theorem truncate_eq (mode : Nat) :
    fs.truncate p mode = .ok (fs.put place (.file [] (fs.modeAt place mode))) := by
  obtain ⟨directory, name, htarget, hentry, rfl⟩ := h.entry
  simp only [Files.truncate, htarget, hentry, modeAt, bind, Except.bind]
  match hfound : fs.find? (directory ++ [name]) with
  | none => rfl
  | some .directory => exact absurd hfound h.not_directory
  | some (.file bytes old) => rfl

theorem truncate (mode : Nat) : ∃ mode', fs.truncate p mode = .ok (fs.put place (.file [] mode')) :=
  ⟨_, h.truncate_eq mode⟩

theorem append {start : List UInt8} {mode : Nat}
    (hfile : fs.find? place = some (.file start mode)) (bytes : List UInt8) :
    fs.append p bytes = .ok (fs.put place (.file (start ++ bytes) mode)) := by
  obtain ⟨directory, name, htarget, hentry, rfl⟩ := h.entry
  simp only [Files.append, htarget, hentry, hfile, bind, Except.bind]
  rfl

theorem rename {q : Path} {home : Place} (hq : CanStand fs q home) {bytes : List UInt8}
    {mode : Nat} (hfile : fs.find? place = some (.file bytes mode)) :
    fs.rename p q = .ok ((fs.drop place).put home (.file bytes mode)) := by
  obtain ⟨directory, name, htarget, hentry, rfl⟩ := h.entry
  obtain ⟨directory', name', htarget', hentry', rfl⟩ := hq.entry
  simp only [Files.rename, htarget, htarget', hentry, hentry', hfile, bind, Except.bind]
  simp [hq.not_directory]

theorem remove_of_file {bytes : List UInt8} {mode : Nat}
    (hfile : fs.find? place = some (.file bytes mode)) : fs.remove p = .ok (fs.drop place) := by
  obtain ⟨directory, name, htarget, hentry, rfl⟩ := h.entry
  simp only [remove, htarget, hentry, hfile, bind, Except.bind]
  rfl

end CanStand

/-- What cannot be read because nothing is there cannot be removed for that reason either. -/
theorem remove_of_read_notFound (h : fs.read p = .error .notFound) :
    fs.remove p = .error .notFound := by
  unfold read lookup at h
  unfold remove
  cases htarget : fs.target p with
  | error e =>
    simp only [htarget, bind, Except.bind] at h ⊢
    rw [Except.error.inj h]
  | ok t =>
    obtain ⟨directory, last⟩ := t
    cases last with
    | onTheWay place => simp [htarget, bind, Except.bind] at h
    | name name slash =>
      cases hentry : fs.entryIn? directory name with
      | error e =>
        simp only [htarget, hentry, bind, Except.bind] at h ⊢
        rw [Except.error.inj h]
      | ok found =>
        match found with
        | none => simp only [hentry, bind, Except.bind]
        | some .directory => simp [htarget, hentry, bind, Except.bind] at h
        | some (.file bytes mode) =>
          simp only [htarget, hentry, bind, Except.bind] at h
          cases slash <;> cases h

end Files

namespace FileStep

/-- A plan goes on behind a step that is done. -/
theorem runAll_of_run {step : FileStep} {steps : List FileStep} {fs gs : Files}
    (h : step.run fs = (.ok (), gs)) : runAll (step :: steps) fs = runAll steps gs := by
  rw [runAll, h]

/-- A plan that is done has done its first step. -/
theorem run_of_runAll {step : FileStep} {steps : List FileStep} {fs hs : Files}
    (h : runAll (step :: steps) fs = (.ok (), hs)) :
    ∃ gs, step.run fs = (.ok (), gs) ∧ runAll steps gs = (.ok (), hs) := by
  rw [runAll] at h
  split at h
  · rename_i gs hrun
    exact ⟨gs, hrun, h⟩
  · cases (Prod.mk.inj h).1

/-- A file that was emptied stands at its place. -/
theorem canStand_of_run {p : Path} {mode : Nat} {fs gs : Files}
    (h : FileStep.run (.truncate p mode) fs = (.ok (), gs)) : ∃ place, fs.CanStand p place := by
  rw [run] at h
  cases hfile : fs.truncate p mode with
  | error e =>
    rw [hfile] at h
    cases (Prod.mk.inj h).1
  | ok files => exact Files.canStand_of_truncate hfile

end FileStep

end RedirectLogin
