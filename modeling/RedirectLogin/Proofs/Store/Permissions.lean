import RedirectLogin.Proofs.Store.Atomicity

/-!
# Who may read the vault

A save asks for a draft that its owner may read and write and nobody else. The system gives a file
its permission bits when it makes the file, though: one that lies at the draft's path already keeps
its own, is filled, and takes them along to the vault's path. So a save leaves a private file
exactly if it found no draft there that others may use.

The vault itself leaves none. Whatever saves are done, fail or are stopped, and wherever, what they
leave at the draft's path is private, so it takes somebody else to make the vault's file readable.

Principal results: `exists_of_savePlan` — the bytes and the permission bits that a save leaves;
`DraftIsPrivate.during`, `OwnWork.draftIsPrivate` — one save, and any number of them, leave a
private draft; `saved_files_are_private` — both together.
-/

set_option autoImplicit false

namespace RedirectLogin

/-- What is removed is dropped from its place. -/
theorem Files.drop_of_remove {fs gs : Files} {p : Path} (h : fs.remove p = .ok gs) :
    ∃ place, place ≠ [] ∧ gs = fs.drop place := by
  obtain ⟨⟨directory, last⟩, -, hdone⟩ := bind_eq_ok_iff.1 h
  cases last with
  | onTheWay place => cases hdone
  | name name slash =>
    obtain ⟨found, -, hfound⟩ := bind_eq_ok_iff.1 hdone
    rcases found with _ | _ | ⟨bytes, mode⟩
    · cases hfound
    · cases hfound
    · simp only at hfound
      split at hfound
      · cases hfound
      · exact ⟨directory ++ [name], by simp, (Except.ok.inj hfound).symm⟩

namespace Vault

variable {v : Vault} {s : VaultState} {fs gs hs : Files} {tokens : TokenSet} {content : List UInt8}
  {place : Place} {mode : Nat}

/-- Its owner may read and write it, and nobody else may do anything. What there is above these nine
bits does not say who may. -/
def IsPrivate (mode : Nat) : Prop :=
  mode % 0o1000 = fileMode

instance : DecidablePred IsPrivate :=
  fun mode => inferInstanceAs (Decidable (mode % 0o1000 = fileMode))

theorem isPrivate_fileMode : IsPrivate fileMode := by decide

/-- A file that is opened is private if it was, or is new. -/
theorem isPrivate_modeAt_iff :
    IsPrivate (fs.modeAt place fileMode) ↔
      ∀ old mode, fs.find? place = some (.file old mode) → IsPrivate mode := by
  unfold Files.modeAt
  rcases hfound : fs.find? place with _ | _ | ⟨bytes, bits⟩
  · simp [isPrivate_fileMode]
  · simp [isPrivate_fileMode]
  · constructor
    · rintro hprivate old mode ⟨⟩
      exact hprivate
    · exact fun h => h bytes bits rfl

/-! ## What a save leaves -/

/-- **A save that is done has put its content at the vault's path**, with the permission bits that
the draft had or got. -/
theorem exists_of_savePlan (h : FileStep.runAll (v.savePlan content) fs = (.ok (), gs)) :
    ∃ hs spot, FileStep.runAll v.directoryPlan fs = (.ok (), hs) ∧ hs.CanStand v.draftPath spot ∧
      gs.lookup v.path = .ok (.file content (hs.modeAt spot fileMode)) := by
  rw [savePlan_eq, FileStep.runAll_append] at h
  rcases hdirectories : FileStep.runAll v.directoryPlan fs with ⟨_ | _, hs⟩
  · rw [hdirectories] at h
    cases (Prod.mk.inj h).1
  rw [hdirectories] at h
  simp only [FileStep.runAll_append] at h
  rcases hwrite : FileStep.runAll (v.writePlan content) hs with ⟨_ | _, ks⟩
  · rw [hwrite] at h
    cases (Prod.mk.inj h).1
  rw [hwrite] at h
  obtain ⟨spot, hspot, rfl⟩ := runAll_writePlan hwrite
  -- the draft is what is renamed
  have hdraft := hspot.put hspot.not_directory content (hs.modeAt spot fileMode)
  simp only [FileStep.runAll_singleton] at h
  obtain ⟨spot', home, bytes, mode, hspot', hfile, hhome, rfl⟩ :=
    Files.exists_of_rename (eq_of_wholly h)
  obtain rfl := hdraft.unique hspot'
  rw [Files.find?_put_self _ _ hspot.ne_nil] at hfile
  cases hfile
  have hdropped := hhome.drop hspot'.not_directory
  have hput := hdropped.put hdropped.not_directory content (hs.modeAt spot fileMode)
  exact ⟨hs, spot, rfl, hspot,
    hput.lookup_eq_file_iff.2 (Files.find?_put_self _ _ hhome.ne_nil)⟩

/-- A save that returns without an error has carried out its plan. -/
theorem runAll_of_save (hsave : (v.save tokens s).1 = .ok ()) :
    ∃ content, v.newContent tokens s = .ok content ∧
      FileStep.runAll (v.savePlan content) s.files = (.ok (), (v.save tokens s).2.files) := by
  rcases save_cases v tokens s with ⟨e, herror, -⟩ | ⟨content, hcontent, hresult, hfiles⟩
  · rw [hsave] at herror
    cases herror
  · refine ⟨content, hcontent, ?_⟩
    rcases hplan : FileStep.runAll (v.savePlan content) s.files with ⟨_ | _, files⟩
    · rw [hsave, hplan] at hresult
      cases hresult
    · rw [hfiles, hplan]

/-- So the file at the vault's path has its content, and the draft's permission bits. -/
theorem lookup_of_save (hsave : (v.save tokens s).1 = .ok ()) :
    ∃ content hs spot, FileStep.runAll v.directoryPlan s.files = (.ok (), hs) ∧
      hs.CanStand v.draftPath spot ∧
      (v.save tokens s).2.files.lookup v.path = .ok (.file content (hs.modeAt spot fileMode)) := by
  obtain ⟨content, -, hplan⟩ := runAll_of_save hsave
  exact ⟨content, exists_of_savePlan hplan⟩

/-- Where its plan can be carried out, a save with acceptable costs is done. -/
theorem save_of_prepared (hhonest : v.Honest s.cache) (hcosts : v.costs.check = .ok ())
    (h : v.Prepared s.files) (tokens : TokenSet) : (v.save tokens s).1 = .ok () := by
  obtain ⟨key, salt, nonce, cache, entropy, -, -, -, -, hsave⟩ := save_eq hhonest hcosts tokens
  obtain ⟨files, hplan, -⟩ :=
    runAll_savePlan h (Text.bytes (v.sealTokens key salt nonce tokens))
  rw [hsave, hplan]
  rfl

/-- It can be carried out where programs start, wherever the two files can stand. -/
theorem prepared_here {home spot : Place} (hparent : v.path.parent? = some ⟨false, []⟩)
    (hhome : fs.CanStand v.path home) (hspot : fs.CanStand v.draftPath spot) : v.Prepared fs :=
  ⟨⟨false, []⟩, fs, hparent, Files.Made.makeDirectories (.inl (by decide)), ⟨false, []⟩, home, spot,
    hparent, .inl (by decide), hhome, hspot⟩

/-! ## What lies at the draft's path -/

/-- A path and its draft are in the same directory. -/
theorem parent?_draftPath (v : Vault) : v.draftPath.parent? = v.path.parent? := by
  cases hname : v.path.fileName? with
  | none => rw [draftPath, Path.withExtension_of_no_name hname]
  | some name => exact Path.parent?_withExtension hname (by decide)

/-- No file lies at the draft's place that is not private. The place is the one that the draft's
path leads to when all directories are there. -/
def DraftIsPrivate (v : Vault) (fs : Files) : Prop :=
  ∀ bytes mode, fs.find? (fs.startOf v.draftPath ++ Path.namesIn v.draftPath.parts) =
    some (.file bytes mode) → IsPrivate mode

/-- Where the draft can stand, that is its place. -/
theorem place_of_draft (hup : ".." ∉ v.draftPath.parts) (h : fs.CanStand v.draftPath place) :
    place = fs.startOf v.draftPath ++ Path.namesIn v.draftPath.parts := by
  obtain ⟨directory, name, htarget, -, rfl⟩ := h.entry
  exact Files.place_of_target hup htarget

theorem DraftIsPrivate.modeAt (h : v.DraftIsPrivate fs) (hup : ".." ∉ v.draftPath.parts)
    (hplace : fs.CanStand v.draftPath place) : IsPrivate (fs.modeAt place fileMode) := by
  refine isPrivate_modeAt_iff.2 fun old mode hfile => h old mode ?_
  rwa [← place_of_draft hup hplace]

/-- Directories that are made bring no file. -/
theorem DraftIsPrivate.grows {top : Place} (h : v.DraftIsPrivate fs)
    (hgrows : Files.Grows top fs gs) : v.DraftIsPrivate gs := by
  intro bytes mode hfile
  rw [hgrows.startOf] at hfile
  rcases hgrows.only _ with hsame | ⟨-, hmade, -⟩
  · exact h bytes mode (hsame ▸ hfile)
  · rw [hmade] at hfile
    cases hfile

/-- Nor does a private file that is put anywhere. -/
theorem DraftIsPrivate.put (h : v.DraftIsPrivate fs) (place : Place) (bytes : List UInt8)
    (hmode : IsPrivate mode) (hne : place ≠ []) :
    v.DraftIsPrivate (fs.put place (.file bytes mode)) := by
  intro bytes' mode' hfile
  have hstart : (fs.put place (.file bytes mode)).startOf v.draftPath = fs.startOf v.draftPath :=
    rfl
  rw [hstart] at hfile
  by_cases hplace : fs.startOf v.draftPath ++ Path.namesIn v.draftPath.parts = place
  · rw [hplace, Files.find?_put_self _ _ hne] at hfile
    cases hfile
    exact hmode
  · rw [Files.find?_put_of_ne _ _ hplace] at hfile
    exact h bytes' mode' hfile

/-- Nor what is dropped. -/
theorem DraftIsPrivate.drop (h : v.DraftIsPrivate fs) (place : Place) (hne : place ≠ []) :
    v.DraftIsPrivate (fs.drop place) := by
  intro bytes mode hfile
  have hstart : (fs.drop place).startOf v.draftPath = fs.startOf v.draftPath := rfl
  rw [hstart] at hfile
  by_cases hplace : fs.startOf v.draftPath ++ Path.namesIn v.draftPath.parts = place
  · rw [hplace, Files.find?_drop_self _ hne] at hfile
    cases hfile
  · rw [Files.find?_drop_of_ne _ hplace] at hfile
    exact h bytes mode hfile

/-- While the directories above a vault are made, nothing else changes. -/
theorem grows_of_directoryPlan (hup : ".." ∉ v.draftPath.parts)
    (h : FileStep.During v.directoryPlan fs gs) : ∃ top, Files.Grows top fs gs := by
  rw [directoryPlan, ← parent?_draftPath] at h
  cases hparent : v.draftPath.parent? with
  | none =>
    rw [hparent] at h
    cases h
    exact ⟨[], .refl _ _⟩
  | some parent =>
    rw [hparent] at h
    exact ⟨_, Files.grows_of_whileMaking (Path.not_up_of_parent hparent hup)
      (FileStep.whileMaking_of_during h)⟩

/-- **At every moment of a save the draft is private**, if no other draft lay there. -/
theorem DraftIsPrivate.during (h : v.DraftIsPrivate fs) (hup : ".." ∉ v.draftPath.parts)
    (hduring : FileStep.During (v.savePlan content) fs gs) : v.DraftIsPrivate gs := by
  refine throughout_save (fun hs hdirectories => ?_) (fun hs spot written hdraft hspot => ?_)
    (fun hs spot home bytes mode hdraft hspot hfile hhome => ?_) hduring
  · obtain ⟨top, hgrows⟩ := grows_of_directoryPlan hup hdirectories
    exact h.grows hgrows
  · exact hdraft.put spot written (hdraft.modeAt hup hspot) hspot.ne_nil
  · have hmode : IsPrivate mode := hdraft bytes mode (place_of_draft hup hspot ▸ hfile)
    exact (hdraft.drop spot hspot.ne_nil).put home bytes hmode hhome.ne_nil

/-- The files that vault objects for a path can leave, whatever they save, whatever fails, and
wherever they are stopped, as long as nobody else changes any. -/
inductive OwnWork (p : Path) (fs : Files) : Files → Prop
  | start : OwnWork p fs fs
  | save {v : Vault} {tokens : TokenSet} {s : VaultState} {gs : Files} (hpath : v.path = p)
      (before : OwnWork p fs s.files) (h : v.Meanwhile tokens s gs) : OwnWork p fs gs
  | clear {v : Vault} {s : VaultState} (hpath : v.path = p) (before : OwnWork p fs s.files) :
      OwnWork p fs (v.clear s).2.files

/-- **The work of vault objects leaves no draft that is not private.** -/
theorem OwnWork.draftIsPrivate (h : OwnWork v.path fs gs) (hup : ".." ∉ v.draftPath.parts)
    (hdraft : v.DraftIsPrivate fs) : v.DraftIsPrivate gs := by
  induction h with
  | start => exact hdraft
  | @save w tokens s gs hpath before h ih =>
    have hsame : w.draftPath = v.draftPath := by rw [draftPath, draftPath, hpath]
    rcases h with rfl | ⟨content, -, hduring⟩
    · exact ih
    · have hplan : w.savePlan content = v.savePlan content := by
        rw [savePlan, savePlan, hsame, hpath]
      exact ih.during hup (hplan ▸ hduring)
  | @clear w s hpath before ih =>
    unfold Vault.clear
    split
    · rename_i files hremove
      obtain ⟨place, hne, rfl⟩ := Files.drop_of_remove hremove
      exact ih.drop place hne
    · exact ih
    · exact ih

/-- **A save leaves a private file exactly if it found no draft that is not.** What it found is what
lay at the draft's path when the directories were made. Where that path only leads down, the work of
vault objects never leaves such a draft: if there was none when they began, what any of their saves
leaves is private. -/
theorem saved_files_are_private (hsave : (v.save tokens s).1 = .ok ()) :
    ∃ content mode, (v.save tokens s).2.files.lookup v.path = .ok (.file content mode) ∧
      (IsPrivate mode ↔ ∀ old bits,
        (FileStep.runAll v.directoryPlan s.files).2.lookup v.draftPath = .ok (.file old bits) →
          IsPrivate bits) ∧
      ∀ files, ".." ∉ v.draftPath.parts → v.DraftIsPrivate files → OwnWork v.path files s.files →
        IsPrivate mode := by
  obtain ⟨content, hs, spot, hdirectories, hspot, hlookup⟩ := lookup_of_save hsave
  refine ⟨content, _, hlookup, ?_, fun files hup hdraft hwork => ?_⟩
  · rw [hdirectories, isPrivate_modeAt_iff]
    simp only [hspot.lookup_eq_file_iff]
  · have hmoment := FileStep.runAll_during v.directoryPlan s.files
    rw [hdirectories] at hmoment
    obtain ⟨top, hgrows⟩ := grows_of_directoryPlan hup hmoment
    exact ((hwork.draftIsPrivate hup hdraft).grows hgrows).modeAt hup hspot

/-- A file for all to read at the vault's path is replaced by a private one. -/
theorem readable_vault_becomes_private :
    let v : Vault := ⟨.ofText "session.vault", "pw", ⟨8, 1, 1⟩⟩
    let files := Files.empty.put ["session.vault"] (.file [0x7b] 0o644)
    let s : VaultState := ⟨files, none, ⟨fun _ => 0, 0⟩⟩
    (v.save sampleTokens s).1 = .ok () ∧ ".." ∉ v.draftPath.parts ∧ v.DraftIsPrivate files ∧
      ∃ content mode, (v.save sampleTokens s).2.files.lookup v.path = .ok (.file content mode) ∧
        IsPrivate mode := by
  intro v files s
  have hpath : v.path = ⟨false, ["session.vault"]⟩ := by decide
  have hdraft : v.draftPath = ⟨false, ["session.tmp"]⟩ := by decide
  have hsave : (v.save sampleTokens s).1 = .ok () :=
    save_of_prepared (honest_none v) rfl (prepared_here (by decide)
      ⟨[], "session.vault", by rw [hpath]; rfl, by decide, rfl, by decide⟩
      ⟨[], "session.tmp", by rw [hdraft]; rfl, by decide, rfl, by decide⟩) sampleTokens
  have hup : ".." ∉ v.draftPath.parts := by rw [hdraft]; decide
  have hprivate : v.DraftIsPrivate files := by
    intro bytes mode hfile
    rw [hdraft] at hfile
    cases hfile
  obtain ⟨content, mode, hlookup, -, hwork⟩ := saved_files_are_private hsave
  exact ⟨hsave, hup, hprivate, content, mode, hlookup, hwork files hup hprivate .start⟩

/-- A draft for all to read that somebody left becomes the vault's file, and so does the file of a
vault that is its own draft: both saves are done and both files stay readable. -/
theorem readable_draft_stays_readable :
    let v : Vault := ⟨.ofText "session.vault", "pw", ⟨8, 1, 1⟩⟩
    let w : Vault := ⟨.ofText "session.tmp", "pw", ⟨8, 1, 1⟩⟩
    let s : VaultState :=
      ⟨Files.empty.put ["session.tmp"] (.file [0x7b] 0o644), none, ⟨fun _ => 0, 0⟩⟩
    ¬IsPrivate 0o644 ∧
      ((v.save sampleTokens s).1 = .ok () ∧
        ∃ content, (v.save sampleTokens s).2.files.lookup v.path = .ok (.file content 0o644)) ∧
      ((w.save sampleTokens s).1 = .ok () ∧
        ∃ content, (w.save sampleTokens s).2.files.lookup w.path = .ok (.file content 0o644)) := by
  intro v w s
  have hstands : s.files.CanStand ⟨false, ["session.tmp"]⟩ ["session.tmp"] :=
    ⟨[], "session.tmp", rfl, by decide, rfl, by decide⟩
  have hsaved : ∀ u : Vault, u.costs.check = .ok () → u.path.parent? = some ⟨false, []⟩ →
      (∃ home, s.files.CanStand u.path home) → u.draftPath = ⟨false, ["session.tmp"]⟩ →
        (u.save sampleTokens s).1 = .ok () ∧
          ∃ content, (u.save sampleTokens s).2.files.lookup u.path = .ok (.file content 0o644) := by
    intro u hcosts hparent hhome hdraft
    obtain ⟨home, hhome⟩ := hhome
    have hspot : s.files.CanStand u.draftPath ["session.tmp"] := by rwa [hdraft]
    have hsave : (u.save sampleTokens s).1 = .ok () :=
      save_of_prepared (honest_none u) hcosts (prepared_here hparent hhome hspot) sampleTokens
    obtain ⟨content, hs, spot, hdirectories, hspot', hlookup⟩ := lookup_of_save hsave
    have hmade : FileStep.runAll u.directoryPlan s.files = (.ok (), s.files) := by
      rw [directoryPlan, hparent]
      exact FileStep.runAll_of_run (Files.Made.makeDirectories (.inl (by decide)))
    obtain rfl := (Prod.mk.inj (hmade.symm.trans hdirectories)).2
    obtain rfl := hspot.unique hspot'
    exact ⟨hsave, content, hlookup⟩
  have hpath : v.path = ⟨false, ["session.vault"]⟩ := by decide
  refine ⟨by decide, hsaved v rfl (by decide) ⟨["session.vault"], ?_⟩ (by decide),
    hsaved w rfl (by decide) ⟨["session.tmp"], ?_⟩ (by decide)⟩
  · rw [hpath]
    exact ⟨[], "session.vault", rfl, by decide, rfl, by decide⟩
  · rw [show w.path = ⟨false, ["session.tmp"]⟩ by decide]
    exact hstands

end Vault

end RedirectLogin
