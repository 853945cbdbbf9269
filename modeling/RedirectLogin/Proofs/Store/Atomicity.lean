import RedirectLogin.Proofs.Store.PlainPaths
import RedirectLogin.Proofs.Store.Histories

/-!
# All or nothing

A save writes a new file beside the vault's and renames it, so that a reader finds the old file or
the whole new one at every moment. This takes two things of the vault's path (`Shielded`): it must
lead where it led when the directories above it are made, and a file that is put at the draft's
path must not be seen through it. It does take them: without one or the other some save shows
something else in the middle.

A path without `..` whose name has another ending than the draft's is shielded. A name that has the
draft's ending is not: the draft is then the vault's own file, and a save that is stopped may have
emptied it already.

Principal results: `Shielded.atomic` and `shielded_of_atomic` — the two directions;
`shielded_of_downward` — ordinary paths; `saves_are_atomic` — all of it, with what stopped and
failed saves leave to later loads.
-/

set_option autoImplicit false

namespace RedirectLogin

open Cipher (Argon2id.Params Argon2id.derive)

namespace Files

variable {fs gs : Files} {p : Path} {place : Place}

/-- What is renamed is a file, and a file can stand where it goes. -/
theorem exists_of_rename {q : Path} (h : fs.rename p q = .ok gs) :
    ∃ place home bytes mode, fs.CanStand p place ∧ fs.find? place = some (.file bytes mode) ∧
      fs.CanStand q home ∧ gs = (fs.drop place).put home (.file bytes mode) := by
  obtain ⟨⟨directory, last⟩, htarget, h⟩ := bind_eq_ok_iff.1 h
  obtain ⟨⟨directory', last'⟩, htarget', h⟩ := bind_eq_ok_iff.1 h
  rcases last with place | ⟨name, slash⟩
  · cases h
  rcases last' with place' | ⟨name', slash'⟩
  · cases h
  obtain ⟨found, hentry, h⟩ := bind_eq_ok_iff.1 h
  obtain ⟨hshort, hfound⟩ := entryIn?_eq_ok_iff.1 hentry
  rcases found with _ | _ | ⟨bytes, mode⟩
  · cases h
  · cases h
  obtain ⟨found', hentry', h⟩ := bind_eq_ok_iff.1 h
  obtain ⟨hshort', hfound'⟩ := entryIn?_eq_ok_iff.1 hentry'
  split at h
  · cases h
  rename_i hslash
  simp only at h
  split at h
  · cases h
  rename_i hfree
  obtain rfl := Except.ok.inj h
  obtain ⟨rfl, rfl⟩ : slash = false ∧ slash' = false := by simpa using hslash
  refine ⟨_, _, bytes, mode, ⟨directory, name, htarget, hshort, rfl, ?_⟩, hfound,
    ⟨directory', name', htarget', hshort', rfl, ?_⟩, rfl⟩
  · rw [hfound]
    simp
  · rwa [hfound']

/-- A path leads to one place. -/
theorem CanStand.unique {place' : Place} (h : fs.CanStand p place) (h' : fs.CanStand p place') :
    place = place' := by
  obtain ⟨directory, name, htarget, -, rfl⟩ := h.entry
  obtain ⟨directory', name', htarget', -, rfl⟩ := h'.entry
  cases htarget.symm.trans htarget'
  rfl

/-- Where a file was renamed to, its bytes are found. -/
theorem CanStand.read_of_rename {q : Path} {bytes : List UInt8} {mode : Nat}
    (h : fs.CanStand p place) (hfile : fs.find? place = some (.file bytes mode))
    (hrename : fs.rename p q = .ok gs) : gs.read q = .ok bytes := by
  obtain ⟨place', home, bytes', mode', hplace, hfile', hhome, rfl⟩ := exists_of_rename hrename
  obtain rfl := h.unique hplace
  cases hfile.symm.trans hfile'
  have hdropped := hhome.drop h.not_directory
  exact (hdropped.put hdropped.not_directory bytes mode).read_of_file
    (find?_put_self _ _ hhome.ne_nil)

end Files

namespace Vault

variable {v : Vault} {s : VaultState} {fs gs : Files} {tokens : TokenSet}
  {content : List UInt8}

/-! ## The moments of a save -/

/-- The first steps of a save: make the directories above the vault. -/
def directoryPlan (v : Vault) : List FileStep :=
  v.path.parent?.toList.map .makeDirectories

/-- The next steps: write the draft. -/
def writePlan (v : Vault) (content : List UInt8) : List FileStep :=
  [.truncate v.draftPath fileMode, .append v.draftPath content, .sync v.draftPath]

theorem savePlan_eq (v : Vault) (content : List UInt8) :
    v.savePlan content =
      v.directoryPlan ++ (v.writePlan content ++ [.rename v.draftPath v.path]) := rfl

/-- What a save of these tokens writes. -/
def newContent (v : Vault) (tokens : TokenSet) (s : VaultState) : Except StoreError (List UInt8) :=
  (v.keyFor s.cache (v.chooseSalt s).1 v.costs).1.map fun key =>
    Text.bytes (v.sealTokens key (v.chooseSalt s).1
      ((v.chooseSalt s).2.draw Envelope.nonceLength).1 tokens)

/-- What a save writes: its own costs, the salt it chose, a new nonce, and the record under the key
of the passphrase. -/
theorem exists_writes (h : v.Honest s.cache) (hcontent : v.newContent tokens s = .ok content) :
    ∃ parts, content = Text.bytes (Envelope.ofParts parts).text ∧ parts.costs = v.costs ∧
      (parts.salt = (v.chooseSalt s).1 ∧ parts.salt.length = Envelope.saltLength) ∧
      parts.nonce.length = Envelope.nonceLength ∧
      parts.sealed = Cipher.encrypt (Argon2id.derive v.costs (Text.bytes v.passphrase) parts.salt
        Envelope.keyLength) parts.nonce (Text.bytes tokens.record) := by
  have hsalt := chooseSalt_length h
  have hanswer := (keyFor_of_honest h hsalt v.costs).1
  unfold newContent at hcontent
  cases hkey : v.deriveKey (v.chooseSalt s).1 v.costs with
  | error e =>
    rw [hanswer, hkey] at hcontent
    cases hcontent
  | ok key =>
    rw [hanswer, hkey] at hcontent
    refine ⟨⟨v.costs, (v.chooseSalt s).1, _, Cipher.encrypt key _ _⟩,
      (Except.ok.inj hcontent).symm, rfl, ⟨rfl, hsalt⟩, Entropy.draw_length _ _, ?_⟩
    rw [(deriveKey_eq_ok_iff.1 hkey).2]

/-- With acceptable costs there is something to write. -/
theorem exists_newContent (h : v.Honest s.cache) (hcosts : v.costs.check = .ok ())
    (tokens : TokenSet) :
    ∃ parts, v.newContent tokens s = .ok (Text.bytes (Envelope.ofParts parts).text) ∧
      parts.salt = (v.chooseSalt s).1 := by
  obtain ⟨key, hkey⟩ := exists_keyFor h (chooseSalt_length h) hcosts
  obtain ⟨content, hcontent⟩ : ∃ content, v.newContent tokens s = .ok content :=
    ⟨_, by rw [newContent, hkey]; rfl⟩
  obtain ⟨parts, htext, -, ⟨hsalt, -⟩, -⟩ := exists_writes h hcontent
  exact ⟨parts, htext ▸ hcontent, hsalt⟩

/-- The files at some moment of a save. -/
def Meanwhile (v : Vault) (tokens : TokenSet) (s : VaultState) (gs : Files) : Prop :=
  gs = s.files ∨
    ∃ content, v.newContent tokens s = .ok content ∧ FileStep.During (v.savePlan content) s.files gs

/-- The files at some moment of a save before it has renamed the draft. This is what a save leaves
that fails or is stopped. -/
def CutShort (v : Vault) (tokens : TokenSet) (s : VaultState) (gs : Files) : Prop :=
  gs = s.files ∨
    ∃ content, v.newContent tokens s = .ok content ∧
      FileStep.During (v.directoryPlan ++ v.writePlan content) s.files gs

/-- A save does nothing to the files if it has no key, and else carries out its plan. -/
theorem save_cases (v : Vault) (tokens : TokenSet) (s : VaultState) :
    (∃ e, (v.save tokens s).1 = .error e ∧ (v.save tokens s).2.files = s.files) ∨
      ∃ content, v.newContent tokens s = .ok content ∧
        (v.save tokens s).1 = (FileStep.runAll (v.savePlan content) s.files).1.mapError .io ∧
        (v.save tokens s).2.files = (FileStep.runAll (v.savePlan content) s.files).2 := by
  rcases hchoose : v.chooseSalt s with ⟨salt, entropy⟩
  rcases hkey : v.keyFor s.cache salt v.costs with ⟨e | key, cache⟩
  · exact .inl ⟨e, by simp only [save, hchoose, hkey], by simp only [save, hchoose, hkey]⟩
  · refine .inr ⟨_, by simp only [newContent, hchoose, hkey]; rfl, ?_⟩
    simp only [save, hchoose, hkey]
    rcases FileStep.runAll _ s.files with ⟨_ | _, files⟩ <;> exact ⟨rfl, rfl⟩

theorem eq_of_wholly {result : Except IoError Files}
    (h : FileStep.wholly fs result = (.ok (), gs)) : result = .ok gs := by
  cases result with
  | error e => cases (Prod.mk.inj h).1
  | ok hs => rw [(Prod.mk.inj h).2]

theorem put_of_run_truncate {p : Path} {mode : Nat}
    (h : FileStep.run (.truncate p mode) fs = (.ok (), gs)) :
    ∃ place, fs.CanStand p place ∧ gs = fs.put place (.file [] (fs.modeAt place mode)) :=
  Files.put_of_truncate (eq_of_wholly h)

theorem put_of_run_append {p : Path} {place : Place} {mode : Nat} (hplace : fs.CanStand p place)
    (h : FileStep.run (.append p content) (fs.put place (.file [] mode)) = (.ok (), gs)) :
    gs = fs.put place (.file content mode) :=
  (Except.ok.inj ((hplace.append_put [] content mode).symm.trans (eq_of_wholly h))).symm

/-- While the draft is written, a part of it stands at its place. -/
theorem during_writePlan (h : FileStep.During (v.writePlan content) fs gs) :
    gs = fs ∨ ∃ place written, fs.CanStand v.draftPath place ∧ written <+: content ∧
      gs = fs.put place (.file written (fs.modeAt place fileMode)) := by
  cases h with
  | untouched => exact .inl rfl
  | within h =>
    cases h with
    | untouched => exact .inl rfl
    | done htruncate =>
      obtain ⟨place, hplace, rfl⟩ := put_of_run_truncate htruncate
      exact .inr ⟨place, [], hplace, List.nil_prefix, rfl⟩
  | beyond htruncate h =>
    obtain ⟨place, hplace, rfl⟩ := put_of_run_truncate htruncate
    refine .inr ⟨place, ?_⟩
    cases h with
    | untouched => exact ⟨[], hplace, List.nil_prefix, rfl⟩
    | within h =>
      cases h with
      | untouched => exact ⟨[], hplace, List.nil_prefix, rfl⟩
      | writing hwritten happend =>
        rw [hplace.append_put [] _ _] at happend
        exact ⟨_, hplace, hwritten, (Except.ok.inj happend).symm⟩
      | done happend =>
        exact ⟨content, hplace, List.prefix_rfl, put_of_run_append hplace happend⟩
    | beyond happend h =>
      obtain rfl := put_of_run_append hplace happend
      refine ⟨content, hplace, List.prefix_rfl, ?_⟩
      cases h with
      | untouched => rfl
      | within h =>
        cases h with
        | untouched => rfl
        | done hsync => exact (Prod.mk.inj hsync).2.symm
      | beyond hsync h =>
        obtain rfl := (Prod.mk.inj hsync).2
        cases h
        rfl

/-- Once the draft is written, it stands there as a whole. -/
theorem runAll_writePlan (h : FileStep.runAll (v.writePlan content) fs = (.ok (), gs)) :
    ∃ place, fs.CanStand v.draftPath place ∧
      gs = fs.put place (.file content (fs.modeAt place fileMode)) := by
  obtain ⟨hs, htruncate, h⟩ := FileStep.run_of_runAll h
  obtain ⟨place, hplace, rfl⟩ := put_of_run_truncate htruncate
  obtain ⟨ks, happend, h⟩ := FileStep.run_of_runAll h
  obtain rfl := put_of_run_append hplace happend
  exact ⟨place, hplace, (Prod.mk.inj h).2.symm⟩

/-- Every part of it does so at some moment, wherever it can stand. -/
theorem during_writePlan_of_canStand {place : Place} (h : fs.CanStand v.draftPath place)
    (content : List UInt8) :
    ∃ mode, ∀ written, written <+: content →
      FileStep.During (v.writePlan content) fs (fs.put place (.file written mode)) := by
  obtain ⟨mode, htruncate⟩ := h.truncate fileMode
  refine ⟨mode, fun written hwritten => ?_⟩
  have hempty : FileStep.run (.truncate v.draftPath fileMode) fs =
      (.ok (), fs.put place (.file [] mode)) := by
    rw [FileStep.run, htruncate]
    rfl
  exact .beyond hempty (.within (.writing hwritten (h.append_put [] written mode)))

/-- What happens while the draft is written happens in a save. -/
theorem during_savePlan {hs : Files} (hrun : FileStep.runAll v.directoryPlan fs = (.ok (), gs))
    (hwrite : FileStep.During (v.writePlan content) gs hs) :
    FileStep.During (v.savePlan content) fs hs :=
  FileStep.during_append.2 (.inr ⟨gs, hrun, FileStep.during_append.2 (.inl hwrite)⟩)

section Moments

variable {P : Files → Prop} (hmade : ∀ gs, FileStep.During v.directoryPlan fs gs → P gs)
  (hwritten : ∀ gs spot written, P gs → gs.CanStand v.draftPath spot →
    P (gs.put spot (.file written (gs.modeAt spot fileMode))))

include hmade hwritten

/-- What holds while directories are made, and is kept when the draft is put somewhere, holds at
every moment until the draft is renamed. -/
theorem until_rename {gs : Files}
    (h : FileStep.During (v.directoryPlan ++ v.writePlan content) fs gs) : P gs := by
  rcases FileStep.during_append.1 h with hdirectories | ⟨hs, hrun, hwrite⟩
  · exact hmade gs hdirectories
  have hmoment := FileStep.runAll_during v.directoryPlan fs
  rw [hrun] at hmoment
  rcases during_writePlan hwrite with rfl | ⟨spot, written, hspot, -, rfl⟩
  · exact hmade _ hmoment
  · exact hwritten hs spot written (hmade hs hmoment) hspot

/-- If it is also kept when the draft is renamed, it holds at every moment of a save. -/
theorem throughout_save {gs : Files}
    (hrenamed : ∀ gs spot home bytes mode, P gs → gs.CanStand v.draftPath spot →
      gs.find? spot = some (.file bytes mode) → gs.CanStand v.path home →
        P ((gs.drop spot).put home (.file bytes mode)))
    (h : FileStep.During (v.savePlan content) fs gs) : P gs := by
  rw [savePlan_eq, ← List.append_assoc] at h
  rcases FileStep.during_append.1 h with hbefore | ⟨hs, hrun, hrename⟩
  · exact until_rename hmade hwritten hbefore
  have hmoment := FileStep.runAll_during (v.directoryPlan ++ v.writePlan content) fs
  rw [hrun] at hmoment
  have hdraft := until_rename hmade hwritten hmoment
  cases FileStep.passes_of_during hrename with
  | untouched => exact hdraft
  | done hdone =>
    obtain ⟨spot, home, bytes, mode, hspot, hfile, hhome, rfl⟩ :=
      Files.exists_of_rename (eq_of_wholly hdone)
    exact hrenamed hs spot home bytes mode hdraft hspot hfile hhome

end Moments

/-! ## What a path must be like -/

/-- A vault's path leads where it led when directories are made above it, and shows nothing of a
file at the draft's path. -/
structure Shielded (v : Vault) (fs : Files) : Prop where
  directories : ∀ gs, FileStep.During v.directoryPlan fs gs → gs.read v.path = fs.read v.path
  draft : ∀ gs place, FileStep.runAll v.directoryPlan fs = (.ok (), gs) →
    gs.CanStand v.draftPath place → ∀ bytes mode,
      (gs.put place (.file bytes mode)).read v.path = gs.read v.path

theorem Shielded.read_of_runAll (h : v.Shielded fs)
    (hrun : FileStep.runAll v.directoryPlan fs = (.ok (), gs)) :
    gs.read v.path = fs.read v.path := by
  have hduring := FileStep.runAll_during v.directoryPlan fs
  rw [hrun] at hduring
  exact h.directories gs hduring

/-- Until the draft is renamed, a shielded path shows what it showed. -/
theorem Shielded.read_of_during (h : v.Shielded fs)
    (hduring : FileStep.During (v.directoryPlan ++ v.writePlan content) fs gs) :
    gs.read v.path = fs.read v.path := by
  rcases FileStep.during_append.1 hduring with hdirectories | ⟨hs, hrun, hwrite⟩
  · exact h.directories gs hdirectories
  · rcases during_writePlan hwrite with rfl | ⟨place, written, hplace, -, rfl⟩
    · exact h.read_of_runAll hrun
    · rw [h.draft hs place hrun hplace written _, h.read_of_runAll hrun]

/-- **A save at a shielded path is all or nothing** at every moment. -/
theorem Shielded.atomic (h : v.Shielded fs)
    (hduring : FileStep.During (v.savePlan content) fs gs) :
    gs.read v.path = fs.read v.path ∨ gs.read v.path = .ok content := by
  rw [savePlan_eq, ← List.append_assoc] at hduring
  rcases FileStep.during_append.1 hduring with hbefore | ⟨hs, hrun, hrename⟩
  · exact .inl (h.read_of_during hbefore)
  have hwritten : hs.read v.path = fs.read v.path := by
    have hmoment := FileStep.runAll_during (v.directoryPlan ++ v.writePlan content) fs
    rw [hrun] at hmoment
    exact h.read_of_during hmoment
  cases FileStep.passes_of_during hrename with
  | untouched => exact .inl hwritten
  | done hdone =>
    rw [FileStep.runAll_append] at hrun
    rcases hplan : FileStep.runAll v.directoryPlan fs with ⟨_ | _, ks⟩
    · rw [hplan] at hrun
      cases (Prod.mk.inj hrun).1
    rw [hplan] at hrun
    obtain ⟨place, hplace, rfl⟩ := runAll_writePlan hrun
    have hdraft := hplace.put hplace.not_directory content (ks.modeAt place fileMode)
    exact .inr (hdraft.read_of_rename (Files.find?_put_self _ _ hplace.ne_nil) (eq_of_wholly hdone))

/-! ### And must be -/

/-- A new vault object writes an envelope with the salt it draws. -/
theorem newContent_of_new (hcosts : v.costs.check = .ok ()) (tokens : TokenSet) (fs : Files)
    (byte : UInt8) :
    ∃ parts : Envelope.Parts, parts.salt = List.replicate Envelope.saltLength byte ∧
      v.newContent tokens ⟨fs, none, ⟨fun _ => byte, 0⟩⟩ =
        .ok (Text.bytes (Envelope.ofParts parts).text) := by
  have hhonest : v.Honest (VaultState.mk fs none ⟨fun _ => byte, 0⟩).cache := honest_none v
  obtain ⟨parts, hcontent, hsalt⟩ := exists_newContent hhonest hcosts tokens
  refine ⟨parts, hsalt.trans ?_, hcontent⟩
  simp [chooseSalt, Entropy.draw, List.map_const']

/-- If a draft of two bytes or more shows nothing but what was there or all of itself while it is
written, then no draft is seen at all. -/
theorem read_of_draft {place : Place} (hlength : 2 ≤ content.length)
    (hplace : gs.CanStand v.draftPath place) (hsame : gs.read v.path = fs.read v.path)
    (h : ∀ hs, FileStep.During (v.writePlan content) gs hs →
      hs.read v.path = fs.read v.path ∨ hs.read v.path = .ok content)
    (bytes : List UInt8) (mode : Nat) :
    (gs.put place (.file bytes mode)).read v.path = gs.read v.path := by
  obtain ⟨mode', hwriting⟩ := during_writePlan_of_canStand hplace content
  have hpart : ∀ written, written <+: content →
      (gs.put place (.file written mode')).read v.path = fs.read v.path ∨
        (gs.put place (.file written mode')).read v.path = .ok content :=
    fun written hwritten => h _ (hwriting written hwritten)
  have hempty := hpart [] List.nil_prefix
  obtain ⟨first, rest, rfl⟩ :=
    List.exists_cons_of_length_pos (Nat.lt_of_lt_of_le Nat.two_pos hlength)
  rcases Files.read_put gs place v.path with helsewhere | hhere | hbroken
  · exact helsewhere bytes mode
  · -- the empty draft and its first byte cannot both be what was there
    exfalso
    have hone := hpart [first] ⟨rest, rfl⟩
    rw [hhere] at hempty hone
    have hne : rest ≠ [] := by
      rintro rfl
      exact absurd hlength (by simp)
    have hold : .ok [] = fs.read v.path := hempty.resolve_right (by simp)
    have hold' : .ok [first] = fs.read v.path := hone.resolve_right (by simpa using hne.symm)
    exact absurd (Except.ok.inj (hold.trans hold'.symm)) (by simp)
  · rw [hbroken] at hempty
    have hold : .error .notDirectory = fs.read v.path := hempty.resolve_right (by simp)
    rw [hbroken, hsame, hold]

/-- Two new vault objects write different envelopes, if they draw different salts. -/
theorem exists_two_contents (hcosts : v.costs.check = .ok ()) (tokens : TokenSet) (fs : Files) :
    ∃ content content' entropy entropy', content ≠ content' ∧ 2 ≤ content.length ∧
      v.newContent tokens ⟨fs, none, entropy⟩ = .ok content ∧
      v.newContent tokens ⟨fs, none, entropy'⟩ = .ok content' := by
  obtain ⟨parts, hsalt, hnew⟩ := newContent_of_new hcosts tokens fs 0
  obtain ⟨parts', hsalt', hnew'⟩ := newContent_of_new hcosts tokens fs 1
  refine ⟨_, _, _, _, fun hsame => ?_, Envelope.two_le_length_text parts, hnew, hnew'⟩
  have hchars := Text.decode?_encode (Envelope.ofParts parts).text.toList
  rw [← Text.bytes, hsame, Text.bytes, Text.decode?_encode] at hchars
  have heq := Envelope.salt_eq_of_text_eq (String.toList_inj.1 (Option.some.inj hchars)).symm
  rw [hsalt, hsalt'] at heq
  exact absurd heq (by decide)

/-- **Only shielded paths have saves that are all or nothing.** -/
theorem shielded_of_atomic (hcosts : v.costs.check = .ok ())
    (h : ∀ tokens cache entropy content gs, v.newContent tokens ⟨fs, cache, entropy⟩ = .ok content →
      FileStep.During (v.savePlan content) fs gs →
        gs.read v.path = fs.read v.path ∨ gs.read v.path = .ok content) : v.Shielded fs := by
  obtain ⟨content, content', entropy, entropy', hother, hlength, hnew, hnew'⟩ :=
    exists_two_contents hcosts sampleTokens fs
  have hatomic := fun gs => h _ _ _ _ gs hnew
  have hatomic' := fun gs => h _ _ _ _ gs hnew'
  -- what both saves show before they write cannot be new in both
  have hdirectories : ∀ gs, FileStep.During v.directoryPlan fs gs →
      gs.read v.path = fs.read v.path := by
    intro gs hduring
    rcases hatomic gs (FileStep.during_append.2 (.inl hduring)) with hold | hshown
    · exact hold
    rcases hatomic' gs (FileStep.during_append.2 (.inl hduring)) with hold | hshown'
    · exact hold
    · exact absurd (Except.ok.inj (hshown.symm.trans hshown')) hother
  refine ⟨hdirectories, fun gs place hrun hplace => ?_⟩
  have hmoment := FileStep.runAll_during v.directoryPlan fs
  rw [hrun] at hmoment
  exact read_of_draft hlength hplace (hdirectories gs hmoment)
    fun hs hwrite => hatomic hs (during_savePlan hrun hwrite)

/-! ### Paths that are -/

/-- A path whose draft has another name has a name. -/
theorem exists_fileName? (hdraft : v.draftPath.fileName? ≠ v.path.fileName?) :
    ∃ name, v.path.fileName? = some name := by
  cases hname : v.path.fileName? with
  | none =>
    exact absurd (congrArg Path.fileName? (Path.withExtension_of_no_name hname "tmp")) hdraft
  | some name => exact ⟨name, rfl⟩

/-- A file at a draft's path with another name does not stand on the way to the vault. -/
theorem draft_beside {place : Place} (hup : ".." ∉ v.path.parts)
    (hdraft : v.draftPath.fileName? ≠ v.path.fileName?) (hplace : fs.CanStand v.draftPath place) :
    ¬place <+: fs.startOf v.path ++ Path.namesIn v.path.parts := by
  obtain ⟨name, hname⟩ := exists_fileName? hdraft
  obtain ⟨new, hne, hdot, hother⟩ : ∃ new, new ≠ "" ∧ new ≠ "." ∧
      v.draftPath = ⟨v.path.isAbsolute, v.path.trimmed.dropLast ++ [new]⟩ :=
    Path.exists_withExtension hname (by decide)
  have hcounts : ¬(new = "" ∨ new = ".") := not_or.2 ⟨hne, hdot⟩
  obtain ⟨directory, last, htarget, -, rfl⟩ := hplace.entry
  -- the draft is not the directory above, so it is a new name in the same directory
  have hnames : Path.namesIn v.draftPath.parts = Path.namesIn v.path.trimmed.dropLast ++ [new] := by
    rw [hother, Path.namesIn_append, Path.namesIn_cons_of_name hcounts]
    rfl
  have hupNew : new ≠ ".." := by
    obtain ⟨hlast, front, hfront, -⟩ := Files.exists_of_target htarget
    obtain ⟨-, heq⟩ := List.append_inj' (hnames.symm.trans hfront) rfl
    rwa [List.cons.inj heq |>.1]
  have hnew : new ≠ name := by
    rintro rfl
    refine hdraft ?_
    rw [hname, hother, Path.fileName?, Path.trimmed_append hne hdot, List.getLast?_concat,
      Option.filter_some, if_pos (by simp [hdot, hupNew])]
  have hdown : ".." ∉ v.draftPath.parts := by
    rw [hother]
    intro hmem
    rcases List.mem_append.1 hmem with hfront | hlast
    · exact hup (Path.mem_of_mem_trimmed (List.dropLast_subset _ hfront))
    · exact hupNew (List.mem_singleton.1 hlast).symm
  have hstart : fs.startOf v.draftPath = fs.startOf v.path := by
    rw [Files.startOf, Files.startOf, hother]
  rw [Files.place_of_target hdown htarget, hstart, hnames, Path.namesIn_of_fileName? hname]
  intro hprefix
  have heq := hprefix.eq_of_length (by simp)
  rw [List.append_cancel_left_eq, List.append_cancel_left_eq] at heq
  exact hnew (List.cons.inj heq).1

/-- **A path that only leads down is shielded** in every tree of files, if its names are short
enough to be looked up and the draft has another one. -/
theorem shielded_of_downward (htree : fs.IsTree) (hup : ".." ∉ v.path.parts)
    (hshort : ∀ part ∈ v.path.parts, part.utf8ByteSize ≤ Files.maxName)
    (hdraft : v.draftPath.fileName? ≠ v.path.fileName?) : v.Shielded fs where
  directories gs hduring := by
    obtain ⟨name, hname⟩ := exists_fileName? hdraft
    obtain ⟨parent, hparent⟩ := Path.exists_parent? hname
    rw [directoryPlan, hparent] at hduring
    have hgrows := Files.grows_of_whileMaking (Path.not_up_of_parent hparent hup)
      (FileStep.whileMaking_of_during hduring)
    refine hgrows.read htree hup hshort fun hprefix => ?_
    have hlength := hprefix.length_le
    rw [Files.startOf_parent hparent, Path.namesIn_of_fileName? hname,
      Path.namesIn_parent hparent] at hlength
    simp only [List.length_append, List.length_singleton] at hlength
    omega
  draft gs place _ hplace bytes mode :=
    Files.read_put_beside hup (draft_beside hup hdraft hplace) (.file bytes mode)

/-! ## What later loads find -/

theorem openEnvelope_of_honest {cache cache' : KeyCache} (h : v.Honest cache)
    (h' : v.Honest cache') (e : Envelope) :
    (v.openEnvelope cache e).1 = (v.openEnvelope cache' e).1 := by
  unfold openEnvelope
  cases hparts : e.parts with
  | error error => rfl
  | ok parts =>
    obtain ⟨-, -, ⟨-, hsalt⟩, -⟩ := Envelope.parts_eq_ok_iff.1 hparts
    have hkey := (keyFor_of_honest h hsalt parts.costs).1
    have hkey' := (keyFor_of_honest h' hsalt parts.costs).1
    simp only
    rcases hfor : v.keyFor cache parts.salt parts.costs with ⟨result, kept⟩
    rcases hfor' : v.keyFor cache' parts.salt parts.costs with ⟨result', kept'⟩
    rw [hfor] at hkey
    rw [hfor'] at hkey'
    simp only at hkey hkey'
    rw [hkey, hkey']
    cases v.deriveKey parts.salt parts.costs <;> rfl

/-- A load depends on what its path shows, and on nothing else. -/
theorem load_congr (hread : gs.read v.path = fs.read v.path) {cache cache' : KeyCache}
    (h : v.Honest cache) (h' : v.Honest cache') (entropy entropy' : Entropy) :
    (v.load ⟨gs, cache, entropy⟩).1 = (v.load ⟨fs, cache', entropy'⟩).1 := by
  have henvelope : v.readEnvelope gs = v.readEnvelope fs := by
    simp only [readEnvelope, Files.readText, hread]
  unfold load
  simp only [henvelope]
  cases v.readEnvelope fs with
  | error e => rfl
  | ok found =>
    cases found with
    | none => rfl
    | some envelope => exact congrArg (Except.map some) (openEnvelope_of_honest h h' envelope)

/-- A save that fails was cut short. -/
theorem cutShort_of_error {e : StoreError} (h : (v.save tokens s).1 = .error e) :
    v.CutShort tokens s (v.save tokens s).2.files := by
  rcases save_cases v tokens s with ⟨-, -, hfiles⟩ | ⟨content, hcontent, hresult, hfiles⟩
  · exact .inl hfiles
  · refine .inr ⟨content, hcontent, ?_⟩
    rw [hfiles, savePlan_eq, ← List.append_assoc, FileStep.runAll_append]
    rw [h, savePlan_eq, ← List.append_assoc, FileStep.runAll_append] at hresult
    have hmoment := FileStep.runAll_during (v.directoryPlan ++ v.writePlan content) s.files
    rcases hrun : FileStep.runAll (v.directoryPlan ++ v.writePlan content) s.files with ⟨_ | _, hs⟩
    · rw [hrun] at hmoment
      exact hmoment
    · rw [hrun] at hmoment hresult
      simp only [FileStep.runAll_singleton, FileStep.run] at hresult ⊢
      cases hrename : hs.rename v.draftPath v.path with
      | error e => exact hmoment
      | ok gs =>
        rw [hrename] at hresult
        cases hresult

/-- What a save leaves was there at some moment of it. -/
theorem save_meanwhile (v : Vault) (tokens : TokenSet) (s : VaultState) :
    v.Meanwhile tokens s (v.save tokens s).2.files := by
  rcases save_cases v tokens s with ⟨-, -, hfiles⟩ | ⟨content, hcontent, -, hfiles⟩
  · exact .inl hfiles
  · refine .inr ⟨content, hcontent, ?_⟩
    rw [hfiles]
    exact FileStep.runAll_during _ _

theorem Shielded.read_of_cutShort (h : v.Shielded s.files) (hcut : v.CutShort tokens s gs) :
    gs.read v.path = s.files.read v.path := by
  rcases hcut with rfl | ⟨content, -, hduring⟩
  · rfl
  · exact h.read_of_during hduring

/-- Every vault object for a path loads from these files what it loads from those, whatever it has
loaded or saved before. -/
def LoadsAgree (p : Path) (fs gs : Files) : Prop :=
  ∀ (w : Vault) (cache cache' : KeyCache) (entropy entropy' : Entropy), w.path = p →
    w.Reachable cache → w.Reachable cache' →
      (w.load ⟨gs, cache, entropy⟩).1 = (w.load ⟨fs, cache', entropy'⟩).1

theorem Shielded.loadsAgree (h : v.Shielded s.files) (hcut : v.CutShort tokens s gs) :
    LoadsAgree v.path s.files gs := by
  intro w cache cache' entropy entropy' hpath hcache hcache'
  refine load_congr ?_ hcache.honest hcache'.honest entropy entropy'
  rw [hpath]
  exact h.read_of_cutShort hcut

/-- **Saves are all or nothing exactly at shielded paths.** There, what a save leaves that fails or
is stopped before the last step is loaded like what was there before it. Shielded are, in every tree
of files, the paths that only lead down and have a draft with another name. -/
theorem saves_are_atomic (v : Vault) (files : Files) (hcosts : v.costs.check = .ok ()) :
    ((∀ tokens cache entropy gs, v.Meanwhile tokens ⟨files, cache, entropy⟩ gs →
        gs.read v.path = files.read v.path ∨
          ∃ content, v.newContent tokens ⟨files, cache, entropy⟩ = .ok content ∧
            gs.read v.path = .ok content) ↔
      v.Shielded files) ∧
    (v.Shielded files → ∀ tokens cache entropy,
      (∀ gs, v.CutShort tokens ⟨files, cache, entropy⟩ gs → LoadsAgree v.path files gs) ∧
      ∀ e, (v.save tokens ⟨files, cache, entropy⟩).1 = .error e →
        LoadsAgree v.path files (v.save tokens ⟨files, cache, entropy⟩).2.files) ∧
    (files.IsTree → ".." ∉ v.path.parts →
      (∀ part ∈ v.path.parts, part.utf8ByteSize ≤ Files.maxName) →
        v.draftPath.fileName? ≠ v.path.fileName? → v.Shielded files) := by
  refine ⟨⟨fun h => ?_, fun h tokens cache entropy gs hmoment => ?_⟩, ?_, shielded_of_downward⟩
  · refine shielded_of_atomic hcosts fun tokens cache entropy content gs hcontent hduring => ?_
    refine (h tokens cache entropy gs (.inr ⟨content, hcontent, hduring⟩)).imp_right ?_
    rintro ⟨content', hcontent', hread⟩
    rw [hread, Except.ok.inj (hcontent'.symm.trans hcontent)]
  · rcases hmoment with rfl | ⟨content, hcontent, hduring⟩
    · exact .inl rfl
    · exact (h.atomic hduring).imp_right fun hread => ⟨content, hcontent, hread⟩
  · intro h tokens cache entropy
    refine ⟨fun gs hcut => ?_, fun e herror => ?_⟩
    · exact Shielded.loadsAgree (s := ⟨files, cache, entropy⟩) h hcut
    · exact Shielded.loadsAgree (s := ⟨files, cache, entropy⟩) h (cutShort_of_error herror)

/-- In a directory of its own, a vault's old file is there until the new one is. -/
theorem save_beside_an_old_file :
    let v : Vault := ⟨.ofText "login/session.vault", "pw", ⟨8, 1, 1⟩⟩
    let files := (Files.empty.put ["login"] .directory).put ["login", "session.vault"]
      (.file [0x7b] fileMode)
    v.costs.check = .ok () ∧ files.IsTree ∧ ".." ∉ v.path.parts ∧
      (∀ part ∈ v.path.parts, part.utf8ByteSize ≤ Files.maxName) ∧
      v.draftPath.fileName? ≠ v.path.fileName? ∧
      ∀ tokens cache entropy gs, v.Meanwhile tokens ⟨files, cache, entropy⟩ gs →
        gs.read v.path = .ok [0x7b] ∨
          ∃ content, v.newContent tokens ⟨files, cache, entropy⟩ = .ok content ∧
            gs.read v.path = .ok content := by
  intro v files
  have hpath : v.path = ⟨false, ["login", "session.vault"]⟩ := by decide
  have hdirectory := Files.isTree_empty.put [] "login" .directory rfl (by decide)
  have htree : files.IsTree :=
    hdirectory.put ["login"] "session.vault" (.file [0x7b] fileMode) (by decide) (by decide)
  have hup : ".." ∉ v.path.parts := by rw [hpath]; decide
  have hshort : ∀ part ∈ v.path.parts, part.utf8ByteSize ≤ Files.maxName := by
    rw [hpath]; decide
  have hdraft : v.draftPath.fileName? ≠ v.path.fileName? := by decide
  have hold : files.read v.path = .ok [0x7b] := by rw [hpath]; rfl
  obtain ⟨hatomic, -, hshielded⟩ := saves_are_atomic v files rfl
  refine ⟨rfl, htree, hup, hshort, hdraft, ?_⟩
  rw [← hold]
  exact hatomic.2 (hshielded htree hup hshort hdraft)

/-- **A save whose draft is the vault's own file** empties that first. -/
theorem exists_emptied {place : Place} (hcosts : v.costs.check = .ok ())
    (hdraft : v.draftPath = v.path)
    (hdirectories : FileStep.runAll v.directoryPlan fs = (.ok (), gs))
    (hplace : gs.CanStand v.path place) (tokens : TokenSet) :
    ∃ hs content, v.Meanwhile tokens ⟨fs, none, ⟨fun _ => 0, 0⟩⟩ hs ∧
      v.newContent tokens ⟨fs, none, ⟨fun _ => 0, 0⟩⟩ = .ok content ∧
        hs.read v.path = .ok [] ∧ content ≠ [] := by
  obtain ⟨parts, -, hcontent⟩ := newContent_of_new hcosts tokens fs 0
  obtain ⟨mode, hwriting⟩ := during_writePlan_of_canStand (hdraft ▸ hplace)
    (Text.bytes (Envelope.ofParts parts).text)
  have hduring := during_savePlan hdirectories (hwriting [] List.nil_prefix)
  have hempty := (hplace.put hplace.not_directory [] mode).read_of_file
    (Files.find?_put_self _ _ hplace.ne_nil)
  have hnonempty : Text.bytes (Envelope.ofParts parts).text ≠ [] := fun hnil =>
    absurd (Envelope.two_le_length_text parts) (by rw [hnil]; decide)
  exact ⟨_, _, .inr ⟨_, hcontent, hduring⟩, hcontent, hempty, hnonempty⟩

/-- A name that ends in `tmp` is its own draft's name. A save that is stopped may leave an empty
file there. Where a slash follows the name, a save fails and leaves a file in the way of loads. -/
theorem draft_takes_the_vaults_place :
    let v : Vault := ⟨.ofText "session.tmp", "pw", ⟨8, 1, 1⟩⟩
    let w : Vault := ⟨.ofText "session.tmp/", "pw", ⟨8, 1, 1⟩⟩
    let old := Files.empty.put ["session.tmp"] (.file [0x7b] fileMode)
    let start : VaultState := ⟨Files.empty, none, ⟨fun _ => 0, 0⟩⟩
    v.costs.check = .ok () ∧ old.read v.path = .ok [0x7b] ∧
      (∃ gs content, v.Meanwhile sampleTokens { start with files := old } gs ∧
        v.newContent sampleTokens { start with files := old } = .ok content ∧
          gs.read v.path = .ok [] ∧ content ≠ []) ∧
      (w.load start).1 = .ok none ∧ (w.save sampleTokens start).1 = .error (.io .notDirectory) ∧
        (w.load (w.save sampleTokens start).2).1 = .error (.io .notDirectory) := by
  intro v w old start
  have hmade : ∀ files, FileStep.run (.makeDirectories ⟨false, []⟩) files = (.ok (), files) :=
    fun files => Files.Made.makeDirectories (.inl (by decide))
  -- without the slash: the old file is emptied before anything is written
  have hold : old.read v.path = .ok [0x7b] := by
    rw [show v.path = ⟨false, ["session.tmp"]⟩ by decide]
    rfl
  have hplace : old.CanStand v.path ["session.tmp"] := by
    rw [show v.path = ⟨false, ["session.tmp"]⟩ by decide]
    exact ⟨[], "session.tmp", rfl, by decide, rfl, by decide⟩
  have hdirectories : FileStep.runAll v.directoryPlan old = (.ok (), old) := by
    rw [directoryPlan, show v.path.parent? = some ⟨false, []⟩ by decide]
    exact FileStep.runAll_of_run (hmade old)
  refine ⟨rfl, hold, exists_emptied rfl (by decide) hdirectories hplace sampleTokens, ?_⟩
  -- with it: the draft stands where the path asks for a directory
  have hpath : w.path = ⟨false, ["session.tmp", ""]⟩ := by decide
  have hdraft : w.draftPath = ⟨false, ["session.tmp"]⟩ := by decide
  have hparent : w.path.parent? = some ⟨false, []⟩ := by decide
  have hplan : ∀ content, FileStep.runAll (w.savePlan content) Files.empty =
      (.error .notDirectory, Files.empty.put ["session.tmp"] (.file content fileMode)) := by
    intro content
    rw [savePlan, hparent, Option.toList_some, List.map_singleton, List.singleton_append,
      FileStep.runAll_of_run (hmade _), hdraft, hpath]
    rfl
  obtain ⟨key, salt, nonce, cache, entropy, -, -, -, -, hsave⟩ :=
    save_eq (v := w) (s := start) (honest_none w) rfl sampleTokens
  rw [hplan] at hsave
  have hbefore : (w.load start).1 = .ok none := by
    rw [load, readEnvelope, Files.readText, hpath]
    rfl
  have hafter : ∀ content cache entropy,
      (w.load ⟨Files.empty.put ["session.tmp"] (.file content fileMode), cache, entropy⟩).1 =
        .error (.io .notDirectory) := by
    intro content cache entropy
    rw [load, readEnvelope, Files.readText, hpath]
    rfl
  refine ⟨hbefore, ?_, ?_⟩
  · rw [hsave]
    rfl
  · rw [hsave]
    exact hafter _ _ _

end Vault

end RedirectLogin
