import RedirectLogin.Proofs.Config
import RedirectLogin.Proofs.Store.Permissions

/-!
# Files beside the vault

A save makes directories, writes a draft and renames it. None of this takes a directory away, so
every path leads where it led, and a file that stands neither at the vault's place nor at the
draft's is still there (`Leaves`), whether the save is done, fails or is stopped.

Principal results: `leaves_of_during` — at every moment of a save; `Leaves.read` — what is left is
read as before; `Config.load_of_leaves` — so a configuration beside the vault is loaded as before.
-/

set_option autoImplicit false

namespace RedirectLogin

namespace Files

variable {fs gs hs : Files} {p : Path} {place : Place}

/-- Paths lead where they led, and at this place stands what stood there. -/
structure Leaves (place : Place) (fs gs : Files) : Prop where
  keeps : Keeps fs gs
  same : gs.find? place = fs.find? place

theorem Leaves.refl (place : Place) (fs : Files) : Leaves place fs fs :=
  ⟨⟨rfl, fun _ => id⟩, rfl⟩

theorem Leaves.trans (h : Leaves place fs gs) (h' : Leaves place gs hs) : Leaves place fs hs :=
  ⟨h.keeps.trans h'.keeps, h'.same.trans h.same⟩

/-- Files are put and dropped elsewhere. -/
theorem leaves_put {q : Place} (hne : place ≠ q) (hq : fs.find? q ≠ some .directory) (e : Entry) :
    Leaves place fs (fs.put q e) :=
  ⟨keeps_put hq e, find?_put_of_ne fs e hne⟩

theorem leaves_drop {q : Place} (hne : place ≠ q) (hq : fs.find? q ≠ some .directory) :
    Leaves place fs (fs.drop q) :=
  ⟨keeps_drop hq, find?_drop_of_ne fs hne⟩

/-- Directories are made only where nothing stands. -/
theorem Grows.leaves {top : Place} (h : Grows top fs gs) (hfound : fs.find? place ≠ none) :
    Leaves place fs gs where
  keeps := ⟨h.here, fun q hq => ((h.only q).resolve_right fun hmade => by
    rw [hmade.1] at hq
    cases hq).trans hq⟩
  same := (h.only place).resolve_right fun hmade => hfound hmade.1

/-- What is left is read as before. -/
theorem Leaves.read (h : Leaves place fs gs) (hp : fs.CanStand p place) :
    gs.read p = fs.read p := by
  have hp' := h.keeps.canStand hp (h.same ▸ hp.not_directory)
  match hfound : fs.find? place with
  | none => rw [hp'.read_of_none (h.same.trans hfound), hp.read_of_none hfound]
  | some .directory => exact absurd hfound hp.not_directory
  | some (.file bytes mode) =>
    rw [hp'.read_of_file (h.same.trans hfound), hp.read_of_file hfound]

/-- What can be read stands somewhere. -/
theorem canStand_of_read {bytes : List UInt8} (h : fs.read p = .ok bytes) :
    ∃ place, fs.CanStand p place ∧ fs.find? place ≠ none := by
  obtain ⟨entry, hlookup, hentry⟩ := bind_eq_ok_iff.1 h
  obtain ⟨⟨directory, last⟩, htarget, hdone⟩ := bind_eq_ok_iff.1 hlookup
  cases last with
  | onTheWay place =>
    obtain rfl := Except.ok.inj hdone
    cases hentry
  | name name slash =>
    obtain ⟨found, hin, hfound⟩ := bind_eq_ok_iff.1 hdone
    obtain ⟨hshort, hfind⟩ := entryIn?_eq_ok_iff.1 hin
    match found, slash with
    | none, _ => cases hfound
    | some .directory, _ =>
      obtain rfl := Except.ok.inj hfound
      cases hentry
    | some (.file _ _), true => cases hfound
    | some (.file bytes mode), false =>
      exact ⟨_, ⟨directory, name, htarget, hshort, rfl, by rw [hfind]; simp⟩, by rw [hfind]; simp⟩

end Files

namespace Vault

variable {v : Vault} {s : VaultState} {fs gs : Files} {tokens : TokenSet} {content : List UInt8}
  {place : Place}

/-- A place where neither the vault's file nor its draft comes to stand. -/
structure Apart (v : Vault) (fs : Files) (place : Place) : Prop where
  up : ".." ∉ v.path.parts
  draftUp : ".." ∉ v.draftPath.parts
  file : place ≠ fs.startOf v.path ++ Path.namesIn v.path.parts
  draft : place ≠ fs.startOf v.draftPath ++ Path.namesIn v.draftPath.parts

namespace Apart

variable (h : v.Apart fs place)

include h

theorem keeps (hkeeps : Files.Keeps fs gs) : v.Apart gs place := by
  have hstart : ∀ p, gs.startOf p = fs.startOf p := by
    intro p
    rw [Files.startOf, Files.startOf, hkeeps.here]
  exact ⟨h.up, h.draftUp, by rw [hstart]; exact h.file, by rw [hstart]; exact h.draft⟩

theorem ne_home {home : Place} (hhome : fs.CanStand v.path home) : place ≠ home := by
  obtain ⟨directory, name, htarget, -, rfl⟩ := hhome.entry
  rw [Files.place_of_target h.up htarget]
  exact h.file

theorem ne_spot {spot : Place} (hspot : fs.CanStand v.draftPath spot) : place ≠ spot := by
  rw [place_of_draft h.draftUp hspot]
  exact h.draft

/-- **At every moment of a save, a file beside the vault is still there.** -/
theorem leaves_of_during (hfound : fs.find? place ≠ none)
    (hduring : FileStep.During (v.savePlan content) fs gs) : Files.Leaves place fs gs := by
  refine throughout_save (fun hs hdirectories => ?_) (fun hs spot written hleft hspot => ?_)
    (fun hs spot home bytes mode hleft hspot _ hhome => ?_) hduring
  · obtain ⟨top, hgrows⟩ := grows_of_directoryPlan h.draftUp hdirectories
    exact hgrows.leaves hfound
  · have hne := (h.keeps hleft.keeps).ne_spot hspot
    exact hleft.trans (Files.leaves_put hne hspot.not_directory _)
  · have hapart := h.keeps hleft.keeps
    have hfree := Files.find?_drop_file hhome.not_directory spot
    exact (hleft.trans (Files.leaves_drop (hapart.ne_spot hspot) hspot.not_directory)).trans
      (Files.leaves_put (hapart.ne_home hhome) hfree _)

end Apart

/-- Whether it is done or fails, a save leaves a file beside the vault. -/
theorem Apart.leaves_of_save (h : v.Apart s.files place) (hfound : s.files.find? place ≠ none)
    (tokens : TokenSet) : Files.Leaves place s.files (v.save tokens s).2.files := by
  rcases save_meanwhile v tokens s with hsame | ⟨content, -, hduring⟩
  · rw [hsame]
    exact .refl _ _
  · exact h.leaves_of_during hfound hduring

/-- So do two attempts. -/
theorem Apart.leaves_of_attemptTwice (h : v.Apart s.files place)
    (hfound : s.files.find? place ≠ none) (tokens : TokenSet) :
    Files.Leaves place s.files (attemptTwice (v.save tokens) s).2.files := by
  have hfirst := h.leaves_of_save hfound tokens
  have hsecond := (h.keeps hfirst.keeps).leaves_of_save (hfirst.same ▸ hfound) tokens
  unfold attemptTwice
  split <;> rename_i hrun <;> rw [hrun] at hfirst hsecond
  · exact hfirst
  · split <;> rename_i hagain <;> rw [hagain] at hsecond <;> exact hfirst.trans hsecond

end Vault

namespace Config

variable {fs gs : Files} {directory : Path} {c : Config}

/-- A configuration that asks for a vault stands in a file, since the default does not. -/
theorem exists_read_of_load (h : load directory fs = .ok c) (hvault : c.storage = .vault) :
    ∃ bytes, fs.read (location directory) = .ok bytes := by
  unfold load at h
  simp only at h
  split at h
  · cases htext : fs.readText (location directory) with
    | error e =>
      rw [htext] at h
      cases h
    | ok text => exact ⟨_, Vault.readText_eq_ok_iff.1 htext⟩
  · obtain rfl := Except.ok.inj h
    cases hvault

/-- A configuration that is still there is loaded as before. -/
theorem load_of_leaves {place : Place} (h : Files.Leaves place fs gs)
    (hp : fs.CanStand (location directory) place) {bytes : List UInt8}
    (hread : fs.read (location directory) = .ok bytes) :
    load directory gs = load directory fs := by
  have hsame := h.read hp
  simp only [load, if_pos (Files.isPresent_of_read hread),
    if_pos (Files.isPresent_of_read (hsame.trans hread)), Files.readText, hsame]

end Config

end RedirectLogin
