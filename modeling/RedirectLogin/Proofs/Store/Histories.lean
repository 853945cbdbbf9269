import RedirectLogin.Proofs.Store.Vault
import RedirectLogin.Store.Keyring
import RedirectLogin.Store.Register

/-!
# What stores answer over time

A store is asked to save, to load and to clear, again and again, and should answer like a variable
that holds one token set or none (`registerAnswers`). That is shown by following the variable along:
a relation between the store's state and the variable's content which every request keeps
(`Follows`). For the vault the relation speaks about the file, the directories around it and the key
cache; the vault object may be opened anew at any time, with other costs.

The vault writes beside its file before it renames. It can do so unless the path beside leads
nowhere that a file can stand, and that is the one thing that can keep it from being a register.

Principal results: `Follows.answers` — from one request to all; `Vault.runAll_savePlan` — what a
save leaves; `stores_are_registers` — every store, with the exact condition for the vault.
-/

set_option autoImplicit false

namespace RedirectLogin

open Cipher (Argon2id.Params)

/-- What a store can be asked. -/
inductive StoreRequest where
  | save (tokens : TokenSet)
  | load
  | clear
  deriving DecidableEq

/-- What a store answers unless it fails. -/
inductive StoreAnswer where
  | done
  | found (tokens : Option TokenSet)
  deriving DecidableEq

/-- The answers of a variable that holds `content`. -/
def registerAnswers : Option TokenSet → List StoreRequest → List StoreAnswer
  | _, [] => []
  | _, .save tokens :: requests => .done :: registerAnswers (some tokens) requests
  | content, .load :: requests => .found content :: registerAnswers content requests
  | _, .clear :: requests => .done :: registerAnswers none requests

namespace TokenStore

variable {σ : Type}

/-- Answer one request. -/
def answer (store : TokenStore σ) (request : StoreRequest) (s : σ) :
    Except StoreError StoreAnswer × σ :=
  match request with
  | .save tokens => ((store.save tokens s).1.map fun _ => .done, (store.save tokens s).2)
  | .load => ((store.load s).1.map .found, (store.load s).2)
  | .clear => ((store.clear s).1.map fun _ => .done, (store.clear s).2)

/-- Answer requests one after the other. -/
def answers (store : TokenStore σ) : List StoreRequest → σ → List (Except StoreError StoreAnswer)
  | [], _ => []
  | request :: requests, s =>
    (store.answer request s).1 :: answers store requests (store.answer request s).2

end TokenStore

/-- Every token set that is saved has a timestamp of the calendar. -/
def Dated (requests : List StoreRequest) : Prop :=
  ∀ tokens, .save tokens ∈ requests → tokens.savedAt.IsMoment

/-- From this state on, a store answers all requests like a variable that holds nothing yet. -/
def TokenStore.ActsAsRegister {σ : Type} (store : TokenStore σ) (s : σ) : Prop :=
  ∀ requests, Dated requests →
    store.answers requests s = (registerAnswers none requests).map .ok

/-! ## Following the variable -/

/-- A relation between states of a store and contents of a variable that every request keeps, and
under which the store answers as the variable does. -/
structure Follows {σ : Type} (store : TokenStore σ) (holds : σ → Option TokenSet → Prop) :
    Prop where
  save : ∀ {s content tokens}, holds s content → tokens.savedAt.IsMoment →
    ∃ t, store.save tokens s = (.ok (), t) ∧ holds t (some tokens)
  load : ∀ {s content}, holds s content → ∃ t, store.load s = (.ok content, t) ∧ holds t content
  clear : ∀ {s content}, holds s content → ∃ t, store.clear s = (.ok (), t) ∧ holds t none

namespace Follows

variable {σ : Type} {store : TokenStore σ} {holds : σ → Option TokenSet → Prop}

/-- One request of a run: the answer is the variable's, and the relation goes on. -/
theorem answer (h : Follows store holds) {s : σ} {content : Option TokenSet}
    (hs : holds s content) {request : StoreRequest} {requests : List StoreRequest}
    (hdated : Dated (request :: requests)) :
    ∃ a next t, store.answer request s = (.ok a, t) ∧ holds t next ∧
      registerAnswers content (request :: requests) = a :: registerAnswers next requests := by
  cases request with
  | save tokens =>
    obtain ⟨t, hsave, ht⟩ := h.save hs (hdated tokens List.mem_cons_self)
    exact ⟨.done, some tokens, t, by rw [TokenStore.answer, hsave]; rfl, ht, rfl⟩
  | load =>
    obtain ⟨t, hload, ht⟩ := h.load hs
    exact ⟨.found content, content, t, by rw [TokenStore.answer, hload]; rfl, ht, rfl⟩
  | clear =>
    obtain ⟨t, hclear, ht⟩ := h.clear hs
    exact ⟨.done, none, t, by rw [TokenStore.answer, hclear]; rfl, ht, rfl⟩

/-- **All requests of a run are answered as the variable would.** -/
theorem answers (h : Follows store holds) {requests : List StoreRequest} (hdated : Dated requests)
    {s : σ} {content : Option TokenSet} (hs : holds s content) :
    store.answers requests s = (registerAnswers content requests).map .ok := by
  induction requests generalizing s content with
  | nil => rfl
  | cons request requests ih =>
    obtain ⟨a, next, t, hanswer, ht, hregister⟩ := h.answer hs hdated
    have hrest := ih (fun tokens hmem => hdated tokens (List.mem_cons_of_mem _ hmem)) ht
    rw [TokenStore.answers, hanswer, hregister, hrest, List.map_cons]

end Follows

/-- The store in memory holds the variable itself. -/
theorem register_follows :
    Follows Register.store (fun r content => r.failures = [] ∧ r.content = content) where
  save {s content tokens} hs _ := by
    obtain ⟨hfailures, -⟩ := hs
    simp [Register.store, Register.save, Register.attempt, hfailures]
  load {s content} hs := by
    obtain ⟨hfailures, hcontent⟩ := hs
    simp [Register.store, Register.load, Register.attempt, hfailures, hcontent]
  clear {s content} hs := by
    obtain ⟨hfailures, -⟩ := hs
    simp [Register.store, Register.clear, Register.attempt, hfailures]

/-- The keyring's entry holds the record of the variable. -/
theorem keyring_follows :
    Follows KeyringEntry.store (fun e content => e.secret = content.map TokenSet.record ∧
      ∀ tokens, content = some tokens → tokens.savedAt.IsMoment) where
  save {s content tokens} _ hmoment := by
    refine ⟨_, rfl, rfl, ?_⟩
    rintro _ ⟨⟩
    exact hmoment
  load {s content} hs := by
    obtain ⟨hsecret, hmoment⟩ := hs
    refine ⟨s, ?_, hsecret, hmoment⟩
    cases content with
    | none =>
      simp [KeyringEntry.store, Keyring.store, Keyring.load, KeyringEntry.keyring, hsecret]
    | some tokens =>
      simp [KeyringEntry.store, Keyring.store, Keyring.load, KeyringEntry.keyring, hsecret,
        TokenSet.ofRecord_record (hmoment tokens rfl)]
  clear {s content} hs := by
    obtain ⟨hsecret, -⟩ := hs
    cases content with
    | none =>
      simp [KeyringEntry.store, Keyring.store, Keyring.clear, KeyringEntry.keyring, hsecret]
    | some tokens =>
      simp [KeyringEntry.store, Keyring.store, Keyring.clear, KeyringEntry.keyring, hsecret]

/-! ## The vault -/

namespace Files

/-- A file can be written at a path, with the directories above it. -/
def CanHold (fs : Files) (p : Path) : Prop :=
  (fs.write p Vault.fileMode []).1 = .ok ()

/-- A path can hold a file when the directories above it can be made and it leads to a place for a
file then. -/
theorem canHold_iff {fs : Files} {p parent : Path} (hparent : p.parent? = some parent) :
    fs.CanHold p ↔
      ∃ gs place, makeDirectories parent fs = (.ok (), gs) ∧ gs.CanStand p place := by
  have hplan : FileStep.writing p Vault.fileMode [] =
      [.makeDirectories parent, .truncate p Vault.fileMode, .append p []] := by
    rw [FileStep.writing, hparent]
    rfl
  rw [CanHold, write, hplan]
  constructor
  · intro hdone
    obtain ⟨gs, hmake, hrest⟩ := FileStep.run_of_runAll (Prod.ext hdone rfl)
    obtain ⟨hs, htruncate, -⟩ := FileStep.run_of_runAll hrest
    obtain ⟨place, hplace⟩ := FileStep.canStand_of_run htruncate
    exact ⟨gs, place, hmake, hplace⟩
  · rintro ⟨gs, place, hmake, hplace⟩
    obtain ⟨mode, htruncate⟩ := hplace.truncate Vault.fileMode
    have happend := (hplace.put hplace.not_directory [] mode).append
      (find?_put_self _ _ hplace.ne_nil) []
    have hrun : FileStep.run (.makeDirectories parent) fs = (.ok (), gs) := hmake
    rw [FileStep.runAll_of_run hrun, FileStep.runAll_of_run (by rw [FileStep.run, htruncate]; rfl),
      FileStep.runAll_of_run (by rw [FileStep.run, happend]; rfl)]
    rfl

end Files

namespace Vault

variable {v : Vault} {s : VaultState} {fs gs : Files} {tokens : TokenSet}

/-- The directories above the vault are there, and files can stand at its path and beside it. -/
def Settled (v : Vault) (fs : Files) : Prop :=
  ∃ parent home spot, v.path.parent? = some parent ∧ fs.Made parent ∧
    fs.CanStand v.path home ∧ fs.CanStand v.draftPath spot

/-- That is so, or will be once the directories are made. -/
def Prepared (v : Vault) (fs : Files) : Prop :=
  ∃ parent gs, v.path.parent? = some parent ∧ Files.makeDirectories parent fs = (.ok (), gs) ∧
    v.Settled gs

theorem Settled.prepared (h : v.Settled fs) : v.Prepared fs := by
  have hsettled := h
  obtain ⟨parent, home, spot, hparent, hmade, -, -⟩ := h
  exact ⟨parent, fs, hparent, hmade.makeDirectories, hsettled⟩

/-- **A save's plan is done where it is prepared**, and leaves the content at the vault's path. -/
theorem runAll_savePlan (h : v.Prepared fs) (content : List UInt8) :
    ∃ gs, FileStep.runAll (v.savePlan content) fs = (.ok (), gs) ∧ v.Settled gs ∧
      gs.read v.path = .ok content := by
  obtain ⟨parent, fs₀, hparent, hdirectories, parent', home, spot, hparent', hmade, hhome, hspot⟩ :=
    h
  obtain rfl := Option.some.inj (hparent.symm.trans hparent')
  obtain ⟨mode, htruncate⟩ := hspot.truncate fileMode
  -- the draft is empty, then whole, then at the vault's path
  have hspot₁ := hspot.put hspot.not_directory [] mode
  have hempty : (fs₀.put spot (.file [] mode)).find? spot = some (.file [] mode) :=
    Files.find?_put_self _ _ hspot.ne_nil
  have happend := hspot₁.append hempty content
  have hspot₂ := hspot₁.put hspot₁.not_directory content mode
  have hhome₂ := (hhome.put hspot.not_directory [] mode).put hspot₁.not_directory content mode
  have hwhole : ((fs₀.put spot (.file [] mode)).put spot (.file content mode)).find? spot =
      some (.file content mode) := Files.find?_put_self _ _ hspot.ne_nil
  have hrename := hspot₂.rename hhome₂ hwhole
  have hhome₃ := hhome₂.drop hspot₂.not_directory
  have hhome₄ := hhome₃.put hhome₃.not_directory content mode
  have hspot₄ := (hspot₂.drop hspot₂.not_directory).put hhome₃.not_directory content mode
  have hmade₄ := hmade.keeps ((Files.keeps_put hspot.not_directory (.file [] mode)).trans
    ((Files.keeps_put hspot₁.not_directory (.file content mode)).trans
      ((Files.keeps_drop hspot₂.not_directory).trans
        (Files.keeps_put hhome₃.not_directory (.file content mode)))))
  have hread := hhome₄.read_of_file (Files.find?_put_self _ _ hhome.ne_nil)
  refine ⟨_, ?_, ⟨parent, home, spot, hparent, hmade₄, hhome₄, hspot₄⟩, hread⟩
  have hmake : FileStep.run (.makeDirectories parent) fs = (.ok (), fs₀) := hdirectories
  rw [savePlan, hparent, Option.toList_some, List.map_singleton, List.singleton_append,
    FileStep.runAll_of_run hmake,
    FileStep.runAll_of_run (by rw [FileStep.run, htruncate]; rfl),
    FileStep.runAll_of_run (by rw [FileStep.run, happend]; rfl),
    FileStep.runAll_of_run rfl,
    FileStep.runAll_of_run (by rw [FileStep.run, List.nil_append, hrename]; rfl)]
  rfl

/-- A save runs its plan for an envelope of the tokens under the vault's key. -/
theorem save_eq (hhonest : v.Honest s.cache) (hcosts : v.costs.check = .ok ()) (tokens : TokenSet) :
    ∃ key salt nonce cache entropy, v.deriveKey salt v.costs = .ok key ∧
      salt.length = Envelope.saltLength ∧ nonce.length = Envelope.nonceLength ∧ v.Honest cache ∧
      v.save tokens s =
        let done := FileStep.runAll
          (v.savePlan (Text.bytes (v.sealTokens key salt nonce tokens))) s.files
        (done.1.mapError .io, ⟨done.2, cache, entropy⟩) := by
  rcases hchoose : v.chooseSalt s with ⟨salt, entropy⟩
  have hsalt : salt.length = Envelope.saltLength := by
    have hlength := chooseSalt_length hhonest
    rwa [hchoose] at hlength
  obtain ⟨hanswer, hkept⟩ := keyFor_of_honest hhonest hsalt v.costs
  have hkey : v.deriveKey salt v.costs = .ok _ := deriveKey_eq_ok_iff.2 ⟨hcosts, rfl⟩
  rcases hfor : v.keyFor s.cache salt v.costs with ⟨result, cache⟩
  rw [hfor] at hanswer hkept
  simp only at hanswer hkept
  subst hanswer
  refine ⟨_, salt, (entropy.draw Envelope.nonceLength).1, cache,
    (entropy.draw Envelope.nonceLength).2, hkey, hsalt, Entropy.draw_length _ _, hkept, ?_⟩
  simp only [save, hchoose, hfor, hkey]
  rcases FileStep.runAll _ s.files with ⟨_ | _, files⟩ <;> rfl

/-- What the files hold for a vault: nothing at its path, or a file that keeps the tokens. -/
def FilesHold (v : Vault) (fs : Files) : Option TokenSet → Prop
  | none => v.Prepared fs ∧ fs.read v.path = .error .notFound
  | some tokens => v.Settled fs ∧
    ∃ content, fs.read v.path = .ok content ∧ Keeps v.passphrase content tokens

/-- A vault with acceptable costs and an honest cache, and files that hold this content. -/
structure Holds (v : Vault) (s : VaultState) (content : Option TokenSet) : Prop where
  honest : v.Honest s.cache
  costs : v.costs.check = .ok ()
  files : v.FilesHold s.files content

/-- Files can stand at the vault's path and beside it, once the directories are made. -/
theorem prepared_iff (hname : v.path.fileName?.isSome) :
    v.Prepared fs ↔ fs.CanHold v.path ∧ fs.CanHold v.draftPath := by
  obtain ⟨name, hname⟩ := Option.isSome_iff_exists.1 hname
  obtain ⟨parent, hparent⟩ := Path.exists_parent? hname
  have hbeside : v.draftPath.parent? = some parent :=
    (Path.parent?_withExtension hname (by decide)).trans hparent
  rw [Files.canHold_iff hparent, Files.canHold_iff hbeside]
  constructor
  · rintro ⟨parent', gs, hparent', hmake, _, home, spot, -, -, hhome, hspot⟩
    obtain rfl := Option.some.inj (hparent.symm.trans hparent')
    exact ⟨⟨gs, home, hmake, hhome⟩, gs, spot, hmake, hspot⟩
  · rintro ⟨⟨gs, home, hmake, hhome⟩, gs', spot, hmake', hspot⟩
    obtain rfl := (Prod.mk.inj (hmake.symm.trans hmake')).2
    exact ⟨parent, gs, hparent, hmake, parent, home, spot, hparent,
      Files.made_of_makeDirectories hmake, hhome, hspot⟩

/-- A save that is done has written beside the vault's path. -/
theorem canHold_of_save (hname : v.path.fileName?.isSome) (hhonest : v.Honest s.cache)
    (hcosts : v.costs.check = .ok ()) (hsave : (v.save tokens s).1 = .ok ()) :
    s.files.CanHold v.draftPath := by
  obtain ⟨name, hname⟩ := Option.isSome_iff_exists.1 hname
  obtain ⟨parent, hparent⟩ := Path.exists_parent? hname
  have hbeside : v.draftPath.parent? = some parent :=
    (Path.parent?_withExtension hname (by decide)).trans hparent
  obtain ⟨key, salt, nonce, cache, entropy, -, -, -, -, heq⟩ := save_eq hhonest hcosts tokens
  rcases hplan : FileStep.runAll
    (v.savePlan (Text.bytes (v.sealTokens key salt nonce tokens))) s.files with ⟨_ | _, files⟩
  · rw [heq, hplan] at hsave
    cases hsave
  · rw [savePlan, hparent, Option.toList_some, List.map_singleton, List.singleton_append] at hplan
    obtain ⟨gs, hmake, hrest⟩ := FileStep.run_of_runAll hplan
    obtain ⟨hs, htruncate, -⟩ := FileStep.run_of_runAll hrest
    obtain ⟨place, hplace⟩ := FileStep.canStand_of_run htruncate
    exact (Files.canHold_iff hbeside).2 ⟨gs, place, hmake, hplace⟩

/-- Whatever the vault holds, a save can be done. -/
theorem FilesHold.prepared {content : Option TokenSet} (h : v.FilesHold fs content) :
    v.Prepared fs := by
  cases content with
  | none => exact h.1
  | some tokens => exact h.1.prepared

/-- **Every request to a vault is answered as the variable would**, and the file, the directories
and the cache stay as they must. -/
theorem follows (v : Vault) : Follows v.store v.Holds where
  save {s content tokens} hs hmoment := by
    obtain ⟨key, salt, nonce, cache, entropy, hkey, hsalt, hnonce, hhonest, hsave⟩ :=
      save_eq hs.honest hs.costs tokens
    obtain ⟨files, hplan, hsettled, hread⟩ := runAll_savePlan hs.files.prepared
      (Text.bytes (v.sealTokens key salt nonce tokens))
    rw [hplan] at hsave
    exact ⟨⟨files, cache, entropy⟩, hsave, hhonest, hs.costs, hsettled, _, hread,
      keeps_sealTokens hkey hsalt hnonce hmoment⟩
  load {s content} hs := by
    have hload : (v.load s).1 = .ok content := by
      cases content with
      | none => exact load_eq_none_iff.2 hs.files.2
      | some tokens => exact (load_eq_some_iff hs.honest).2 hs.files.2
    exact ⟨(v.load s).2, Prod.ext hload rfl, load_honest hs.honest, hs.costs,
      load_files v s ▸ hs.files⟩
  clear {s content} hs := by
    cases content with
    | none =>
      have hremove := Files.remove_of_read_notFound hs.files.2
      exact ⟨s, by simp only [store, clear, hremove], hs⟩
    | some tokens =>
      obtain ⟨⟨parent, home, spot, hparent, hmade, hhome, hspot⟩, content, hread, -⟩ := hs.files
      obtain ⟨mode, hfile⟩ := hhome.file_of_read hread
      have hremove := hhome.remove_of_file hfile
      have hhome' := hhome.drop hhome.not_directory
      have hgone := hhome'.read_of_none (Files.find?_drop_self _ hhome.ne_nil)
      have hsettled : v.Settled (s.files.drop home) :=
        ⟨parent, home, spot, hparent, hmade.keeps (Files.keeps_drop hhome.not_directory), hhome',
          hspot.drop hhome.not_directory⟩
      exact ⟨{ s with files := s.files.drop home }, by simp only [store, clear, hremove],
        hs.honest, hs.costs, hsettled.prepared, hgone⟩

/-! ### Opening the vault anew -/

/-- What can happen to a vault: a request, or a new vault object for the same file with the same
passphrase. -/
inductive Step where
  | ask (request : StoreRequest)
  | reopen (costs : Argon2id.Params)

/-- The requests among the steps. -/
def Step.asked (steps : List Step) : List StoreRequest :=
  steps.filterMap fun step =>
    match step with
    | .ask request => some request
    | .reopen _ => none

/-- The answers to the requests among the steps; a new object keeps no key. -/
def answers : List Step → Vault → VaultState → List (Except StoreError StoreAnswer)
  | [], _, _ => []
  | .ask request :: steps, v, s =>
    (v.store.answer request s).1 :: answers steps v (v.store.answer request s).2
  | .reopen costs :: steps, v, s => answers steps { v with costs := costs } { s with cache := none }

/-- From this state on, all requests are answered like those to a variable that holds nothing yet,
whenever the vault is opened anew with costs that are accepted. -/
def ActsAsRegister (v : Vault) (s : VaultState) : Prop :=
  ∀ steps, Dated (Step.asked steps) → (∀ costs, .reopen costs ∈ steps → costs.check = .ok ()) →
    answers steps v s = (registerAnswers none (Step.asked steps)).map .ok

/-- A new object holds what the old one held. -/
theorem Holds.reopen {content : Option TokenSet} (h : v.Holds s content) {costs : Argon2id.Params}
    (hcosts : costs.check = .ok ()) :
    Holds { v with costs := costs } { s with cache := none } content where
  honest := honest_none _
  costs := hcosts
  files := by cases content <;> exact h.files

/-- **A vault that holds a content answers like a variable that does**, through all requests and
all new objects. -/
theorem Holds.answers {steps : List Step} (hdated : Dated (Step.asked steps))
    (haccepted : ∀ costs, .reopen costs ∈ steps → costs.check = .ok ()) {content : Option TokenSet}
    (h : v.Holds s content) :
    Vault.answers steps v s = (registerAnswers content (Step.asked steps)).map .ok := by
  induction steps generalizing v s content with
  | nil => rfl
  | cons step steps ih =>
    have haccepted' := fun costs hmem => haccepted costs (List.mem_cons_of_mem _ hmem)
    cases step with
    | ask request =>
      obtain ⟨a, next, t, hanswer, ht, hregister⟩ := (follows v).answer h hdated
      have hrest := ih (fun tokens hmem => hdated tokens (List.mem_cons_of_mem _ hmem)) haccepted' ht
      rw [Vault.answers, hanswer, hrest]
      exact (congrArg (List.map Except.ok) hregister).symm
    | reopen costs =>
      exact ih hdated haccepted' (h.reopen (haccepted costs List.mem_cons_self))

end Vault

/-- An access token saved a few nanoseconds into 1970. -/
def sampleTokens : TokenSet :=
  ⟨⟨"access", by decide⟩, none, ⟨0, 5⟩⟩

theorem sampleTokens_isMoment : sampleTokens.savedAt.IsMoment :=
  ⟨by decide, .inl (by decide)⟩

/-- **Every token store is a register.** The store in memory and an entry of the keyring answer
every series of requests like a variable that holds one token set or none; a new vault, through all
new objects for its file and whatever random bytes it draws, does so exactly if a file can be
written at the path beside its own that a save writes first. -/
theorem stores_are_registers (account : String) (v : Vault) (files : Files) (entropy : Entropy) :
    Register.store.ActsAsRegister (Register.holding none) ∧
      KeyringEntry.store.ActsAsRegister (KeyringEntry.new account) ∧
      (v.path.fileName?.isSome → v.costs.check = .ok () → files.CanHold v.path →
        files.read v.path = .error .notFound →
        (v.ActsAsRegister ⟨files, none, entropy⟩ ↔ files.CanHold v.draftPath)) := by
  refine ⟨fun requests hdated => register_follows.answers hdated ⟨rfl, rfl⟩,
    fun requests hdated => keyring_follows.answers hdated ⟨rfl, fun _ h => nomatch h⟩, ?_⟩
  intro hname hcosts hhome hempty
  constructor
  · intro hregister
    have hdated : Dated [.save sampleTokens] := by
      intro tokens hmem
      obtain rfl := StoreRequest.save.inj (List.mem_singleton.1 hmem)
      exact sampleTokens_isMoment
    have hanswers := hregister [.ask (.save sampleTokens)] hdated
      (fun costs hmem => nomatch List.mem_singleton.1 hmem)
    have hsaved : ((v.save sampleTokens ⟨files, none, entropy⟩).1.map fun _ => StoreAnswer.done) =
        .ok .done := (List.cons.inj hanswers).1
    have hsave : (v.save sampleTokens ⟨files, none, entropy⟩).1 = .ok () := by
      cases hsave : (v.save sampleTokens ⟨files, none, entropy⟩).1 with
      | error e =>
        rw [hsave] at hsaved
        cases hsaved
      | ok u => rfl
    exact Vault.canHold_of_save (s := ⟨files, none, entropy⟩) hname (Vault.honest_none v) hcosts
      hsave
  · intro hbeside steps hdated haccepted
    exact Vault.Holds.answers hdated haccepted
      ⟨Vault.honest_none v, hcosts, (Vault.prepared_iff hname).2 ⟨hhome, hbeside⟩, hempty⟩

/-- Tokens saved in a new vault are found by another object for the same file that has other costs,
and are gone after a clear. -/
theorem reopened_vault_finds_tokens :
    let v : Vault := ⟨.ofText "session.vault", "pass", ⟨8, 1, 1⟩⟩
    v.path.fileName?.isSome = true ∧ v.costs.check = .ok () ∧ Files.empty.CanHold v.path ∧
      Files.empty.read v.path = .error .notFound ∧
      Vault.answers [.ask (.save sampleTokens), .reopen ⟨16, 2, 1⟩, .ask .load, .ask .clear,
          .ask .load] v ⟨Files.empty, none, ⟨fun _ => 0, 0⟩⟩ =
        [.ok .done, .ok (.found (some sampleTokens)), .ok .done, .ok (.found none)] := by
  intro v
  have hpath : v.path = ⟨false, ["session.vault"]⟩ := by decide
  have hdraft : v.draftPath = ⟨false, ["session.tmp"]⟩ := by decide
  have hparent : v.path.parent? = some ⟨false, []⟩ := by decide
  have hbeside : v.draftPath.parent? = some ⟨false, []⟩ := by decide
  have hmade : Files.makeDirectories ⟨false, []⟩ Files.empty = (.ok (), Files.empty) :=
    Files.Made.makeDirectories (.inl (by decide))
  have hname : v.path.fileName?.isSome = true := by decide
  have hhome : Files.empty.CanHold v.path := (Files.canHold_iff hparent).2
    ⟨_, _, hmade, [], "session.vault", by rw [hpath]; rfl, by decide, rfl, by decide⟩
  have hspot : Files.empty.CanHold v.draftPath := (Files.canHold_iff hbeside).2
    ⟨_, _, hmade, [], "session.tmp", by rw [hdraft]; rfl, by decide, rfl, by decide⟩
  have hempty : Files.empty.read v.path = .error .notFound := by rw [hpath]; rfl
  have hregister := ((stores_are_registers "" v Files.empty ⟨fun _ => 0, 0⟩).2.2 hname rfl hhome
    hempty).2 hspot
  refine ⟨hname, rfl, hhome, hempty, hregister _ ?_ ?_⟩
  · intro tokens hmem
    simp only [Vault.Step.asked, List.filterMap_cons, List.filterMap_nil, List.mem_cons,
      StoreRequest.save.injEq, reduceCtorEq, List.not_mem_nil, or_false] at hmem
    rw [hmem]
    exact sampleTokens_isMoment
  · intro costs hmem
    simp only [List.mem_cons, Vault.Step.reopen.injEq, reduceCtorEq, List.not_mem_nil, or_false,
      false_or] at hmem
    rw [hmem]
    rfl

/-- A vault at `..x` has a file name, and a file can stand there, but the path beside it is the
directory above: no save is ever done. -/
theorem draft_leads_to_directory :
    let v : Vault := ⟨.ofText "..x", "pass", ⟨8, 1, 1⟩⟩
    v.path.fileName? = some "..x" ∧ v.costs.check = .ok () ∧ Files.empty.CanHold v.path ∧
      Files.empty.read v.path = .error .notFound ∧ v.draftPath = .ofText ".." ∧
      Vault.answers [.ask (.save sampleTokens), .ask .load] v ⟨Files.empty, none, ⟨fun _ => 0, 0⟩⟩ =
        [.error (.io .isDirectory), .ok (.found none)] ∧
      registerAnswers none [.save sampleTokens, .load] = [.done, .found (some sampleTokens)] := by
  intro v
  have hpath : v.path = ⟨false, ["..x"]⟩ := by decide
  have hdraft : v.draftPath = ⟨false, [".."]⟩ := by decide
  have hparent : v.path.parent? = some ⟨false, []⟩ := by decide
  have hmade : FileStep.run (.makeDirectories ⟨false, []⟩) Files.empty = (.ok (), Files.empty) :=
    Files.Made.makeDirectories (.inl (by decide))
  have hhome : Files.empty.CanHold v.path := (Files.canHold_iff hparent).2
    ⟨_, _, hmade, [], "..x", by rw [hpath]; rfl, by decide, rfl, by decide⟩
  have hempty : Files.empty.read v.path = .error .notFound := by rw [hpath]; rfl
  have hplan : ∀ content, FileStep.runAll (v.savePlan content) Files.empty =
      (.error .isDirectory, Files.empty) := by
    intro content
    rw [Vault.savePlan, hparent, Option.toList_some, List.map_singleton, List.singleton_append,
      FileStep.runAll_of_run hmade, hdraft]
    rfl
  obtain ⟨key, salt, nonce, cache, entropy, -, -, -, -, hsave⟩ :=
    Vault.save_eq (s := ⟨Files.empty, none, ⟨fun _ => 0, 0⟩⟩) (Vault.honest_none v) rfl sampleTokens
  rw [hplan] at hsave
  have hload : v.load ⟨Files.empty, cache, entropy⟩ = (.ok none, ⟨Files.empty, cache, entropy⟩) := by
    rw [Vault.load, Vault.readEnvelope, Files.readText, hempty]
    rfl
  refine ⟨by decide, rfl, hhome, hempty, by rw [hdraft]; decide, ?_, rfl⟩
  simp only [Vault.answers, TokenStore.answer, Vault.store, hsave, hload, Except.map]
  rfl

end RedirectLogin
