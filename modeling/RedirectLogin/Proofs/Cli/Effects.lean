import RedirectLogin.Cli.App
import RedirectLogin.Proofs.Api.Denials
import RedirectLogin.Proofs.Coordinator.Stored
import RedirectLogin.Proofs.Store.Failures
import RedirectLogin.Proofs.Store.Neighbours

/-!
# What a run does to the vault

A run of the program sets up its parts from what it finds, carries out one command and ends.
Whatever it finds, in the vault's file, in the configuration, in the environment, in what the user
types and in what servers answer, its exit code tells what became of the vault: commands that look
leave every file alone, a login puts the tokens of a redirect there or leaves the file as it was, a
logout removes the file or leaves everything as it was, and a call to the API changes nothing unless
a request with a token was denied.

Principal results: `withApp_cases` — what is set up before a command; `App.login_cases`,
`App.logout_cases`, `App.get_cases` — the commands that may write; `vault_changes_as_reported` — all
of them, from the arguments to the exit code; `login_keeps_vault` — when the surroundings of a login
ask for the same vault again.
-/

set_option autoImplicit false

namespace RedirectLogin

namespace Cli

variable {κ σ : Type}

/-! ## What is asked for -/

/-- The redirect that reaches a login: the one that is pasted, or what arrives at the port. -/
def Inputs.event? (i : Inputs) (loopback : Bool) (port : Nat) : Option CallbackEvent :=
  if loopback then (i.bound port).toOption.bind fun port => (i.arrived port).toOption
  else (App.pasted i.input).toOption.map fun uri => ⟨.deepLink, uri⟩

namespace Surroundings

/-- The passphrase: the one in the environment, or else the one that is typed. -/
def passphrase (s : Surroundings κ) (i : Inputs) : Except IoError String :=
  match passphraseIn s.environment with
  | some secret => .ok secret
  | none => i.passphrase

/-- The vault that the configuration asks for, if it says where and there is a passphrase. -/
def vault? (s : Surroundings κ) (i : Inputs) : Option Vault :=
  match s.storedConfig with
  | .error _ => none
  | .ok config =>
    match config.storage, s.passphrase i with
    | .vault, .ok secret =>
      (config.vaultLocation (s.directories.data s.environment)).map (⟨·, secret, .default⟩)
    | _, _ => none

/-- The configuration asks for the system's keyring. -/
def AsksForKeyring (s : Surroundings κ) : Prop :=
  ∃ config, s.storedConfig = .ok config ∧ config.storage = .keyring

/-- The program is set up like this, whatever it goes on with. -/
def Starts [Application] (s : Surroundings κ) (i : Inputs) (loopback : Bool) (a : App σ) : Prop :=
  ∀ next : {σ : Type} → App σ → Progress,
    (withApp s loopback next).outcome i = (next a).outcome i

/-- What the clock shows when it is read for the second time. -/
def secondReading (s : Surroundings κ) : Timestamp :=
  .ofNanos (s.clock.since ⟨0, 0⟩ + Live.tickNanos)

/-- The configuration stands in a file beside the vault. -/
def KeepsConfig (s : Surroundings κ) (v : Vault) : Prop :=
  ∀ directory, s.directories.config s.environment = some directory →
    ∀ place, s.files.CanStand (Config.location directory) place → v.Apart s.files place

/-- What a run adds to a configuration says nothing about the store. -/
theorem adapt_store (s : Surroundings κ) (loopback : Bool) (stored : Config) :
    (s.adapt loopback stored).storage = stored.storage ∧
      (s.adapt loopback stored).keyringAccount = stored.keyringAccount ∧
        (s.adapt loopback stored).vaultLocation = stored.vaultLocation := by
  cases loopback <;> exact ⟨rfl, rfl, rfl⟩

/-- A vault that is asked for is asked for by a configuration in a file. -/
theorem config_of_vault {s : Surroundings κ} {v : Vault} {i : Inputs}
    (hvault : s.vault? i = some v) :
    ∃ directory stored bytes, s.directories.config s.environment = some directory ∧
      Config.load directory s.files = .ok stored ∧
        s.files.read (Config.location directory) = .ok bytes := by
  unfold vault? storedConfig at hvault
  cases hdirectory : s.directories.config s.environment with
  | none => simp [hdirectory] at hvault
  | some directory =>
    simp only [hdirectory] at hvault
    cases hload : Config.load directory s.files with
    | error e => simp [hload] at hvault
    | ok stored =>
      have hstorage : stored.storage = .vault := by
        simp only [hload] at hvault
        cases hkind : stored.storage with
        | vault => rfl
        | keyring => simp [hkind] at hvault
      obtain ⟨bytes, hread⟩ := Config.exists_read_of_load hload hstorage
      exact ⟨directory, stored, bytes, rfl, hload, hread⟩

end Surroundings

theorem withPassphrase_keyring {s : Surroundings κ} {storage : StorageBackend} (next)
    (h : storage = .keyring) : withPassphrase s storage next = next none := by
  rw [h]
  rfl

/-- The passphrase is the one there is, and without one the run ends. -/
theorem withPassphrase_vault {s : Surroundings κ} {storage : StorageBackend} (i : Inputs) (next)
    (h : storage = .vault) :
    (withPassphrase s storage next).outcome i =
      match s.passphrase i with
      | .ok secret => (next (some secret)).outcome i
      | .error e => s.failed (.plain e.message) := by
  rw [h]
  unfold withPassphrase Surroundings.passphrase
  cases passphraseIn s.environment with
  | some secret => rfl
  | none =>
    simp only [Progress.outcome]
    cases i.passphrase <;> rfl

/-- **Everything is set up over the vault if there is one to open**, with or without the listener.
Otherwise the program goes on over the keyring, or ends. -/
theorem withApp_cases [Application] (s : Surroundings κ) (loopback : Bool) (i : Inputs) :
    (∃ stored v, s.storedConfig = .ok stored ∧ s.vault? i = some v ∧
        s.Starts i loopback (App.overVault s (s.adapt loopback stored) v)) ∨
      s.vault? i = none ∧
        ((∃ failure, ∀ next : {σ : Type} → App σ → Progress,
            (withApp s loopback next).outcome i = s.failed failure) ∨
          s.AsksForKeyring ∧ ∃ stored entry,
            s.Starts i loopback (App.overKeyring s (s.adapt loopback stored) entry)) := by
  unfold Surroundings.vault? Surroundings.Starts withApp
  cases hconfig : s.storedConfig with
  | error e =>
    exact .inr ⟨rfl, .inl ⟨_, fun _ => rfl⟩⟩
  | ok stored =>
    obtain ⟨hstorage, haccount, hlocation⟩ := s.adapt_store loopback stored
    simp only [hstorage, haccount, hlocation, Config.openStore]
    cases hkind : stored.storage with
    | keyring =>
      refine .inr ⟨rfl, ?_⟩
      simp only [withPassphrase_keyring _ rfl]
      cases s.keyring with
      | none => exact .inl ⟨_, fun _ => rfl⟩
      | some entries =>
        cases hentry : entries stored.keyringAccount with
        | error e =>
          refine .inl ⟨.ofStoreError (.keyring e.message), fun _ => ?_⟩
          simp only [hentry, Progress.outcome]
        | ok entry =>
          refine .inr ⟨⟨stored, hconfig, hkind⟩, stored, entry, fun next => ?_⟩
          simp only [hentry]
    | vault =>
      simp only [withPassphrase_vault i _ rfl]
      cases hsecret : s.passphrase i with
      | error e =>
        exact .inr ⟨rfl, .inl ⟨_, fun _ => rfl⟩⟩
      | ok secret =>
        cases hplace : stored.vaultLocation (s.directories.data s.environment) with
        | none =>
          exact .inr ⟨rfl, .inl ⟨_, fun _ => rfl⟩⟩
        | some path =>
          exact .inl ⟨stored, _, rfl, rfl, fun _ => rfl⟩

namespace App

/-! ## Logins, over any store -/

section

variable {a : App σ} {i : Inputs}

/-- Taking in a redirect succeeds exactly when it ends in a login. -/
theorem finishLogin_eq (a : App σ) (printed : String) (event : CallbackEvent) :
    (a.finishLogin printed event).files = a.files (a.client.handleCallback event a.live).2.stored ∧
      ((a.finishLogin printed event).code = 0 ↔
        (a.client.handleCallback event a.live).1 = .ok .authenticated) := by
  rcases hrun : a.client.handleCallback event a.live with ⟨result, live⟩
  have hfailure : loginFailure result = none ↔ result = .ok .authenticated := by
    rcases result with e | outcome
    · cases e <;> simp [loginFailure]
    · cases outcome <;> simp [loginFailure]
  simp only [finishLogin, hrun]
  cases hkind : loginFailure result with
  | none => exact ⟨rfl, iff_of_true rfl (hfailure.1 hkind)⟩
  | some failure =>
    refine ⟨rfl, iff_of_false (by simp [finish]) fun hdone => ?_⟩
    rw [hfailure.2 hdone] at hkind
    cases hkind

/-- A login for which nothing has been written yet. -/
structure Begun (a b : App σ) : Prop where
  client : b.client = a.client
  files : b.files = a.files
  stored : b.live.stored = a.live.stored
  clock : b.live.clock = a.live.tick.2.clock

/-- Whatever stops a login before its redirect is taken in, it ends in a failure and leaves every
file alone. -/
def Stopped (a : App σ) (o : Outcome) : Prop :=
  o.code ≠ 0 ∧ o.files = a.files a.live.stored

/-- A login stops at its start, or begins. -/
theorem startLogin_cases (a : App σ) (redirect? : Option String) (next : App σ → Url → Progress)
    (i : Inputs) :
    a.Stopped ((a.startLogin redirect? next).outcome i) ∨
      ∃ b url, a.Begun b ∧ a.startLogin redirect? next = next b url := by
  have hstored := a.client.beginLogin_stored redirect? a.live
  have hclock : (a.client.beginLogin redirect? a.live).2.clock = a.live.tick.2.clock := rfl
  unfold startLogin
  rcases hrun : a.client.beginLogin redirect? a.live with ⟨e | url, live⟩ <;>
    rw [hrun] at hstored hclock
  · exact .inl ⟨Nat.one_ne_zero, congrArg a.files hstored⟩
  · exact .inr ⟨{ a with live := live }, url, ⟨rfl, rfl, hstored, hclock⟩, rfl⟩

theorem Begun.stopped {b : App σ} (h : a.Begun b) (printed : String) (failure : Failure) :
    a.Stopped (b.finish b.live printed (some failure)) := by
  refine ⟨Nat.one_ne_zero, ?_⟩
  show b.files b.live.stored = _
  rw [h.files, h.stored]

/-- **A login takes in the redirect that reaches it, or stops before.** -/
theorem login_cases [Application] (a : App σ) (loopback : Bool) (port : Nat) (i : Inputs) :
    let o := (if loopback then a.loginByLoopback port else a.loginByPaste).outcome i
    a.Stopped o ∨ ∃ b printed event, a.Begun b ∧ i.event? loopback port = some event ∧
      o = b.finishLogin printed event := by
  cases loopback with
  | false =>
    simp only [loginByPaste, Bool.false_eq_true, if_false]
    rcases a.startLogin_cases none _ i with h | ⟨b, url, hbegun, hnext⟩
    · exact .inl h
    · rw [hnext]
      simp only [Progress.outcome]
      cases hpasted : pasted i.input with
      | error e => exact .inl (hbegun.stopped _ _)
      | ok uri =>
        simp only
        split
        · exact .inl (hbegun.stopped _ _)
        · exact .inr ⟨b, _, _, hbegun, by simp [Inputs.event?, hpasted, Except.toOption], rfl⟩
  | true =>
    simp only [loginByLoopback, if_true, Progress.outcome]
    cases hbound : i.bound port with
    | error e => exact .inl ⟨Nat.one_ne_zero, rfl⟩
    | ok bound =>
      rcases a.startLogin_cases (some (Loopback.redirectUri bound)) _ i with
        h | ⟨b, url, hbegun, hnext⟩
      · exact .inl h
      · simp only
        rw [hnext]
        simp only [Progress.outcome]
        cases harrived : i.arrived bound with
        | error e => exact .inl (hbegun.stopped _ _)
        | ok event =>
          refine .inr ⟨b, _, event, hbegun, ?_, rfl⟩
          simp [Inputs.event?, hbound, harrived, Except.toOption]

/-- Where the store's state says nothing about files, no login does anything to them. -/
theorem files_of_login [Application] {files : Files} (h : ∀ stored, a.files stored = files)
    (loopback : Bool) (port : Nat) (i : Inputs) :
    ((if loopback then a.loginByLoopback port else a.loginByPaste).outcome i).files = files := by
  rcases a.login_cases loopback port i with ⟨-, hfiles⟩ | ⟨b, printed, event, hbegun, -, heq⟩
  · rw [hfiles, h]
  · rw [heq, (b.finishLogin_eq printed event).1, hbegun.files, h]

end

/-! ## Setting up over a vault -/

/-- The parts of the program work on this vault, and have not begun. -/
structure SetUp (a : App VaultState) (s : Surroundings κ) (v : Vault) : Prop where
  store : a.client.coordinator.store = v.store
  server : a.client.server = s.server
  view : a.files = VaultState.files
  live : a.live = a.client.start ⟨s.files, none, s.entropy⟩ s.clock

theorem overVault_setUp [Application] (s : Surroundings κ) (config : Config) (v : Vault) :
    (overVault s config v).SetUp s v :=
  ⟨rfl, rfl, rfl, rfl⟩

variable {a : App VaultState} {s : Surroundings κ} {v : Vault} {i : Inputs}

namespace SetUp

variable (h : a.SetUp s v)

include h

theorem load_eq : a.client.coordinator.store.load = v.load := by
  rw [h.store]
  rfl

/-- Setting up has loaded what the vault keeps, and nothing else. -/
theorem stored_eq : a.live.stored = (attemptTwice v.load ⟨s.files, none, s.entropy⟩).2 := by
  rw [h.live, ← h.load_eq]
  exact Coordinator.start_stored _ _

theorem files : a.live.stored.files = s.files := by
  rw [h.stored_eq, (Vault.attemptTwice_load v _).1]

theorem honest : v.Honest a.live.stored.cache := by
  rw [h.stored_eq]
  exact (Vault.attemptTwice_load v _).2 (Vault.honest_none v)

/-- The session is the one of the tokens that the vault's file keeps. -/
theorem session {content : List UInt8} {tokens : TokenSet}
    (hread : s.files.read v.path = .ok content)
    (hkeeps : Vault.Keeps v.passphrase content tokens) :
    a.live.session = .authenticated tokens := by
  have hfound := Vault.attemptTwice_load_of_keeps (s := ⟨s.files, none, s.entropy⟩)
    (Vault.honest_none v) hread hkeeps
  rw [← h.load_eq] at hfound
  rw [h.live]
  exact Coordinator.start_session _ hfound

/-- Another request to load changes no file either. -/
theorem files_of_currentToken {l : Live VaultState} :
    (a.client.currentToken l).2.stored.files = l.stored.files := by
  have hload : (a.client.currentToken l).2.stored =
      (attemptTwice a.client.coordinator.store.load l.stored).2 := rfl
  rw [hload, h.load_eq, (Vault.attemptTwice_load v _).1]

/-- What the store's state says about files is what a run leaves. -/
theorem finish_files (live : Live VaultState) (printed : String) (failure : Option Failure) :
    (a.finish live printed failure).files = live.stored.files :=
  congrFun h.view _

end SetUp

/-! ## Commands that look -/

theorem files_of_status (h : a.SetUp s v) : a.status.files = s.files :=
  (h.finish_files ..).trans h.files

theorem files_of_validate (h : a.SetUp s v) : a.validate.files = s.files := by
  have hfirst : (a.client.isSessionValid a.live).2.stored.files = s.files :=
    h.files_of_currentToken.trans h.files
  have hremote : ∀ l : Live VaultState, (a.client.validateRemote l).2.stored.files =
      l.stored.files := by
    intro l
    have hagain := h.files_of_currentToken (l := l)
    unfold Client.validateRemote
    split <;> rename_i heq <;> rw [heq] at hagain <;> exact hagain
  unfold validate
  split <;> rename_i heq <;> rw [heq] at hfirst <;> refine (h.finish_files ..).trans ?_
  · exact hfirst
  · exact hfirst
  · exact (hremote _).trans hfirst

/-! ## Commands that may write -/

/-- A logout that succeeds leaves no file of the vault, and one that fails leaves everything. -/
theorem logout_cases (h : a.SetUp s v) :
    a.logout.code = 0 ∧ a.logout.files.read v.path = .error .notFound ∨
      a.logout.code ≠ 0 ∧ a.logout.files = s.files := by
  have hclear : a.client.coordinator.store.clear = v.clear := by
    rw [h.store]
    rfl
  obtain ⟨hstored, hresult⟩ := a.client.logOut_stored a.live
  rw [hclear] at hstored hresult
  unfold logout
  rcases Vault.attemptTwice_clear v a.live.stored with ⟨hdone, hread⟩ | ⟨e, hfails⟩
  · rw [hdone] at hresult
    rw [← hstored] at hread
    split <;> rename_i heq <;> rw [heq] at hresult hread
    · exact .inl ⟨rfl, by rw [h.finish_files]; exact hread⟩
    · cases hresult
  · rw [hfails] at hresult hstored
    split <;> rename_i heq <;> rw [heq] at hresult hstored
    · cases hresult
    · refine .inr ⟨Nat.one_ne_zero, (h.finish_files ..).trans ?_⟩
      exact (congrArg VaultState.files hstored).trans h.files

/-- A call to the API changes nothing, or a request with a token was denied. -/
theorem get_cases (h : a.SetUp s v) (path : String) :
    (a.get path).files = s.files ∨ s.server.Denied (a.get path).sent := by
  have hload : ∀ stored, VaultState.files stored = s.files →
      (attemptTwice a.client.coordinator.store.load stored).2.files = s.files := by
    intro stored hstored
    rw [h.load_eq, (Vault.attemptTwice_load v _).1, hstored]
  have hcases := a.client.runCall_getJson_cases hload a.api path h.files
  rw [h.server] at hcases
  unfold get
  split <;> rename_i heq <;> rw [heq] at hcases <;> rw [h.finish_files] <;> exact hcases

/-- A login that has begun over a vault: nothing has been written, and the key that is kept is the
one of its salt. -/
structure Ready (a : App VaultState) (v : Vault) : Prop where
  store : a.client.coordinator.store = v.store
  view : a.files = VaultState.files
  honest : v.Honest a.live.stored.cache

theorem SetUp.ready (h : a.SetUp s v) {b : App VaultState} (hbegun : a.Begun b) : b.Ready v where
  store := by rw [hbegun.client, h.store]
  view := by rw [hbegun.files, h.view]
  honest := by
    rw [hbegun.stored]
    exact h.honest

/-- A redirect that is taken in as a login has had its tokens saved. One that is not has had saves
fail, if any were attempted. -/
theorem Ready.finishLogin_cases (h : a.Ready v) (hmoment : a.live.clock.IsMoment) (printed : String)
    (event : CallbackEvent) :
    (a.finishLogin printed event).code ≠ 0 ∧
        v.AfterFailures a.live.stored.files (a.finishLogin printed event).files ∨
      (a.finishLogin printed event).code = 0 ∧
        ∃ access refresh content,
          a.client.coordinator.receiver.receive event = .ok (some (.token access refresh)) ∧
          (a.finishLogin printed event).files.read v.path = .ok content ∧
            Vault.Keeps v.passphrase content ⟨access, refresh, a.live.clock⟩ := by
  obtain ⟨hfiles, hcode⟩ := a.finishLogin_eq printed event
  have hsave : a.client.coordinator.store.save = v.save := by
    rw [h.store]
    rfl
  rw [hfiles, h.view]
  rcases a.client.handleCallback_stored event a.live with
    ⟨hother, hsame⟩ | ⟨access, refresh, hreceive, hstored, hanswer⟩
  · -- no tokens are taken in, so nothing is asked of the vault
    refine .inl ⟨fun h => hother (hcode.1 h), ?_⟩
    rw [hsame]
    exact .none
  · rw [hsave] at hstored hanswer
    rw [hanswer] at hcode
    rw [hstored]
    rcases hattempt : attemptTwice (v.save ⟨access, refresh, a.live.clock⟩) a.live.stored with
      ⟨e | _, t⟩ <;> rw [hattempt] at hcode
    · exact .inl ⟨fun h => (nomatch hcode.1 h), Vault.afterFailures_of_attemptTwice hattempt⟩
    · obtain ⟨content, hread, hkeeps⟩ := Vault.keeps_of_attemptTwice h.honest hmoment hattempt
      exact .inr ⟨hcode.2 rfl, access, refresh, content, hreceive, hread, hkeeps⟩

/-- Whatever comes of it, files beside the vault are left. -/
theorem Ready.finishLogin_leaves {place : Place} (h : a.Ready v)
    (hapart : v.Apart a.live.stored.files place) (hfound : a.live.stored.files.find? place ≠ none)
    (printed : String) (event : CallbackEvent) :
    Files.Leaves place a.live.stored.files (a.finishLogin printed event).files := by
  have hsave : a.client.coordinator.store.save = v.save := by
    rw [h.store]
    rfl
  rw [(a.finishLogin_eq printed event).1, h.view]
  rcases a.client.handleCallback_stored event a.live with
    ⟨-, hsame⟩ | ⟨access, refresh, -, hstored, -⟩
  · rw [hsame]
    exact .refl _ _
  · rw [hstored, hsave]
    exact hapart.leaves_of_attemptTwice hfound _

/-- A redirect with tokens that reaches a pending login in time ends it well, if they can be
saved. -/
theorem finishLogin_of_save {printed : String} {event : CallbackEvent} {access : AccessToken}
    {refresh : Option RefreshToken} {login : PendingLogin}
    (hreceive : a.client.coordinator.receiver.receive event = .ok (some (.token access refresh)))
    (hpending : a.live.session = .loginPending login)
    (hgood : login.isStale a.live.clock a.client.coordinator.loginTimeout = false)
    (hsave : (a.client.coordinator.store.save ⟨access, refresh, a.live.clock⟩ a.live.stored).1 =
      .ok ()) :
    (a.finishLogin printed event).code = 0 :=
  (a.finishLogin_eq printed event).2.2
    (a.client.coordinator.handleCallback_of_save hreceive hpending hgood hsave)

/-- Whatever comes of a login, files beside the vault are left. -/
theorem SetUp.login_leaves [Application] {place : Place} (h : a.SetUp s v)
    (hapart : v.Apart s.files place) (hfound : s.files.find? place ≠ none) (loopback : Bool)
    (port : Nat) (i : Inputs) :
    Files.Leaves place s.files
      ((if loopback then a.loginByLoopback port else a.loginByPaste).outcome i).files := by
  rcases a.login_cases loopback port i with
    ⟨-, hfiles⟩ | ⟨b, printed, event, hbegun, -, heq⟩
  · rw [hfiles, h.view, h.files]
    exact .refl _ _
  · rw [← h.files, ← hbegun.stored] at hapart hfound ⊢
    rw [heq]
    exact (h.ready hbegun).finishLogin_leaves hapart hfound printed event

end App

/-! ## All commands -/

section

variable [Application] {s : Surroundings κ} {v : Vault} {i : Inputs} {o : Outcome}

/-- The redirect that reaches a login brings these tokens, as the program reads it. -/
def Surroundings.Brings (s : Surroundings κ) (i : Inputs) (loopback : Bool) (port : Nat)
    (tokens : TokenSet) : Prop :=
  ∃ stored event, s.storedConfig = .ok stored ∧ i.event? loopback port = some event ∧
    CallbackReceiver.receive ⟨(s.adapt loopback stored).allowList⟩ event =
      .ok (some (.token tokens.access tokens.refresh)) ∧ tokens.savedAt = s.secondReading

/-- Every program that opens this vault, at the same path with the same passphrase, and finds this
content there, starts with these tokens. -/
def StartsWith (v : Vault) (content : List UInt8) (tokens : TokenSet) : Prop :=
  ∀ {κ : Type} (t : Surroundings κ) (j : Inputs) (loopback : Bool), t.vault? j = some v →
    t.files.read v.path = .ok content →
      ∃ a : App VaultState, t.Starts j loopback a ∧ a.live.session = .authenticated tokens

/-- What a command may have done to the vault when it ends, and what its exit code says about
it. -/
def Command.Reports (s : Surroundings κ) (v : Vault) (i : Inputs) (o : Outcome) : Command → Prop
  | .help | .status | .validate => o.files = s.files
  | .login loopback port =>
    (o.code ≠ 0 → v.content? o.files = v.content? s.files) ∧
      (o.code = 0 → ∃ tokens content, s.Brings i loopback port tokens ∧
        o.files.read v.path = .ok content ∧ StartsWith v content tokens)
  | .logout =>
    (o.code ≠ 0 → o.files = s.files) ∧ (o.code = 0 → o.files.read v.path = .error .notFound)
  | .get _ => o.files ≠ s.files → s.server.Denied o.sent

/-- Where there is a vault to open, it is what the program is set up over. -/
theorem Surroundings.starts_of_vault (hvault : s.vault? i = some v) (loopback : Bool) :
    ∃ stored, s.storedConfig = .ok stored ∧
      s.Starts i loopback (App.overVault s (s.adapt loopback stored) v) := by
  rcases withApp_cases s loopback i with ⟨stored, w, hstored, hsome, hstarts⟩ | ⟨hnone, -⟩
  · obtain rfl : v = w := Option.some.inj (hvault.symm.trans hsome)
    exact ⟨stored, hstored, hstarts⟩
  · rw [hnone] at hvault
    cases hvault

/-- A vault that keeps tokens is opened with them. -/
theorem startsWith_of_keeps {content : List UInt8} {tokens : TokenSet}
    (hkeeps : Vault.Keeps v.passphrase content tokens) : StartsWith v content tokens := by
  intro κ t j loopback hvault hread
  obtain ⟨stored, -, hstarts⟩ := t.starts_of_vault hvault loopback
  exact ⟨_, hstarts, (App.overVault_setUp t _ v).session hread hkeeps⟩

/-- **A login changes the vault only if it succeeds**, and then what it leaves is opened with the
tokens of its redirect. -/
theorem login_reports {stored : Config} (loopback : Bool) (hstored : s.storedConfig = .ok stored)
    (hfailing : v.KeptByFailures s.files) (hclock : s.secondReading.isDatable = true) (port : Nat) :
    let a := App.overVault s (s.adapt loopback stored) v
    (Command.login loopback port).Reports s v i
      ((if loopback then a.loginByLoopback port else a.loginByPaste).outcome i) := by
  intro a
  have h := App.overVault_setUp s (s.adapt loopback stored) v
  rcases a.login_cases loopback port i with
    ⟨hcode, hfiles⟩ | ⟨b, printed, event, hbegun, hevent, heq⟩
  · refine ⟨fun _ => ?_, fun hdone => absurd hdone hcode⟩
    rw [hfiles, h.view, h.files]
  · have hreading : b.live.clock = s.secondReading := hbegun.clock
    have hmoment : b.live.clock.IsMoment := by
      rw [hreading]
      exact Timestamp.isMoment_ofNanos hclock
    rw [heq]
    rcases (h.ready hbegun).finishLogin_cases hmoment printed event with
      ⟨hcode, hafter⟩ | ⟨hcode, access, refresh, content, hreceive, hread, hkeeps⟩
    · rw [hbegun.stored, h.files] at hafter
      exact ⟨fun _ => hfailing _ hafter, fun hdone => absurd hdone hcode⟩
    · rw [hbegun.client] at hreceive
      have hbrings : s.Brings i loopback port ⟨access, refresh, b.live.clock⟩ :=
        ⟨stored, event, hstored, hevent, hreceive, hreading⟩
      exact ⟨fun hfails => absurd hcode hfails,
        fun _ => ⟨_, content, hbrings, hread, startsWith_of_keeps hkeeps⟩⟩

/-- A login is set up, with the listener or without, and then goes on. -/
theorem runCommand_login (s : Surroundings κ) (loopback : Bool) (port : Nat) :
    runCommand s (.login loopback port) = withApp s loopback fun a =>
      if loopback then a.loginByLoopback port else a.loginByPaste := by
  cases loopback <;> rfl

/-- **What each command does to the vault** is what its exit code says, whatever the program
finds. -/
theorem runCommand_reports (hvault : s.vault? i = some v) (hfailing : v.KeptByFailures s.files)
    (hclock : s.secondReading.isDatable = true) (command : Command) :
    command.Reports s v i ((runCommand s command).outcome i) := by
  have hsetup := fun config => App.overVault_setUp s config v
  obtain ⟨stored, -, hstarts⟩ := s.starts_of_vault hvault false
  cases command with
  | help => exact rfl
  | status =>
    rw [runCommand, hstarts]
    exact App.files_of_status (hsetup _)
  | validate =>
    rw [runCommand, hstarts]
    exact App.files_of_validate (hsetup _)
  | logout =>
    rw [runCommand, hstarts]
    rcases App.logout_cases (hsetup (s.adapt false stored)) with ⟨hcode, hread⟩ | ⟨hcode, hfiles⟩
    · exact ⟨fun hfails => absurd hcode hfails, fun _ => hread⟩
    · exact ⟨fun _ => hfiles, fun hdone => absurd hdone hcode⟩
  | get path =>
    rw [runCommand, hstarts]
    intro hchanged
    exact (App.get_cases (hsetup (s.adapt false stored)) path).resolve_left hchanged
  | login loopback port =>
    obtain ⟨stored, hstored, hstarts⟩ := s.starts_of_vault hvault loopback
    rw [runCommand_login, hstarts]
    exact login_reports loopback hstored hfailing hclock port

/-- Whatever is asked for but help, the program is set up and then goes on. -/
theorem runCommand_eq_withApp (s : Surroundings κ) (i : Inputs) {command : Command}
    (h : command ≠ .help) :
    ∃ (loopback : Bool) (next : {σ : Type} → App σ → Progress),
      runCommand s command = withApp s loopback next ∧
        ∀ {σ : Type} (a : App σ), (∀ stored, a.files stored = s.files) →
          ((next a).outcome i).files = s.files := by
  cases command with
  | help => exact absurd rfl h
  | status => exact ⟨false, fun a => .done a.status, rfl, fun _ hfixed => hfixed _⟩
  | logout =>
    refine ⟨false, fun a => .done a.logout, rfl, fun a hfixed => ?_⟩
    simp only [Progress.outcome, App.logout]
    split <;> exact hfixed _
  | validate =>
    refine ⟨false, fun a => .done a.validate, rfl, fun a hfixed => ?_⟩
    simp only [Progress.outcome, App.validate]
    split <;> exact hfixed _
  | get path =>
    refine ⟨false, fun a => .done (a.get path), rfl, fun a hfixed => ?_⟩
    simp only [Progress.outcome, App.get]
    split <;> exact hfixed _
  | login loopback port =>
    exact ⟨loopback, fun a => if loopback then a.loginByLoopback port else a.loginByPaste,
      runCommand_login s loopback port, fun a hfixed => a.files_of_login hfixed loopback port i⟩

/-- Without a vault to open, nothing happens to any file. Help is given then, and where a keyring
is asked for, the program may go on over that. -/
theorem runCommand_of_no_vault (hvault : s.vault? i = none) (command : Command) :
    ((runCommand s command).outcome i).files = s.files ∧
      (((runCommand s command).outcome i).code = 0 → command = .help ∨ s.AsksForKeyring) := by
  by_cases hhelp : command = .help
  · rw [hhelp]
    exact ⟨rfl, fun _ => .inl rfl⟩
  obtain ⟨loopback, next, hrun, hnext⟩ := runCommand_eq_withApp s i hhelp
  rw [hrun]
  rcases withApp_cases s loopback i with
    ⟨stored, v, -, hsome, -⟩ | ⟨-, ⟨failure, hstops⟩ | ⟨hkeyring, stored, entry, hstarts⟩⟩
  · rw [hvault] at hsome
    cases hsome
  · rw [hstops]
    exact ⟨rfl, fun h => absurd h Nat.one_ne_zero⟩
  · rw [hstarts]
    exact ⟨hnext _ fun _ => rfl, fun _ => .inr hkeyring⟩

/-! ## The same vault again -/

/-- **After a login, the same vault is asked for again**, whatever has come of the login: all that
could hinder it is a vault that lies in the way of the configuration. -/
theorem login_keeps_vault (hvault : s.vault? i = some v) (hkeeps : s.KeepsConfig v)
    (loopback : Bool) (port : Nat) :
    ({ s with files := ((runCommand s (.login loopback port)).outcome i).files } :
      Surroundings κ).vault? i = some v := by
  obtain ⟨stored, -, hstarts⟩ := s.starts_of_vault hvault loopback
  rw [runCommand_login, hstarts]
  obtain ⟨directory, config, bytes, hdirectory, hload, hread⟩ := Surroundings.config_of_vault hvault
  obtain ⟨place, hplace, hfound⟩ := Files.canStand_of_read hread
  have hleft := (App.overVault_setUp s (s.adapt loopback stored) v).login_leaves
    (hkeeps directory hdirectory place hplace) hfound loopback port i
  have hagain := Config.load_of_leaves hleft hplace hread
  unfold Surroundings.vault? Surroundings.storedConfig at hvault ⊢
  simp only [hdirectory, Surroundings.passphrase] at hvault ⊢
  rwa [hagain]

end

/-! ## A run over a damaged vault -/

section

variable {i : Inputs}

/-- A vault in the working directory. -/
def sampleVault : Vault :=
  ⟨⟨false, ["session.vault"]⟩, "pw", .default⟩

def sampleConfig : Config :=
  { Config.default with storage := .vault, vaultPath := some "session.vault" }

def sampleConfigText : List UInt8 :=
  Text.bytes "\x7b\"storage\": \"vault\", \"vault_path\": \"session.vault\"\x7d"

def sampleEnvironment : List UInt8 :=
  Text.bytes "XDG_CONFIG_HOME=/home\n"

/-- A configuration that asks for that vault, in a directory that an environment file names, and a
damaged file at the vault's path. -/
def sampleSurroundings : Surroundings Unit where
  environment := []
  files :=
    ((((Files.empty.put [".env"] (.file sampleEnvironment Config.fileMode)).put ["home"]
      .directory).put ["home", "authlink"] .directory).put ["home", "authlink", "config.json"]
      (.file sampleConfigText Config.fileMode)).put ["session.vault"] (.file [0x7b] Vault.fileMode)
  directories := .xdg none
  keyring := none
  secrets := ()
  clock := ⟨0, 0⟩
  entropy := ⟨fun _ => 0, 0⟩
  server := Server.unreachable

/-- A passphrase is typed, and a redirect with a token is pasted. -/
def sampleInputs : Inputs where
  passphrase := .ok "pw"
  input := .ok (Text.bytes "authlink://auth?token=abc\n")
  bound _ := .error .loginTimedOut
  arrived _ := .error .loginTimedOut

/-- What is set up there: the session has failed, since the vault's file cannot be read. -/
def sampleApp : App VaultState :=
  App.overVault (withDotenv sampleSurroundings) sampleConfig sampleVault

theorem sampleApp_setUp : sampleApp.SetUp (withDotenv sampleSurroundings) sampleVault :=
  App.overVault_setUp _ _ _

theorem storedConfig_sample : (withDotenv sampleSurroundings).storedConfig = .ok sampleConfig := by
  decide +kernel

theorem adapt_sample : (withDotenv sampleSurroundings).adapt false sampleConfig = sampleConfig := by
  decide +kernel

theorem vault?_sample : (withDotenv sampleSurroundings).vault? sampleInputs = some sampleVault := by
  decide +kernel

theorem rooted_sample : sampleSurroundings.files.Rooted := by
  have hempty : Files.empty.Rooted := ⟨Files.isTree_empty, rfl⟩
  have henv := hempty.put [] ".env" (.file sampleEnvironment Config.fileMode) (by decide)
    (by decide)
  have hhome := henv.put [] "home" .directory (by decide) (by decide)
  have hdirectory := hhome.put ["home"] "authlink" .directory (by decide) (by decide)
  have hconfig := hdirectory.put ["home", "authlink"] "config.json"
    (.file sampleConfigText Config.fileMode) (by decide) (by decide)
  exact hconfig.put [] "session.vault" _ (by decide) (by decide)

theorem keepsConfig_sample : (withDotenv sampleSurroundings).KeepsConfig sampleVault := by
  intro directory hdirectory place hplace
  have hhome : (withDotenv sampleSurroundings).directories.config
      (withDotenv sampleSurroundings).environment = some ⟨true, ["home"]⟩ := by
    decide +kernel
  obtain rfl := Option.some.inj (hhome.symm.trans hdirectory)
  have hconfig : (withDotenv sampleSurroundings).files.CanStand
      (Config.location ⟨true, ["home"]⟩) ["home", "authlink", "config.json"] :=
    ⟨["home", "authlink"], "config.json", by decide +kernel, by decide, rfl, by decide⟩
  obtain rfl := hconfig.unique hplace
  exact ⟨by decide, by decide, by decide, by decide⟩

theorem pasted_sample : App.pasted sampleInputs.input = .ok "authlink://auth?token=abc" := by
  decide +kernel

theorem receive_sample : CallbackReceiver.receive ⟨sampleConfig.allowList⟩
    ⟨.deepLink, "authlink://auth?token=abc"⟩ = .ok (some (.token ⟨"abc", by decide⟩ none)) := by
  decide +kernel

/-- The login with the pasted redirect succeeds. -/
theorem login_sample : ((run ["login"] sampleSurroundings).outcome sampleInputs).code = 0 := by
  let client := sampleApp.client
  let url : Url :=
    ⟨"http", some ⟨"", none, some (.name "localhost"), some 8080⟩, "/oauth2/auth/kakao", none, none⟩
  let begun : App VaultState := { sampleApp with live := (client.beginLogin none sampleApp.live).2 }
  let event : CallbackEvent := ⟨.deepLink, "authlink://auth?token=abc"⟩
  have hurl : client.beginLogin none sampleApp.live = (.ok url, begun.live) :=
    Prod.ext (by decide +kernel) rfl
  have hpending : begun.live.session = .loginPending ⟨"kakao", url, ⟨0, 0⟩⟩ := by decide +kernel
  have hgood : PendingLogin.isStale ⟨"kakao", url, ⟨0, 0⟩⟩ begun.live.clock
      begun.client.coordinator.loginTimeout = false := by decide +kernel
  have hshort : ¬maxRedirectLength < "authlink://auth?token=abc".utf8ByteSize := by
    decide +kernel
  have hrun : (run ["login"] sampleSurroundings).outcome sampleInputs =
      begun.finishLogin (begun.loginText url ++ App.pastePrompt) event := by
    obtain ⟨stored, hstored, hstarts⟩ :=
      (withDotenv sampleSurroundings).starts_of_vault vault?_sample false
    obtain rfl := Except.ok.inj (storedConfig_sample.symm.trans hstored)
    show (runCommand (withDotenv sampleSurroundings) (.login false 0)).outcome sampleInputs = _
    rw [runCommand, hstarts]
    rw [adapt_sample]
    show sampleApp.loginByPaste.outcome sampleInputs = _
    rw [App.loginByPaste, App.startLogin]
    simp only [client] at hurl
    simp only [hurl, Progress.outcome, pasted_sample, if_neg hshort]
    rfl
  have hprepared : sampleVault.Prepared sampleApp.live.stored.files := by
    rw [sampleApp_setUp.files]
    exact Vault.prepared_here (by decide)
      ⟨[], "session.vault", by decide +kernel, by decide, rfl, by decide⟩
      ⟨[], "session.tmp", by decide +kernel, by decide, rfl, by decide⟩
  have hsave := Vault.save_of_prepared sampleApp_setUp.honest rfl hprepared
    ⟨⟨"abc", by decide⟩, none, begun.live.clock⟩
  have hstored : begun.live.stored = sampleApp.live.stored :=
    client.beginLogin_stored none sampleApp.live
  rw [← hstored] at hsave
  rw [hrun]
  exact App.finishLogin_of_save (a := begun) receive_sample hpending hgood hsave

end

/-! ## From arguments to exit codes -/

section

variable {κ : Type}

end

end Cli

end RedirectLogin
