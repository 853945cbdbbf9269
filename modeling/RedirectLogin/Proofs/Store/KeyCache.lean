import Mathlib.Data.List.Induction
import RedirectLogin.Proofs.Store.Permissions

/-!
# A vault object and a file that others change

A vault object keeps the key that it derived last, while its file may be changed by anybody at any
time: other salts, other costs, other ciphertexts, other objects' saves. What happens to the object
is a list of events, its own requests and changes that others make, and the state after them is a
fold.

Whatever has happened, the kept key is the one that the passphrase gives for the salt and the costs
it is kept with. So no answer of a load tells whether the object keeps a key, and what a save writes
can be opened without one.

Principal results: `reachable_after` — the cache after any events is one that the object can have;
`opens_newContent` — what a save writes; `kept_keys_change_no_answer` — loads and saves of an object
that has a history.
-/

set_option autoImplicit false

namespace RedirectLogin.Vault

open Cipher (Argon2id.Params Argon2id.derive)

variable {v : Vault} {s : VaultState} {tokens : TokenSet} {content : List UInt8}

/-! ## Events -/

/-- What can happen to a vault object: it is asked something, or somebody else leaves the files like
this. -/
inductive Event where
  | ask (request : StoreRequest)
  | rewrite (files : Files)

/-- The state after an event. -/
def Event.apply (v : Vault) (event : Event) (s : VaultState) : VaultState :=
  match event with
  | .ask request => (v.store.answer request s).2
  | .rewrite files => { s with files := files }

/-- The state after one event after the other. -/
def after (v : Vault) (events : List Event) (s : VaultState) : VaultState :=
  events.foldl (fun s event => event.apply v s) s

@[simp] theorem after_nil (v : Vault) (s : VaultState) : v.after [] s = s := rfl

@[simp] theorem after_cons (v : Vault) (event : Event) (events : List Event) (s : VaultState) :
    v.after (event :: events) s = v.after events (event.apply v s) := rfl

theorem after_concat (v : Vault) (events : List Event) (event : Event) (s : VaultState) :
    v.after (events ++ [event]) s = event.apply v (v.after events s) := by
  rw [after, List.foldl_append]
  rfl

/-- The state of a vault object that has done nothing yet. -/
def fresh (files : Files) (entropy : Entropy) : VaultState :=
  ⟨files, none, entropy⟩

/-- An event leaves a cache that the object can have. -/
theorem Reachable.apply (h : v.Reachable s.cache) (event : Event) :
    v.Reachable (event.apply v s).cache := by
  cases event with
  | rewrite files => exact h
  | ask request =>
    cases request with
    | save tokens => exact .save tokens h
    | load => exact .load h
    | clear => exact .clear h

/-- So do all events that happen to a new one. -/
theorem reachable_after (v : Vault) (events : List Event) (files : Files) (entropy : Entropy) :
    v.Reachable (v.after events (fresh files entropy)).cache := by
  induction events using List.reverseRecOn with
  | nil => exact .new
  | append_singleton events event ih =>
    rw [after_concat]
    exact ih.apply event

/-! ## What a save writes -/

/-- The content of a file is an envelope with these costs, which holds this record under the key of
the passphrase. -/
def Opens (passphrase : String) (costs : Argon2id.Params) (content record : List UInt8) : Prop :=
  ∃ text e parts, content = Text.bytes text ∧ Envelope.ofText text = .ok e ∧
    e.parts = .ok parts ∧ parts.costs = costs ∧
      Cipher.decrypt? (Argon2id.derive costs (Text.bytes passphrase) parts.salt Envelope.keyLength)
        parts.nonce parts.sealed = some record

/-- **What a save writes opens** with the passphrase, under the save's own costs. -/
theorem opens_newContent (h : v.Honest s.cache) (hcontent : v.newContent tokens s = .ok content) :
    Opens v.passphrase v.costs content (Text.bytes tokens.record) := by
  obtain ⟨parts, htext, hcosts, ⟨-, hsalt⟩, hnonce, hsealed⟩ := exists_writes h hcontent
  have hread : Envelope.ofText (Envelope.ofParts parts).text = .ok (Envelope.ofParts parts) :=
    Envelope.ofText_text (show Envelope.currentVersion < UInt8.size by decide)
  exact ⟨_, _, parts, htext, hread, Envelope.parts_ofParts hsalt hnonce, hcosts,
    Cipher.decrypt?_eq_some_iff.2 hsealed⟩

/-- A save that is done leaves what it wrote at the vault's path. -/
theorem read_of_save (hsave : (v.save tokens s).1 = .ok ()) :
    ∃ content, v.newContent tokens s = .ok content ∧
      (v.save tokens s).2.files.read v.path = .ok content := by
  obtain ⟨content, hcontent, hplan⟩ := runAll_of_save hsave
  obtain ⟨hs, spot, -, -, hlookup⟩ := exists_of_savePlan hplan
  exact ⟨content, hcontent, by rw [Files.read, hlookup]; rfl⟩

/-- **A kept key changes no answer.** After whatever saves, loads and clears of one vault object and
whatever changes that others make to the files, the key that it keeps is the one of its passphrase
for the salt and the costs it is kept with. A load answers what a new object with the same
passphrase would, whatever costs that one is made with. All that a save writes opens with the
passphrase under the object's own costs, and that is what is at the vault's path when the save is
done. -/
theorem kept_keys_change_no_answer (v : Vault) (events : List Event) (files : Files)
    (entropy : Entropy) :
    let s := v.after events (fresh files entropy)
    (∀ kept, s.cache = some kept →
      kept.key = Argon2id.derive kept.costs (Text.bytes v.passphrase) kept.salt
        Envelope.keyLength) ∧
    (∀ costs entropy',
      (v.load s).1 = (Vault.load { v with costs := costs } (fresh s.files entropy')).1) ∧
    (∀ tokens content, v.newContent tokens s = .ok content →
      Opens v.passphrase v.costs content (Text.bytes tokens.record)) ∧
    ∀ tokens, (v.save tokens s).1 = .ok () →
      ∃ content, v.newContent tokens s = .ok content ∧
        (v.save tokens s).2.files.read v.path = .ok content := by
  intro s
  have hhonest : v.Honest s.cache := (reachable_after v events files entropy).honest
  refine ⟨fun kept hkept => ?_, fun costs entropy' => ?_,
    fun tokens content => opens_newContent hhonest, fun tokens => read_of_save⟩
  · exact (deriveKey_eq_ok_iff.1 (hhonest kept hkept).2).2
  · -- the costs of an object play no part in its loads
    have hcosts : (Vault.load { v with costs := costs } (fresh s.files entropy')).1 =
        (v.load (fresh s.files entropy')).1 := rfl
    rw [hcosts]
    exact load_congr rfl hhonest (honest_none v) s.entropy entropy'

/-- A vault object keeps the key of its first save, loses its file, and saves again with that key. -/
theorem kept_key_opens_next_save :
    let v : Vault := ⟨⟨false, ["session.vault"]⟩, "pw", ⟨8, 1, 1⟩⟩
    let start := fresh Files.empty ⟨fun _ => 0, 0⟩
    let s := v.after [.ask (.save sampleTokens), .rewrite Files.empty] start
    (∃ kept, s.cache = some kept ∧ kept.key =
        Argon2id.derive kept.costs (Text.bytes v.passphrase) kept.salt Envelope.keyLength) ∧
      (v.save sampleTokens s).1 = .ok () ∧
      ∃ content, (v.save sampleTokens s).2.files.read v.path = .ok content ∧
        Opens v.passphrase v.costs content (Text.bytes sampleTokens.record) := by
  intro v start s
  obtain ⟨hkey, -, hopens, hread⟩ :=
    kept_keys_change_no_answer v [.ask (.save sampleTokens), .rewrite Files.empty] Files.empty
      ⟨fun _ => 0, 0⟩
  have hnew : v.Honest start.cache := honest_none v
  obtain ⟨key, hkept⟩ := exists_save_cache hnew rfl sampleTokens
  have hrun : s = { (v.save sampleTokens start).2 with files := Files.empty } := by
    simp only [s, after_cons, after_nil, Event.apply]
    rfl
  have hempty : s.files = Files.empty := by rw [hrun]
  have hsave : (v.save sampleTokens s).1 = .ok () := by
    refine save_of_prepared (reachable_after v _ _ _).honest rfl ?_ sampleTokens
    have hdraft : v.draftPath = ⟨false, ["session.tmp"]⟩ := by decide
    rw [hempty]
    exact prepared_here (by decide)
      ⟨[], "session.vault", by simp only [v]; rfl, by decide, rfl, by decide⟩
      ⟨[], "session.tmp", by rw [hdraft]; rfl, by decide, rfl, by decide⟩
  obtain ⟨content, hcontent, hfile⟩ := hread sampleTokens hsave
  have hcache : s.cache = some ⟨(v.chooseSalt start).1, v.costs, key⟩ := by rw [hrun, hkept]
  exact ⟨⟨_, hcache, hkey _ hcache⟩, hsave, content, hfile, hopens sampleTokens content hcontent⟩

end RedirectLogin.Vault
