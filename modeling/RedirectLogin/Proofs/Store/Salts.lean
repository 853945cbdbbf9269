import RedirectLogin.Proofs.Store.KeyCache

/-!
# Where the salt of a save comes from

A save takes the salt of the kept key if that was derived with the costs of the vault object, and
draws a new salt else. A load keeps the key that it derives before it tries whether the key opens
the file. So it can be a file that does not open that chooses the salt of later saves.

A salt is the object's own when a save of the object has drawn it or a load of the object has opened
a file with it. Every salt that is kept for the object's own costs is its own, or is the salt of a
rejected file since which no other key was derived (`Misled`).

Principal results: `owned_or_misled` — these two are all; `Misled.cache_eq` — the rejected file's
salt is kept; `own_salt_iff_not_misled` — when a save writes a salt of the object's own.
-/

set_option autoImplicit false

namespace RedirectLogin

/-- What is shorter than a tag is not opened. -/
theorem Cipher.decrypt?_of_short {key nonce sealed : List UInt8} (h : sealed.length < 16) :
    decrypt? key nonce sealed = none :=
  if_neg fun hlong => Nat.not_lt.2 hlong.1 h

namespace Vault

variable {v : Vault} {s start : VaultState} {files : Files} {entropy : Entropy} {cache : KeyCache}
  {parts : Envelope.Parts} {kept : DerivedKey} {salt : List UInt8} {tokens : TokenSet}
  {events : List Event} {event : Event}

/-! ## The key that a load keeps -/

theorem reads_of_read (hread : files.read v.path = .ok (Text.bytes (Envelope.ofParts parts).text))
    (hsalt : parts.salt.length = Envelope.saltLength)
    (hnonce : parts.nonce.length = Envelope.nonceLength) : v.Reads files parts := by
  have htext : Envelope.ofText (Envelope.ofParts parts).text = .ok (Envelope.ofParts parts) :=
    Envelope.ofText_text (show Envelope.currentVersion < UInt8.size by decide)
  refine ⟨Envelope.ofParts parts, ?_, Envelope.parts_ofParts hsalt hnonce⟩
  simp only [readEnvelope, readText_eq_ok_iff.2 hread, htext]
  rfl

theorem Reads.unique {parts' : Envelope.Parts} (h : v.Reads files parts)
    (h' : v.Reads files parts') : parts = parts' := by
  obtain ⟨envelope, hread, hparts⟩ := h
  obtain ⟨envelope', hread', hparts'⟩ := h'
  obtain rfl := Option.some.inj (Except.ok.inj (hread.symm.trans hread'))
  exact Except.ok.inj (hparts.symm.trans hparts')

theorem Reads.exists_keyFor (h : v.Reads files parts) (hhonest : v.Honest cache)
    (hcosts : parts.costs.check = .ok ()) :
    ∃ key, (v.keyFor cache parts.salt parts.costs).1 = .ok key :=
  Vault.exists_keyFor hhonest h.salt_length hcosts

theorem load_of_short {key : List UInt8} (h : v.Reads s.files parts)
    (hkey : (v.keyFor s.cache parts.salt parts.costs).1 = .ok key)
    (hshort : parts.sealed.length < 16) :
    (v.load s).1 = .error (.crypto "wrong passphrase or tampered vault") := by
  obtain ⟨envelope, hread, hparts⟩ := h
  simp only [load, hread, openEnvelope, hparts]
  rcases hfor : v.keyFor s.cache parts.salt parts.costs with ⟨result, cache⟩
  rw [hfor] at hkey
  simp only [show result = .ok key from hkey, openTokens, Cipher.decrypt?_of_short hshort]
  rfl

/-- With this event the object comes to a key: it derives one or uses the one it keeps. A load does
so before it knows whether the key opens the file. -/
inductive Event.Settles (v : Vault) (s : VaultState) : Event → DerivedKey → Prop
  | save {tokens : TokenSet} {key : List UInt8}
      (hkey : (v.keyFor s.cache (v.chooseSalt s).1 v.costs).1 = .ok key) :
      Settles v s (.ask (.save tokens)) ⟨(v.chooseSalt s).1, v.costs, key⟩
  | load {parts : Envelope.Parts} {key : List UInt8} (hreads : v.Reads s.files parts)
      (hkey : (v.keyFor s.cache parts.salt parts.costs).1 = .ok key) :
      Settles v s (.ask .load) ⟨parts.salt, parts.costs, key⟩

/-- That is the key it keeps. -/
theorem Event.Settles.cache_eq (h : event.Settles v s kept) :
    (event.apply v s).cache = some kept := by
  cases h with
  | save hkey => exact (save_cache v _ s).trans (keyFor_of_ok hkey)
  | load hreads hkey =>
    exact (congrArg VaultState.cache (load_of_reads hreads)).trans (keyFor_of_ok hkey)

/-- A load that comes to no key leaves all as it was. -/
theorem load_of_not_settles (h : ∀ kept, ¬(Event.ask .load).Settles v s kept) :
    (v.load s).2 = s := by
  rcases load_cases v s with hsame | ⟨parts, hreads, hload⟩
  · exact hsame
  · rw [hload]
    cases hkey : (v.keyFor s.cache parts.salt parts.costs).1 with
    | error e => rw [keyFor_of_error hkey]
    | ok key => exact absurd (.load hreads hkey) (h _)

/-- With an event that comes to no key, the one that is kept stays. -/
theorem Event.cache_of_not_settles (h : ∀ kept, ¬event.Settles v s kept) :
    (event.apply v s).cache = s.cache := by
  cases event with
  | rewrite files => rfl
  | ask request =>
    cases request with
    | clear => exact clear_cache v s
    | load => exact congrArg VaultState.cache (load_of_not_settles h)
    | save tokens =>
      refine (save_cache v tokens s).trans ?_
      cases hkey : (v.keyFor s.cache (v.chooseSalt s).1 v.costs).1 with
      | error e => exact keyFor_of_error hkey
      | ok key => exact absurd (.save hkey) (h _)

/-! ## Salts of the object's own -/

/-- With this event the salt becomes the object's own: a save draws it, or a load opens a file with
it. -/
inductive Event.Owns (v : Vault) (s : VaultState) : Event → List UInt8 → Prop
  | drawn (tokens : TokenSet) (h : s.cache.filter (fun kept => kept.costs == v.costs) = none) :
      Owns v s (.ask (.save tokens)) (s.entropy.draw Envelope.saltLength).1
  | opened {parts : Envelope.Parts} {key record : List UInt8} (hreads : v.Reads s.files parts)
      (hkey : (v.keyFor s.cache parts.salt parts.costs).1 = .ok key)
      (hopens : Cipher.decrypt? key parts.nonce parts.sealed = some record) :
      Owns v s (.ask .load) parts.salt

theorem Event.Owns.eq_draw (h : (Event.ask (.save tokens)).Owns v s salt) :
    salt = (s.entropy.draw Envelope.saltLength).1 := by
  cases h
  rfl

/-- Nothing is opened that is too short to be sealed. -/
theorem not_owns_of_short (hreads : v.Reads s.files parts) (hshort : parts.sealed.length < 16) :
    ¬(Event.ask .load).Owns v s salt := by
  intro h
  cases h with
  | opened hreads' _ hopens =>
    rw [← hreads.unique hreads', Cipher.decrypt?_of_short hshort] at hopens
    cases hopens

/-- One event or other made the salt the object's own. -/
def Owned (v : Vault) (salt : List UInt8) : List Event → VaultState → Prop
  | [], _ => False
  | event :: events, s => event.Owns v s salt ∨ Owned v salt events (event.apply v s)

theorem owned_concat (events : List Event) (s : VaultState) :
    v.Owned salt (events ++ [event]) s ↔
      v.Owned salt events s ∨ event.Owns v (v.after events s) salt := by
  induction events generalizing s with
  | nil => simp [Owned, after]
  | cons first events ih =>
    simp only [List.cons_append, Owned, ih, or_assoc]
    rfl

/-- A load has rejected a file with this salt and the object's own costs after it came to a key for
them, and since then the object has come to no key for another salt or other costs. -/
inductive Misled (v : Vault) (start : VaultState) : List Event → List UInt8 → Prop
  | rejected {events : List Event} {parts : Envelope.Parts} {key : List UInt8}
      (hreads : v.Reads (v.after events start).files parts) (hcosts : parts.costs = v.costs)
      (hkey : (v.keyFor (v.after events start).cache parts.salt parts.costs).1 = .ok key)
      (hfails : Cipher.decrypt? key parts.nonce parts.sealed = none) :
      Misled v start (events ++ [.ask .load]) parts.salt
  | since {events : List Event} {event : Event} {salt : List UInt8}
      (before : Misled v start events salt)
      (h : ∀ kept, event.Settles v (v.after events start) kept →
        kept.salt = salt ∧ kept.costs = v.costs) :
      Misled v start (events ++ [event]) salt

/-- **The salt of the rejected file is the one that is kept.** -/
theorem Misled.cache_eq (h : v.Misled start events salt) :
    ∃ key, (v.after events start).cache = some ⟨salt, v.costs, key⟩ := by
  induction h with
  | @rejected events parts key hreads hcosts hkey _ =>
    rw [after_concat, (Event.Settles.load hreads hkey).cache_eq, hcosts]
    exact ⟨key, rfl⟩
  | @since events event salt _ h ih =>
    rw [after_concat]
    by_cases hsettles : ∃ kept, event.Settles v (v.after events start) kept
    · obtain ⟨⟨salt', costs, key⟩, hkept⟩ := hsettles
      obtain ⟨rfl, rfl⟩ := h _ hkept
      exact ⟨key, hkept.cache_eq⟩
    · rw [Event.cache_of_not_settles fun kept hkept => hsettles ⟨kept, hkept⟩]
      exact ih

theorem filter_of_costs (hcache : cache = some kept) (hcosts : kept.costs = v.costs) :
    cache.filter (fun kept => kept.costs == v.costs) = some kept :=
  Option.filter_eq_some_iff.2 ⟨hcache, beq_iff_eq.2 hcosts⟩

theorem chooseSalt_of_kept (hcache : s.cache = some kept) (hcosts : kept.costs = v.costs) :
    (v.chooseSalt s).1 = kept.salt := by
  rw [chooseSalt, filter_of_costs hcache hcosts]

theorem chooseSalt_of_none (h : s.cache.filter (fun kept => kept.costs == v.costs) = none) :
    (v.chooseSalt s).1 = (s.entropy.draw Envelope.saltLength).1 := by
  rw [chooseSalt, h]

/-- A save draws no salt if one is kept for its costs. -/
theorem not_owns_of_kept (hcache : s.cache = some kept) (hcosts : kept.costs = v.costs) :
    ¬(Event.ask (.save tokens)).Owns v s salt := by
  intro h
  cases h with
  | drawn _ hnone =>
    rw [filter_of_costs hcache hcosts] at hnone
    cases hnone

/-- The salt that a save chooses is drawn, or is kept for the object's own costs. -/
theorem chooseSalt_cases (v : Vault) (s : VaultState) (tokens : TokenSet) :
    (Event.ask (.save tokens)).Owns v s (v.chooseSalt s).1 ∨
      ∃ kept, s.cache = some kept ∧ kept.costs = v.costs ∧ (v.chooseSalt s).1 = kept.salt := by
  cases hfilter : s.cache.filter (fun kept => kept.costs == v.costs) with
  | none =>
    rw [chooseSalt_of_none hfilter]
    exact .inl (.drawn tokens hfilter)
  | some kept =>
    obtain ⟨hcache, hcosts⟩ := Option.filter_eq_some_iff.1 hfilter
    rw [beq_iff_eq] at hcosts
    exact .inr ⟨kept, hcache, hcosts, chooseSalt_of_kept hcache hcosts⟩

/-- **A salt that is kept for the object's own costs is the object's own, or that of a rejected
file.** -/
theorem owned_or_misled (v : Vault) (events : List Event) (files : Files) (entropy : Entropy) :
    ∀ kept, (v.after events (fresh files entropy)).cache = some kept → kept.costs = v.costs →
      v.Owned kept.salt events (fresh files entropy) ∨
        v.Misled (fresh files entropy) events kept.salt := by
  induction events using List.reverseRecOn with
  | nil =>
    intro kept hkept
    cases hkept
  | append_singleton events event ih =>
    intro kept hkept hcosts
    rw [after_concat] at hkept
    rw [owned_concat]
    by_cases hsettles : ∃ other, event.Settles v (v.after events (fresh files entropy)) other
    · obtain ⟨other, hother⟩ := hsettles
      -- what is kept is the key that this event came to
      obtain rfl := Option.some.inj (hother.cache_eq.symm.trans hkept)
      cases hother with
      | @save tokens key hkey =>
        rcases chooseSalt_cases v (v.after events (fresh files entropy)) tokens with
          hdrawn | ⟨before, hbefore, hbeforeCosts, hsalt⟩
        · exact .inl (.inr hdrawn)
        · -- the save goes on with a salt that was kept before it, so what that was, it is still
          rw [hsalt]
          refine (ih before hbefore hbeforeCosts).imp .inl fun hmisled => hmisled.since ?_
          intro other hother
          obtain rfl := Option.some.inj
            (hother.cache_eq.symm.trans (Event.Settles.save hkey).cache_eq)
          exact ⟨hsalt, rfl⟩
      | @load parts key hreads hkey =>
        cases hopens : Cipher.decrypt? key parts.nonce parts.sealed with
        | none => exact .inr (.rejected hreads hcosts hkey hopens)
        | some record => exact .inl (.inr (.opened hreads hkey hopens))
    · have hnone := fun other hother => hsettles ⟨other, hother⟩
      rw [Event.cache_of_not_settles hnone] at hkept
      exact (ih kept hkept hcosts).imp .inl
        fun hmisled => hmisled.since fun other hother => absurd hother (hnone other)

/-- **A save writes a salt of the object's own exactly if no rejected file has misled the object**,
or that file's salt was the object's own. If one has, the save writes the salt of that file. A load
that comes to no key leaves all as it was, so it takes a file that can be read as an envelope, with
the object's own costs, to do this. -/
theorem own_salt_iff_not_misled (v : Vault) (events : List Event) (files : Files)
    (entropy : Entropy) (tokens : TokenSet) :
    let start := fresh files entropy
    let s := v.after events start
    ∀ content, v.newContent tokens s = .ok content →
      ((v.save tokens s).1 = .ok () → (v.save tokens s).2.files.read v.path = .ok content) ∧
      (∃ parts, content = Text.bytes (Envelope.ofParts parts).text ∧
        (v.Owned parts.salt (events ++ [.ask (.save tokens)]) start ↔
          ∀ salt, v.Misled start events salt → v.Owned salt events start) ∧
        ∀ salt, v.Misled start events salt → parts.salt = salt) ∧
      ((∀ kept, ¬(Event.ask .load).Settles v s kept) → (v.load s).2 = s) := by
  intro start s content hcontent
  have hhonest : v.Honest s.cache := (reachable_after v events files entropy).honest
  obtain ⟨parts, htext, -, ⟨hsalt, -⟩, -⟩ := exists_writes hhonest hcontent
  have hmisled : ∀ salt, v.Misled start events salt → parts.salt = salt := by
    intro salt h
    obtain ⟨key, hcache⟩ := h.cache_eq
    exact hsalt.trans (chooseSalt_of_kept hcache rfl)
  refine ⟨fun hsave => ?_, ⟨parts, htext, ?_, hmisled⟩, load_of_not_settles⟩
  · obtain ⟨written, hwritten, hread⟩ := read_of_save hsave
    rw [hread, Except.ok.inj (hcontent.symm.trans hwritten)]
  rw [owned_concat]
  constructor
  · rintro (howned | hdrawn) salt h
    · rwa [← hmisled salt h]
    · obtain ⟨key, hcache⟩ := h.cache_eq
      exact absurd hdrawn (not_owns_of_kept hcache rfl)
  · intro h
    rcases chooseSalt_cases v s tokens with hdrawn | ⟨kept, hcache, hcosts, hkept⟩
    · exact .inr (hsalt ▸ hdrawn)
    · rw [hsalt, hkept]
      exact .inl ((owned_or_misled v events files entropy kept hcache hcosts).elim id (h _))

/-- What a file says that stands where programs start. -/
theorem reads_beside (v : Vault) (hpath : v.path = ⟨false, ["session.vault"]⟩)
    (hsalt : parts.salt.length = Envelope.saltLength)
    (hnonce : parts.nonce.length = Envelope.nonceLength) :
    v.Reads (Files.empty.put ["session.vault"]
      (.file (Text.bytes (Envelope.ofParts parts).text) 0o600)) parts := by
  have hread : ∀ bytes, (Files.empty.put ["session.vault"] (.file bytes 0o600)).read
      ⟨false, ["session.vault"]⟩ = .ok bytes := fun _ => rfl
  exact reads_of_read (hpath ▸ hread _) hsalt hnonce

/-- A file with costs that are not the object's own is rejected, but its salt is not taken. -/
theorem salt_after_other_costs :
    let v : Vault := ⟨⟨false, ["session.vault"]⟩, "pw", ⟨8, 1, 1⟩⟩
    let forged : Envelope.Parts := ⟨⟨16, 1, 1⟩, List.replicate 16 1, List.replicate 12 0, []⟩
    let forgery := Files.empty.put ["session.vault"]
      (.file (Text.bytes (Envelope.ofParts forged).text) 0o600)
    let start := fresh forgery ⟨fun _ => 0, 0⟩
    (v.load start).1 = .error (.crypto "wrong passphrase or tampered vault") ∧
      ∃ parts, v.newContent sampleTokens (v.after [.ask .load] start) =
          .ok (Text.bytes (Envelope.ofParts parts).text) ∧
        v.Owned parts.salt [.ask .load, .ask (.save sampleTokens)] start := by
  intro v forged forgery start
  have hreads : v.Reads forgery forged := reads_beside v rfl rfl rfl
  obtain ⟨key, hkey⟩ := hreads.exists_keyFor (honest_none v) rfl
  have hload : (Event.ask .load).Settles v start ⟨forged.salt, forged.costs, key⟩ :=
    .load hreads hkey
  have hcache : (v.after [.ask .load] start).cache = some ⟨forged.salt, forged.costs, key⟩ := by
    rw [after_cons, after_nil, hload.cache_eq]
  have hnot : ∀ salt, ¬v.Misled start [.ask .load] salt := by
    intro salt hmisled
    obtain ⟨key', hkept⟩ := hmisled.cache_eq
    have hsame : forged.costs = v.costs :=
      congrArg DerivedKey.costs (Option.some.inj (hcache.symm.trans hkept))
    exact absurd hsame (by decide)
  obtain ⟨written, hcontent, -⟩ := exists_newContent
    (reachable_after v [.ask .load] forgery ⟨fun _ => 0, 0⟩).honest rfl sampleTokens
  obtain ⟨-, ⟨parts, htext, howned, -⟩, -⟩ :=
    own_salt_iff_not_misled v [.ask .load] forgery ⟨fun _ => 0, 0⟩ sampleTokens _ hcontent
  exact ⟨load_of_short hreads hkey (by decide), parts, htext ▸ hcontent,
    howned.2 fun salt hmisled => absurd hmisled (hnot salt)⟩

/-- A file with the object's own costs and a salt of its maker's choice is rejected, and the next
save writes that salt. Without the load that rejected it, the save would write the salt it drew. -/
theorem rejected_file_chooses_salt :
    let v : Vault := ⟨⟨false, ["session.vault"]⟩, "pw", ⟨8, 1, 1⟩⟩
    let forged : Envelope.Parts := ⟨⟨8, 1, 1⟩, List.replicate 16 1, List.replicate 12 0, []⟩
    let forgery := Files.empty.put ["session.vault"]
      (.file (Text.bytes (Envelope.ofParts forged).text) 0o600)
    let start := fresh Files.empty ⟨fun _ => 0, 0⟩
    let events := [.ask (.save sampleTokens), .rewrite forgery]
    (v.load (v.after events start)).1 = .error (.crypto "wrong passphrase or tampered vault") ∧
      (∃ parts, v.newContent sampleTokens (v.after events start) =
          .ok (Text.bytes (Envelope.ofParts parts).text) ∧
        parts.salt = List.replicate 16 0) ∧
      ∃ parts, v.newContent sampleTokens (v.after (events ++ [.ask .load]) start) =
          .ok (Text.bytes (Envelope.ofParts parts).text) ∧
        parts.salt = forged.salt ∧
        ¬v.Owned parts.salt (events ++ [.ask .load] ++ [.ask (.save sampleTokens)]) start := by
  intro v forged forgery start events
  have hhonest : ∀ events, v.Honest (v.after events start).cache := fun events =>
    (reachable_after v events Files.empty ⟨fun _ => 0, 0⟩).honest
  -- the first save draws a salt and keeps its key
  have hdrawn : (v.chooseSalt start).1 = List.replicate 16 0 := by decide
  have hnew : v.Honest start.cache := honest_none v
  obtain ⟨key, hcache⟩ := exists_save_cache hnew rfl sampleTokens
  have hrun : v.after events start =
      { (v.save sampleTokens start).2 with files := forgery } := by
    simp only [events, after_cons, after_nil, Event.apply]
    rfl
  have hkept : (v.after events start).cache = some ⟨(v.chooseSalt start).1, v.costs, key⟩ := by
    rw [hrun, hcache]
  -- the load keeps the key of the forgery
  have hreads : v.Reads (v.after events start).files forged := by
    rw [hrun]
    exact reads_beside v rfl rfl rfl
  obtain ⟨key', hkey'⟩ := hreads.exists_keyFor (hhonest events) rfl
  have hkept' : (v.after (events ++ [.ask .load]) start).cache =
      some ⟨forged.salt, forged.costs, key'⟩ := by
    rw [after_concat]
    exact (Event.Settles.load hreads hkey').cache_eq
  refine ⟨load_of_short hreads hkey' (by decide), ?_, ?_⟩
  · obtain ⟨parts, hcontent, hsalt⟩ := exists_newContent (hhonest events) rfl sampleTokens
    exact ⟨parts, hcontent, (hsalt.trans (chooseSalt_of_kept hkept rfl)).trans hdrawn⟩
  · obtain ⟨parts, hcontent, hsalt⟩ :=
      exists_newContent (hhonest (events ++ [.ask .load])) rfl sampleTokens
    have hforged : parts.salt = forged.salt := hsalt.trans (chooseSalt_of_kept hkept' rfl)
    refine ⟨parts, hcontent, hforged, ?_⟩
    rw [hforged, owned_concat, owned_concat]
    rintro (((hfirst | hrewrite | hnone) | hload) | hlast)
    · exact absurd (hfirst.eq_draw.trans (chooseSalt_of_none rfl).symm) (by rw [hdrawn]; decide)
    · cases hrewrite
    · exact hnone
    · exact not_owns_of_short hreads (by decide) hload
    · exact not_owns_of_kept hkept' rfl hlast

end Vault

end RedirectLogin
