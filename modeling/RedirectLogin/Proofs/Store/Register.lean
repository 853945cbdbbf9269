import RedirectLogin.Store.Register

/-!
# Stores that are registers

What a session may rely on in its store: at any time the store has one content, a token set or
none. An attempt that succeeds does what it says, an attempt that fails changes nothing, and which
attempts fail is left open.

Principal results: `register_isRegister` — the register with planned failures is such a store;
`IsRegister.saved`, `IsRegister.save_failed` and their fellows — an operation that is attempted
twice obeys the same law as a single attempt.
-/

set_option autoImplicit false

namespace RedirectLogin

variable {σ α : Type}

/-! ## Two attempts -/

/-- A success is that of the first attempt, or that of the second after a failure of the first. -/
theorem attemptTwice_ok {operation : σ → Except StoreError α × σ} {s t : σ} {a : α}
    (h : attemptTwice operation s = (.ok a, t)) :
    operation s = (.ok a, t) ∨ ∃ e u, operation s = (.error e, u) ∧ operation u = (.ok a, t) := by
  unfold attemptTwice at h
  split at h
  · rename_i b u hfirst
    cases h
    exact Or.inl hfirst
  · rename_i e u hfirst
    split at h
    · rename_i b v hsecond
      cases h
      exact Or.inr ⟨e, u, hfirst, hsecond⟩
    · cases h

/-- A failure takes two failed attempts, and reports the second. -/
theorem attemptTwice_error {operation : σ → Except StoreError α × σ} {s t : σ} {e : SessionError}
    (h : attemptTwice operation s = (.error e, t)) :
    ∃ e₁ u e₂, operation s = (.error e₁, u) ∧ operation u = (.error e₂, t) ∧
      e = e₂.toSessionError := by
  unfold attemptTwice at h
  split at h
  · cases h
  · rename_i e₁ u hfirst
    split at h
    · cases h
    · rename_i e₂ v hsecond
      cases h
      exact ⟨e₁, u, e₂, hfirst, hsecond, rfl⟩

/-- Whatever fails twice is a storage failure. -/
theorem attemptTwice_error_kind {operation : σ → Except StoreError α × σ} {s t : σ}
    {e : SessionError} (h : attemptTwice operation s = (.error e, t)) :
    e.kind = .storageFailure := by
  obtain ⟨e₁, u, e₂, _, _, rfl⟩ := attemptTwice_error h
  rfl

/-! ## Registers -/

/-- A store with a `content` that only a successful attempt changes. -/
structure TokenStore.IsRegister (store : TokenStore σ) (content : σ → Option TokenSet) : Prop where
  save_ok : ∀ {tokens s t}, store.save tokens s = (.ok (), t) → content t = some tokens
  save_error : ∀ {tokens s e t}, store.save tokens s = (.error e, t) → content t = content s
  load_ok : ∀ {s found t}, store.load s = (.ok found, t) → found = content s ∧ content t = content s
  load_error : ∀ {s e t}, store.load s = (.error e, t) → content t = content s
  clear_ok : ∀ {s t}, store.clear s = (.ok (), t) → content t = none
  clear_error : ∀ {s e t}, store.clear s = (.error e, t) → content t = content s

namespace TokenStore.IsRegister

variable {store : TokenStore σ} {content : σ → Option TokenSet} {s t : σ}

theorem saved (h : store.IsRegister content) {tokens : TokenSet}
    (hs : attemptTwice (store.save tokens) s = (.ok (), t)) : content t = some tokens := by
  rcases attemptTwice_ok hs with hs | ⟨e, u, _, hs⟩
  · exact h.save_ok hs
  · exact h.save_ok hs

theorem save_failed (h : store.IsRegister content) {tokens : TokenSet} {e : SessionError}
    (hs : attemptTwice (store.save tokens) s = (.error e, t)) : content t = content s := by
  obtain ⟨e₁, u, e₂, hfirst, hsecond, _⟩ := attemptTwice_error hs
  rw [h.save_error hsecond, h.save_error hfirst]

theorem loaded (h : store.IsRegister content) {found : Option TokenSet}
    (hl : attemptTwice store.load s = (.ok found, t)) :
    found = content s ∧ content t = content s := by
  rcases attemptTwice_ok hl with hl | ⟨e, u, hfirst, hl⟩
  · exact h.load_ok hl
  · have hkept := h.load_error hfirst
    rw [← hkept]
    exact h.load_ok hl

theorem load_failed (h : store.IsRegister content) {e : SessionError}
    (hl : attemptTwice store.load s = (.error e, t)) : content t = content s := by
  obtain ⟨e₁, u, e₂, hfirst, hsecond, _⟩ := attemptTwice_error hl
  rw [h.load_error hsecond, h.load_error hfirst]

/-- Reading leaves the content alone, whatever comes of it. -/
theorem load_keeps (h : store.IsRegister content) {r : Except SessionError (Option TokenSet)}
    (hl : attemptTwice store.load s = (r, t)) : content t = content s := by
  cases r with
  | ok found => exact (h.loaded hl).2
  | error e => exact h.load_failed hl

theorem cleared (h : store.IsRegister content)
    (hc : attemptTwice store.clear s = (.ok (), t)) : content t = none := by
  rcases attemptTwice_ok hc with hc | ⟨e, u, _, hc⟩
  · exact h.clear_ok hc
  · exact h.clear_ok hc

theorem clear_failed (h : store.IsRegister content) {e : SessionError}
    (hc : attemptTwice store.clear s = (.error e, t)) : content t = content s := by
  obtain ⟨e₁, u, e₂, hfirst, hsecond, _⟩ := attemptTwice_error hc
  rw [h.clear_error hsecond, h.clear_error hfirst]

end TokenStore.IsRegister

/-- Recording an attempt leaves the content alone. -/
@[simp] theorem Register.attempt_content (call : StoreCall) (r : Register) :
    (Register.attempt call r).2.content = r.content := rfl

/-- **The register with planned failures is a register**, whatever the plan. -/
theorem register_isRegister : Register.store.IsRegister Register.content where
  save_ok {tokens s t} h := by
    simp only [Register.store, Register.save] at h
    split at h <;> cases h
    rfl
  save_error {tokens s e t} h := by
    simp only [Register.store, Register.save] at h
    split at h <;> cases h
    rename_i u hu
    rw [← Register.attempt_content .save s, hu]
  load_ok {s found t} h := by
    simp only [Register.store, Register.load] at h
    split at h <;> cases h
    rename_i u hu
    rw [← Register.attempt_content .load s, hu]
    exact ⟨rfl, rfl⟩
  load_error {s e t} h := by
    simp only [Register.store, Register.load] at h
    split at h <;> cases h
    rename_i u hu
    rw [← Register.attempt_content .load s, hu]
  clear_ok {s t} h := by
    simp only [Register.store, Register.clear] at h
    split at h <;> cases h
    rfl
  clear_error {s e t} h := by
    simp only [Register.store, Register.clear] at h
    split at h <;> cases h
    rename_i u hu
    rw [← Register.attempt_content .clear s, hu]

end RedirectLogin
