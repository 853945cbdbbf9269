import RedirectLogin.Proofs.Store.Register

/-!
# Attempts that fail once

An operation on a register is attempted again if it fails. Seen from outside, a register whose
plan has no operation fail twice is no different from its *twin*, the register with the same content
and no planned failures: the answers are the same, and the contents stay the same. Only the list of
attempts tells the two apart, and it has every operation of the twin once or twice.

Principal results: `Twin.request` — twins stay twins, with the same answer, unless two attempts in a
row have failed.
-/

set_option autoImplicit false

namespace RedirectLogin

variable {α : Type}

/-- Whether an attempt fails, by its number. Those beyond the plan succeed. -/
def fails (plan : List Bool) (i : Nat) : Bool :=
  plan[i]?.getD false

/-- Of the first attempts, `made` in number, no two in a row fail. Behind a first attempt that fails
stands the second attempt of the same operation, and before a second attempt its first, which has
failed: so this says that no operation fails at both of its attempts. -/
def Spared (plan : List Bool) (made : Nat) : Prop :=
  ∀ i, i + 1 < made → fails plan i = true → fails plan (i + 1) = false

theorem Spared.of_le {plan : List Bool} {made more : Nat} (h : Spared plan more)
    (hle : made ≤ more) : Spared plan made :=
  fun i hi => h i (Nat.lt_of_lt_of_le hi hle)

/-- The attempts that were made for some operations: one or two for each. -/
inductive Retried : List StoreCall → List StoreCall → Prop
  | none : Retried [] []
  | once {operations attempts : List StoreCall} (call : StoreCall)
      (h : Retried operations attempts) : Retried (operations ++ [call]) (attempts ++ [call])
  | twice {operations attempts : List StoreCall} (call : StoreCall)
      (h : Retried operations attempts) : Retried (operations ++ [call]) (attempts ++ [call, call])

namespace Register

/-- One attempt of any operation, by what it answers to the content and what it makes of it. -/
def request (call : StoreCall) (answer : Option TokenSet → α)
    (change : Option TokenSet → Option TokenSet) (r : Register) : Except StoreError α × Register :=
  match attempt call r with
  | (true, r) => (.error plannedFailure, r)
  | (false, r) => (.ok (answer r.content), { r with content := change r.content })

section

variable {call : StoreCall} {answer : Option TokenSet → α}
  {change : Option TokenSet → Option TokenSet} {r : Register}

theorem request_fails (h : r.failures.headD false = true) :
    request call answer change r =
      (.error plannedFailure, ⟨r.content, r.failures.tail, r.calls ++ [call]⟩) := by
  unfold request attempt
  rw [h]

theorem request_succeeds (h : r.failures.headD false = false) :
    request call answer change r =
      (.ok (answer r.content), ⟨change r.content, r.failures.tail, r.calls ++ [call]⟩) := by
  unfold request attempt
  rw [h]

/-- An operation that fails once is done at the second attempt. -/
theorem attemptTwice_request_again (hfirst : r.failures.headD false = true)
    (hsecond : r.failures.tail.headD false = false) :
    attemptTwice (request call answer change) r =
      (.ok (answer r.content),
        ⟨change r.content, r.failures.tail.tail, r.calls ++ [call, call]⟩) := by
  unfold attemptTwice
  rw [request_fails hfirst]
  simp only
  rw [request_succeeds hsecond]
  simp

theorem request_calls (call : StoreCall) (answer : Option TokenSet → α)
    (change : Option TokenSet → Option TokenSet) (r : Register) :
    (request call answer change r).2.calls = r.calls ++ [call] := by
  cases h : r.failures.headD false with
  | false => rw [request_succeeds h]
  | true => rw [request_fails h]

theorem attemptTwice_request_calls (hfirst : r.failures.headD false = true) :
    (attemptTwice (request call answer change) r).2.calls = r.calls ++ [call, call] := by
  unfold attemptTwice
  rw [request_fails hfirst]
  simp only
  split <;> rename_i hsecond <;> rw [← congrArg Prod.snd hsecond, request_calls] <;> simp

/-- Attempts are never taken back. -/
theorem calls_le_attemptTwice (call : StoreCall) (answer : Option TokenSet → α)
    (change : Option TokenSet → Option TokenSet) (r : Register) :
    r.calls.length ≤ (attemptTwice (request call answer change) r).2.calls.length := by
  cases h : r.failures.headD false with
  | false => simp [attemptTwice_of_ok (request_succeeds h)]
  | true => simp [attemptTwice_request_calls h]

theorem calls_le_save (tokens : TokenSet) (r : Register) :
    r.calls.length ≤ (attemptTwice (store.save tokens) r).2.calls.length :=
  calls_le_attemptTwice .save (fun _ => ()) (fun _ => some tokens) r

theorem calls_le_load (r : Register) :
    r.calls.length ≤ (attemptTwice store.load r).2.calls.length :=
  calls_le_attemptTwice .load id id r

theorem calls_le_clear (r : Register) :
    r.calls.length ≤ (attemptTwice store.clear r).2.calls.length :=
  calls_le_attemptTwice .clear (fun _ => ()) (fun _ => none) r

/-- Without planned failures an operation is done at the first attempt. -/
theorem attemptTwice_unplanned (call : StoreCall) (answer : Option TokenSet → α)
    (change : Option TokenSet → Option TokenSet) (h : r.failures = []) :
    attemptTwice (request call answer change) r =
      (.ok (answer r.content), ⟨change r.content, [], r.calls ++ [call]⟩) := by
  rw [attemptTwice_of_ok (request_succeeds (by rw [h]; rfl)), h, List.tail_nil]

theorem save_unplanned (h : r.failures = []) (tokens : TokenSet) :
    attemptTwice (store.save tokens) r = (.ok (), ⟨some tokens, [], r.calls ++ [.save]⟩) :=
  attemptTwice_unplanned .save (fun _ => ()) (fun _ => some tokens) h

theorem load_unplanned (h : r.failures = []) :
    attemptTwice store.load r = (.ok r.content, ⟨r.content, [], r.calls ++ [.load]⟩) :=
  attemptTwice_unplanned .load id id h

theorem clear_unplanned (h : r.failures = []) :
    attemptTwice store.clear r = (.ok (), ⟨none, [], r.calls ++ [.clear]⟩) :=
  attemptTwice_unplanned .clear (fun _ => ()) (fun _ => none) h

end

end Register

/-- The register `r`, part of the way through its plan, and the same without a plan. -/
structure Twin (plan : List Bool) (r r₀ : Register) : Prop where
  content : r.content = r₀.content
  unplanned : r₀.failures = []
  planned : r.failures = plan.drop r.calls.length
  retried : Retried r₀.calls r.calls

theorem twin_start (content : Option TokenSet) (plan : List Bool) :
    Twin plan ⟨content, plan, []⟩ (.holding content) :=
  ⟨rfl, rfl, rfl, .none⟩

namespace Twin

variable {plan : List Bool} {r r₀ : Register}

theorem headD_failures (h : Twin plan r r₀) :
    r.failures.headD false = fails plan r.calls.length := by
  rw [h.planned, List.headD_eq_head?_getD, List.head?_drop, fails]

theorem headD_tail_failures (h : Twin plan r r₀) :
    r.failures.tail.headD false = fails plan (r.calls.length + 1) := by
  rw [h.planned, List.tail_drop, List.headD_eq_head?_getD, List.head?_drop, fails]

/-- **Twins answer alike and stay twins**, unless the operation fails twice. -/
theorem request (h : Twin plan r r₀) (call : StoreCall) (answer : Option TokenSet → α)
    (change : Option TokenSet → Option TokenSet)
    (hspared : Spared plan (attemptTwice (Register.request call answer change) r).2.calls.length) :
    ∃ t t₀, attemptTwice (Register.request call answer change) r = (.ok (answer r.content), t) ∧
      attemptTwice (Register.request call answer change) r₀ = (.ok (answer r.content), t₀) ∧
      Twin plan t t₀ := by
  have htwin := Register.attemptTwice_unplanned call answer change h.unplanned
  rw [← h.content] at htwin
  cases hfirst : r.failures.headD false with
  | false =>
    refine ⟨_, _, attemptTwice_of_ok (Register.request_succeeds hfirst), htwin, rfl, rfl, ?_,
      h.retried.once call⟩
    simp [h.planned]
  | true =>
    have hsecond : r.failures.tail.headD false = false := by
      rw [Register.attemptTwice_request_calls hfirst] at hspared
      rw [h.headD_failures] at hfirst
      rw [h.headD_tail_failures]
      exact hspared _ (by simp) hfirst
    refine ⟨_, _, Register.attemptTwice_request_again hfirst hsecond, htwin, rfl, rfl, ?_,
      h.retried.twice call⟩
    simp [h.planned]

theorem save (h : Twin plan r r₀) (tokens : TokenSet)
    (hspared : Spared plan (attemptTwice (Register.store.save tokens) r).2.calls.length) :
    ∃ t t₀, attemptTwice (Register.store.save tokens) r = (.ok (), t) ∧
      attemptTwice (Register.store.save tokens) r₀ = (.ok (), t₀) ∧ Twin plan t t₀ :=
  h.request .save (fun _ => ()) (fun _ => some tokens) hspared

theorem load (h : Twin plan r r₀)
    (hspared : Spared plan (attemptTwice Register.store.load r).2.calls.length) :
    ∃ t t₀, attemptTwice Register.store.load r = (.ok r.content, t) ∧
      attemptTwice Register.store.load r₀ = (.ok r.content, t₀) ∧ Twin plan t t₀ :=
  h.request .load id id hspared

theorem clear (h : Twin plan r r₀)
    (hspared : Spared plan (attemptTwice Register.store.clear r).2.calls.length) :
    ∃ t t₀, attemptTwice Register.store.clear r = (.ok (), t) ∧
      attemptTwice Register.store.clear r₀ = (.ok (), t₀) ∧ Twin plan t t₀ :=
  h.request .clear (fun _ => ()) (fun _ => none) hspared

end Twin

end RedirectLogin
