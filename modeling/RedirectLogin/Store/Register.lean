import RedirectLogin.Store.Basic

/-!
# The register

A store that holds its token set in memory. Attempts fail as a plan says, leaving the content as it
was, and every attempt is recorded, failed ones included.

Principal results: `save_succeeds` — without a planned failure the register holds what was saved
last.
-/

set_option autoImplicit false

namespace RedirectLogin

inductive StoreCall where
  | save
  | load
  | clear
  deriving DecidableEq, Repr

def StoreCall.label : StoreCall → String
  | .save => "save"
  | .load => "load"
  | .clear => "clear"

structure Register where
  content : Option TokenSet
  /-- Which of the coming attempts fail; those beyond the list succeed. -/
  failures : List Bool
  /-- The attempts so far, the first one first. -/
  calls : List StoreCall
  deriving DecidableEq

namespace Register

/-- A register without planned failures. -/
def holding (content : Option TokenSet) : Register :=
  ⟨content, [], []⟩

/-- Let the next `count` attempts fail, and none after them. -/
def failNext (r : Register) (count : Nat) : Register :=
  { r with failures := List.replicate count true }

/-- Record an attempt and take the plan's next entry. -/
def attempt (call : StoreCall) (r : Register) : Bool × Register :=
  (r.failures.headD false,
   { r with failures := r.failures.tail, calls := r.calls ++ [call] })

def plannedFailure : StoreError :=
  .io (.other "injected failure")

def save (tokens : TokenSet) (r : Register) : Except StoreError Unit × Register :=
  match attempt .save r with
  | (true, r) => (.error plannedFailure, r)
  | (false, r) => (.ok (), { r with content := some tokens })

def load (r : Register) : Except StoreError (Option TokenSet) × Register :=
  match attempt .load r with
  | (true, r) => (.error plannedFailure, r)
  | (false, r) => (.ok r.content, r)

def clear (r : Register) : Except StoreError Unit × Register :=
  match attempt .clear r with
  | (true, r) => (.error plannedFailure, r)
  | (false, r) => (.ok (), { r with content := none })

def store : TokenStore Register where
  name := "memory"
  save := save
  load := load
  clear := clear

theorem save_succeeds {r : Register} (tokens : TokenSet) (h : r.failures.headD false = false) :
    (save tokens r).1 = .ok () ∧ (save tokens r).2.content = some tokens := by
  unfold save attempt
  rw [h]
  exact ⟨rfl, rfl⟩

end Register

end RedirectLogin
