import Mathlib

/-! Procedures: stateful code that may fail, and leaves behind the state it reached when it does,
with rules of pre- and postconditions for it. -/

set_option autoImplicit false

namespace Library

def Procedure (σ ε α : Type) : Type := σ → Except ε α × σ

namespace Procedure

variable {σ ε δ α β : Type}

instance : Monad (Procedure σ ε) where
  pure value state := (.ok value, state)
  bind first next state :=
    match first state with
    | (.ok value, reached) => next value reached
    | (.error error, reached) => (.error error, reached)

theorem bind_apply (first : Procedure σ ε α) (next : α → Procedure σ ε β) (state : σ) :
    (first >>= next) state =
      match first state with
      | (.ok value, reached) => next value reached
      | (.error error, reached) => (.error error, reached) := rfl

def fail (error : ε) : Procedure σ ε α := fun state => (.error error, state)

def ofExcept (result : Except ε α) : Procedure σ ε α := fun state => (result, state)

def mapError (change : ε → δ) (run : Procedure σ ε α) : Procedure σ δ α := fun state =>
  match run state with
  | (.ok value, reached) => (.ok value, reached)
  | (.error error, reached) => (.error (change error), reached)

def forEach (body : α → Procedure σ ε Unit) : List α → Procedure σ ε Unit
  | [] => pure ()
  | item :: rest => do
      body item
      forEach body rest

def collect (body : α → Procedure σ ε β) : List α → Procedure σ ε (List β)
  | [] => pure []
  | item :: rest => do
      let value ← body item
      let values ← collect body rest
      return value :: values

def attempt (run : Procedure σ ε α) : Procedure σ δ (Except ε α) := fun state =>
  (.ok (run state).1, (run state).2)

/-- Run again after a retryable error, `more` times at most. -/
def retryIf (retryable : ε → Bool) (run : Procedure σ ε α) : Nat → Procedure σ ε α
  | 0 => run
  | more + 1 => do
      match ← attempt run with
      | .ok value => pure value
      | .error error => if retryable error then retryIf retryable run more else fail error

theorem retryIf_succ (retryable : ε → Bool) (run : Procedure σ ε α) (more : Nat) (state : σ) :
    retryIf retryable run (more + 1) state =
      match run state with
      | (.ok value, reached) => (.ok value, reached)
      | (.error error, reached) =>
        if retryable error then retryIf retryable run more reached else (.error error, reached) := by
  rw [retryIf, bind_apply]
  unfold attempt
  cases run state with
  | mk result =>
    cases result with
    | ok => rfl
    | error =>
      dsimp only
      split <;> rfl

/-- From a state with the precondition, a success reaches a state with the postcondition and a
failure one with the condition for failures. -/
def Ensures (before : σ → Prop) (run : Procedure σ ε α) (after : α → σ → Prop)
    (failed : σ → Prop) : Prop :=
  ∀ state, before state →
    match run state with
    | (.ok value, reached) => after value reached
    | (.error _, reached) => failed reached

namespace Ensures

variable {before failed : σ → Prop} {run : Procedure σ ε α} {after : α → σ → Prop}

theorem weaken {before' failed' : σ → Prop} {after' : α → σ → Prop}
    (ensures : Ensures before run after failed) (assumes : ∀ state, before' state → before state)
    (concludes : ∀ value state, after value state → after' value state)
    (fails : ∀ state, failed state → failed' state) : Ensures before' run after' failed' := by
  intro state holds
  have reaches := ensures state (assumes state holds)
  cases ran : run state with
  | mk result reached =>
    rw [ran] at reaches
    cases result with
    | ok value => exact concludes value reached reaches
    | error => exact fails reached reaches

theorem pure {value : α} (known : ∀ state, before state → after value state) :
    Ensures before (Pure.pure value : Procedure σ ε α) after failed :=
  known

theorem fail {error : ε} (known : ∀ state, before state → failed state) :
    Ensures before (Procedure.fail error : Procedure σ ε α) after failed :=
  known

theorem bind {next : α → Procedure σ ε β} {final : β → σ → Prop}
    (first : Ensures before run after failed)
    (rest : ∀ value, Ensures (after value) (next value) final failed) :
    Ensures before (run >>= next) final failed := by
  intro state holds
  have reaches := first state holds
  rw [bind_apply]
  cases ran : run state with
  | mk result reached =>
    rw [ran] at reaches
    cases result with
    | ok value => exact rest value reached reaches
    | error => exact reaches

theorem of_except {result : Except ε α} {next : α → Procedure σ ε β} {final : β → σ → Prop}
    (rest : ∀ value, result = .ok value → Ensures before (next value) final failed)
    (fails : ∀ state, before state → failed state) :
    Ensures before (Procedure.ofExcept result >>= next) final failed := by
  intro state holds
  rw [bind_apply]
  cases result with
  | ok value => exact rest value rfl state holds
  | error => exact fails state holds

theorem mapError {change : ε → δ} (ensures : Ensures before run after failed) :
    Ensures before (Procedure.mapError change run) after failed := by
  intro state holds
  have reaches := ensures state holds
  unfold Procedure.mapError
  cases ran : run state with
  | mk result =>
    rw [ran] at reaches
    cases result with
    | ok | error => exact reaches

end Ensures

def Keeps (invariant : σ → Prop) (run : Procedure σ ε α) : Prop :=
  Ensures invariant run (fun _ => invariant) invariant

namespace Keeps

variable {invariant : σ → Prop} {run : Procedure σ ε α}

theorem pure (value : α) : Keeps invariant (Pure.pure value : Procedure σ ε α) :=
  Ensures.pure fun _ holds => holds

theorem fail (error : ε) : Keeps invariant (Procedure.fail error : Procedure σ ε α) :=
  Ensures.fail fun _ holds => holds

theorem ofExcept (result : Except ε α) :
    Keeps invariant (Procedure.ofExcept result : Procedure σ ε α) := by
  intro state holds
  cases result with
  | ok | error => exact holds

theorem bind {next : α → Procedure σ ε β} (first : Keeps invariant run)
    (rest : ∀ value, Keeps invariant (next value)) : Keeps invariant (run >>= next) :=
  Ensures.bind first rest

theorem mapError {change : ε → δ} (keeps : Keeps invariant run) :
    Keeps invariant (Procedure.mapError change run) :=
  Ensures.mapError keeps

theorem forEach {body : α → Procedure σ ε Unit} {items : List α}
    (step : ∀ item ∈ items, Keeps invariant (body item)) :
    Keeps invariant (Procedure.forEach body items) := by
  induction items with
  | nil => exact .pure ()
  | cons item _ ih =>
    exact (step item List.mem_cons_self).bind fun _ =>
      ih fun other member => step other (List.mem_cons_of_mem _ member)

end Keeps

end Procedure

end Library
