import Mathlib

/-! Labelled transition systems: paths made of allowed steps, reachable states, and the rules
that lift what one step preserves to whole runs. -/

set_option autoImplicit false

namespace Library

/-- A set of initial states and a step relation whose labels say what happened. -/
structure TransitionSystem (State Label : Type) where
  initial : State → Prop
  step : Label → State → State → Prop

namespace TransitionSystem

variable {State Label : Type} (sys : TransitionSystem State Label)

def Next (allowed : Label → Prop) (state next : State) : Prop :=
  ∃ label, allowed label ∧ sys.step label state next

def Path (allowed : Label → Prop) : State → State → Prop :=
  Relation.ReflTransGen (sys.Next allowed)

def Reachable (allowed : Label → Prop) (state : State) : Prop :=
  ∃ start, sys.initial start ∧ sys.Path allowed start state

variable {sys} {allowed permitted : Label → Prop}

theorem Reachable.init {state : State} (initial : sys.initial state) :
    sys.Reachable allowed state :=
  ⟨state, initial, .refl⟩

theorem Reachable.path {state next : State} (reachable : sys.Reachable allowed state)
    (path : sys.Path allowed state next) : sys.Reachable allowed next := by
  obtain ⟨start, initial, reached⟩ := reachable
  exact ⟨start, initial, reached.trans path⟩

theorem Reachable.step {state next : State} {label : Label}
    (reachable : sys.Reachable allowed state) (allows : allowed label)
    (stepped : sys.step label state next) : sys.Reachable allowed next :=
  reachable.path (.single ⟨label, allows, stepped⟩)

theorem Path.mono {state next : State} (widens : ∀ label, allowed label → permitted label)
    (path : sys.Path allowed state next) : sys.Path permitted state next :=
  Relation.ReflTransGen.mono
    (fun _ _ ⟨label, allows, stepped⟩ => ⟨label, widens label allows, stepped⟩) _ _ path

theorem Path.preserves {holds : State → Prop}
    (stepPreserves : ∀ label state next, allowed label → holds state →
      sys.step label state next → holds next)
    {state next : State} (path : sys.Path allowed state next) (held : holds state) :
    holds next := by
  induction path with
  | refl => exact held
  | tail _ last ih =>
    obtain ⟨label, allows, stepped⟩ := last
    exact stepPreserves label _ _ allows ih stepped

/-- An invariant of the initial states and of every allowed step holds in every reachable
state. -/
theorem Reachable.invariant {holds : State → Prop}
    (initially : ∀ state, sys.initial state → holds state)
    (stepPreserves : ∀ label state next, allowed label → holds state →
      sys.step label state next → holds next)
    {state : State} (reachable : sys.Reachable allowed state) : holds state := by
  obtain ⟨start, initial, path⟩ := reachable
  exact path.preserves stepPreserves (initially start initial)

variable {condition : Label → State → Prop}

def restrict (sys : TransitionSystem State Label) (condition : Label → State → Prop) :
    TransitionSystem State Label where
  initial := sys.initial
  step label state next := condition label state ∧ sys.step label state next

def ReachableUnder (sys : TransitionSystem State Label) (condition : Label → State → Prop) :
    State → Prop :=
  (sys.restrict condition).Reachable fun _ => True

theorem ReachableUnder.invariant {holds : State → Prop}
    (initially : ∀ state, sys.initial state → holds state)
    (stepPreserves : ∀ label state next, condition label state → holds state →
      sys.step label state next → holds next)
    {state : State} (reachable : sys.ReachableUnder condition state) : holds state := by
  obtain ⟨start, initial, path⟩ := reachable
  refine path.preserves ?_ (initially start initial)
  rintro label state next _ held ⟨met, stepped⟩
  exact stepPreserves label state next met held stepped

/-- Execute labels one after the other, as long as they meet the condition. -/
def runUnder (exec : Label → State → Option State) (condition : Label → State → Prop)
    [∀ label state, Decidable (condition label state)] : List Label → State → Option State
  | [], state => some state
  | label :: rest, state =>
    if condition label state then (exec label state).bind (runUnder exec condition rest) else none

theorem ReachableUnder.run {exec : Label → State → Option State}
    [∀ label state, Decidable (condition label state)]
    (executes : ∀ label state next, exec label state = some next → sys.step label state next)
    {labels : List Label} {state final : State} (reached : sys.ReachableUnder condition state)
    (ran : runUnder exec condition labels state = some final) :
    sys.ReachableUnder condition final := by
  induction labels generalizing state with
  | nil =>
    cases ran
    exact reached
  | cons label _ ih =>
    unfold runUnder at ran
    split at ran
    next met =>
      obtain ⟨next, stepped, ran⟩ := Option.bind_eq_some_iff.mp ran
      exact ih (Reachable.step reached trivial ⟨met, executes label state next stepped⟩) ran
    · cases ran

theorem exists_reachableUnder_of_run {exec : Label → State → Option State}
    [∀ label state, Decidable (condition label state)]
    (executes : ∀ label state next, exec label state = some next → sys.step label state next)
    {start : State} (initial : sys.initial start) (labels : List Label) (test : State → Bool)
    (passes : (runUnder exec condition labels start).any test = true) :
    ∃ state, sys.ReachableUnder condition state ∧ test state = true := by
  cases ran : runUnder exec condition labels start with
  | none =>
    rw [ran] at passes
    cases passes
  | some state =>
    rw [ran] at passes
    exact ⟨state, ReachableUnder.run executes (Reachable.init initial) ran, passes⟩

theorem ReachableUnder.reachable {state : State} (reached : sys.ReachableUnder condition state) :
    sys.Reachable (fun _ => True) state := by
  obtain ⟨start, initial, path⟩ := reached
  refine ⟨start, initial, Relation.ReflTransGen.mono ?_ _ _ path⟩
  rintro _ _ ⟨label, allows, _, stepped⟩
  exact ⟨label, allows, stepped⟩

end TransitionSystem

end Library
