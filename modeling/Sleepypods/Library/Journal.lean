import Sleepypods.Library.Procedure

/-! Journals: procedures that write down what they ask of a world they do not control, newest entry
first. A journal is justified when each entry was allowed by the entries before it. -/

set_option autoImplicit false

namespace Library

open Procedure

structure Journaled (World Event : Type) where
  world : World
  journal : List Event

namespace Journaled

variable {World Event ε δ α β : Type}

def note (event : Event) : Procedure (Journaled World Event) ε Unit := fun state =>
  (.ok (), { state with journal := event :: state.journal })

def call (run : Procedure World ε α) : Procedure (Journaled World Event) ε α := fun state =>
  ((run state.world).1, { state with world := (run state.world).2 })

/-- The entries a procedure adds, whether it succeeds or not, are allowed ones. -/
def Adds (allowed : Event → Prop) (run : Procedure (Journaled World Event) ε α) : Prop :=
  ∀ state, ∃ added, (run state).2.journal = added ++ state.journal ∧ ∀ event ∈ added, allowed event

/-- A request that is written down with its answer, and only when it was answered. -/
def Answers (event : α → Event) (run : Procedure (Journaled World Event) ε α) : Prop :=
  ∀ state,
    match run state with
    | (.ok value, reached) => reached.journal = event value :: state.journal
    | (.error _, reached) => reached.journal = state.journal

def Shows (shown : α → List Event → Prop) (run : Procedure (Journaled World Event) ε α) : Prop :=
  ∀ state value reached, run state = (.ok value, reached) →
    ∃ added, reached.journal = added ++ state.journal ∧ shown value added

namespace Adds

variable {allowed allowed' : Event → Prop} {run : Procedure (Journaled World Event) ε α}

theorem pure (value : α) : Adds allowed (Pure.pure value : Procedure (Journaled World Event) ε α) :=
  fun _ => ⟨[], rfl, nofun⟩

theorem fail (error : ε) :
    Adds allowed (fail error : Procedure (Journaled World Event) ε α) :=
  fun _ => ⟨[], rfl, nofun⟩

theorem ofExcept (result : Except ε α) :
    Adds allowed (Procedure.ofExcept result : Procedure (Journaled World Event) ε α) :=
  fun _ => ⟨[], rfl, nofun⟩

theorem note {event : Event} (allows : allowed event) :
    Adds allowed (Journaled.note event : Procedure (Journaled World Event) ε Unit) := by
  refine fun state => ⟨[event], rfl, fun other member => ?_⟩
  rw [List.mem_singleton.mp member]
  exact allows

theorem call (run : Procedure World ε α) :
    Adds allowed (Journaled.call run : Procedure (Journaled World Event) ε α) :=
  fun _ => ⟨[], rfl, nofun⟩

theorem bind {next : α → Procedure (Journaled World Event) ε β} (first : Adds allowed run)
    (rest : ∀ value, Adds allowed (next value)) : Adds allowed (run >>= next) := by
  intro state
  obtain ⟨added, extended, allows⟩ := first state
  rw [bind_apply]
  cases ran : run state with
  | mk result reached =>
    rw [ran] at extended
    cases result with
    | error => exact ⟨added, extended, allows⟩
    | ok value =>
      obtain ⟨more, continued, allowsMore⟩ := rest value reached
      refine ⟨more ++ added, ?_, fun event member => ?_⟩
      · exact continued.trans (by rw [extended, List.append_assoc])
      · rcases List.mem_append.mp member with recent | earlier
        · exact allowsMore event recent
        · exact allows event earlier

theorem mapError {change : ε → δ} (adds : Adds allowed run) :
    Adds allowed (Procedure.mapError change run) := by
  intro state
  obtain ⟨added, extended, allows⟩ := adds state
  refine ⟨added, ?_, allows⟩
  rw [← extended]
  unfold Procedure.mapError
  cases ran : run state with
  | mk result =>
    cases result with
    | ok | error => rfl

theorem forEach {body : α → Procedure (Journaled World Event) ε Unit} {items : List α}
    (step : ∀ item ∈ items, Adds allowed (body item)) :
    Adds allowed (forEach body items) := by
  induction items with
  | nil => exact .pure ()
  | cons item _ ih =>
    exact (step item List.mem_cons_self).bind fun _ =>
      ih fun other member => step other (List.mem_cons_of_mem _ member)

theorem collect {body : α → Procedure (Journaled World Event) ε β} {items : List α}
    (step : ∀ item ∈ items, Adds allowed (body item)) :
    Adds allowed (collect body items) := by
  induction items with
  | nil => exact .pure []
  | cons item _ ih =>
    refine (step item List.mem_cons_self).bind fun value => ?_
    exact (ih fun other member => step other (List.mem_cons_of_mem _ member)).bind fun _ =>
      .pure _

variable (adds : Adds allowed run)

include adds

theorem attempt :
    Adds allowed (attempt run : Procedure (Journaled World Event) δ (Except ε α)) :=
  adds

theorem retryIf {retryable : ε → Bool} (more : Nat) :
    Adds allowed (retryIf retryable run more) := by
  induction more with
  | zero => exact adds
  | succ _ ih =>
    refine adds.attempt.bind fun result => ?_
    cases result with
    | ok value => exact .pure value
    | error error =>
      dsimp only
      split
      · exact ih
      · exact .fail error

theorem keeps {invariant : List Event → Prop}
    (closed : ∀ event journal, allowed event → invariant journal → invariant (event :: journal)) :
    Procedure.Keeps (fun state => invariant state.journal) run := by
  have kept : ∀ (added journal : List Event), (∀ event ∈ added, allowed event) →
      invariant journal → invariant (added ++ journal) := by
    intro added
    induction added with
    | nil => exact fun _ _ holds => holds
    | cons event _ ih =>
      intro journal allows holds
      exact closed event _ (allows event List.mem_cons_self)
        (ih journal (fun other member => allows other (List.mem_cons_of_mem _ member)) holds)
  intro state holds
  obtain ⟨added, extended, allows⟩ := adds state
  have reaches : invariant (run state).2.journal := by
    rw [extended]
    exact kept added _ allows holds
  cases ran : run state with
  | mk result =>
    rw [ran] at reaches
    cases result with
    | ok | error => exact reaches

end Adds

namespace Answers

variable {event : α → Event} {run : Procedure (Journaled World Event) ε α}

theorem note (value : α) :
    Answers event (do
      Journaled.note (event value)
      return value : Procedure (Journaled World Event) ε α) :=
  fun _ => rfl

theorem after {first : Procedure (Journaled World Event) ε β}
    {next : β → Procedure (Journaled World Event) ε α} (silent : Adds (fun _ => False) first)
    (rest : ∀ value, Answers event (next value)) : Answers event (first >>= next) := by
  intro state
  obtain ⟨added, extended, none⟩ := silent state
  obtain rfl := List.eq_nil_iff_forall_not_mem.mpr none
  rw [bind_apply]
  cases ran : first state with
  | mk result reached =>
    rw [ran] at extended
    cases result with
    | error => exact extended
    | ok value =>
      have answered := rest value reached
      rw [show reached.journal = state.journal from extended] at answered
      exact answered

variable (answers : Answers event run)

include answers

theorem retryIf {retryable : ε → Bool} (more : Nat) :
    Answers event (retryIf retryable run more) := by
  induction more with
  | zero => exact answers
  | succ _ ih =>
    intro state
    have attempted := answers state
    rw [retryIf_succ]
    cases ran : run state with
    | mk result reached =>
      rw [ran] at attempted
      cases result with
      | ok => exact attempted
      | error error =>
        dsimp only
        by_cases again : retryable error = true
        · have retried := ih reached
          rw [show reached.journal = state.journal from attempted] at retried
          rw [if_pos again]
          exact retried
        · rw [if_neg again]
          exact attempted

theorem adds {allowed : Event → Prop} (allows : ∀ value, allowed (event value)) :
    Adds allowed run := by
  intro state
  have answered := answers state
  cases ran : run state with
  | mk result =>
    rw [ran] at answered
    cases result with
    | error => exact ⟨[], answered, nofun⟩
    | ok value =>
      refine ⟨[event value], answered, fun other member => ?_⟩
      rw [List.mem_singleton.mp member]
      exact allows value

theorem shown : Shows (fun value added => added = [event value]) run := by
  intro state value reached ran
  have answered := answers state
  rw [ran] at answered
  exact ⟨[event value], answered, rfl⟩

end Answers

/-! ### Evidence -/

namespace Shows

variable {shown : α → List Event → Prop} {run : Procedure (Journaled World Event) ε α}

theorem pure {value : α} (known : shown value []) :
    Shows shown (Pure.pure value : Procedure (Journaled World Event) ε α) := by
  rintro state _ _ ⟨⟩
  exact ⟨[], rfl, known⟩

theorem ofExcept {result : Except ε α} (known : ∀ value, result = .ok value → shown value []) :
    Shows shown (Procedure.ofExcept result : Procedure (Journaled World Event) ε α) := by
  rintro state value _ ⟨⟩
  exact ⟨[], rfl, known value rfl⟩

variable {next : α → Procedure (Journaled World Event) ε β} {final : β → List Event → Prop}

theorem bind (first : Shows shown run)
    (rest : ∀ value, Shows (fun result added => ∀ earlier, shown value earlier →
      final result (added ++ earlier)) (next value)) : Shows final (run >>= next) := by
  intro state result last ran
  rw [bind_apply] at ran
  cases began : run state with
  | mk answer reached =>
    rw [began] at ran
    cases answer with
    | error => cases ran
    | ok value =>
      obtain ⟨added, extended, known⟩ := first state value reached began
      obtain ⟨more, continued, concludes⟩ := rest value reached result last ran
      refine ⟨more ++ added, ?_, concludes added known⟩
      rw [continued, extended, List.append_assoc]

theorem weaken {shown' : α → List Event → Prop} (known : Shows shown run)
    (concludes : ∀ value added, shown value added → shown' value added) : Shows shown' run := by
  intro state value reached ran
  obtain ⟨added, extended, holds⟩ := known state value reached ran
  exact ⟨added, extended, concludes value added holds⟩

theorem note {event : Event} :
    Shows (fun _ added => added = [event])
      (Journaled.note event : Procedure (Journaled World Event) ε Unit) := by
  rintro state _ _ ⟨⟩
  exact ⟨[event], rfl, rfl⟩

theorem of_silent (silent : Adds (fun _ => False) run) (rest : ∀ value, Shows final (next value)) :
    Shows final (run >>= next) := by
  intro state result last ran
  rw [bind_apply] at ran
  obtain ⟨added, extended, none⟩ := silent state
  obtain rfl := List.eq_nil_iff_forall_not_mem.mpr none
  cases began : run state with
  | mk answer reached =>
    rw [began] at ran extended
    cases answer with
    | error => cases ran
    | ok value =>
      have continued := rest value reached result last ran
      rwa [show reached.journal = state.journal from extended] at continued

theorem of_except {result : Except ε α}
    (rest : ∀ value, result = .ok value → Shows final (next value)) :
    Shows final (Procedure.ofExcept result >>= next) := by
  intro state answer last ran
  rw [bind_apply] at ran
  cases result with
  | error => cases ran
  | ok value => exact rest value rfl state answer last ran

theorem forEach {body : β → Procedure (Journaled World Event) ε Unit} {items : List β}
    {shown : β → List Event → Prop}
    (grows : ∀ item added added', added ⊆ added' → shown item added → shown item added')
    (step : ∀ item ∈ items, Shows (fun _ added => shown item added) (body item)) :
    Shows (fun _ added => ∀ item ∈ items, shown item added) (forEach body items) := by
  induction items with
  | nil => exact .pure nofun
  | cons item _ ih =>
    have shows := ih fun other member => step other (List.mem_cons_of_mem _ member)
    refine (step item List.mem_cons_self).bind fun _ => shows.weaken fun _ added known => ?_
    intro earlier here other member
    rcases List.mem_cons.mp member with rfl | later
    · exact grows other _ _ (List.subset_append_right _ _) here
    · exact grows other _ _ (List.subset_append_left _ _) (known other later)

theorem mapError {change : ε → δ} (shown : Shows shown run) :
    Shows ‹_› (Procedure.mapError change run) := by
  intro state value reached ran
  unfold Procedure.mapError at ran
  cases began : run state with
  | mk answer =>
    rw [began] at ran
    cases answer with
    | error => cases ran
    | ok =>
      cases ran
      exact shown state value reached began

theorem ensures {allowed : Event → Prop} {before failed : List Event → Prop}
    {after : α → List Event → Prop} (known : Shows shown run) (adds : Adds allowed run)
    (returns : ∀ journal value added, before journal → shown value added →
      (∀ event ∈ added, allowed event) → after value (added ++ journal))
    (fails : ∀ journal added, before journal → (∀ event ∈ added, allowed event) →
      failed (added ++ journal)) :
    Procedure.Ensures (fun state => before state.journal) run
      (fun value state => after value state.journal) fun state => failed state.journal := by
  intro state holds
  obtain ⟨added, extended, allows⟩ := adds state
  cases ran : run state with
  | mk result reached =>
    rw [ran] at extended
    have reaches : reached.journal = added ++ state.journal := extended
    cases result with
    | ok value =>
      obtain ⟨entries, continued, shows⟩ := known state value reached ran
      obtain rfl := List.append_cancel_right (continued.symm.trans reaches)
      show after value reached.journal
      rw [reaches]
      exact returns _ value entries holds shows allows
    | error =>
      show failed reached.journal
      rw [reaches]
      exact fails _ added holds allows

end Shows

end Journaled

inductive Justified {Event : Type} (may : Event → List Event → Prop) : List Event → Prop where
  | nil : Justified may []
  | cons {event : Event} {earlier : List Event} (allowed : may event earlier)
      (rest : Justified may earlier) : Justified may (event :: earlier)

namespace Justified

variable {Event : Type} {may : Event → List Event → Prop}

theorem append {added earlier : List Event} (rest : Justified may earlier)
    (allowed : ∀ event ∈ added, ∀ journal, may event journal) :
    Justified may (added ++ earlier) := by
  induction added with
  | nil => exact rest
  | cons event _ ih =>
    exact .cons (allowed event List.mem_cons_self _)
      (ih fun other member => allowed other (List.mem_cons_of_mem _ member))

end Justified

end Library
