import Sleepypods.Lifecycle.EffectBarrier
import Sleepypods.Lifecycle.Schedules

/-! Which work can be claimed again. The claim reads the failure that was recorded last, which is
`uncertain` when it was recorded under an effect marker; removing the marker does not rewrite it. -/

set_option autoImplicit false

namespace Sleepypods.Lifecycle

open Library Library.Fallible Store

theorem beforeUpdate_failureKind (session : Session) (old assigned : MaterializationRow) :
    (beforeUpdate session old assigned).schedule.failureKind = none ∨
      ((beforeUpdate session old assigned).schedule.failureKind = assigned.schedule.failureKind ∧
        (assigned.state = old.state ∨ assigned.state.isWork = false)) := by
  have tracked : (beforeUpdate session old assigned).schedule.failureKind =
      (resetMaterializationSchedule session old assigned).schedule.failureKind := by
    unfold beforeUpdate trackMaterializationStateAge
    dsimp only
    split <;> rfl
  rw [tracked]
  unfold resetMaterializationSchedule
  dsimp only
  split
  · exact .inl rfl
  next unreset =>
    refine .inr ⟨rfl, ?_⟩
    rw [not_or, not_and_or, not_not] at unreset
    rcases unreset.1 with same | other
    · exact .inl same
    · right
      cases state : assigned.state <;> simp_all [MaterializationState.isWork]

theorem uncertain_of_update {session : Session} {old assigned : MaterializationRow}
    (worked : (beforeUpdate session old assigned).state.isWork = true)
    (uncertain : (beforeUpdate session old assigned).schedule.failureKind = some .uncertain)
    (failure : assigned.schedule.failureKind = old.schedule.failureKind ∨
      assigned.schedule.failureKind = none) :
    old.state.isWork = true ∧ old.schedule.failureKind = some .uncertain := by
  rw [beforeUpdate_state] at worked
  rcases beforeUpdate_failureKind session old assigned with cleared | ⟨kept, same | idle⟩
  · rw [cleared] at uncertain
    cases uncertain
  · rw [kept] at uncertain
    rcases failure with unchanged | none
    · exact ⟨same ▸ worked, unchanged ▸ uncertain⟩
    · rw [none] at uncertain
      cases uncertain
  · rw [idle] at worked
    cases worked

theorem RowChange.uncertain {session : Session} {op : Op} {state : State} {id : MaterializationId}
    {row : MaterializationRow} (change : RowChange session op state id row)
    (worked : row.state.isWork = true)
    (uncertain : row.schedule.failureKind = some .uncertain) :
    state.effects id ≠ none ∨
      ∃ old, state.work id = some old ∧ old.state.isWork = true ∧
        old.schedule.failureKind = some .uncertain := by
  cases change with
  | kept found => exact .inr ⟨row, found, worked, uncertain⟩
  | inserted => cases uncertain
  | overwritten found | drained _ found | marked found | claimed _ _ found | renewed found =>
    exact .inr ⟨_, found, uncertain_of_update worked uncertain (.inl rfl)⟩
  | rescheduled found only =>
    exact .inr ⟨_, found, uncertain_of_update worked uncertain only.failure⟩
  | failed found unresolved =>
    rename_i old count kind message
    left
    apply unresolved
    rcases beforeUpdate_failureKind session old (failedRow session count kind message false old)
      with cleared | ⟨recorded, _⟩
    · rw [cleared] at uncertain
      cases uncertain
    · rw [recorded] at uncertain
      exact Option.some.inj uncertain
  | cleanedUp found pending certain =>
    rename_i old count kind message
    rcases beforeUpdate_failureKind session (cleanupRow session old)
      (failedRow session count kind message true (cleanupRow session old))
      with cleared | ⟨recorded, _⟩
    · rw [cleared] at uncertain
      cases uncertain
    · rw [recorded] at uncertain
      exact absurd (Option.some.inj uncertain) certain
  | deleted => cases worked
  | restarted =>
    obtain ⟨idle, _⟩ := uncertain_of_update worked uncertain (.inl rfl)
    cases idle

/-! ### Runs -/

/-- Whether an acknowledgement would remove the marker of work whose failure is uncertain. -/
def acknowledgesUncertain (db : Database) : Op → Bool
  | .acknowledgeEffect request =>
    (db.effects.find? request.materializationId).any request.names &&
      (db.materializations.find? request.materializationId).any fun row =>
        decide (row.schedule.failureKind = some .uncertain)
  | _ => false

/-- Production steps that acknowledge no effect after its failure was recorded. -/
def acknowledgesFirst (label : Session × Op) (db : Database) : Prop :=
  production label ∧ acknowledgesUncertain db label.2 = false

instance (label : Session × Op) (db : Database) : Decidable (acknowledgesFirst label db) :=
  inferInstanceAs (Decidable (_ ∧ _))

def UncertainMarked (state : State) : Prop :=
  ∀ id row, state.work id = some row → row.state.isWork = true →
    row.schedule.failureKind = some .uncertain → state.effects id ≠ none

theorem uncertainMarked_step {session : Session} {op : Op} {db after : Database}
    (wf : WellFormed (view db)) (marked : UncertainMarked (view db))
    (first : acknowledgesFirst (session, op) db) (committed : commit session op db = .ok after) :
    UncertainMarked (view after) := by
  intro id row stored worked uncertain
  have before : (view db).effects id ≠ none := by
    rcases (commit_rowChange wf committed stored).uncertain worked uncertain with
      present | ⟨old, found, oldWorked, oldUncertain⟩
    · exact present
    · exact marked id old found oldWorked oldUncertain
  obtain ⟨marker, present⟩ := Option.ne_none_iff_exists'.mp before
  have step := commit_refines wf.keyed committed
  rcases step.barrier wf first.1 present with ⟨stays, _⟩ | ⟨request, rfl, exactly, _⟩
  · rw [stays]
    exact Option.some_ne_none marker
  · -- The row is not rewritten by the acknowledgement, so it was uncertain before it.
    exfalso
    have found : (view db).work id = some row := by
      obtain ⟨_, acknowledged⟩ := map_snd_eq_ok.mp committed
      rcases acknowledgeEffect_ok acknowledged with ⟨_, rfl⟩ | ⟨_, _, _, _, viewed⟩
      · exact stored
      · rwa [viewed] at stored
    obtain ⟨same, owner, attempt, effectId, generation⟩ := exactly
    have acknowledged : acknowledgesUncertain db (.acknowledgeEffect request) = true := by
      have work : db.materializations.find? request.materializationId = some row := same ▸ found
      have effect : db.effects.find? request.materializationId = some marker := same ▸ present
      simp [acknowledgesUncertain, work, effect, uncertain, AcknowledgeEffectRequest.names, owner,
        attempt, effectId, generation]
    rw [first.2] at acknowledged
    cases acknowledged

theorem uncertainMarked_of_reachable {db : Database}
    (reached : storeSystem.ReachableUnder acknowledgesFirst db) : UncertainMarked (view db) := by
  have both : WellFormed (view db) ∧ UncertainMarked (view db) := by
    apply reached.invariant
    · rintro _ rfl
      exact ⟨wellFormed_empty, fun id row found => by cases found⟩
    · intro label db next first held committed
      exact ⟨(commit_refines held.1.keyed committed).wellFormed held.1,
        uncertainMarked_step held.1 held.2 first committed⟩
  exact both.2

/-- In every run that acknowledges no effect after its failure was recorded, work without a marker
and without a live lease is claimable as soon as its times have passed, unless its failure was
permanent or ran out of time. -/
theorem resolved_work_is_claimable {db : Database} {id : MaterializationId}
    {row : MaterializationRow} {session : Session}
    (reached : storeSystem.ReachableUnder acknowledgesFirst db)
    (found : db.materializations.find? id = some row) (resolved : db.effects.find? id = none)
    (worked : row.state.isWork = true)
    (recoverable : row.schedule.failureKind ≠ some .permanent ∧
      row.schedule.failureKind ≠ some .deadline)
    (unleased : row.unleased session.now = true)
    (due : row.schedule.nextAttemptAt ≤ session.now)
    (drained : row.schedule.drainNotBefore ≤ session.now) :
    row.claimable session.now = true ∧
      ∀ request after, request.materializationId = id →
        claimMaterializationReconciliation session request db ≠ .ok (none, after) := by
  have certain : row.schedule.failureKind ≠ some .uncertain := by
    intro uncertain
    exact uncertainMarked_of_reachable reached id row found worked uncertain resolved
  have claimable : row.claimable session.now = true := by
    have retried : row.schedule.failureKind = none ∨ row.schedule.failureKind = some .transient := by
      cases kind : row.schedule.failureKind with
      | none => exact .inl rfl
      | some failure => cases failure <;> simp_all
    simp only [MaterializationRow.claimable, worked, unleased, due, drained, Bool.and_eq_true,
      Bool.or_eq_true, decide_eq_true_eq, and_true, true_and]
    exact .inl retried
  refine ⟨claimable, ?_⟩
  rintro request after rfl claimed
  simp only [claimMaterializationReconciliation, found, resolved, claimable, Option.filter,
    Option.isNone_none, Bool.and_self, if_true, bind_eq_ok, pure_eq_ok, Prod.mk.injEq] at claimed
  obtain ⟨_, _, _, _, _, _, returned, _⟩ := claimed
  cases returned

/-! A failure recorded before the late acknowledgement of its effect. -/

namespace Sample

open Store.Sample

def failApply : RecordFailureRequest where
  expectedState := .pending
  materializationId := work
  owner := controller
  attempt := 1
  generation := 1
  permanent := false
  message := "timed out"

def acknowledgeApply : AcknowledgeEffectRequest where
  instanceGeneration := 1
  effectId := 1
  materializationId := work
  owner := controller
  attempt := 1

def lateAcknowledgement : List (Session × Op) :=
  applying ++ [(session 4, .recordFailure failApply), (session 5, .acknowledgeEffect acknowledgeApply)]

/-- The work is pending and neither marked nor leased, its times have passed, and still a claim
finds nothing. -/
def stranded (db : Database) : Bool :=
  (db.materializations.find? work).any (fun row =>
    row.state.isWork && row.unleased 100000 && decide (row.schedule.nextAttemptAt ≤ 100000) &&
      decide (row.schedule.drainNotBefore ≤ 100000) &&
      decide (row.schedule.failureKind = some .uncertain)) &&
    decide (db.effects.find? work = none) &&
    (match claimMaterializationReconciliation (session 100000) claimWork db with
    | .ok (none, _) => true
    | _ => false)

end Sample

theorem late_acknowledgement_strands_work :
    ∃ db, storeSystem.Reachable production db ∧ Sample.stranded db = true :=
  exists_reachable_of_runOps Sample.lateAcknowledgement Sample.stranded (by decide) (by decide)

theorem sample_resolved_work_is_claimable :
    ∃ db row, storeSystem.ReachableUnder acknowledgesFirst db ∧
      db.materializations.find? Store.Sample.work = some row ∧
      row.claimable (Store.Sample.session 5).now = true := by
  have run : ∃ db, storeSystem.ReachableUnder acknowledgesFirst db ∧
      (decide (db.effects.find? Store.Sample.work = none) &&
        (db.materializations.find? Store.Sample.work).any fun row =>
          row.state.isWork && row.unleased 5 && decide (row.schedule.nextAttemptAt ≤ 5) &&
            decide (row.schedule.drainNotBefore ≤ 5) &&
            decide (row.schedule.failureKind = none)) = true :=
    TransitionSystem.exists_reachableUnder_of_run execute_step rfl Store.Sample.waking _ (by decide)
  obtain ⟨db, reached, ready⟩ := run
  rw [Bool.and_eq_true, decide_eq_true_eq, Option.any_eq_true] at ready
  obtain ⟨resolved, row, found, ready⟩ := ready
  simp only [Bool.and_eq_true, decide_eq_true_eq] at ready
  obtain ⟨⟨⟨⟨worked, unleased⟩, due⟩, drained⟩, failure⟩ := ready
  exact ⟨db, row, reached, found, (resolved_work_is_claimable reached found resolved worked
    (by rw [failure]; decide) unleased due drained).1⟩

end Sleepypods.Lifecycle
