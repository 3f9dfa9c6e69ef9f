import Sleepypods.Frontline.Moves

/-! The bookkeeping behind an observation: what happened to a subscription while an operation was
in flight is remembered until the operation is joined. -/

set_option autoImplicit false

namespace Sleepypods.Frontline

open Library RouteObservations

namespace RouteObservations

def Covers (observations : RouteObservations) (observation : RouteObservation) : Prop :=
  observations.active.find? observation.id = some observation.sequence ∧
    observation.sequence ≤ observations.sequence

variable {observations : RouteObservations} {observation : RouteObservation}

theorem isValid_eq_true {id : Option SubscriptionId} :
    observations.isValid observation id = true ↔
      observation.streamEpoch = observations.streamEpoch ∧
        ∀ subscription sequence, id = some subscription →
          observations.subscriptions.find? subscription = some sequence →
          sequence ≤ observation.sequence := by
  simp only [isValid, Bool.and_eq_true, decide_eq_true_eq, Bool.not_eq_true', Option.any_eq_false,
    Nat.not_lt, decide_eq_false_iff_not]
  constructor
  · rintro ⟨epoch, seen⟩
    exact ⟨epoch, fun subscription sequence same stored =>
      Nat.not_lt.mp (by simpa using seen subscription same sequence stored)⟩
  · rintro ⟨epoch, seen⟩
    refine ⟨epoch, fun subscription same => ?_⟩
    simpa using fun sequence stored => seen subscription sequence same stored

theorem covers_begin (observations : RouteObservations) :
    observations.begin.1.Covers observations.begin.2 := by
  refine ⟨?_, Nat.le_refl _⟩
  simp only [begin, Table.find?_insert, Function.update_self]

section

variable (covers : observations.Covers observation)

include covers

theorem Covers.begin (older : observation.id ≤ observations.nextId) :
    observations.begin.1.Covers observation := by
  refine ⟨?_, covers.2⟩
  simp only [RouteObservations.begin, Table.find?_insert]
  rw [Function.update_of_ne (Nat.ne_of_lt (Nat.lt_succ_of_le older))]
  exact covers.1

theorem Covers.record {recorded : RouteObservations} {id : SubscriptionId}
    (accepted : observations.record id = some recorded) : recorded.Covers observation := by
  rcases record_eq_some accepted with ⟨_, rfl⟩ | rfl
  · exact covers
  · exact ⟨covers.1, Nat.le_succ_of_le covers.2⟩

theorem Covers.finish {other : RouteObservation} (different : observation.id ≠ other.id)
    (id : Option SubscriptionId) : (observations.finish other id).1.Covers observation := by
  refine ⟨?_, covers.2⟩
  simp only [RouteObservations.finish, Table.find?_erase, Function.update_of_ne different]
  exact covers.1

theorem Covers.oldest_le : observations.oldest ≤ observation.sequence := by
  unfold oldest
  have member : observation.sequence ∈ observations.active.entries.map Prod.snd :=
    List.mem_map.mpr ⟨_, Table.find?_eq_some.mp covers.1, rfl⟩
  exact List.min?_getD_le_of_mem member

end

variable {id : Option SubscriptionId}

theorem Covers.isValid_of_record (covers : observations.Covers observation)
    {recorded : RouteObservations} {other : SubscriptionId}
    (accepted : observations.record other = some recorded)
    (valid : recorded.isValid observation id = true) :
    observations.isValid observation id = true := by
  rcases record_eq_some accepted with ⟨_, rfl⟩ | rfl
  · exact valid
  · rw [isValid_eq_true] at valid ⊢
    refine ⟨valid.1, fun subscription sequence same stored => ?_⟩
    by_cases recordedNow : subscription = other
    · -- The new row is later than the observation, so it could not have been valid.
      have late := valid.2 subscription (observations.sequence + 1) same (by
        simp only [Table.find?_insert, recordedNow, Function.update_self])
      exact absurd (Nat.lt_of_lt_of_le (Nat.lt_succ_self _) (Nat.le_trans late covers.2))
        (Nat.lt_irrefl _)
    · refine valid.2 subscription sequence same ?_
      simp only [Table.find?_insert, Function.update_of_ne recordedNow]
      exact stored

theorem Covers.isValid_of_finish (covers : observations.Covers observation)
    {other : RouteObservation} (different : observation.id ≠ other.id)
    {finished : Option SubscriptionId}
    (valid : (observations.finish other finished).1.isValid observation id = true) :
    observations.isValid observation id = true := by
  rw [isValid_eq_true] at valid ⊢
  refine ⟨valid.1, fun subscription sequence same stored => ?_⟩
  by_contra later
  refine later (valid.2 subscription sequence same ?_)
  -- A row the observation depends on is younger than the oldest active observation.
  have kept := covers.finish different finished
  have oldest := kept.oldest_le
  simp only [RouteObservations.finish, Table.find?_filterRows, stored]
  exact Option.filter_eq_some_iff.mpr
    ⟨rfl, decide_eq_true (Nat.lt_of_le_of_lt oldest (Nat.not_le.mp later))⟩

end RouteObservations

/-! ### Moves -/

inductive Bookkeeping (actor next : Actor) : Prop where
  | idle (observations : next.observations = actor.observations) (tasks : next.tasks = actor.tasks)
  | cross (epoch : next.observations.streamEpoch = actor.observations.streamEpoch + 1)
      (nextId : next.observations.nextId = actor.observations.nextId)
      (tasks : next.tasks = actor.tasks)
  | record (id : SubscriptionId)
      (observations : actor.observations.record id = some next.observations)
      (tasks : next.tasks = actor.tasks)
  | start (task : PendingRoute) (observed : task.observation = actor.observations.begin.2)
      (observations : next.observations = actor.observations.begin.1)
      (tasks : next.tasks = actor.tasks ++ [task])
  | finish (task : PendingRoute) (id : Option SubscriptionId) (member : task ∈ actor.tasks)
      (observations : next.observations = (actor.observations.finish task.observation id).1)
      (tasks : next.tasks = actor.tasks.erase task)

theorem Move.bookkeeping {permits : Permit} {actor next : Actor} (move : Move permits actor next) :
    Bookkeeping actor next := by
  cases move with
  | release _ observations tasks => exact .idle observations tasks
  | lose _ observations tasks =>
    exact .cross (by rw [observations]; rfl) (by rw [observations]; rfl) tasks
  | rotate _ _ observations tasks =>
    exact .cross (by rw [observations]; rfl) (by rw [observations]; rfl) tasks
  | record id _ observations tasks => exact .record id observations tasks
  | update _ _ _ _ observations tasks => exact .idle observations tasks
  | start task observed _ _ observations tasks =>
    exact .start task observed observations tasks
  | finish task id member _ observations tasks =>
    exact .finish task id member observations tasks
  | answer task identity message requestId now member requested validated valid permitted cache
      observations tasks requests => exact .finish task _ member observations tasks
  | wake entry _ _ _ _ member _ _ observations tasks =>
    exact .finish _ entry.subscriptionId member observations tasks

/-- Every operation in flight on the present stream is covered by an observation of its own. -/
structure Tracked (actor : Actor) : Prop where
  past : ∀ task ∈ actor.tasks,
    task.observation.streamEpoch ≤ actor.observations.streamEpoch ∧
      task.observation.id ≤ actor.observations.nextId
  distinct : (actor.tasks.map fun task => task.observation.id).Nodup
  covered : ∀ task ∈ actor.tasks,
    task.observation.streamEpoch = actor.observations.streamEpoch →
    actor.observations.Covers task.observation

namespace Tracked

variable {actor next : Actor}

theorem start (capacity : Nat) : Tracked (.start capacity) where
  past := fun _ member => absurd member List.not_mem_nil
  distinct := List.nodup_nil
  covered := fun _ member => absurd member List.not_mem_nil

variable (tracked : Tracked actor)

include tracked

/-- Operations that stay in flight have observations other than the joined one. -/
theorem id_ne {task other : PendingRoute} (member : task ∈ actor.tasks)
    (remains : other ∈ actor.tasks.erase task) : other.observation.id ≠ task.observation.id := by
  have tasksNodup : actor.tasks.Nodup := tracked.distinct.of_map _
  obtain ⟨different, stays⟩ := tasksNodup.mem_erase_iff.mp remains
  exact fun same => different (List.inj_on_of_nodup_map tracked.distinct stays member same)

theorem bookkeeping (change : Bookkeeping actor next) : Tracked next := by
  cases change with
  | idle observations tasks =>
    constructor <;> rw [tasks]
    · rw [observations]
      exact tracked.past
    · exact tracked.distinct
    · rw [observations]
      exact tracked.covered
  | cross epoch nextId tasks =>
    constructor <;> rw [tasks]
    · intro task member
      obtain ⟨before, older⟩ := tracked.past task member
      exact ⟨by omega, nextId ▸ older⟩
    · exact tracked.distinct
    · -- Nothing in flight belongs to the new stream.
      intro task member now
      have before := (tracked.past task member).1
      omega
  | record _ observations tasks =>
    have epoch := streamEpoch_record observations
    have nextId := nextId_record observations
    constructor <;> rw [tasks]
    · rw [epoch, nextId]
      exact tracked.past
    · exact tracked.distinct
    · rw [epoch]
      exact fun task member now => (tracked.covered task member now).record observations
  | start task observed observations tasks =>
    constructor <;> rw [tasks]
    · rw [observations]
      intro other member
      rcases List.mem_append.mp member with before | new
      · obtain ⟨epoch, older⟩ := tracked.past other before
        exact ⟨epoch, Nat.le_succ_of_le older⟩
      · rw [List.mem_singleton.mp new, observed]
        exact ⟨Nat.le_refl _, Nat.le_refl _⟩
    · rw [List.map_append, List.nodup_append]
      refine ⟨tracked.distinct, List.nodup_singleton _, ?_⟩
      rintro id before _ new rfl
      obtain ⟨other, member, rfl⟩ := List.mem_map.mp before
      have older := (tracked.past other member).2
      have same : other.observation.id = task.observation.id := List.mem_singleton.mp new
      rw [same, observed] at older
      exact absurd older (Nat.not_succ_le_self _)
    · rw [observations]
      intro other member now
      rcases List.mem_append.mp member with before | new
      · exact (tracked.covered other before now).begin (tracked.past other before).2
      · rw [List.mem_singleton.mp new, observed]
        exact covers_begin _
  | finish _ id member observations tasks =>
    constructor <;> rw [tasks]
    · rw [observations]
      exact fun other remains => tracked.past other (List.mem_of_mem_erase remains)
    · exact tracked.distinct.sublist (List.erase_sublist.map _)
    · rw [observations]
      exact fun other remains now =>
        (tracked.covered other (List.mem_of_mem_erase remains) now).finish
          (tracked.id_ne member remains) id

theorem isValid_before (change : Bookkeeping actor next) {task : PendingRoute}
    (before : task ∈ actor.tasks) (after : task ∈ next.tasks) {id : Option SubscriptionId}
    (valid : next.observations.isValid task.observation id = true) :
    actor.observations.isValid task.observation id = true := by
  have epoch := streamEpoch_of_isValid valid
  cases change with
  | idle observations => exact observations ▸ valid
  | cross next nextId tasks =>
    have past := (tracked.past task before).1
    omega
  | record _ observations =>
    rw [streamEpoch_record observations] at epoch
    exact (tracked.covered task before epoch).isValid_of_record observations valid
  | start _ _ observations =>
    rw [observations] at valid
    exact valid
  | finish _ _ member observations tasks =>
    rw [observations] at epoch valid
    rw [tasks] at after
    exact (tracked.covered task before epoch).isValid_of_finish (tracked.id_ne member after) valid

end Tracked

end Sleepypods.Frontline
