import Sleepypods.Frontline.Tracking

/-! The bounded history of observed subscriptions answers as the full history would, whatever was
pruned from it and when. -/

set_option autoImplicit false

namespace Sleepypods.Frontline

open Library RouteObservations

inductive Occurrence where
  | begun (observation : RouteObservation)
  | recorded (id : SubscriptionId)
  | rotated
  | lost
  deriving DecidableEq

/-- The operations on the observations. The code prunes with every `finish`. -/
inductive Operation where
  | begin
  | record (id : SubscriptionId)
  | finish (observation : RouteObservation) (id : Option SubscriptionId) (prunes : Bool)
  | rotate
  | reset

def Operation.Prunes : Operation → Prop
  | .finish _ _ prunes => prunes = true
  | _ => True

/-- `finish` without its pruning. -/
def RouteObservations.release (observations : RouteObservations) (observation : RouteObservation) :
    RouteObservations :=
  { observations with active := observations.active.erase observation.id }

namespace Correlation

variable {observation : RouteObservation} {history : List Occurrence}

def since (observation : RouteObservation) (history : List Occurrence) : List Occurrence :=
  history.takeWhile fun occurrence => decide (occurrence ≠ .begun observation)

def Crossed (observation : RouteObservation) (history : List Occurrence) : Prop :=
  .rotated ∈ since observation history ∨ .lost ∈ since observation history

theorem since_begun : since observation (.begun observation :: history) = [] :=
  List.takeWhile_cons_of_neg (by simp)

theorem since_cons {occurrence : Occurrence} (differs : occurrence ≠ .begun observation) :
    since observation (occurrence :: history) = occurrence :: since observation history :=
  List.takeWhile_cons_of_pos (decide_eq_true differs)

end Correlation

/-- The observations, those that are outstanding, and everything that happened. -/
structure Correlation where
  observations : RouteObservations
  outstanding : List RouteObservation
  history : List Occurrence

namespace Correlation

variable {state next : Correlation} {observation : RouteObservation} {id : SubscriptionId}

def begin (state : Correlation) : Correlation where
  observations := state.observations.begin.1
  outstanding := state.observations.begin.2 :: state.outstanding
  history := .begun state.observations.begin.2 :: state.history

def record (state : Correlation) (id : SubscriptionId) (recorded : RouteObservations) :
    Correlation :=
  { state with observations := recorded, history := .recorded id :: state.history }

def finish (state : Correlation) (observation : RouteObservation) (id : Option SubscriptionId)
    (prunes : Bool) : Correlation :=
  { state with
    observations :=
      if prunes then (state.observations.finish observation id).1
      else state.observations.release observation
    outstanding := state.outstanding.erase observation }

def rotate (state : Correlation) : Correlation :=
  { state with observations := state.observations.rotate, history := .rotated :: state.history }

def reset (state : Correlation) : Correlation :=
  { state with observations := state.observations.reset, history := .lost :: state.history }

inductive Step : Operation → Correlation → Correlation → Prop where
  | begin {state : Correlation} : Step .begin state state.begin
  | record {state : Correlation} {id : SubscriptionId} {recorded : RouteObservations}
      (accepted : state.observations.record id = some recorded) :
      Step (.record id) state (state.record id recorded)
  | refuse {state : Correlation} {id : SubscriptionId}
      (refused : state.observations.record id = none) : Step (.record id) state state
  | finish {state : Correlation} {observation : RouteObservation} {id : Option SubscriptionId}
      {prunes : Bool} (member : observation ∈ state.outstanding) :
      Step (.finish observation id prunes) state (state.finish observation id prunes)
  | rotate {state : Correlation} : Step .rotate state state.rotate
  | reset {state : Correlation} : Step .reset state state.reset

/-! ### Exactness -/

structure Follows (observations : RouteObservations) (history : List Occurrence)
    (observation : RouteObservation) : Prop where
  numbered : observation.id ≤ observations.nextId
  epoch : observation.streamEpoch ≤ observations.streamEpoch
  current : observation.streamEpoch = observations.streamEpoch ↔ ¬ Crossed observation history
  lossy : observation.streamEpoch < observations.lossyFrom ↔ .lost ∈ since observation history
  covered : observation.streamEpoch = observations.streamEpoch → observations.Covers observation
  recorded : observation.streamEpoch = observations.streamEpoch → ∀ id,
    (∃ sequence, observations.subscriptions.find? id = some sequence ∧
      observation.sequence < sequence) ↔ .recorded id ∈ since observation history

structure Exact (state : Correlation) : Prop where
  follows : ∀ observation ∈ state.outstanding,
    Follows state.observations state.history observation
  distinct : (state.outstanding.map RouteObservation.id).Nodup
  lossyFrom : state.observations.lossyFrom ≤ state.observations.streamEpoch
  stamped : ∀ id sequence, state.observations.subscriptions.find? id = some sequence →
    sequence ≤ state.observations.sequence

theorem Exact.begin (exact : Exact state) : Exact state.begin := by
  unfold Correlation.begin
  have older : ∀ observation ∈ state.outstanding, observation.id ≠ state.observations.begin.2.id :=
    fun observation member => Nat.ne_of_lt (Nat.lt_succ_of_le (exact.follows _ member).numbered)
  constructor
  case follows =>
    intro observation member
    cases List.mem_cons.mp member with
    | inl new =>
      subst new
      constructor
      case numbered => exact Nat.le_refl _
      case epoch => exact Nat.le_refl _
      case current => simp [Crossed, since_begun, RouteObservations.begin]
      case lossy => simpa [since_begun, RouteObservations.begin] using exact.lossyFrom
      case covered => exact fun _ => covers_begin _
      case recorded =>
        intro _ id
        rw [since_begun]
        refine iff_of_false ?_ List.not_mem_nil
        rintro ⟨stamp, found, later⟩
        exact absurd (exact.stamped id stamp found) (Nat.not_le.mpr later)
    | inr old =>
      have follows := exact.follows observation old
      have differs : Occurrence.begun state.observations.begin.2 ≠ .begun observation := by
        intro same
        exact older observation old (congrArg RouteObservation.id (Occurrence.begun.inj same).symm)
      constructor
      case numbered => exact Nat.le_succ_of_le follows.numbered
      case epoch => exact follows.epoch
      case current =>
        refine follows.current.trans ?_
        rw [Crossed, Crossed, since_cons differs]
        simp
      case lossy =>
        refine follows.lossy.trans ?_
        rw [since_cons differs]
        simp
      case covered => exact fun current => (follows.covered current).begin follows.numbered
      case recorded =>
        intro current id
        refine (follows.recorded current id).trans ?_
        rw [since_cons differs]
        simp
  case distinct =>
    refine List.nodup_cons.mpr ⟨?_, exact.distinct⟩
    intro inside
    obtain ⟨observation, member, same⟩ := List.mem_map.mp inside
    exact older observation member same
  case lossyFrom => exact exact.lossyFrom
  case stamped => exact exact.stamped

variable {history : List Occurrence} {observations recorded : RouteObservations}

theorem Follows.record (follows : Follows observations history observation)
    (accepted : observations.record id = some recorded) :
    Follows recorded (.recorded id :: history) observation := by
  have fields : recorded.streamEpoch = observations.streamEpoch ∧
      recorded.lossyFrom = observations.lossyFrom ∧ recorded.nextId = observations.nextId := by
    cases record_eq_some accepted with
    | inl idle => simp [idle.2]
    | inr added => simp [added]
  have later := @since_cons observation history (.recorded id) nofun
  constructor
  case numbered => exact fields.2.2 ▸ follows.numbered
  case epoch => exact fields.1 ▸ follows.epoch
  case current => simpa [Crossed, later, fields.1] using follows.current
  case lossy => simpa [later, fields.2.1] using follows.lossy
  case covered => exact fun current => (follows.covered (current.trans fields.1)).record accepted
  case recorded =>
    intro current other
    have covers := follows.covered (current.trans fields.1)
    have known := follows.recorded (current.trans fields.1) other
    rw [later, List.mem_cons]
    cases record_eq_some accepted with
    | inl idle =>
      -- An active observation keeps the history from being skipped.
      have member := Table.find?_eq_some.mp covers.1
      rw [List.length_eq_zero_iff.mp idle.1] at member
      cases member
    | inr added =>
      subst added
      simp only [Table.find?_insert, Function.update_apply]
      split
      next same =>
        subst same
        refine iff_of_true ⟨_, rfl, ?_⟩ (.inl rfl)
        exact Nat.lt_succ_of_le covers.2
      next differs =>
        rw [known]
        refine ⟨.inr, ?_⟩
        intro either
        cases either with
        | inl new => exact absurd (Occurrence.recorded.inj new) differs
        | inr old => exact old

theorem Exact.record (exact : Exact state) (accepted : state.observations.record id = some recorded) :
    Exact (state.record id recorded) := by
  unfold Correlation.record
  constructor
  case follows => exact fun observation member => (exact.follows observation member).record accepted
  case distinct => exact exact.distinct
  case lossyFrom =>
    cases record_eq_some accepted with
    | inl idle => exact idle.2 ▸ exact.lossyFrom
    | inr added => exact added ▸ exact.lossyFrom
  case stamped =>
    cases record_eq_some accepted with
    | inl idle => exact idle.2 ▸ exact.stamped
    | inr added =>
      subst added
      intro other sequence found
      simp only [Table.find?_insert, Function.update_apply] at found
      split at found
      · exact Nat.le_of_eq (Option.some.inj found).symm
      · exact Nat.le_succ_of_le (exact.stamped other sequence found)

/-- Pruning forgets only what no other outstanding observation asks for. -/
theorem Follows.finish (follows : Follows observations history observation)
    {other : RouteObservation} (different : observation.id ≠ other.id) (id : Option SubscriptionId)
    (prunes : Bool) :
    Follows (if prunes then (observations.finish other id).1 else observations.release other)
      history observation := by
  have released : Follows (observations.release other) history observation := by
    refine { follows with covered := ?_ }
    intro current
    have covers := follows.covered current
    refine ⟨?_, covers.2⟩
    simp only [release, Table.find?_erase, Function.update_of_ne different]
    exact covers.1
  cases prunes with
  | false => exact released
  | true =>
    refine { released with recorded := ?_ }
    intro current subscription
    have oldest := (released.covered current).oldest_le
    rw [← follows.recorded current subscription]
    simp only [if_true, RouteObservations.finish, Table.find?_filterRows,
      Option.filter_eq_some_iff, decide_eq_true_eq]
    constructor
    · rintro ⟨stamp, kept, later⟩
      exact ⟨stamp, kept.1, later⟩
    · rintro ⟨stamp, kept, later⟩
      exact ⟨stamp, ⟨kept, Nat.lt_of_le_of_lt oldest later⟩, later⟩

theorem Exact.other (exact : Exact state) (member : observation ∈ state.outstanding)
    {other : RouteObservation} (kept : other ∈ state.outstanding.erase observation) :
    other ∈ state.outstanding ∧ other.id ≠ observation.id := by
  have distinct := List.Nodup.of_map _ exact.distinct
  obtain ⟨differs, inside⟩ := distinct.mem_erase_iff.mp kept
  exact ⟨inside, fun same => differs (List.inj_on_of_nodup_map exact.distinct inside member same)⟩

theorem Exact.finish (exact : Exact state) (member : observation ∈ state.outstanding)
    (asked : Option SubscriptionId) (prunes : Bool) :
    Exact (state.finish observation asked prunes) := by
  unfold Correlation.finish
  constructor
  case follows =>
    intro other kept
    obtain ⟨inside, different⟩ := exact.other member kept
    exact (exact.follows other inside).finish different asked prunes
  case distinct => exact exact.distinct.sublist (List.erase_sublist.map _)
  case lossyFrom => cases prunes <;> exact exact.lossyFrom
  case stamped =>
    intro other sequence found
    cases prunes with
    | false => exact exact.stamped other sequence found
    | true =>
      simp only [if_true, RouteObservations.finish, Table.find?_filterRows,
        Option.filter_eq_some_iff] at found
      exact exact.stamped other sequence found.1

/-- Both ends of a stream leave every outstanding observation behind. -/
theorem Follows.cross {crossed : RouteObservations}
    (follows : Follows observations history observation) {occurrence : Occurrence}
    (ends : occurrence = .rotated ∨ occurrence = .lost)
    (epoch : crossed.streamEpoch = observations.streamEpoch + 1)
    (nextId : crossed.nextId = observations.nextId)
    (lossy : observation.streamEpoch < crossed.lossyFrom ↔
      occurrence = .lost ∨ observation.streamEpoch < observations.lossyFrom) :
    Follows crossed (occurrence :: history) observation := by
  have differs : occurrence ≠ .begun observation := by
    cases ends with
    | inl rotated => exact rotated ▸ nofun
    | inr lost => exact lost ▸ nofun
  have behind : observation.streamEpoch ≠ crossed.streamEpoch := by
    have := follows.epoch
    omega
  constructor
  case numbered => exact nextId ▸ follows.numbered
  case epoch => exact epoch ▸ Nat.le_succ_of_le follows.epoch
  case current =>
    refine iff_of_false behind (not_not_intro ?_)
    rw [Crossed, since_cons differs]
    exact ends.imp (fun rotated => List.mem_cons.mpr (.inl rotated.symm))
      fun lost => List.mem_cons.mpr (.inl lost.symm)
  case lossy =>
    rw [lossy, since_cons differs, List.mem_cons, follows.lossy]
    exact or_congr_left eq_comm
  case covered => exact fun current => absurd current behind
  case recorded => exact fun current => absurd current behind

theorem Exact.rotate (exact : Exact state) : Exact state.rotate where
  follows observation member :=
    (exact.follows observation member).cross (.inl rfl) rfl rfl (by simp [Correlation.rotate, RouteObservations.rotate])
  distinct := exact.distinct
  lossyFrom := Nat.le_succ_of_le exact.lossyFrom
  stamped := nofun

theorem Exact.reset (exact : Exact state) : Exact state.reset where
  follows observation member := by
    have follows := exact.follows observation member
    refine follows.cross (.inr rfl) rfl rfl (iff_of_true ?_ (.inl rfl))
    exact Nat.lt_succ_of_le follows.epoch
  distinct := exact.distinct
  lossyFrom := Nat.le_refl _
  stamped := nofun

theorem Step.exact {operation : Operation} (step : Step operation state next)
    (exact : Exact state) : Exact next := by
  cases step with
  | begin => exact exact.begin
  | record accepted => exact exact.record accepted
  | refuse => exact exact
  | finish member => exact exact.finish member _ _
  | rotate => exact exact.rotate
  | reset => exact exact.reset

/-! ### The budget -/

/-- With every `finish` pruned, nothing is remembered that no active observation asks for. -/
structure Tight (state : Correlation) : Prop where
  exact : Exact state
  needed : ∀ id sequence, state.observations.subscriptions.find? id = some sequence →
    state.observations.oldest < sequence
  owned : ∀ id sequence, state.observations.active.find? id = some sequence →
    ∃ observation ∈ state.outstanding, observation.id = id ∧ observation.sequence = sequence ∧
      observation.streamEpoch = state.observations.streamEpoch

theorem oldest_mem (busy : observations.active.size ≠ 0) :
    ∃ id, observations.active.find? id = some observations.oldest := by
  have nonempty : observations.active.entries.map Prod.snd ≠ [] := by
    intro empty
    exact busy (List.length_eq_zero_iff.mpr (List.map_eq_nil_iff.mp empty))
  cases least : (observations.active.entries.map Prod.snd).min? with
  | none => exact absurd (List.min?_eq_none_iff.mp least) nonempty
  | some =>
    obtain ⟨entry, member, same⟩ := List.mem_map.mp (List.min?_mem least)
    refine ⟨entry.1, Table.find?_eq_some.mpr ?_⟩
    unfold oldest
    rw [least, Option.getD_some, ← same]
    exact member

theorem oldest_le_of_active {id sequence : Nat}
    (active : observations.active.find? id = some sequence) : observations.oldest ≤ sequence :=
  List.min?_getD_le_of_mem (List.mem_map.mpr ⟨_, Table.find?_eq_some.mp active, rfl⟩)

section

variable (tight : Tight state)

include tight

theorem Tight.oldest_le : state.observations.oldest ≤ state.observations.sequence := by
  by_cases idle : state.observations.active.size = 0
  · unfold oldest
    rw [List.length_eq_zero_iff.mp idle]
    exact Nat.le_refl _
  · obtain ⟨id, active⟩ := oldest_mem idle
    obtain ⟨observation, member, -, same, current⟩ := tight.owned id _ active
    exact same ▸ ((tight.exact.follows observation member).covered current).2

theorem Tight.begin : Tight state.begin := by
  unfold Correlation.begin
  refine ⟨tight.exact.begin, ?_, ?_⟩
  · intro id sequence found
    refine Nat.lt_of_le_of_lt ?_ (tight.needed id sequence found)
    by_cases idle : state.observations.active.size = 0
    · refine Nat.le_trans (covers_begin state.observations).oldest_le ?_
      unfold oldest
      rw [List.length_eq_zero_iff.mp idle]
      exact Nat.le_refl _
    · obtain ⟨oldest, active⟩ := oldest_mem idle
      obtain ⟨observation, member, named, same, current⟩ := tight.owned oldest _ active
      have follows := tight.exact.follows observation member
      exact same ▸ ((follows.covered current).begin follows.numbered).oldest_le
  · intro id sequence found
    simp only [RouteObservations.begin, Table.find?_insert, Function.update_apply] at found
    split at found
    next new =>
      cases found
      exact ⟨_, List.mem_cons_self, new.symm, rfl, rfl⟩
    · obtain ⟨observation, member, rest⟩ := tight.owned id sequence found
      exact ⟨observation, List.mem_cons_of_mem _ member, rest⟩

theorem Tight.record (accepted : state.observations.record id = some recorded) :
    Tight (state.record id recorded) := by
  unfold Correlation.record
  have exact := tight.exact.record accepted
  by_cases idle : state.observations.active.size = 0
  · have same : recorded = state.observations := by
      rw [RouteObservations.record, if_pos idle] at accepted
      exact (Option.some.inj accepted).symm
    subst same
    exact ⟨exact, tight.needed, tight.owned⟩
  cases record_eq_some accepted with
  | inl skipped => exact absurd skipped.1 idle
  | inr added =>
    subst added
    refine ⟨exact, ?_, tight.owned⟩
    obtain ⟨active, found⟩ := oldest_mem idle
    intro other sequence stored
    have least := @oldest_le_of_active
      { state.observations with
        sequence := state.observations.sequence + 1
        subscriptions := state.observations.subscriptions.insert id
          (state.observations.sequence + 1) } active _ found
    refine Nat.lt_of_le_of_lt least ?_
    simp only [Table.find?_insert, Function.update_apply] at stored
    split at stored
    · exact Option.some.inj stored ▸ Nat.lt_succ_of_le tight.oldest_le
    · exact tight.needed other sequence stored

theorem Tight.finish (member : observation ∈ state.outstanding) (asked : Option SubscriptionId) :
    Tight (state.finish observation asked true) := by
  unfold Correlation.finish
  rw [if_pos rfl]
  refine ⟨tight.exact.finish member asked true, ?_, ?_⟩
  · intro id sequence found
    simp only [RouteObservations.finish, Table.find?_filterRows, Option.filter_eq_some_iff] at found
    exact of_decide_eq_true found.2
  · intro id sequence found
    simp only [RouteObservations.finish, Table.find?_erase, Function.update_apply] at found
    split at found
    · cases found
    next different =>
      obtain ⟨other, inside, named, rest⟩ := tight.owned id sequence found
      refine ⟨other, ?_, named, rest⟩
      refine (List.mem_erase_of_ne ?_).mpr inside
      intro same
      exact different (named.symm.trans (congrArg RouteObservation.id same))

end

theorem Step.tight {operation : Operation} (step : Step operation state next)
    (prunes : operation.Prunes) (tight : Tight state) : Tight next := by
  cases step with
  | begin => exact tight.begin
  | record accepted => exact tight.record accepted
  | refuse => exact tight
  | finish member =>
    cases prunes
    exact tight.finish member _
  | rotate => exact ⟨tight.exact.rotate, nofun, nofun⟩
  | reset => exact ⟨tight.exact.reset, nofun, nofun⟩

/-! ### Whole runs -/

def system : TransitionSystem Correlation Operation where
  initial state := state = ⟨.initial, [], []⟩
  step := Step

theorem exact_of_reachable (reachable : system.Reachable (fun _ => True) state) : Exact state := by
  apply reachable.invariant
  · intro start initial
    cases initial
    exact ⟨List.forall_mem_nil _, .nil, Nat.le_refl _, nofun⟩
  · exact fun _ _ _ _ exact step => step.exact exact

theorem tight_of_reachable (reachable : system.Reachable Operation.Prunes state) : Tight state := by
  apply reachable.invariant
  · intro start initial
    cases initial
    exact ⟨⟨List.forall_mem_nil _, .nil, Nat.le_refl _, nofun⟩, nofun, nofun⟩
  · exact fun _ _ _ prunes tight step => step.tight prunes tight

/-- What `finish` and `crossed_lossy` answer, by the full history. -/
structure AnswersExactly (state : Correlation) (observation : RouteObservation) : Prop where
  finishSome : ∀ id, (state.observations.finish observation (some id)).2 = true ↔
    ¬ Crossed observation state.history ∧ .recorded id ∉ since observation state.history
  finishNone : (state.observations.finish observation none).2 = true ↔
    ¬ Crossed observation state.history
  crossedLossy : state.observations.crossedLossy observation.streamEpoch = true ↔
    .lost ∈ since observation state.history

theorem Follows.answersExactly (follows : Follows state.observations state.history observation) :
    AnswersExactly state observation := by
  constructor
  case finishSome =>
    intro id
    rw [RouteObservations.finish, RouteObservations.isValid_eq_true, ← follows.current]
    refine and_congr_right ?_
    intro current
    rw [← follows.recorded current id]
    constructor
    · rintro early ⟨stamp, found, later⟩
      exact absurd (early id stamp rfl found) (Nat.not_le.mpr later)
    · intro early subscription sequence same found
      cases same
      exact Nat.not_lt.mp fun later => early ⟨sequence, found, later⟩
  case finishNone =>
    rw [RouteObservations.finish, RouteObservations.isValid_eq_true, ← follows.current]
    exact and_iff_left (by simp)
  case crossedLossy =>
    rw [crossedLossy, decide_eq_true_iff]
    exact follows.lossy

theorem Tight.refused (tight : Tight state) (refused : state.observations.record id = none) :
    ∃ observation ∈ state.outstanding, ¬ Crossed observation state.history ∧
      ∃ ids : List SubscriptionId, ids.Nodup ∧ ids.length = maxObservedSubscriptions ∧ id ∉ ids ∧
        ∀ other ∈ ids, .recorded other ∈ since observation state.history := by
  unfold RouteObservations.record at refused
  split at refused
  · cases refused
  next busy =>
    split at refused
    next full =>
      obtain ⟨active, found⟩ := oldest_mem busy
      obtain ⟨observation, member, -, same, current⟩ := tight.owned active _ found
      have follows := tight.exact.follows observation member
      refine ⟨observation, member, follows.current.mp current,
        state.observations.subscriptions.entries.map Prod.fst,
        state.observations.subscriptions.keysNodup, (List.length_map _).trans full.1, ?_, ?_⟩
      · intro inside
        obtain ⟨entry, stored, named⟩ := List.mem_map.mp inside
        exact Table.find?_eq_none.mp full.2 entry.2 (named ▸ stored)
      · intro other inside
        obtain ⟨entry, stored, named⟩ := List.mem_map.mp inside
        have kept := Table.find?_eq_some.mpr stored
        exact (follows.recorded current other).mp ⟨entry.2, named ▸ kept,
          same ▸ tight.needed entry.1 entry.2 kept⟩
    · cases refused

/-- Whatever was pruned, every outstanding observation is answered by what happened since it began,
so two runs with one history answer alike; and a full budget is spent on ids that one active
observation has to tell apart. -/
theorem observations_are_exact :
    (∀ state, system.Reachable (fun _ => True) state → ∀ observation ∈ state.outstanding,
      AnswersExactly state observation) ∧
    (∀ state other, system.Reachable (fun _ => True) state →
      system.Reachable (fun _ => True) other → other.history = state.history →
      ∀ observation ∈ state.outstanding, observation ∈ other.outstanding → ∀ id,
        (other.observations.finish observation id).2 =
          (state.observations.finish observation id).2 ∧
        other.observations.crossedLossy observation.streamEpoch =
          state.observations.crossedLossy observation.streamEpoch) ∧
    ∀ state, system.Reachable Operation.Prunes state → ∀ id, state.observations.record id = none →
      ∃ observation ∈ state.outstanding, ¬ Crossed observation state.history ∧
        ∃ ids : List SubscriptionId, ids.Nodup ∧ ids.length = maxObservedSubscriptions ∧ id ∉ ids ∧
          ∀ other ∈ ids, .recorded other ∈ since observation state.history := by
  have answers : ∀ state, system.Reachable (fun _ => True) state →
      ∀ observation ∈ state.outstanding, AnswersExactly state observation :=
    fun state reachable observation member =>
      ((exact_of_reachable reachable).follows observation member).answersExactly
  refine ⟨answers, ?_, fun state reachable id refused =>
    (tight_of_reachable reachable).refused refused⟩
  intro state other reachable otherReachable same observation member otherMember id
  have here := answers state reachable observation member
  have there := answers other otherReachable observation otherMember
  constructor
  · apply Bool.eq_iff_iff.mpr
    cases id with
    | none => rw [there.finishNone, here.finishNone, same]
    | some => rw [there.finishSome, here.finishSome, same]
  · apply Bool.eq_iff_iff.mpr
    rw [there.crossedLossy, here.crossedLossy, same]

namespace Sample

def subscription : SubscriptionId := ⟨⟨"1", rfl⟩, some 0⟩

def opened : RouteObservation := initial.begin.2

def invalidated : Correlation where
  observations :=
    { initial.begin.1 with
      sequence := 1
      subscriptions := Table.empty.insert subscription 1 }
  outstanding := [opened]
  history := [.recorded subscription, .begun opened]

theorem invalidated_reachable : system.Reachable (fun _ => True) invalidated := by
  have start : system.Reachable (fun _ => True) ⟨.initial, [], []⟩ := .init rfl
  have begun := start.step trivial (show system.step .begin _ _ from Step.begin)
  exact begun.step trivial (show system.step (.record subscription) _ _ from Step.record rfl)

end Sample

open Sample in
/-- The observation is not valid for the invalidated subscription, and is for none. -/
theorem sample_observations_are_exact :
    (invalidated.observations.finish opened (some subscription)).2 = false ∧
      (invalidated.observations.finish opened none).2 = true := by
  have answers := observations_are_exact.1 invalidated invalidated_reachable opened
    List.mem_cons_self
  constructor
  · apply Bool.eq_false_iff.mpr
    intro valid
    exact ((answers.finishSome subscription).mp valid).2 (by decide)
  · exact answers.finishNone.mpr (by unfold Crossed; decide)

end Correlation

end Sleepypods.Frontline
