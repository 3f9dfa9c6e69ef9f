import Sleepypods.Frontline.Transport

/-! What the operations of the transport leave alone. Most of them answer no call, start no reader
on an old session and queue nothing but close barriers. -/

set_option autoImplicit false

namespace Sleepypods.Frontline.Transport

open Library

def Retired (transport : Transport) (id : Nat) : Prop :=
  transport.current = some id → transport.resetRequested = true ∨ transport.isClosed id = true

def Barred (transport : Transport) : Prop :=
  ∃ event ∈ transport.queue, event.drained = .streamClosed

/-- Sessions are numbered from below `nextSession`, and the current one is there. -/
structure Bounded (transport : Transport) : Prop where
  sessions : ∀ id, (transport.sessions.find? id).isSome → id < transport.nextSession
  current : ∀ id, transport.current = some id → (transport.sessions.find? id).isSome

variable {transport : Transport} {id : Nat}

def Owes (transport : Transport) (id : Nat) (event : GrpcRouteSubscriptionEvent) : Prop :=
  ∃ session actions, transport.sessions.find? id = some session ∧
    session.reader = .leaving actions ∧ .push event ∈ actions

/-- A reader stays where it is, or leaves owing nothing new but close barriers. -/
def Follows (before after : Reader) : Prop :=
  after = before ∨ ∃ actions, after = .leaving actions ∧ ∀ event, .push event ∈ actions →
    (∃ owed, before = .leaving owed ∧ .push event ∈ owed) ∨ event.drained = .streamClosed

/-- A change that answers no call, puts no call on a session and ends sessions only behind a close
barrier. Calls it fails for the first time are the allowed ones. -/
structure Quiet (allowed : RouteRequestId → Prop) (before after : Transport) : Prop where
  nextSession : before.nextSession ≤ after.nextSession
  bounded : Bounded before → Bounded after
  reading : ∀ id, id < before.nextSession → after.isReading id = true → before.isReading id = true
  retired : ∀ id, id < before.nextSession → before.Retired id → after.Retired id
  queue : ∀ event ∈ after.queue, event ∈ before.queue ∨ event.drained = .streamClosed
  kept : ∀ event ∈ before.queue, event ∈ after.queue ∨ after.Barred
  ending : ∀ id ∈ after.ending, id ∈ before.ending ∨
    (id < after.nextSession ∧ (after.isReading id = true → after.Retired id) ∧ after.Barred)
  ended : before.ending ⊆ after.ending
  owes : ∀ id event, after.Owes id event → before.Owes id event ∨ event.drained = .streamClosed
  waiting : ∀ requestId id, after.calls.find? requestId = some (.waiting id) →
    before.calls.find? requestId = some (.waiting id)
  answered : ∀ requestId message, after.calls.find? requestId = some (.done (.ok message)) →
    before.calls.find? requestId = some (.done (.ok message))
  known : ∀ requestId, (after.calls.find? requestId).isSome →
    (before.calls.find? requestId).isSome ∨ allowed requestId

namespace Quiet

variable {allowed : RouteRequestId → Prop} {before middle after : Transport}

theorem refl (transport : Transport) : Quiet allowed transport transport where
  nextSession := Nat.le_refl _
  bounded := id
  reading := fun _ _ reading => reading
  retired := fun _ _ retired => retired
  queue := fun _ member => .inl member
  kept := fun _ member => .inl member
  ending := fun _ member => .inl member
  ended := fun _ member => member
  owes := fun _ _ owes => .inl owes
  waiting := fun _ _ found => found
  answered := fun _ _ found => found
  known := fun _ found => .inl found

theorem barred (quiet : Quiet allowed before after) (barred : before.Barred) : after.Barred := by
  obtain ⟨event, member, closes⟩ := barred
  rcases quiet.kept event member with kept | barred
  · exact ⟨event, kept, closes⟩
  · exact barred

theorem trans (former : Quiet allowed before middle) (latter : Quiet allowed middle after) :
    Quiet allowed before after where
  nextSession := Nat.le_trans former.nextSession latter.nextSession
  bounded := fun bounded => latter.bounded (former.bounded bounded)
  reading := fun id old reading =>
    former.reading id old (latter.reading id (Nat.lt_of_lt_of_le old former.nextSession) reading)
  retired := fun id old retired =>
    latter.retired id (Nat.lt_of_lt_of_le old former.nextSession) (former.retired id old retired)
  queue := by
    intro event member
    rcases latter.queue event member with old | closes
    · exact former.queue event old
    · exact .inr closes
  kept := by
    intro event member
    rcases former.kept event member with kept | barred
    · exact latter.kept event kept
    · exact .inr (latter.barred barred)
  ending := by
    intro id member
    rcases latter.ending id member with old | new
    · rcases former.ending id old with older | ⟨known, retired, barred⟩
      · exact .inl older
      · exact .inr ⟨Nat.lt_of_lt_of_le known latter.nextSession,
          fun reading => latter.retired id known (retired (latter.reading id known reading)),
          latter.barred barred⟩
    · exact .inr new
  ended := fun _ member => latter.ended (former.ended member)
  owes := by
    intro id event owes
    rcases latter.owes id event owes with owed | closes
    · exact former.owes id event owed
    · exact .inr closes
  waiting := fun requestId id found => former.waiting requestId id (latter.waiting requestId id found)
  answered := fun requestId message found =>
    former.answered requestId message (latter.answered requestId message found)
  known := by
    intro requestId found
    rcases latter.known requestId found with old | allows
    · exact former.known requestId old
    · exact .inr allows

end Quiet

/-! ### Primitive changes -/

variable {allowed : RouteRequestId → Prop}

theorem find?_modifySession (transport : Transport) (id other : Nat)
    (change : TransportSession → TransportSession) :
    (transport.modifySession id change).sessions.find? other =
      (transport.sessions.find? other).map fun session =>
        if other = id then change session else session := by
  simp only [modifySession, Table.find?_mapRows]

theorem Follows.reading {before after : Reader} (follows : Follows before after)
    (reading : after = .reading) : before = .reading := by
  rcases follows with same | ⟨actions, left, _⟩
  · exact same.symm.trans reading
  · rw [left] at reading
    cases reading

theorem isReading_eq_true :
    transport.isReading id = true ↔
      ∃ session, transport.sessions.find? id = some session ∧ session.reader = .reading := by
  simp only [isReading, Option.any_eq_true, decide_eq_true_eq]

/-- A change of the sessions: each of them follows an earlier one, or is new and reads. -/
theorem quiet_sessions {after : Transport} (queue : after.queue = transport.queue)
    (ending : after.ending = transport.ending) (calls : after.calls = transport.calls)
    (nextSession : transport.nextSession ≤ after.nextSession)
    (bounded : Bounded transport → Bounded after)
    (retired : ∀ id, id < transport.nextSession → transport.Retired id → after.Retired id)
    (follows : ∀ id session, after.sessions.find? id = some session →
      (∃ old, transport.sessions.find? id = some old ∧ Follows old.reader session.reader) ∨
        (transport.nextSession ≤ id ∧ session.reader = .reading)) :
    Quiet allowed transport after where
  nextSession := nextSession
  bounded := bounded
  reading := by
    intro id known reading
    obtain ⟨session, found, reads⟩ := isReading_eq_true.mp reading
    rcases follows id session found with ⟨old, stored, follows⟩ | ⟨new, _⟩
    · exact isReading_eq_true.mpr ⟨old, stored, follows.reading reads⟩
    · exact absurd known (Nat.not_lt.mpr new)
  retired := retired
  queue := fun _ member => .inl (queue ▸ member)
  kept := fun _ member => .inl (queue ▸ member)
  ending := fun _ member => .inl (ending ▸ member)
  ended := fun _ member => ending ▸ member
  owes := by
    rintro id event ⟨session, actions, found, leaving, owed⟩
    rcases follows id session found with ⟨old, stored, kept | ⟨owing, left, sources⟩⟩ | ⟨_, reads⟩
    · exact .inl ⟨old, actions, stored, kept.symm.trans leaving, owed⟩
    · cases left.symm.trans leaving
      rcases sources event owed with ⟨before, was, owes⟩ | closes
      · exact .inl ⟨old, before, stored, was, owes⟩
      · exact .inr closes
    · cases reads.symm.trans leaving
  waiting := fun _ _ found => calls ▸ found
  answered := fun _ _ found => calls ▸ found
  known := fun _ found => .inl (calls ▸ found)

theorem bounded_modifySession (bounded : Bounded transport) (id : Nat)
    (change : TransportSession → TransportSession) : Bounded (transport.modifySession id change) := by
  refine ⟨fun other found => bounded.sessions other ?_, fun other current => ?_⟩
  · rw [find?_modifySession, Option.isSome_map] at found
    exact found
  · rw [find?_modifySession, Option.isSome_map]
    exact bounded.current other current

theorem quiet_modifySession (id : Nat)
    {change : TransportSession → TransportSession}
    (reader : ∀ session, transport.sessions.find? id = some session →
      Follows session.reader (change session).reader)
    (closed : ∀ session, session.closed = true → (change session).closed = true) :
    Quiet allowed transport (transport.modifySession id change) := by
  refine quiet_sessions rfl rfl rfl (Nat.le_refl _)
    (fun bounded => bounded_modifySession bounded id change) ?_ ?_
  · intro other _ retired current
    rcases retired current with reset | isClosed
    · exact .inl reset
    · right
      obtain ⟨session, found, isClosed⟩ := (Option.any_eq_true _ _).mp isClosed
      rw [Transport.isClosed, find?_modifySession, found, Option.map_some, Option.any_some]
      split
      · exact closed session isClosed
      · exact isClosed
  · intro other changed found
    rw [find?_modifySession] at found
    obtain ⟨session, stored, rfl⟩ := Option.map_eq_some_iff.mp found
    refine .inl ⟨session, stored, ?_⟩
    split
    next same => exact reader session (same ▸ stored)
    · exact .inl rfl

variable {event : GrpcRouteSubscriptionEvent}

theorem push_barred
    (closes : event.drained = .streamClosed ∨ transport.accepts = false) :
    (transport.push event).Barred := by
  unfold push
  split
  next accepted =>
    rcases closes with closes | full
    · exact ⟨event, List.mem_append_right _ List.mem_cons_self, closes⟩
    · exact absurd accepted (of_decide_eq_false full)
  · exact ⟨.responseStreamClosed, List.mem_cons_self, rfl⟩

variable {other : GrpcRouteSubscriptionEvent}

theorem mem_push (member : other ∈ (transport.push event).queue) :
    other ∈ transport.queue ∨ (other = event ∧ transport.accepts = true) ∨
      other.drained = .streamClosed := by
  unfold push at member
  split at member
  next accepted =>
    rcases List.mem_append.mp member with old | new
    · exact .inl old
    · exact .inr (.inl ⟨List.mem_singleton.mp new, decide_eq_true accepted⟩)
  · rw [List.mem_singleton.mp member]
    exact .inr (.inr rfl)

theorem push_keeps (event : GrpcRouteSubscriptionEvent) (member : other ∈ transport.queue) :
    other ∈ (transport.push event).queue ∨ (transport.push event).Barred := by
  unfold push
  split
  · exact .inl (List.mem_append_left _ member)
  · exact .inr ⟨.responseStreamClosed, List.mem_cons_self, rfl⟩

theorem push_queues (event : GrpcRouteSubscriptionEvent) :
    event ∈ (transport.push event).queue ∨ (transport.push event).Barred := by
  unfold push
  split
  · exact .inl (List.mem_append_right _ List.mem_cons_self)
  · exact .inr ⟨.responseStreamClosed, List.mem_cons_self, rfl⟩

section

variable (transport : Transport) (event : GrpcRouteSubscriptionEvent)

@[simp]
theorem push_sessions : (transport.push event).sessions = transport.sessions := by
  unfold push
  split <;> rfl

@[simp]
theorem push_current : (transport.push event).current = transport.current := by
  unfold push
  split <;> rfl

@[simp]
theorem push_nextSession : (transport.push event).nextSession = transport.nextSession := by
  unfold push
  split <;> rfl

@[simp]
theorem push_resetRequested : (transport.push event).resetRequested = transport.resetRequested := by
  unfold push
  split <;> rfl

@[simp]
theorem push_calls : (transport.push event).calls = transport.calls := by
  unfold push
  split <;> rfl

@[simp]
theorem push_ending : (transport.push event).ending = transport.ending := by
  unfold push
  split <;> rfl

end

theorem bounded_push (bounded : Bounded transport) (event : GrpcRouteSubscriptionEvent) :
    Bounded (transport.push event) :=
  ⟨by simpa using bounded.sessions, by simpa using bounded.current⟩

theorem bounded_pushEnd (bounded : Bounded transport) (event : GrpcRouteSubscriptionEvent)
    (ids : List Nat) : Bounded (transport.pushEnd event ids) :=
  ⟨(bounded_push bounded event).sessions, (bounded_push bounded event).current⟩

theorem retired_pushEnd (event : GrpcRouteSubscriptionEvent)
    (ids : List Nat) (id : Nat) :
    (transport.pushEnd event ids).Retired id ↔ transport.Retired id := by
  simp only [Retired, isClosed, pushEnd, push_current, push_resetRequested, push_sessions]

/-- A close barrier, or an event that is too many, that ends sessions of no more use. -/
theorem quiet_pushEnd
    (closes : event.drained = .streamClosed ∨ transport.accepts = false) {ids : List Nat}
    (ends : ∀ id ∈ ids, id < transport.nextSession ∧ (transport.isReading id = true →
      transport.Retired id)) :
    Quiet allowed transport (transport.pushEnd event ids) where
  nextSession := Nat.le_of_eq (push_nextSession transport event).symm
  bounded := fun bounded => bounded_pushEnd bounded event ids
  reading := by
    intro id _ reading
    simpa only [isReading, pushEnd, push_sessions] using reading
  retired := fun id _ retired => (retired_pushEnd event ids id).mpr retired
  queue := by
    intro other member
    rcases mem_push member with old | ⟨rfl, accepted⟩ | barrier
    · exact .inl old
    · rcases closes with closes | full
      · exact .inr closes
      · rw [accepted] at full
        cases full
    · exact .inr barrier
  kept := fun other member => push_keeps event member
  ending := by
    intro id member
    rcases List.mem_append.mp member with old | new
    · exact .inl old
    · obtain ⟨known, retired⟩ := ends id new
      refine .inr ⟨?_, fun reading => ?_, push_barred closes⟩
      · simpa only [pushEnd, push_nextSession] using known
      · refine (retired_pushEnd event ids id).mpr (retired ?_)
        simpa only [isReading, pushEnd, push_sessions] using reading
  ended := fun _ member => List.mem_append_left _ member
  owes := by
    rintro id owed ⟨session, actions, found, leaving, member⟩
    refine .inl ⟨session, actions, ?_, leaving, member⟩
    simpa only [pushEnd, push_sessions] using found
  waiting := by
    intro requestId id found
    simpa only [pushEnd, push_calls] using found
  answered := by
    intro requestId message found
    simpa only [pushEnd, push_calls] using found
  known := by
    intro requestId found
    left
    simpa only [pushEnd, push_calls] using found

theorem quiet_calls {calls : Table RouteRequestId RouteCall}
    (waiting : ∀ requestId id, calls.find? requestId = some (.waiting id) →
      transport.calls.find? requestId = some (.waiting id))
    (answered : ∀ requestId message, calls.find? requestId = some (.done (.ok message)) →
      transport.calls.find? requestId = some (.done (.ok message)))
    (known : ∀ requestId, (calls.find? requestId).isSome →
      (transport.calls.find? requestId).isSome ∨ allowed requestId) :
    Quiet allowed transport { transport with calls := calls } :=
  { (Quiet.refl transport : Quiet allowed transport transport) with
    bounded := fun bounded => ⟨bounded.sessions, bounded.current⟩
    waiting := waiting
    answered := answered
    known := known }

variable {requestId : RouteRequestId}

theorem quiet_finishCall (allows : allowed requestId) (error : CallError) :
    Quiet allowed transport (transport.finishCall requestId (.error error)) := by
  refine quiet_calls (fun _ _ found => ?_) (fun _ _ found => ?_) fun _ found => ?_
  all_goals
    rw [Table.find?_insert, Function.update_apply] at found
    split at found
  · cases found
  · exact found
  · cases found
  · exact found
  next same => exact .inr (same ▸ allows)
  · exact .inl found

theorem quiet_retire {requested : Bool} {current : Option Nat}
    (retires : current = none ∨ (current = transport.current ∧ requested = true)) :
    Quiet allowed transport { transport with resetRequested := requested, current := current } := by
  refine quiet_sessions rfl rfl rfl (Nat.le_refl _) ?_ ?_
    fun _ session found => .inl ⟨session, found, .inl rfl⟩
  · intro bounded
    refine ⟨bounded.sessions, fun id now => ?_⟩
    rcases retires with rfl | ⟨rfl, _⟩
    · cases now
    · exact bounded.current id now
  · intro id _ _ now
    rcases retires with rfl | ⟨_, rfl⟩
    · cases now
    · exact .inl rfl

/-! ### Operations -/

theorem closed_modifySession
    (found : (transport.sessions.find? id).isSome) :
    (transport.modifySession id fun session => { session with closed := true }).isClosed id =
      true := by
  unfold isClosed
  rw [find?_modifySession, Option.any_map]
  obtain ⟨session, stored⟩ := Option.isSome_iff_exists.mp found
  rw [stored]
  simp only [Option.any_some, if_true]

theorem quiet_close (id : Nat) :
    Quiet allowed transport
      (transport.modifySession id fun session => { session with closed := true }) :=
  quiet_modifySession id (fun _ _ => .inl rfl) fun _ _ => rfl

section

variable (bounded : Bounded transport)

include bounded

theorem quiet_closeSession (found : (transport.sessions.find? id).isSome) :
    Quiet allowed transport (transport.closeSession id) := by
  refine (quiet_close id).trans (quiet_pushEnd (.inl rfl) fun other member => ?_)
  rw [List.mem_singleton.mp member]
  exact ⟨bounded.sessions id found, fun _ _ => .inr (closed_modifySession found)⟩

theorem quiet_pushEnd_current {after : Transport} (retire : Quiet allowed transport after)
    (retired : ∀ id, transport.current = some id → after.Retired id) :
    Quiet allowed transport
      (after.pushEnd .responseStreamClosed transport.current.toList) := by
  refine retire.trans (quiet_pushEnd (.inl rfl) fun id member => ?_)
  have current := Option.mem_toList.mp member
  exact ⟨Nat.lt_of_lt_of_le (bounded.sessions id (bounded.current id current)) retire.nextSession,
    fun _ => retired id current⟩

theorem quiet_requestReset : Quiet allowed transport transport.requestReset :=
  quiet_pushEnd_current bounded (quiet_retire (.inr ⟨rfl, rfl⟩)) fun _ _ _ => .inl rfl

theorem quiet_timeoutCall (allows : allowed requestId) :
    Quiet allowed transport (transport.timeoutCall requestId) := by
  have dropped : Quiet allowed transport
      (({ transport with current := none }).pushEnd .responseStreamClosed
        transport.current.toList) :=
    quiet_pushEnd_current bounded (quiet_retire (.inl rfl)) fun _ _ now => by cases now
  exact dropped.trans (quiet_finishCall allows _)

end

theorem quiet_performReset (outcome : CleanupOutcome) :
    Quiet allowed transport (transport.performReset outcome).1 := by
  unfold performReset
  split
  · exact .refl transport
  · simp only
    split
    · exact quiet_retire (.inl rfl)
    · exact .refl transport

theorem quiet_unsubscribe (bounded : Bounded transport) (id : SubscriptionId)
    (outcome : CleanupOutcome) :
    Quiet allowed transport (transport.unsubscribe id outcome).1 := by
  unfold unsubscribe
  split
  · exact .refl transport
  next origin _ =>
    split
    · exact quiet_requestReset bounded
    · split
      · exact quiet_modifySession origin (fun _ _ => .inl rfl) fun _ closed => closed
      · exact .refl transport
    · split
      next current => exact quiet_closeSession bounded (bounded.current origin current)
      · exact .refl transport

theorem quiet_failPending (id : Nat) :
    Quiet allowed transport (transport.failPending id) := by
  have forgotten : Quiet allowed transport
      (transport.modifySession id fun session => { session with pending := [] }) :=
    quiet_modifySession id (fun _ _ => .inl rfl) fun _ closed => closed
  refine forgotten.trans (quiet_calls (fun _ _ found => ?_) (fun _ _ found => ?_) fun _ found => ?_)
  all_goals rw [Table.find?_mapRows] at found
  iterate 2
    obtain ⟨call, stored, result⟩ := Option.map_eq_some_iff.mp found
    split at result
    · cases result
    · exact stored.trans (congrArg some result)
  · rw [Option.isSome_map] at found
    exact .inl found

variable {actions : List ReaderAction}

/-- A reader leaves its loop, or goes on leaving, and owes nothing new but close barriers. -/
theorem quiet_leave (id : Nat)
    (owes : ∀ event, .push event ∈ actions →
      transport.Owes id event ∨ event.drained = .streamClosed) :
    Quiet allowed transport (transport.leave id actions) := by
  refine quiet_modifySession id (fun session found => ?_) fun _ closed => closed
  refine .inr ⟨actions, rfl, fun event member => ?_⟩
  rcases owes event member with ⟨other, owed, stored, leaving, before⟩ | closes
  · rw [found] at stored
    cases stored
    exact .inl ⟨owed, leaving, before⟩
  · exact .inr closes

theorem quiet_fail (id : Nat) (closes : event.drained = .streamClosed) :
    Quiet allowed transport (transport.fail id event) := by
  refine quiet_leave id fun other member => ?_
  simp only [List.mem_cons, reduceCtorEq, ReaderAction.push.injEq, false_or, List.not_mem_nil,
    or_false] at member
  exact .inr (member ▸ closes)

theorem quiet_erase (other : transport.current ≠ some id) :
    Quiet allowed transport { transport with sessions := transport.sessions.erase id } := by
  have current {session : Nat} (current : transport.current = some session) :
      (transport.sessions.erase id).find? session = transport.sessions.find? session := by
    have different : session ≠ id := by
      rintro rfl
      exact other current
    rw [Table.find?_erase, Function.update_of_ne different]
  have kept {key : Nat} {session : TransportSession}
      (found : (transport.sessions.erase id).find? key = some session) :
      transport.sessions.find? key = some session := by
    rw [Table.find?_erase, Function.update_apply] at found
    split at found
    · cases found
    · exact found
  refine quiet_sessions rfl rfl rfl (Nat.le_refl _) ?_ ?_
    fun _ session found => .inl ⟨session, kept found, .inl rfl⟩
  · intro bounded
    refine ⟨fun key found => ?_, fun key now => ?_⟩
    · obtain ⟨session, found⟩ := Option.isSome_iff_exists.mp found
      exact bounded.sessions key (Option.isSome_iff_exists.mpr ⟨session, kept found⟩)
    · rw [current now]
      exact bounded.current key now
  · intro session _ retired now
    rcases retired now with reset | closed
    · exact .inl reset
    · right
      rw [isClosed, current now]
      exact closed

/-! ### Sessions for calls -/

def Usable (transport : Transport) (id : Nat) : Prop :=
  transport.current = some id ∧ transport.resetRequested = false ∧ transport.isClosed id = false

theorem Usable.not_retired (usable : transport.Usable id) :
    ¬ transport.Retired id := by
  intro retired
  rcases retired usable.1 with reset | closed
  · rw [usable.2.1] at reset
    cases reset
  · rw [usable.2.2] at closed
    cases closed

theorem quiet_connect :
    Quiet allowed transport
      { transport with
        current := some transport.nextSession
        nextSession := transport.nextSession + 1
        sessions := transport.sessions.insert transport.nextSession newSession } := by
  refine quiet_sessions rfl rfl rfl (Nat.le_succ _) ?_ ?_ ?_
  · intro bounded
    refine ⟨fun id found => ?_, fun id current => ?_⟩
    · rw [Table.find?_insert, Function.update_apply] at found
      split at found
      next same => exact same ▸ Nat.lt_succ_self _
      · exact Nat.lt_succ_of_lt (bounded.sessions id found)
    · cases current
      rw [Table.find?_insert, Function.update_self]
      rfl
  · intro id old _ current
    cases current
    exact absurd old (Nat.lt_irrefl _)
  · intro id session found
    rw [Table.find?_insert, Function.update_apply] at found
    split at found
    next same =>
      cases found
      exact .inr ⟨Nat.le_of_eq same.symm, rfl⟩
    · exact .inl ⟨session, found, .inl rfl⟩

theorem usable_of_usableSession (found : transport.usableSession = some id) :
    transport.Usable id := by
  unfold usableSession at found
  split at found
  · cases found
  next kept =>
    obtain ⟨current, unclosed⟩ := Option.filter_eq_some_iff.mp found
    exact ⟨current, Bool.not_eq_true _ ▸ kept, Bool.not_eq_true' _ ▸ unclosed⟩

theorem ensure_spec (connected : Bool) :
    Quiet allowed transport (transport.ensure connected).1 ∧
      ∀ id, (transport.ensure connected).2 = some id → (transport.ensure connected).1.Usable id := by
  have renewed : Quiet allowed transport
      { transport with resetRequested := false, current := none } :=
    quiet_retire (.inl rfl)
  unfold ensure
  split
  next id usable =>
    refine ⟨.refl transport, fun other found => ?_⟩
    cases found
    exact usable_of_usableSession usable
  · simp only
    split
    · refine ⟨renewed.trans (quiet_connect), fun id found => ?_⟩
      cases found
      refine ⟨rfl, rfl, ?_⟩
      unfold isClosed
      rw [Table.find?_insert, Function.update_self]
      rfl
    · exact ⟨renewed, fun id found => by cases found⟩

theorem subscribeRoute_cases {transport : Transport} (bounded : Bounded transport)
    {requestId : RouteRequestId} (allows : allowed requestId) (identity : RouteIdentity)
    (connected delivered : Bool) :
    Quiet allowed transport
        (transport.subscribeRoute requestId identity connected delivered) ∨
      ∃ middle id, Quiet allowed transport middle ∧ middle.Usable id ∧
        transport.subscribeRoute requestId identity connected delivered =
          { middle with calls := middle.calls.insert requestId (.waiting id) } := by
  have spec : Quiet allowed transport (transport.ensure connected).1 ∧ _ :=
    ensure_spec connected
  unfold subscribeRoute
  split
  next ensured failed =>
    rw [failed] at spec
    exact .inl (spec.1.trans (quiet_finishCall allows _))
  next ensured id opened =>
    rw [opened] at spec
    obtain ⟨quiet, usable⟩ := spec
    have usable := usable id rfl
    have found := (quiet.bounded bounded).current id usable.1
    unfold sendRequest
    simp only
    split
    · left
      split
      · exact (quiet.trans (quiet_closeSession (quiet.bounded bounded) found)).trans
          (quiet_finishCall allows _)
      · exact quiet.trans (quiet_finishCall allows _)
    · split
      · right
        have registered : Quiet allowed transport
            (ensured.modifySession id fun session => session.register requestId identity) :=
          quiet.trans (quiet_modifySession id (fun _ _ => .inl rfl)
            fun _ closed => closed)
        refine ⟨_, id, registered, ⟨usable.1, usable.2.1, ?_⟩, rfl⟩
        have stays := usable.2.2
        unfold isClosed at stays ⊢
        rw [find?_modifySession, Option.any_map]
        obtain ⟨session, stored⟩ := Option.isSome_iff_exists.mp found
        rw [stored] at stays ⊢
        simpa only [Option.any_some, if_true, TransportSession.register] using stays
      · exact .inl ((quiet.trans (quiet_closeSession (quiet.bounded bounded) found)).trans
          (quiet_finishCall allows _))

/-! ### Readers -/

theorem isReading_leave (id : Nat) (actions : List ReaderAction) :
    (transport.leave id actions).isReading id = false := by
  unfold isReading leave
  rw [find?_modifySession, Option.any_map]
  cases transport.sessions.find? id with
  | none => rfl
  | some => simp only [Option.any_some, if_true, reduceCtorEq, decide_false]

theorem isReading_of_leave {other : Nat}
    (reading : (transport.leave id actions).isReading other = true) :
    transport.isReading other = true := by
  obtain ⟨session, found, reads⟩ := isReading_eq_true.mp reading
  unfold leave at found
  rw [find?_modifySession] at found
  obtain ⟨stored, before, rfl⟩ := Option.map_eq_some_iff.mp found
  split at reads
  · cases reads
  · exact isReading_eq_true.mpr ⟨stored, before, reads⟩

theorem isClosed_leave (id other : Nat) (actions : List ReaderAction) :
    (transport.leave id actions).isClosed other = transport.isClosed other := by
  unfold isClosed leave
  rw [find?_modifySession, Option.any_map]
  cases transport.sessions.find? other with
  | none => rfl
  | some =>
    simp only [Option.any_some]
    split <;> rfl

theorem owes_leave {other : Nat} (owes : (transport.leave id actions).Owes other event) :
    transport.Owes other event ∨ (other = id ∧ .push event ∈ actions) := by
  obtain ⟨session, owed, found, leaving, member⟩ := owes
  unfold leave at found
  rw [find?_modifySession] at found
  obtain ⟨stored, before, rfl⟩ := Option.map_eq_some_iff.mp found
  split at leaving
  next same =>
    cases leaving
    exact .inr ⟨same, member⟩
  · exact .inl ⟨stored, owed, before, leaving, member⟩

theorem pushEnd_leave (event : GrpcRouteSubscriptionEvent)
    (ids : List Nat) (id : Nat) (actions : List ReaderAction) :
    (transport.pushEnd event ids).leave id actions =
      (transport.leave id actions).pushEnd event ids := by
  unfold pushEnd push
  simp only [leave, modifySession]
  split <;> rfl

theorem quiet_pushEnd_left (closes : event.drained = .streamClosed ∨ transport.accepts = false)
    (known : id < transport.nextSession) (left : transport.isReading id = false) :
    Quiet allowed transport (transport.pushEnd event [id]) := by
  refine quiet_pushEnd closes fun other member => ?_
  rw [List.mem_singleton.mp member]
  refine ⟨known, fun reading => ?_⟩
  rw [left] at reading
  cases reading

variable {message : SubscribeControlPlaneOutput}

/-- A message that answers nothing is queued, or one too many ends the session. -/
theorem readMessage_event (known : id < transport.nextSession)
    (pushed : responseRequestId message = none) (room : Bool) :
    transport.readMessage id message room = transport.push (.message message) ∨
      Quiet allowed transport (transport.readMessage id message room) := by
  unfold readMessage
  rw [pushed]
  simp only
  split
  · exact .inl rfl
  next full =>
    right
    rw [pushEnd_leave]
    have left : Quiet allowed transport (transport.leave id [.close, .failPending]) := by
      refine quiet_leave id fun event member => ?_
      simp only [List.mem_cons, reduceCtorEq, List.not_mem_nil, or_false] at member
    exact left.trans
      (quiet_pushEnd_left (.inr (Bool.not_eq_true _ ▸ full)) known (isReading_leave id _))

/-- A reply finishes the call that waits for it on this session, and changes nothing else that
matters. -/
theorem readMessage_reply (replies : responseRequestId message = some requestId) (room : Bool) :
    Quiet allowed transport (transport.readMessage id message room) ∨
      (transport.calls.find? requestId = some (.waiting id) ∧
        ∃ middle, Quiet allowed transport middle ∧ middle.calls = transport.calls ∧
          transport.readMessage id message room = middle.finishCall requestId (.ok message)) := by
  unfold readMessage
  rw [replies]
  simp only
  split
  · have answered : Quiet allowed transport (transport.modifySession id fun session =>
        { session with pending := session.pending.erase requestId }) :=
      quiet_modifySession id (fun _ _ => .inl rfl) fun _ closed => closed
    unfold reply
    simp only
    split
    · left
      split
      · exact answered
      · split
        · exact answered.trans
            (quiet_modifySession id (fun _ _ => .inl rfl) fun _ closed => closed)
        · exact answered.trans (quiet_fail id rfl)
    next waited =>
      right
      rw [Bool.not_eq_true, abandoned, decide_eq_false_iff_not, not_not] at waited
      exact ⟨waited, _, answered, rfl, rfl⟩
  · exact .inl (quiet_fail id rfl)

end Sleepypods.Frontline.Transport
