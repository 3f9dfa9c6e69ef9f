import Sleepypods.Frontline.Attached
import Sleepypods.Frontline.Provenance
import Sleepypods.Frontline.TransportProperties
import Sleepypods.Library.Fallible

/-! The crossing of stream generations: once the end of a session was drained, no answer is cached
under an id of that session, and none can be installed by a call that was in flight then. -/

set_option autoImplicit false

namespace Sleepypods.Frontline

open Library Transport
open Proxy (Producer ProducerAction StreamLimits)
open Transport (Quiet Bounded)

/-! ### What a step can do -/

/-- A step that leaves the actor's answers, observations and operations alone. -/
structure Unmoved (before after : Attached) : Prop where
  cache : after.actor.cache = before.actor.cache
  observations : after.actor.observations = before.actor.observations
  tasks : after.actor.tasks = before.actor.tasks
  requests : after.actor.nextRequest = before.actor.nextRequest
  drained : after.drained = before.drained
  origins : after.origins = before.origins

/-- The calls a step may be the first to fail are those of requests that were handed out. -/
abbrev Calm (attached : Attached) : Transport → Transport → Prop :=
  Quiet (· ≤ attached.actor.nextRequest)

inductive AttachedChange (step : AttachedEvent) (before after : Attached) : Prop where
  | quiet (unmoved : Unmoved before after) (calm : Calm before before.transport after.transport)
  | wait (unmoved : Unmoved before after) (requestId : RouteRequestId) (session : Nat)
      (middle : Transport) (known : requestId ≤ before.actor.nextRequest)
      (calm : Calm before before.transport middle) (usable : middle.Usable session)
      (transport : after.transport =
        { middle with calls := middle.calls.insert requestId (.waiting session) })
  | answer (unmoved : Unmoved before after) (requestId : RouteRequestId) (session : Nat)
      (message : SubscribeControlPlaneOutput) (middle : Transport)
      (reading : before.transport.isReading session = true)
      (waiting : before.transport.calls.find? requestId = some (.waiting session))
      (stamped : ∀ id, resolvedSubscriptionId message = some id → id.session = some session)
      (calm : Calm before before.transport middle) (calls : middle.calls = before.transport.calls)
      (transport : after.transport = middle.finishCall requestId (.ok message))
  | queue (unmoved : Unmoved before after) (session : Nat) (message : SubscribeControlPlaneOutput)
      (reading : before.transport.isReading session = true)
      (pushed : responseRequestId message = none)
      (transport : after.transport = before.transport.push (.message message))
  | finish (unmoved : Unmoved before after) (session : Nat) (producer : Producer)
      (reading : before.transport.isReading session = true)
      (stream : before.streams.find? session = some producer) (exhausted : producer.responses = [])
      (ended : producer.ended.isSome = true) (room : Bool) (reads : step = .read session room)
      (transport : after.transport = before.transport.fail session .responseStreamEnded)
  | settle (unmoved : Unmoved before after) (session : Nat) (event : GrpcRouteSubscriptionEvent)
      (middle : Transport) (owed : before.transport.Owes session event)
      (calm : Calm before before.transport middle) (left : middle.isReading session = false)
      (transport : after.transport = middle.pushEnd event [session])
  | turn (event : Actor.ActorEvent) (sees : before.sees event = true)
      (handled : before.actor.handle event = some after.actor)
      (calm : Calm before (Attached.joined before.transport event) after.transport)
      (drained : after.drained =
        if event.drains then before.drained ++ before.transport.ending else before.drained)
      (origins : after.origins = Attached.grantedBy before.origins after.actor.cache)

/-- Request and session numbers are handed out in order. -/
structure Numbering (attached : Attached) : Prop where
  bounded : Bounded attached.transport
  tasks : ∀ task ∈ attached.actor.tasks, ∀ request ∈ task.request,
    request.1 ≤ attached.actor.nextRequest
  calls : ∀ requestId, (attached.transport.calls.find? requestId).isSome →
    requestId ≤ attached.actor.nextRequest

variable {requestId : RouteRequestId} {identity : RouteIdentity} {session : Nat}
  {limits : StreamLimits} {event : Actor.ActorEvent}

namespace Attached

variable {attached next : Attached}

theorem inFlight_eq_true :
    attached.inFlight requestId identity = true ↔
      ∃ task ∈ attached.actor.tasks, task.request = some (requestId, identity) := by
  simp only [inFlight, List.any_eq_true, decide_eq_true_eq]

theorem inFlight_le (numbering : Numbering attached)
    (flying : attached.inFlight requestId identity = true) :
    requestId ≤ attached.actor.nextRequest := by
  obtain ⟨task, member, requested⟩ := inFlight_eq_true.mp flying
  exact numbering.tasks task member _ requested

variable {id : Nat}

theorem resolved_session {response : Proxy.ProxySubscribeResponse}
    {message : SubscribeControlPlaneOutput}
    (received : receiveResponse session response = .ok message) (id : SubscriptionId)
    (resolved : resolvedSubscriptionId message = some id) :
    id.session = some session := by
  cases response with
  | routeResolved =>
    obtain ⟨identity, _, rfl⟩ := Fallible.map_eq_ok.mp received
    cases resolved
    rfl
  | routeMiss =>
    obtain ⟨identity, _, rfl⟩ := Fallible.map_eq_ok.mp received
    cases resolved
  | routeInvalidated =>
    cases received
    cases resolved

theorem quiet_requestResets {allowed : RouteRequestId → Prop} (calls : List ClientCall)
    {transport : Transport} (bounded : Bounded transport) :
    Quiet allowed transport (requestResets transport calls) := by
  induction calls generalizing transport with
  | nil => exact .refl transport
  | cons _ _ ih =>
    unfold requestResets
    rw [List.foldl_cons]
    split
    · have reset : Quiet allowed transport transport.requestReset :=
        quiet_requestReset bounded
      exact reset.trans (ih (reset.bounded bounded))
    · exact ih bounded

theorem produce_change {action : ProducerAction}
    (produced : attached.produce limits id action = some next) :
    AttachedChange (.produce id action) attached next := by
  obtain ⟨taken, took, produced⟩ := Option.bind_eq_some_iff.mp produced
  obtain ⟨producer, _, produced⟩ := Option.bind_eq_some_iff.mp produced
  obtain ⟨acted, _, rfl⟩ := Option.map_eq_some_iff.mp produced
  cases action with
  | request =>
    obtain ⟨session, _, took⟩ := Option.bind_eq_some_iff.mp took
    split at took
    · cases took
      exact .quiet ⟨rfl, rfl, rfl, rfl, rfl, rfl⟩
        (quiet_modifySession _ (fun _ _ => .inl rfl) fun _ closed => closed)
    · cases took
  | event | finish =>
    cases took
    exact .quiet ⟨rfl, rfl, rfl, rfl, rfl, rfl⟩ (.refl _)

theorem subscribe_change (numbering : Numbering attached) {connected delivered : Bool}
    (subscribed : attached.subscribe requestId identity connected delivered = some next) :
    AttachedChange (.subscribe requestId identity connected delivered) attached next := by
  unfold subscribe at subscribed
  split at subscribed
  next ready =>
    cases subscribed
    have known := inFlight_le numbering ready.1
    rcases @Transport.subscribeRoute_cases (· ≤ attached.actor.nextRequest) _ numbering.bounded _
      known identity connected delivered with calm | ⟨middle, session, calm, usable, equal⟩
    · exact .quiet ⟨rfl, rfl, rfl, rfl, rfl, rfl⟩ calm
    · exact .wait ⟨rfl, rfl, rfl, rfl, rfl, rfl⟩ requestId session middle known calm usable equal
  · cases subscribed

theorem timeout_change (numbering : Numbering attached)
    (timed : attached.timeout requestId identity = some next) :
    AttachedChange (.timeout requestId identity) attached next := by
  unfold timeout at timed
  split at timed
  next ready =>
    cases timed
    exact .quiet ⟨rfl, rfl, rfl, rfl, rfl, rfl⟩
      (quiet_timeoutCall numbering.bounded (inFlight_le numbering ready.1))
  · cases timed

theorem read_change (numbering : Numbering attached) {room : Bool}
    (readItem : attached.read id room = some next) :
    AttachedChange (.read id room) attached next := by
  unfold read at readItem
  split at readItem
  next reading =>
    obtain ⟨session, found, _⟩ := isReading_eq_true.mp reading
    have known := numbering.bounded.sessions id (Option.isSome_iff_exists.mpr ⟨session, found⟩)
    obtain ⟨producer, stream, readItem⟩ := Option.bind_eq_some_iff.mp readItem
    split at readItem
    next response rest items =>
      simp only at readItem
      split at readItem
      · cases readItem
        exact .quiet ⟨rfl, rfl, rfl, rfl, rfl, rfl⟩ (quiet_fail id rfl)
      next message received =>
        cases readItem
        cases replies : responseRequestId message with
        | none =>
          rcases readMessage_event known replies room with equal | calm
          · exact .queue ⟨rfl, rfl, rfl, rfl, rfl, rfl⟩ id message reading replies equal
          · exact .quiet ⟨rfl, rfl, rfl, rfl, rfl, rfl⟩ calm
        | some requestId =>
          rcases readMessage_reply replies room with
            calm | ⟨waiting, middle, calm, calls, equal⟩
          · exact .quiet ⟨rfl, rfl, rfl, rfl, rfl, rfl⟩ calm
          · exact .answer ⟨rfl, rfl, rfl, rfl, rfl, rfl⟩ requestId id message middle reading
              waiting (resolved_session received) calm calls equal
    · cases readItem
      exact .quiet ⟨rfl, rfl, rfl, rfl, rfl, rfl⟩ (quiet_fail id rfl)
    next exhausted =>
      split at readItem
      next ended =>
        cases readItem
        exact .finish ⟨rfl, rfl, rfl, rfl, rfl, rfl⟩ id producer reading stream exhausted ended
          room rfl rfl
      · cases readItem
  · cases readItem

theorem leave_change (left : attached.leave id = some next) :
    AttachedChange (.leave id) attached next := by
  unfold leave at left
  split at left
  next action rest found =>
    cases left
    obtain ⟨session, stored, leaving⟩ := Option.map_eq_some_iff.mp found
    have owed : ∀ event, .push event ∈ action :: rest → attached.transport.Owes id event :=
      fun event member => ⟨session, _, stored, leaving, member⟩
    have calm : Calm attached attached.transport (attached.transport.leave id rest) :=
      quiet_leave id fun event member => .inl (owed event (.tail _ member))
    cases action with
    | close =>
      exact .quiet ⟨rfl, rfl, rfl, rfl, rfl, rfl⟩ (calm.trans (quiet_close id))
    | push event =>
      exact .settle ⟨rfl, rfl, rfl, rfl, rfl, rfl⟩ id event _ (owed event (.head _)) calm
        (isReading_leave id rest) rfl
    | failPending =>
      exact .quiet ⟨rfl, rfl, rfl, rfl, rfl, rfl⟩
        (calm.trans (quiet_failPending id))
  · cases left

theorem abort_change (aborted : attached.abort id = some next) :
    AttachedChange (.abort id) attached next := by
  unfold abort at aborted
  split at aborted
  next other =>
    cases aborted
    refine .quiet ⟨rfl, rfl, rfl, rfl, rfl, rfl⟩ ?_
    exact (quiet_failPending id).trans (quiet_erase other)
  · cases aborted

variable (numbering : Numbering attached)

include numbering

theorem turn_change (turned : attached.turn event = some next) :
    AttachedChange (.turn event) attached next := by
  unfold turn at turned
  split at turned
  next sees =>
    obtain ⟨actor, handled, rfl⟩ := Option.map_eq_some_iff.mp turned
    refine .turn event sees handled (quiet_requestResets _ ?_) rfl rfl
    exact ⟨numbering.bounded.sessions, numbering.bounded.current⟩
  · cases turned

theorem cleanup_change {index : Nat} {outcome : Transport.CleanupOutcome}
    (cleaned : attached.cleanup index outcome = some next) :
    AttachedChange (.cleanup index outcome) attached next := by
  unfold cleanup at cleaned
  split at cleaned
  next call _ =>
    cases call with
    | unsubscribe id =>
      cases cleaned
      exact .quiet ⟨rfl, rfl, rfl, rfl, rfl, rfl⟩
        (quiet_unsubscribe numbering.bounded id outcome)
    | reset =>
      cases cleaned
      exact .quiet ⟨rfl, rfl, rfl, rfl, rfl, rfl⟩ (quiet_performReset outcome)
  · cases cleaned

theorem handle_change {event : AttachedEvent} (handled : handle limits event attached = some next) :
    AttachedChange event attached next := by
  cases event with
  | publish =>
    cases handled
    exact .quiet ⟨rfl, rfl, rfl, rfl, rfl, rfl⟩ (.refl _)
  | produce => exact produce_change handled
  | subscribe => exact subscribe_change numbering handled
  | timeout => exact timeout_change numbering handled
  | read => exact read_change numbering handled
  | disconnect id =>
    simp only [handle, disconnect] at handled
    split at handled
    · cases handled
      exact .quiet ⟨rfl, rfl, rfl, rfl, rfl, rfl⟩ (quiet_fail id rfl)
    · cases handled
  | leave => exact leave_change handled
  | abort => exact abort_change handled
  | turn => exact turn_change numbering handled
  | cleanup => exact cleanup_change numbering handled

end Attached

/-! ### Ends of sessions -/

/-- Events after which no answer has an id. -/
def RouteSubscriptionEvent.crosses : RouteSubscriptionEvent → Bool
  | .update _ => false
  | .streamEnded => true
  | .streamClosed => true

/-- A session whose end is queued or was drained gets no further calls, and its end is in the
queue until it is drained. -/
structure Ends (transport : Transport) (drained : List Nat) : Prop where
  known : ∀ session ∈ drained ++ transport.ending, session < transport.nextSession
  retired : ∀ session ∈ drained ++ transport.ending, transport.isReading session = true →
    transport.Retired session
  passive : ∀ event ∈ transport.queue, event.drained.passive = true
  queued : ∀ session ∈ transport.ending, ∃ event ∈ transport.queue, event.drained.crosses = true
  owes : ∀ session event, transport.Owes session event → event.drained.crosses = true

namespace Ends

variable {allowed : RouteRequestId → Prop} {transport next : Transport} {drained : List Nat}

theorem passive_of_crosses {event : RouteSubscriptionEvent} (crosses : event.crosses = true) :
    event.passive = true := by
  cases event with
  | update => cases crosses
  | streamEnded | streamClosed => rfl

theorem crosses_of_barred (barred : transport.Barred) :
    ∃ event ∈ transport.queue, event.drained.crosses = true := by
  obtain ⟨event, member, closes⟩ := barred
  exact ⟨event, member, closes ▸ rfl⟩

variable (ends : Ends transport drained)

include ends

theorem quiet (quiet : Quiet allowed transport next) :
    Ends next drained where
  known := by
    intro session member
    have grows := quiet.nextSession
    rcases List.mem_append.mp member with before | ending
    · exact Nat.lt_of_lt_of_le (ends.known session (List.mem_append_left _ before)) grows
    · rcases quiet.ending session ending with old | new
      · exact Nat.lt_of_lt_of_le (ends.known session (List.mem_append_right _ old)) grows
      · exact new.1
  retired := by
    intro session member reading
    have stays : session ∈ drained ++ transport.ending → next.Retired session := by
      intro old
      have known := ends.known session old
      exact quiet.retired session known
        (ends.retired session old (quiet.reading session known reading))
    rcases List.mem_append.mp member with before | ending
    · exact stays (List.mem_append_left _ before)
    · rcases quiet.ending session ending with old | new
      · exact stays (List.mem_append_right _ old)
      · exact new.2.1 reading
  passive := by
    intro event member
    rcases quiet.queue event member with old | closes
    · exact ends.passive event old
    · rw [closes]
      rfl
  queued := by
    intro session member
    rcases quiet.ending session member with old | new
    · obtain ⟨event, queued, crosses⟩ := ends.queued session old
      rcases quiet.kept event queued with kept | barred
      · exact ⟨event, kept, crosses⟩
      · exact crosses_of_barred barred
    · exact crosses_of_barred new.2.2
  owes := by
    intro session event owes
    rcases quiet.owes session event owes with old | closes
    · exact ends.owes session event old
    · rw [closes]
      rfl

theorem push {message : SubscribeControlPlaneOutput} (pushed : responseRequestId message = none) :
    Ends (transport.push (.message message)) drained where
  known := by
    rw [push_ending, Transport.push_nextSession]
    exact ends.known
  retired := by
    simp only [push_ending, Transport.Retired, isReading, isClosed,
      Transport.push_sessions, push_current, push_resetRequested]
    exact ends.retired
  passive := by
    intro event member
    rcases mem_push member with old | ⟨rfl, _⟩ | closes
    · exact ends.passive event old
    · cases message with
      | routeResolved => cases pushed
      | routeMiss | routeUpdated | routeInvalidated => rfl
    · rw [closes]
      rfl
  queued := by
    intro session member
    rw [push_ending] at member
    obtain ⟨event, queued, crosses⟩ := ends.queued session member
    rcases push_keeps (.message message) queued with kept | barred
    · exact ⟨event, kept, crosses⟩
    · exact crosses_of_barred barred
  owes := by
    intro session event owes
    simp only [Transport.Owes, Transport.push_sessions] at owes
    exact ends.owes session event owes

theorem pushEnd {event : GrpcRouteSubscriptionEvent} (crosses : event.drained.crosses = true)
    (known : session < transport.nextSession) (left : transport.isReading session = false) :
    Ends (transport.pushEnd event [session]) drained where
  known := by
    simp only [Transport.pushEnd, Transport.push_nextSession, ← List.append_assoc]
    intro other member
    rcases List.mem_append.mp member with old | new
    · exact ends.known other old
    · rwa [List.mem_singleton.mp new]
  retired := by
    intro other member reading
    rw [retired_pushEnd]
    simp only [Transport.pushEnd, isReading, Transport.push_sessions] at reading
    simp only [Transport.pushEnd, ← List.append_assoc] at member
    rcases List.mem_append.mp member with old | new
    · exact ends.retired other old reading
    · rw [List.mem_singleton.mp new] at reading
      exact absurd (left.symm.trans reading) Bool.false_ne_true
  passive := by
    intro other member
    rcases mem_push member with old | ⟨rfl, _⟩ | closes
    · exact ends.passive other old
    · exact passive_of_crosses crosses
    · rw [closes]
      rfl
  queued := by
    intro other member
    rcases push_queues event with there | barred
    · exact ⟨event, there, crosses⟩
    · exact crosses_of_barred barred
  owes := by
    intro other owed owes
    simp only [Transport.Owes, Transport.pushEnd, Transport.push_sessions] at owes
    exact ends.owes other owed owes

theorem fail {event : GrpcRouteSubscriptionEvent} (crosses : event.drained.crosses = true)
    (session : Nat) :
    Ends (transport.fail session event) drained where
  known := ends.known
  retired := by
    intro other member reading current
    rw [Transport.fail, Transport.isClosed_leave]
    exact ends.retired other member (isReading_of_leave reading) current
  passive := ends.passive
  queued := ends.queued
  owes := by
    intro other owed owes
    rcases owes_leave owes with before | ⟨_, pushed⟩
    · exact ends.owes other owed before
    · simp only [List.mem_cons, reduceCtorEq, ReaderAction.push.injEq, false_or, List.not_mem_nil,
        or_false] at pushed
      exact pushed ▸ crosses

end Ends

/-! ### The invariant -/

theorem eq_false_of_imp {first second : Bool} (implies : first = true → second = true)
    (absent : second = false) : first = false :=
  Bool.eq_false_iff.mpr (mt implies (Bool.eq_false_iff.mp absent))

/-- Operations from before the last crossing. -/
def Overtaken (attached : Attached) (task : PendingRoute) : Prop :=
  task.observation.streamEpoch < attached.actor.observations.streamEpoch

structure Crossed (attached : Attached) : Prop where
  numbering : Numbering attached
  tracked : Tracked attached.actor
  ends : Ends attached.transport attached.drained
  waiting : ∀ task ∈ attached.actor.tasks, ∀ request ∈ task.request, ∀ session ∈ attached.drained,
    attached.transport.calls.find? request.1 = some (.waiting session) →
    Overtaken attached task ∨ attached.transport.isReading session = false
  answered : ∀ task ∈ attached.actor.tasks, ∀ request ∈ task.request, ∀ message,
    attached.transport.calls.find? request.1 = some (.done (.ok message)) →
    ∀ id session, resolvedSubscriptionId message = some id → id.session = some session →
    session ∈ attached.drained → Overtaken attached task
  revoked : ∀ identity positive id session, attached.actor.cache.positive identity = some positive →
    positive.subscriptionId = some id → id.session = some session → session ∉ attached.drained

namespace Crossed

variable {before after : Attached}

theorem start (capacity : Nat) : Crossed (.start capacity) where
  numbering :=
    ⟨⟨fun _ found => (by cases found), fun _ current => (by cases current)⟩,
      fun task member => absurd member List.not_mem_nil, fun _ found => (by cases found)⟩
  tracked := Tracked.start capacity
  ends :=
    { known := fun _ member => absurd member List.not_mem_nil
      retired := fun _ member => absurd member List.not_mem_nil
      passive := fun _ member => absurd member List.not_mem_nil
      queued := fun _ member => absurd member List.not_mem_nil
      owes := by
        rintro session event ⟨stored, actions, found, _⟩
        cases found }
  waiting := fun task member => absurd member List.not_mem_nil
  answered := fun task member => absurd member List.not_mem_nil
  revoked := fun _ _ _ _ _ _ _ member => absurd member List.not_mem_nil

variable (crossed : Crossed before)

include crossed

theorem unmoved (unmoved : Unmoved before after)
    (bounded : Bounded after.transport)
    (calls : ∀ requestId, (after.transport.calls.find? requestId).isSome →
      requestId ≤ before.actor.nextRequest)
    (ends : Ends after.transport before.drained)
    (waiting : ∀ task ∈ before.actor.tasks, ∀ request ∈ task.request, ∀ session ∈ before.drained,
      after.transport.calls.find? request.1 = some (.waiting session) →
      Overtaken before task ∨ after.transport.isReading session = false)
    (answered : ∀ task ∈ before.actor.tasks, ∀ request ∈ task.request, ∀ message,
      after.transport.calls.find? request.1 = some (.done (.ok message)) →
      ∀ id session, resolvedSubscriptionId message = some id → id.session = some session →
      session ∈ before.drained → Overtaken before task) : Crossed after := by
  obtain ⟨cache, observations, tasks, requests, drained, _⟩ := unmoved
  constructor
  · refine ⟨bounded, ?_, ?_⟩
    · rw [tasks, requests]
      exact crossed.numbering.tasks
    · rw [requests]
      exact calls
  · exact crossed.tracked.bookkeeping (.idle observations tasks)
  · rw [drained]
    exact ends
  · unfold Overtaken
    rw [tasks, drained, observations]
    exact waiting
  · unfold Overtaken
    rw [tasks, drained, observations]
    exact answered
  · rw [cache, drained]
    exact crossed.revoked

variable (same : Unmoved before after)

include same

theorem calm (quiet : Calm before before.transport after.transport) : Crossed after := by
  refine crossed.unmoved same (quiet.bounded crossed.numbering.bounded) ?_
    (crossed.ends.quiet quiet) ?_ ?_
  · intro requestId found
    rcases quiet.known requestId found with old | allowed
    · exact crossed.numbering.calls requestId old
    · exact allowed
  · intro task member request requested session drained waits
    have waited := quiet.waiting request.1 session waits
    rcases crossed.waiting task member request requested session drained waited with
      overtaken | left
    · exact .inl overtaken
    · have known := crossed.ends.known session (List.mem_append_left _ drained)
      exact .inr (eq_false_of_imp (quiet.reading session known) left)
  · intro task member request requested message done
    exact crossed.answered task member request requested message
      (quiet.answered request.1 message done)

theorem call {middle : Transport} (quiet : Calm before before.transport middle) {call : RouteCall}
    (transport : after.transport = { middle with calls := middle.calls.insert requestId call })
    (known : requestId ≤ before.actor.nextRequest)
    (waits : ∀ session ∈ before.drained, call = .waiting session →
      middle.isReading session = false)
    (answers : ∀ task ∈ before.actor.tasks, ∀ request ∈ task.request, request.1 = requestId →
      ∀ message, call = .done (.ok message) → ∀ id session,
      resolvedSubscriptionId message = some id → id.session = some session →
      session ∈ before.drained → Overtaken before task) : Crossed after := by
  have between : Crossed { before with transport := middle } :=
    crossed.calm ⟨rfl, rfl, rfl, rfl, rfl, rfl⟩ quiet
  refine crossed.unmoved same ?_ ?_ ?_ ?_ ?_
  · rw [transport]
    exact ⟨between.numbering.bounded.sessions, between.numbering.bounded.current⟩
  · intro other found
    rw [transport, Table.find?_insert, Function.update_apply] at found
    split at found
    next equal => exact equal ▸ known
    · exact between.numbering.calls other found
  · rw [transport]
    exact ⟨between.ends.known, between.ends.retired, between.ends.passive, between.ends.queued,
      between.ends.owes⟩
  · intro task member request requested session drained found
    rw [transport, Table.find?_insert, Function.update_apply] at found
    rw [transport]
    split at found
    · exact .inr (waits session drained (Option.some.inj found))
    · exact between.waiting task member request requested session drained found
  · intro task member request requested message found
    rw [transport, Table.find?_insert, Function.update_apply] at found
    split at found
    next equal => exact answers task member request requested equal message (Option.some.inj found)
    · exact between.answered task member request requested message found

theorem queue
    (bounded : Bounded after.transport) (ends : Ends after.transport before.drained)
    (calls : after.transport.calls = before.transport.calls)
    (reading : ∀ session, after.transport.isReading session = true →
      before.transport.isReading session = true) : Crossed after := by
  refine crossed.unmoved same bounded ?_ ends ?_ ?_
  · rw [calls]
    exact crossed.numbering.calls
  · rw [calls]
    intro task member request requested session drained waits
    rcases crossed.waiting task member request requested session drained waits with
      overtaken | left
    · exact .inl overtaken
    · exact .inr (eq_false_of_imp (reading session) left)
  · rw [calls]
    exact crossed.answered

end Crossed

/-! ### Turns -/

variable {drained : List Nat} {task : PendingRoute}

namespace Attached

variable {attached : Attached} {event : Actor.ActorEvent}

theorem events_of_sees (sees : attached.sees event = true) (drains : event.drains = true) :
    event.events = attached.transport.queue.map GrpcRouteSubscriptionEvent.drained := by
  simp only [Attached.sees, Bool.and_eq_true, drains, Bool.not_true, Bool.false_or,
    decide_eq_true_eq] at sees
  exact sees.1.2

theorem events_of_not_drains (idle : event.drains = false) : event.events = [] := by
  cases event with
  | drain => cases idle
  | expire | reregister => rfl
  | joinReregister | joinSubscribe | joinWake => cases idle
  | command | cleanupFinished => rfl

theorem passive_events (ends : Ends attached.transport drained)
    (sees : attached.sees event = true) :
    ∀ item ∈ event.events, item.passive = true := by
  intro item member
  cases drains : event.drains with
  | false =>
    rw [events_of_not_drains drains] at member
    exact absurd member List.not_mem_nil
  | true =>
    rw [events_of_sees sees drains] at member
    obtain ⟨queued, there, rfl⟩ := List.mem_map.mp member
    exact ends.passive queued there

theorem answer_of_reply (sees : attached.sees event = true)
    {result : Except CallError SubscribeControlPlaneOutput}
    (replied : event.reply = some (task, result)) :
    ∃ request, task.request = some request ∧
      attached.transport.calls.find? request.1 = some (.done result) := by
  have requested : ∃ request, task.request = some request := by
    cases event with
    | joinReregister | joinSubscribe =>
      cases replied
      exact ⟨_, rfl⟩
    | drain | expire | reregister | joinWake | command | cleanupFinished => cases replied
  obtain ⟨request, requested⟩ := requested
  have joins : event.joins = some (request.1, result) := by
    unfold Actor.ActorEvent.joins
    rw [replied]
    simp only [Option.bind_some, requested, Option.map_some]
  simp only [Attached.sees, Bool.and_eq_true, joins, Option.all_some, decide_eq_true_eq] at sees
  exact ⟨request, requested, sees.2⟩

theorem find?_joined {transport : Transport} {call : RouteCall}
    (found : (joined transport event).calls.find? requestId = some call) :
    transport.calls.find? requestId = some call := by
  unfold joined at found
  simp only at found
  split at found
  · rw [Table.find?_erase, Function.update_apply] at found
    split at found
    · cases found
    · exact found
  · exact found

theorem ends_joined (ends : Ends attached.transport drained) :
    Ends (joined attached.transport event)
      (if event.drains then drained ++ attached.transport.ending else drained) := by
  cases drains : event.drains with
  | false =>
    refine ⟨?_, ?_, ?_, ?_, ends.owes⟩
    all_goals simp only [joined, drains, Bool.false_eq_true, if_false]
    · exact ends.known
    · exact ends.retired
    · exact ends.passive
    · exact ends.queued
  | true =>
    refine ⟨?_, ?_, ?_, ?_, ends.owes⟩
    all_goals simp only [joined, drains, if_true, List.append_nil]
    · exact ends.known
    · exact ends.retired
    · exact fun item member => absurd member List.not_mem_nil
    · exact fun session member => absurd member List.not_mem_nil

end Attached

theorem forgetful_unbacked : Forgetful fun positive => positive.subscriptionId = none := by
  rintro before after unbacked (same | none)
  · exact same.trans unbacked
  · exact none

theorem cuts_of_crosses {event : RouteSubscriptionEvent} (crosses : event.crosses = true) :
    Cuts (fun positive => positive.subscriptionId = none) event := by
  cases event with
  | update => cases crosses
  | streamEnded => exact streamEnded_cuts fun _ unbacked => unbacked
  | streamClosed => exact streamClosed_cuts

/-- What a turn does: it drains the queue, and then installs at most the reply it joined. -/
structure Turn (before : Attached) (event : Actor.ActorEvent) (next : Actor) : Prop where
  drains : Moves passivePermit before.actor (before.actor.drained event)
  rest : Moves (replyPermit before.actor event) (before.actor.drained event) next
  cut : ∀ session ∈ before.transport.ending, event.drains = true →
    Cut (fun positive => positive.subscriptionId = none) before.actor (before.actor.drained event)

theorem Turn.of_sees {before : Attached} {next : Actor}
    (ends : Ends before.transport before.drained) (sees : before.sees event = true)
    (handled : before.actor.handle event = some next) : Turn before event next where
  drains := Moves.drained (batchPermits_passive (Attached.passive_events ends sees))
  rest := moves_after_drain handled
  cut := by
    intro session ending drains
    obtain ⟨queued, there, crosses⟩ := ends.queued session ending
    unfold Actor.drained
    rw [if_pos drains]
    refine drainEvents_cut forgetful_unbacked before.actor (Attached.passive_events ends sees)
      ⟨queued.drained, ?_, cuts_of_crosses crosses⟩
    rw [Attached.events_of_sees sees drains]
    exact List.mem_map_of_mem there

namespace Turn

variable {before : Attached} {event : Actor.ActorEvent} {next : Actor}

variable (turn : Turn before event next)

include turn

theorem epoch_le : before.actor.observations.streamEpoch ≤ next.observations.streamEpoch :=
  Nat.le_trans turn.drains.epoch_le turn.rest.epoch_le

theorem requests : Requests before.actor next :=
  turn.drains.requests.trans turn.rest.requests

theorem tracked (tracked : Tracked before.actor) : Tracked next :=
  turn.rest.tracked (turn.drains.tracked tracked)

/-- A cached answer with an id was cached with it before the turn, and no end was drained since, or
was installed from the reply of an operation that no drain crossed. -/
theorem backed {positive : PositiveCacheEntry} {id : SubscriptionId}
    (found : next.cache.positive identity = some positive)
    (backed : positive.subscriptionId = some id) :
    (∃ old, before.actor.cache.positive identity = some old ∧ old.subscriptionId = some id ∧
        ∀ session ∈ before.transport.ending, event.drains = false) ∨
      ∃ task message, event.reply = some (task, .ok message) ∧
        resolvedSubscriptionId message = some id ∧
        task.observation.streamEpoch =
          (before.actor.drained event).observations.streamEpoch := by
  rcases turn.rest.derives (fun rotates => absurd rotates not_false) identity positive found with
    ⟨middle, kept, same | ⟨rotates, _⟩⟩ | ⟨_, other, _, stored, task, message, granted⟩
  · rw [backed] at same
    rcases turn.drains.derives (fun _ _ _ _ _ => not_false) identity middle kept with
      ⟨old, there, equal | ⟨_, none⟩⟩ | ⟨_, _, _, _, resolved⟩
    · refine .inl ⟨old, there, equal.symm.trans same.symm, fun session ending => ?_⟩
      refine Bool.eq_false_iff.mpr fun drains => ?_
      have unbacked := (turn.cut session ending drains).1 identity middle kept
      exact absurd (unbacked.symm.trans same.symm) (Option.some_ne_none id).symm
    · exact absurd (none.symm.trans same.symm) (Option.some_ne_none id).symm
    · cases resolved
  · cases rotates
  · rw [backed] at stored
    cases stored
    exact .inr ⟨task, message, granted⟩

/-- A cached answer without an id was cached before the turn, and is so after the drain. -/
theorem unbacked {positive : PositiveCacheEntry}
    (found : next.cache.positive identity = some positive)
    (unbacked : positive.subscriptionId = none) :
    ∃ middle, (before.actor.drained event).cache.positive identity = some middle ∧
      ∃ old, before.actor.cache.positive identity = some old := by
  rcases turn.rest.derives (fun rotates => absurd rotates not_false) identity positive found with
    ⟨middle, kept, _⟩ | ⟨_, other, _, stored, _⟩
  · rcases turn.drains.derives (fun _ _ _ _ _ => not_false) identity middle kept with
      ⟨old, there, _⟩ | ⟨_, _, _, _, resolved⟩
    · exact ⟨middle, kept, old, there⟩
    · cases resolved
  · exact absurd (unbacked.symm.trans stored) (Option.some_ne_none other).symm

end Turn

/-! ### Runs -/

namespace Crossed

variable {before after : Attached}

theorem call_before (crossed : Crossed before) (turn : Turn before event after.actor)
    (quiet : Calm before (Attached.joined before.transport event) after.transport)
    (member : task ∈ after.actor.tasks) {request : RouteRequestId × RouteIdentity}
    (requested : task.request = some request)
    (found : (after.transport.calls.find? request.1).isSome = true) :
    task ∈ before.actor.tasks := by
  rcases turn.requests.tasks task member with old | new
  · exact old
  · exfalso
    have fresh := (new request requested).1
    have old : request.1 ≤ before.actor.nextRequest := by
      rcases quiet.known request.1 found with known | allowed
      · obtain ⟨call, stored⟩ := Option.isSome_iff_exists.mp known
        exact crossed.numbering.calls request.1
          (Option.isSome_iff_exists.mpr ⟨call, Attached.find?_joined stored⟩)
      · exact allowed
    exact absurd fresh (Nat.not_lt.mpr old)

theorem overtaken (turn : Turn before event after.actor) (overtaken : Overtaken before task) :
    Overtaken after task :=
  Nat.lt_of_lt_of_le overtaken turn.epoch_le

theorem overtaken_of_ending (crossed : Crossed before) (turn : Turn before event after.actor)
    (member : task ∈ before.actor.tasks) (ending : session ∈ before.transport.ending)
    (drains : event.drains = true) :
    Overtaken after task :=
  Nat.lt_of_le_of_lt (crossed.tracked.past task member).1
    (Nat.lt_of_lt_of_le (turn.cut session ending drains).2 turn.rest.epoch_le)

theorem mem_drained {ending : List Nat}
    (member : session ∈ if event.drains then drained ++ ending else drained) :
    session ∈ drained ∨ (session ∈ ending ∧ event.drains = true) := by
  split at member
  next drains =>
    rcases List.mem_append.mp member with old | new
    · exact .inl old
    · exact .inr ⟨new, drains⟩
  · exact .inl member

variable (crossed : Crossed before)

include crossed

theorem turned (sees : before.sees event = true)
    (handled : before.actor.handle event = some after.actor)
    (quiet : Calm before (Attached.joined before.transport event) after.transport)
    (drained : after.drained = if event.drains then before.drained ++ before.transport.ending else
      before.drained) :
    Crossed after := by
  have turn := Turn.of_sees crossed.ends sees handled
  have bounded : Bounded (Attached.joined before.transport event) :=
    ⟨crossed.numbering.bounded.sessions, crossed.numbering.bounded.current⟩
  constructor
  · refine ⟨quiet.bounded bounded, fun task member request requested => ?_, fun other found => ?_⟩
    · rcases turn.requests.tasks task member with old | new
      · exact Nat.le_trans (crossed.numbering.tasks task old request requested) turn.requests.grows
      · exact (new request requested).2
    · refine Nat.le_trans ?_ turn.requests.grows
      rcases quiet.known other found with known | allowed
      · obtain ⟨call, stored⟩ := Option.isSome_iff_exists.mp known
        exact crossed.numbering.calls other
          (Option.isSome_iff_exists.mpr ⟨call, Attached.find?_joined stored⟩)
      · exact allowed
  · exact turn.tracked crossed.tracked
  · rw [drained]
    exact (Attached.ends_joined crossed.ends).quiet quiet
  · intro task member request requested session ended waits
    have old := crossed.call_before turn quiet member requested
      (Option.isSome_iff_exists.mpr ⟨_, waits⟩)
    have waited := Attached.find?_joined (quiet.waiting request.1 session waits)
    rw [drained] at ended
    rcases mem_drained ended with before | ⟨ending, drains⟩
    · rcases crossed.waiting task old request requested session before waited with late | left
      · exact .inl (overtaken turn late)
      · have known := crossed.ends.known session (List.mem_append_left _ before)
        exact .inr (eq_false_of_imp (quiet.reading session known) left)
    · exact .inl (crossed.overtaken_of_ending turn old ending drains)
  · intro task member request requested message done id session resolved stamped ended
    have old := crossed.call_before turn quiet member requested
      (Option.isSome_iff_exists.mpr ⟨_, done⟩)
    have answered := Attached.find?_joined (quiet.answered request.1 message done)
    rw [drained] at ended
    rcases mem_drained ended with before | ⟨ending, drains⟩
    · exact overtaken turn
        (crossed.answered task old request requested message answered id session resolved stamped
          before)
    · exact crossed.overtaken_of_ending turn old ending drains
  · intro identity positive id session found backed stamped ended
    rw [drained] at ended
    rcases turn.backed found backed with ⟨old, there, same, idle⟩ |
      ⟨task, message, replied, resolved, current⟩
    · rcases mem_drained ended with before | ⟨ending, drains⟩
      · exact crossed.revoked identity old id session there same stamped before
      · exact absurd ((idle session ending).symm.trans drains) Bool.false_ne_true
    · have member := mem_of_reply handled replied
      obtain ⟨request, requested, answered⟩ := Attached.answer_of_reply sees replied
      rcases mem_drained ended with before | ⟨ending, drains⟩
      · have late := crossed.answered task member request requested message answered id session
          resolved stamped before
        exact absurd current (Nat.ne_of_lt (Nat.lt_of_lt_of_le late turn.drains.epoch_le))
      · have late := Nat.lt_of_le_of_lt (crossed.tracked.past task member).1
          (turn.cut session ending drains).2
        exact absurd current (Nat.ne_of_lt late)

theorem change {step : AttachedEvent} (change : AttachedChange step before after) :
    Crossed after := by
  cases change with
  | quiet unmoved calm => exact crossed.calm unmoved calm
  | wait unmoved _ session _ known calm usable transport =>
    refine crossed.call unmoved calm transport known ?_ ?_
    · rintro other drained ⟨⟩
      have ends := crossed.ends.quiet calm
      exact Bool.eq_false_iff.mpr (mt (ends.retired session (List.mem_append_left _ drained))
        usable.not_retired)
    · rintro task member request requested same message ⟨⟩
  | answer unmoved requestId session _ _ reading waiting stamped calm _ transport =>
    refine crossed.call unmoved calm transport
      (crossed.numbering.calls requestId (Option.isSome_iff_exists.mpr ⟨_, waiting⟩)) ?_ ?_
    · rintro other drained ⟨⟩
    · rintro task member request requested rfl _ ⟨⟩ id other resolved stamp drained
      rw [stamped id resolved] at stamp
      cases stamp
      rcases crossed.waiting task member request requested session drained waiting with late | left
      · exact late
      · exact absurd (left.symm.trans reading) Bool.false_ne_true
  | queue unmoved _ _ _ pushed transport =>
    refine crossed.queue unmoved ?_ ?_ ?_ ?_
    · rw [transport]
      exact bounded_push crossed.numbering.bounded _
    · rw [transport]
      exact crossed.ends.push pushed
    · rw [transport, push_calls]
    · intro other reads
      rw [transport, isReading, Transport.push_sessions] at reads
      exact reads
  | finish unmoved session _ _ _ _ _ _ reads transport =>
    refine crossed.queue unmoved ?_ ?_ ?_ ?_
    · rw [transport]
      exact bounded_modifySession crossed.numbering.bounded session _
    · rw [transport]
      exact crossed.ends.fail rfl session
    · rw [transport]
      rfl
    · intro other reads
      rw [transport] at reads
      exact isReading_of_leave reads
  | settle unmoved session event middle owed calm left transport =>
    obtain ⟨stored, _, found, _⟩ := id owed
    have known : session < middle.nextSession :=
      Nat.lt_of_lt_of_le
        (crossed.numbering.bounded.sessions session (Option.isSome_iff_exists.mpr ⟨_, found⟩))
        calm.nextSession
    have between : Crossed { before with transport := middle } :=
      crossed.calm ⟨rfl, rfl, rfl, rfl, rfl, rfl⟩ calm
    have same : Unmoved { before with transport := middle } after :=
      ⟨unmoved.cache, unmoved.observations, unmoved.tasks, unmoved.requests, unmoved.drained,
        unmoved.origins⟩
    refine between.queue same ?_ ?_ ?_ ?_
    · rw [transport]
      exact bounded_pushEnd between.numbering.bounded event _
    · rw [transport]
      exact between.ends.pushEnd (crossed.ends.owes session event owed) known left
    · rw [transport, Transport.pushEnd, push_calls]
    · intro other reads
      rw [transport, isReading, Transport.pushEnd, Transport.push_sessions] at reads
      exact reads
  | turn _ sees handled calm drained =>
    exact crossed.turned sees handled calm drained

theorem step {event : AttachedEvent} (handled : Attached.handle limits event before = some after) :
    Crossed after :=
  crossed.change (Attached.handle_change crossed.numbering handled)

end Crossed

theorem crossed_of_reachable {capacity : Nat} {attached : Attached}
    (reachable : (attachedSystem capacity limits).Reachable (fun _ => True) attached) :
    Crossed attached := by
  refine reachable.invariant ?_ fun _ _ _ _ crossed handled => crossed.step handled
  rintro _ rfl
  exact Crossed.start capacity

end Sleepypods.Frontline
