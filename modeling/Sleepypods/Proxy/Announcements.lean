import Sleepypods.Proxy.Dispatch

/-! The dispatcher relays the outbox to the broadcast channel. A change that a stream's answer does
not reflect reaches the stream, or a reset does, unless the dispatcher started behind it. -/

set_option autoImplicit false

namespace Sleepypods.Proxy

open Library Library.Fallible Process
open Store

/-! ### The dispatcher relays the outbox -/

def decodeChange (change : RouteChange) : Option RouteBindingChange := (publishDurable change).toOption

abbrev RouteRelay := Relay RouteChange RouteBindingChange

abbrev Relays : RouteRelay → RouteRelay → Prop := Relay.Steps decodeChange .reset

def Dispatcher.relay (dispatcher : Dispatcher) (history : List RouteChange)
    (sent : List RouteBindingChange) : RouteRelay where
  history := history
  start := dispatcher.origin
  progress := dispatcher.progress
  sent := sent

/-- What the dispatcher still has to publish is the part of the outbox up to its next cursor. -/
inductive Reading (history : List RouteChange) (cursor : Option Nat) (origin : Nat) :
    DispatchPhase → Prop where
  | waiting (read : cursor.getD 0 ≤ history.length) : Reading history cursor origin .waiting
  | loadedRevision (fresh : cursor = none) (bounded : origin ≤ history.length) :
      Reading history cursor origin (.loadedRevision origin)
  | reset (next : Nat) (read : cursor.getD 0 ≤ next) (bounded : next ≤ history.length) :
      Reading history cursor origin (.publishing true [] next)
  | publishing (events : List RouteChange) (next : Nat) (read : cursor.getD 0 + events.length ≤ next)
      (bounded : next ≤ history.length)
      (rest : events = (history.take next).drop (next - events.length)) :
      Reading history cursor origin (.publishing false events next)

structure InOrder (history : List RouteChange) (dispatcher : Dispatcher) : Prop where
  started : dispatcher.origin ≤ history.length
  reading : Reading history dispatcher.cursor dispatcher.origin dispatcher.phase

variable {cursor : Nat}

namespace InOrder

variable {history : List RouteChange} {dispatcher next : Dispatcher}
  {events sent : List RouteBindingChange}

variable (inOrder : InOrder history dispatcher)

include inOrder

theorem progress_le : dispatcher.progress ≤ history.length := by
  obtain ⟨cursor, failures, phase, returned, origin⟩ := dispatcher
  obtain ⟨started, reading⟩ := inOrder
  change Reading _ cursor origin phase at reading
  cases reading with
  | waiting read => exact read
  | loadedRevision _ bounded => exact bounded
  | reset _ read bounded => exact Nat.le_trans read bounded
  | publishing _ _ _ bounded => exact Nat.le_trans (Nat.sub_le _ _) bounded

theorem cursor_le (current : dispatcher.cursor = some cursor) : cursor ≤ dispatcher.progress := by
  obtain ⟨_, failures, phase, returned, origin⟩ := dispatcher
  cases current
  obtain ⟨started, reading⟩ := inOrder
  change Reading _ (some cursor) origin phase at reading
  cases reading with
  | waiting | reset => exact Nat.le_refl _
  | loadedRevision fresh => cases fresh
  | publishing _ _ read => exact Nat.le_sub_of_add_le read

theorem append (more : List RouteChange) : InOrder (history ++ more) dispatcher := by
  obtain ⟨started, reading⟩ := inOrder
  have longer : ∀ {bound : Nat}, bound ≤ history.length → bound ≤ (history ++ more).length := by
    intro bound within
    rw [List.length_append]
    exact Nat.le_add_right_of_le within
  refine ⟨longer started, ?_⟩
  generalize dispatcher.phase = phase at reading ⊢
  cases reading with
  | waiting read => exact .waiting (longer read)
  | loadedRevision fresh bounded => exact .loadedRevision fresh (longer bounded)
  | reset next read bounded => exact .reset next read (longer bounded)
  | publishing events next read bounded rest =>
    refine .publishing events next read (longer bounded) ?_
    rw [List.take_append_of_le_length bounded]
    exact rest

end InOrder

theorem reading_poll {log : RetainedLog RouteChange} {floor : Nat} (retained : Retained log floor)
    {limit : Nat} (read : cursor ≤ log.history.length) (positive : 0 < limit) (origin : Nat) :
    Reading log.history (some cursor) origin
        (.publishing (log.poll cursor limit).reset (log.poll cursor limit).events
          (log.poll cursor limit).cursor) ∧
      ((log.poll cursor limit).reset = false →
        (log.poll cursor limit).cursor - (log.poll cursor limit).events.length = cursor) := by
  have length := retained.retains.length_history
  have within : cursor ≤ log.revision := length ▸ read
  by_cases lost : cursor < floor
  · rw [retained.retains.poll_reset within limit lost]
    exact ⟨.reset _ within (Nat.le_of_eq length.symm), fun kept => by cases kept⟩
  · rw [retained.retains.poll_events within positive (Nat.le_of_not_lt lost)]
    refine ⟨.publishing _ _ (Nat.le_refl _) ?_ ?_, fun _ => Nat.add_sub_cancel _ _⟩
    · show cursor + _ ≤ _
      rw [List.length_take, List.length_drop]
      omega
    · rw [Nat.add_sub_cancel, List.drop_take, Nat.add_sub_cancel_left, List.length_take,
        ← List.take_take, List.take_length]

theorem next_of_batch {history changes : List RouteChange} {change : RouteChange} {position : Nat}
    (room : (change :: changes).length ≤ position)
    (rest : change :: changes =
      (history.take position).drop (position - (change :: changes).length)) :
    history[position - (change :: changes).length]? = some change ∧
      changes = (history.take position).drop (position - changes.length) ∧
      position - changes.length = position - (change :: changes).length + 1 := by
  have onward : position - changes.length = position - (change :: changes).length + 1 := by
    rw [List.length_cons] at room ⊢
    omega
  refine ⟨?_, ?_, onward⟩
  · have first := congrArg List.head? rest
    rw [List.head?_cons, List.head?_drop, List.getElem?_take_of_lt] at first
    · exact first.symm
    · rw [List.length_cons] at room ⊢
      omega
  · have tail := congrArg List.tail rest
    rw [List.tail_cons, List.tail_drop] at tail
    rw [onward]
    exact tail

namespace InOrder

variable {history : List RouteChange} {dispatcher next : Dispatcher}
  {events sent : List RouteBindingChange}

theorem load {db : Database} {floor : Nat} (retained : Retained db.outbox floor)
    (inOrder : InOrder db.outbox.history dispatcher)
    {fails : Bool} (loaded : dispatcher.load db fails = some (next, events)) :
    Relays (dispatcher.relay db.outbox.history sent)
        (next.relay db.outbox.history (sent ++ events)) ∧
      InOrder db.outbox.history next := by
  have length := retained.retains.length_history
  obtain ⟨cursor, failures, phase, returned, origin⟩ := dispatcher
  obtain ⟨started, reading⟩ := inOrder
  change Reading _ cursor origin phase at reading
  cases reading with
  | loadedRevision | reset | publishing => cases loaded
  | waiting read =>
    cases cursor with
    | none =>
      cases fails with
      | true =>
        cases loaded
        rw [List.append_nil]
        exact ⟨.refl, started, .waiting read⟩
      | false =>
        cases loaded
        rw [List.append_nil]
        have bounded : db.outbox.revision ≤ db.outbox.history.length := Nat.le_of_eq length.symm
        exact ⟨.single (.begin _ bounded), bounded, .loadedRevision rfl bounded⟩
    | some start =>
      change start ≤ _ at read
      simp only [Dispatcher.load] at loaded
      split at loaded
      · cases loaded
        exact ⟨.single (.emit _), started, .waiting read⟩
      next batch polled =>
        cases loaded
        rw [List.append_nil]
        cases fails with
        | true => cases polled
        | false =>
          have inRange : start < bigintBound :=
            Nat.lt_of_le_of_lt read (length ▸ retained.bounded)
          have same : db.outbox.poll start (clampedBatch dispatchBatch) = batch := by
            simp only [Bool.false_eq_true, if_false, routeChanges, require,
              if_pos inRange] at polled
            exact Option.some.inj polled
          obtain ⟨reads, back⟩ := reading_poll retained read (clampedBatch_pos dispatchBatch) origin
          rw [same] at reads back
          refine ⟨?_, started, reads⟩
          have progress : Dispatcher.progress
              ⟨some start, 0, .publishing batch.reset batch.events batch.cursor, returned, origin⟩ =
              start := by
            unfold Dispatcher.progress
            cases resets : batch.reset with
            | true => rfl
            | false => exact back resets
          unfold Dispatcher.relay
          rw [progress]
          exact .refl

theorem advance (inOrder : InOrder history dispatcher)
    (advanced : dispatcher.advance = some (next, events)) :
    Relays (dispatcher.relay history sent) (next.relay history (sent ++ events)) ∧
      InOrder history next := by
  obtain ⟨cursor, failures, phase, returned, origin⟩ := dispatcher
  obtain ⟨started, reading⟩ := inOrder
  change Reading _ cursor origin phase at reading
  cases reading with
  | waiting => cases advanced
  | loadedRevision _ bounded =>
    cases advanced
    rw [List.append_nil]
    exact ⟨.refl, started, .waiting bounded⟩
  | reset position read bounded =>
    cases advanced
    refine ⟨.single (.skip position bounded), started, .publishing [] position read bounded ?_⟩
    rw [List.length_nil, Nat.sub_zero, List.drop_eq_nil_of_le (List.length_take_le _ _)]
  | publishing changes position read bounded rest =>
    cases changes with
    | nil =>
      cases advanced
      rw [List.append_nil]
      exact ⟨.refl, started, .waiting bounded⟩
    | cons change changes =>
      simp only [Dispatcher.advance] at advanced
      split at advanced
      next event published =>
        cases advanced
        obtain ⟨stored, remaining, onward⟩ := next_of_batch (Nat.le_of_add_left_le read) rest
        have decoded : decodeChange change = some event := congrArg Except.toOption published
        refine ⟨?_, started, .publishing changes position ?_ bounded remaining⟩
        · show Relays ⟨history, origin, position - (change :: changes).length, sent⟩
            ⟨history, origin, position - changes.length, sent ++ [event]⟩
          rw [onward]
          exact .single (.announce change event stored decoded)
        · rw [List.length_cons] at read
          exact Nat.le_of_lt read
      · cases advanced
        rw [List.append_nil]
        exact ⟨.refl, started, .publishing _ position read bounded rest⟩

end InOrder

/-! ### The process -/

def Process.relay (process : Process) : RouteRelay :=
  process.dispatcher.relay process.db.outbox.history process.channel.sent

structure Dispatching (process : Process) : Prop where
  retained : ∃ floor, Retained process.db.outbox floor
  inOrder : InOrder process.db.outbox.history process.dispatcher

section Handle

variable {limits : StreamLimits} {target : MaterializationTarget} {process next : Process}
  {event : ProcessEvent}

theorem sent_foldl_send (events : List RouteBindingChange) (channel : Broadcast RouteBindingChange) :
    (events.foldl Broadcast.send channel).sent = channel.sent ++ events := by
  induction events generalizing channel with
  | nil => exact (List.append_nil _).symm
  | cons _ _ ih =>
    rw [List.foldl_cons, ih, Broadcast.send, List.append_assoc]
    rfl

theorem Process.dispatched_eq_some {result : Option (Dispatcher × List RouteBindingChange)}
    (handled : process.dispatched result = some next) :
    ∃ dispatcher events, result = some (dispatcher, events) ∧ next.dispatcher = dispatcher ∧
      next.channel.sent = process.channel.sent ++ events ∧ next.db = process.db ∧
      next.subscribers = process.subscribers := by
  unfold dispatched at handled
  split at handled
  · cases handled
  · obtain ⟨⟨dispatcher, events⟩, rfl, rfl⟩ := Option.map_eq_some_iff.mp handled
    exact ⟨dispatcher, events, rfl, rfl, sent_foldl_send .., rfl, rfl⟩

theorem Process.updated_eq_some {stream : Nat} {update : Subscriber → Option Subscriber}
    (handled : process.updated stream update = some next) :
    ∃ old new, process.subscribers.find? stream = some old ∧ update old = some new ∧
      next = { process with subscribers := process.subscribers.insert stream new } := by
  obtain ⟨old, found, rest⟩ := Option.bind_eq_some_iff.mp handled
  obtain ⟨new, updated, rfl⟩ := Option.map_eq_some_iff.mp rest
  exact ⟨old, new, found, updated, rfl⟩

theorem Dispatching.relays_eq (dispatching : Dispatching process) (db : next.db = process.db)
    (relays : Relays (process.dispatcher.relay process.db.outbox.history process.channel.sent)
      (next.dispatcher.relay process.db.outbox.history next.channel.sent))
    (inOrder : InOrder process.db.outbox.history next.dispatcher) :
    Relays process.relay next.relay ∧ Dispatching next := by
  unfold relay
  rw [db]
  exact ⟨relays, db ▸ dispatching.retained, db ▸ inOrder⟩

theorem Process.handle_relays (dispatching : Dispatching process)
    (handled : process.handle limits target event = some next) :
    Relays process.relay next.relay ∧ Dispatching next := by
  have unchanged : ∀ {after : Process}, after.db = process.db →
      after.dispatcher = process.dispatcher → after.channel = process.channel →
      Relays process.relay after.relay ∧ Dispatching after := by
    intro after db dispatcher channel
    refine dispatching.relays_eq db ?_ (dispatcher ▸ dispatching.inOrder)
    rw [dispatcher, channel]
  cases event with
  | commit session op =>
    obtain ⟨db, committed, rfl⟩ := Option.map_eq_some_iff.mp handled
    obtain ⟨retained, more, history⟩ :=
      OutboxSteps.retained (commit_outbox (toOption_eq_some.mp committed)) dispatching.retained
    refine ⟨?_, retained, ?_⟩
    · unfold relay Dispatcher.relay
      simp only [history]
      exact .single (.append more)
    · simp only [history]
      exact dispatching.inOrder.append more
  | load =>
    obtain ⟨dispatcher, events, loaded, rfl, sent, db, _⟩ := dispatched_eq_some handled
    obtain ⟨floor, retained⟩ := dispatching.retained
    obtain ⟨relays, inOrder⟩ := dispatching.inOrder.load retained loaded
    exact dispatching.relays_eq db (sent ▸ relays) inOrder
  | advance =>
    obtain ⟨dispatcher, events, advanced, rfl, sent, db, _⟩ := dispatched_eq_some handled
    obtain ⟨relays, inOrder⟩ := dispatching.inOrder.advance advanced
    exact dispatching.relays_eq db (sent ▸ relays) inOrder
  | shutdown =>
    obtain ⟨dispatcher, events, same, stopped, sent, db, _⟩ := dispatched_eq_some handled
    cases same
    refine dispatching.relays_eq db ?_ ?_
    · rw [stopped, sent, List.append_nil]
      exact .refl
    · rw [stopped]
      exact ⟨dispatching.inOrder.started, dispatching.inOrder.reading⟩
  | notify =>
    cases handled
    exact ⟨.single (.emit _), dispatching.retained, dispatching.inOrder⟩
  | attach =>
    simp only [handle] at handled
    split at handled
    · cases handled
    · cases handled
      exact unchanged rfl rfl rfl
  | resolve | answer | act =>
    obtain ⟨_, _, _, _, rfl⟩ := updated_eq_some handled
    exact unchanged rfl rfl rfl

/-- What a request or an event of a stream makes of it. -/
inductive Subscriber.Turn (limits : StreamLimits) (target : MaterializationTarget) (process : Process)
    (old subscriber : Subscriber) : Prop where
  | resolve {requestId : Nat} {identity : RouteIdentity}
      (resolved : old.resolve limits target process.db requestId identity = some subscriber)
  | answer {timedOut sent : Bool} (answered : old.answer limits timedOut sent = some subscriber)
  | act {action : ProducerAction} (acted : old.act limits process.channel action = some subscriber)

variable (handled : process.handle limits target event = some next)

include handled

/-- A stream after a step was there before, attaches, or takes a turn. -/
theorem Process.handle_subscribers {stream : Nat} {subscriber : Subscriber}
    (found : next.subscribers.find? stream = some subscriber) :
    process.subscribers.find? stream = some subscriber ∨ subscriber = .attach process.channel ∨
      next.relay = process.relay ∧ ∃ old, process.subscribers.find? stream = some old ∧
        Subscriber.Turn limits target process old subscriber := by
  have inserted {other : Nat} {new : Subscriber}
      (same : next = { process with subscribers := process.subscribers.insert other new }) :
      process.subscribers.find? stream = some subscriber ∨ stream = other ∧ new = subscriber := by
    subst same
    simp only [Table.find?_insert, Function.update_apply] at found
    split at found
    next here => exact .inr ⟨here, Option.some.inj found⟩
    · exact .inl found
  have updated {other : Nat} {update : Subscriber → Option Subscriber}
      (wrote : process.updated other update = some next)
      (turn : ∀ old, update old = some subscriber → old.Turn limits target process subscriber) :
      process.subscribers.find? stream = some subscriber ∨ subscriber = .attach process.channel ∨
        next.relay = process.relay ∧ ∃ old, process.subscribers.find? stream = some old ∧
          Subscriber.Turn limits target process old subscriber := by
    obtain ⟨old, new, stored, turned, same⟩ := updated_eq_some wrote
    obtain kept | ⟨rfl, rfl⟩ := inserted same
    · exact .inl kept
    · exact .inr (.inr ⟨same ▸ rfl, old, stored, turn old turned⟩)
  cases event with
  | commit =>
    obtain ⟨db, _, rfl⟩ := Option.map_eq_some_iff.mp handled
    exact .inl found
  | load | advance | shutdown =>
    obtain ⟨_, _, _, _, _, _, same⟩ := dispatched_eq_some handled
    exact .inl (same ▸ found)
  | notify =>
    cases handled
    exact .inl found
  | attach =>
    simp only [handle, Option.ite_none_left_eq_some, Option.some.injEq] at handled
    obtain kept | ⟨-, rfl⟩ := inserted handled.2.symm
    · exact .inl kept
    · exact .inr (.inl rfl)
  | resolve => exact updated handled fun _ => .resolve
  | answer => exact updated handled fun _ => .answer
  | act => exact updated handled fun _ => .act

/-- What a step does to a stream: it attaches, or keeps its place and may be given one more answer. -/
theorem Process.handle_subscriber {stream : Nat} {subscriber : Subscriber}
    (found : next.subscribers.find? stream = some subscriber) :
    (subscriber.attachedAt = process.channel.sent.length ∧ subscriber.answers = []) ∨
      ∃ old, process.subscribers.find? stream = some old ∧
        subscriber.attachedAt = old.attachedAt ∧
        ∀ answer ∈ subscriber.answers, answer ∈ old.answers ∨
          (answer.snapshot = process.db.outbox.history.length ∧ next.relay = process.relay) := by
  obtain kept | rfl | ⟨same, old, stored, turn⟩ := handle_subscribers handled found
  · exact .inr ⟨subscriber, kept, rfl, fun answer member => .inl member⟩
  · exact .inl ⟨rfl, rfl⟩
  · refine .inr ⟨old, stored, ?_⟩
    cases turn with
    | resolve resolved =>
      simp only [Subscriber.resolve, Option.ite_none_left_eq_some, Option.some.injEq] at resolved
      obtain ⟨-, rfl⟩ := resolved
      refine ⟨rfl, fun answer member => ?_⟩
      rcases List.mem_append.mp member with before | given
      · exact .inl before
      · obtain ⟨_, _, rfl⟩ := Option.map_eq_some_iff.mp (Option.mem_toList.mp given)
        exact .inr ⟨rfl, same⟩
    | answer answered =>
      simp only [Subscriber.answer, Option.ite_none_left_eq_some] at answered
      obtain ⟨lookup, _, rfl⟩ := Option.map_eq_some_iff.mp answered.2
      exact ⟨rfl, fun answer member => .inl member⟩
    | act acted =>
      simp only [Subscriber.act, Option.ite_none_right_eq_some] at acted
      obtain ⟨producer, _, rfl⟩ := Option.map_eq_some_iff.mp acted.2
      exact ⟨rfl, fun answer member => .inl member⟩

theorem Process.handle_origin :
    next.dispatcher.origin = process.dispatcher.origin ∨
      (event = .load false ∧ process.dispatcher.cursor = none ∧ next.db = process.db) := by
  cases event with
  | commit =>
    obtain ⟨db, _, rfl⟩ := Option.map_eq_some_iff.mp handled
    exact .inl rfl
  | load fails =>
    obtain ⟨dispatcher, events, loaded, stands, _, db, _⟩ := dispatched_eq_some handled
    rw [stands]
    unfold Dispatcher.load at loaded
    split at loaded
    next fresh =>
      cases fails with
      | true =>
        cases loaded
        exact .inl rfl
      | false => exact .inr ⟨rfl, fresh, db⟩
    · split at loaded
      · cases loaded
        exact .inl rfl
      · cases loaded
        exact .inl rfl
    · cases loaded
  | advance =>
    obtain ⟨dispatcher, events, advanced, stands, _, db, _⟩ := dispatched_eq_some handled
    rw [stands]
    unfold Dispatcher.advance at advanced
    repeat' split at advanced
    all_goals
      cases advanced
      try exact .inl rfl
  | shutdown =>
    obtain ⟨dispatcher, events, same, stopped, _⟩ := dispatched_eq_some handled
    cases same
    rw [stopped]
    exact .inl rfl
  | notify =>
    cases handled
    exact .inl rfl
  | attach =>
    simp only [handle] at handled
    split at handled
    · cases handled
    · cases handled
      exact .inl rfl
  | resolve | answer | act =>
    obtain ⟨_, _, _, _, rfl⟩ := updated_eq_some handled
    exact .inl rfl

end Handle

/-! ### Answers and announcements -/

def Process.unaffected (process : Process) (answer : Answer) : Bool :=
  (process.db.outbox.history.drop answer.snapshot).all fun change =>
    (decodeChange change).all fun event => !subscriptionInvalidatedByEvent answer.subscription event

/-- When the dispatcher loads the revision it starts from, every answer given before still stands. -/
def startsInTime : ProcessEvent → Process → Prop
  | .load false, process => process.dispatcher.cursor = none →
      ∀ entry ∈ process.subscribers.entries, ∀ answer ∈ entry.2.answers,
        process.unaffected answer = true
  | _, _ => True

/-- The changes behind the dispatcher's start do not concern an answer; those ahead of it were
announced, as far as they have been dispatched. -/
structure Attended (process : Process) (subscriber : Subscriber) (answer : Answer) : Prop where
  behind : ∀ index change event, answer.snapshot ≤ index → index < process.dispatcher.origin →
    process.db.outbox.history[index]? = some change → publishDurable change = .ok event →
    subscriptionInvalidatedByEvent answer.subscription event = false
  ahead : Relay.Covers decodeChange .reset process.relay subscriber.attachedAt answer.snapshot

structure Announced (process : Process) : Prop where
  dispatching : Dispatching process
  joined : ∀ stream subscriber, process.subscribers.find? stream = some subscriber →
    subscriber.attachedAt ≤ process.channel.sent.length
  attended : ∀ stream subscriber answer, process.subscribers.find? stream = some subscriber →
    answer ∈ subscriber.answers → Attended process subscriber answer

namespace Announced

variable {limits : StreamLimits} {target : MaterializationTarget} {process next : Process}
  {event : ProcessEvent}

theorem start : Announced .start where
  dispatching := ⟨⟨0, RetainedLog.empty_retainsAbove, by decide⟩, Nat.le_refl _,
    .waiting (Nat.le_refl _)⟩
  joined := fun _ _ found => by cases found
  attended := fun _ _ _ found => by cases found

theorem step (announced : Announced process) (inTime : startsInTime event process)
    (handled : process.handle limits target event = some next) : Announced next := by
  obtain ⟨relays, dispatching⟩ := handle_relays announced.dispatching handled
  obtain ⟨history, sent⟩ := Relay.Steps.extends relays
  have grown : process.channel.sent.length ≤ next.channel.sent.length := sent.length_le
  refine ⟨dispatching, fun stream subscriber found => ?_, fun stream subscriber answer found given => ?_⟩
  · rcases handle_subscriber handled found with ⟨attached, _⟩ | ⟨old, stored, attached, _⟩
    · rw [attached]
      exact grown
    · rw [attached]
      exact Nat.le_trans (announced.joined stream old stored) grown
  · rcases handle_subscriber handled found with ⟨_, none⟩ | ⟨old, stored, attached, answers⟩
    · rw [none] at given
      exact absurd given List.not_mem_nil
    · rcases answers answer given with before | ⟨current, same⟩
      · have attended := announced.attended stream old answer stored before
        refine ⟨?_, attached ▸ attended.ahead.steps relays⟩
        intro index change published seen below found decoded
        rcases handle_origin handled with origin | ⟨rfl, fresh, db⟩
        · -- The part of the outbox behind the start was there before.
          rw [origin] at below
          have there : index < process.relay.history.length :=
            Nat.lt_of_lt_of_le below announced.dispatching.inOrder.started
          obtain ⟨more, extended⟩ := history
          have stored' : next.relay.history[index]? = some change := found
          rw [← extended, List.getElem?_append_left there] at stored'
          exact attended.behind index change published seen below stored' decoded
        · have stands := inTime fresh (stream, old) (Table.find?_eq_some.mp stored) answer before
          rw [db] at found
          have member : change ∈ process.db.outbox.history.drop answer.snapshot := by
            refine List.mem_of_getElem? ?_ (i := index - answer.snapshot)
            rw [List.getElem?_drop, Nat.add_sub_cancel' seen]
            exact found
          have quiet := List.all_eq_true.mp stands change member
          rw [decodeChange, decoded] at quiet
          exact Bool.not_eq_true' _ ▸ quiet
      · have current' : process.relay.history.length ≤ answer.snapshot := Nat.le_of_eq current.symm
        refine ⟨?_, ?_⟩
        · intro index change published seen below
          have started := dispatching.inOrder.started
          have length : next.db.outbox.history.length = process.db.outbox.history.length :=
            congrArg (fun relay : RouteRelay => relay.history.length) same
          omega
        · rw [same, attached]
          have bounded : process.relay.progress ≤ process.relay.history.length :=
            announced.dispatching.inOrder.progress_le
          refine ⟨bounded, announced.joined stream old stored, ?_⟩
          intro index payload seen _ below _
          omega

end Announced

/-! ### Recorded dependencies are answers of the store -/

variable {producer next : Producer} {limits : StreamLimits} {requestId : Nat}
  {identity : RouteIdentity} {id : NonEmptyString} {subscription : ActiveRouteSubscription}
  {resolution : Option RouteResolution}

/-- What a stream holds after a step it held before, or recorded with the answer to a request. -/
theorem Producer.subscriptions_subscribeRoute {response : ProxySubscribeResponse}
    (subscribed : producer.subscribeRoute limits requestId identity resolution = some (next,
      response)) (found : next.subscriptions.find? id = some subscription) :
    producer.subscriptions.find? id = some subscription ∨
      Subscriber.dependency identity resolution = some subscription := by
  unfold Producer.subscribeRoute at subscribed
  split at subscribed
  · split at subscribed
    next requestIdentity matchedIdentity entry received =>
      cases subscribed
      simp only [Table.find?_insert, Function.update_apply] at found
      split at found
      · cases found
        refine .inr ?_
        simp only [Subscriber.dependency, received]
        rfl
      · exact .inl found
    · cases subscribed
      exact .inl found
    · cases subscribed
  · cases subscribed

theorem Producer.subscriptions_handleRequest {sent : Bool}
    (found : (producer.handleRequest limits resolution sent (.subscribeRoute requestId
      identity)).subscriptions.find? id = some subscription) :
    producer.subscriptions.find? id = some subscription ∨
      Subscriber.dependency identity resolution = some subscription := by
  have refused : ((if sent then producer.send .status else producer).finish .refused).subscriptions =
      producer.subscriptions := by
    cases sent <;> rfl
  simp only [Producer.handleRequest] at found
  split at found
  · rw [refused] at found
    exact .inl found
  · split at found
    · rw [refused] at found
      exact .inl found
    next next response subscribed =>
      refine Producer.subscriptions_subscribeRoute subscribed ?_
      cases sent with
      | true | false => exact found

variable {channel : Broadcast RouteBindingChange}

theorem Producer.subscriptions_handleEvent {delivered : Nat} {interrupted : StreamEnd}
    (handled : producer.handleEvent channel delivered interrupted = some next)
    (found : next.subscriptions.find? id = some subscription) :
    producer.subscriptions.find? id = some subscription := by
  unfold Producer.handleEvent at handled
  split at handled
  · cases handled
  · cases handled
    exact found
  · cases handled
    exact found
  next change position _ _ =>
    have filtered : next.subscriptions = producer.subscriptions.filterRows fun _ dependency =>
        !subscriptionInvalidatedByEvent dependency change := by
      simp only [Option.some.injEq] at handled
      rw [← handled]
      split <;> rfl
    rw [filtered, Table.find?_filterRows] at found
    exact (Option.filter_eq_some_iff.mp found).1

/-- Everything a stream has recorded, or is about to record, is an answer the store gave it. -/
structure Subscriber.Given (subscriber : Subscriber) : Prop where
  recorded : ∀ id subscription, subscriber.producer.subscriptions.find? id = some subscription →
    ∃ answer ∈ subscriber.answers, answer.subscription = subscription
  looking : ∀ lookup subscription, subscriber.lookup = some lookup →
    Subscriber.dependency lookup.identity lookup.resolution = some subscription →
    ∃ answer ∈ subscriber.answers, answer.subscription = subscription

namespace Subscriber.Given

variable {subscriber next : Subscriber} {limits : StreamLimits}

theorem attach (channel : Broadcast RouteBindingChange) : (Subscriber.attach channel).Given where
  recorded := fun _ _ found => by cases found
  looking := fun _ _ none => by cases none

variable (given : subscriber.Given)

include given

theorem resolve {target : MaterializationTarget} {db : Database}
    (resolved : subscriber.resolve limits target db requestId identity = some next) :
    next.Given := by
  unfold Subscriber.resolve at resolved
  split at resolved
  · cases resolved
  · cases resolved
    refine ⟨fun id subscription found => ?_, fun lookup subscription current depends => ?_⟩
    · obtain ⟨answer, member, same⟩ := given.recorded id subscription found
      exact ⟨answer, List.mem_append_left _ member, same⟩
    · cases current
      refine ⟨⟨subscription, db.outbox.history.length⟩, List.mem_append_right _ ?_, rfl⟩
      rw [depends]
      exact List.mem_singleton_self _

theorem answer {timedOut sent : Bool}
    (answered : subscriber.answer limits timedOut sent = some next) : next.Given := by
  unfold Subscriber.answer at answered
  split at answered
  · cases answered
  · obtain ⟨lookup, current, rfl⟩ := Option.map_eq_some_iff.mp answered
    refine ⟨fun id subscription found => ?_, fun _ _ none => by cases none⟩
    rcases Producer.subscriptions_handleRequest found with before | depends
    · exact given.recorded id subscription before
    · cases timedOut with
      | true => cases depends
      | false => exact given.looking lookup subscription current depends

theorem act {action : ProducerAction} (acted : subscriber.act limits channel action = some next) :
    next.Given := by
  simp only [Subscriber.act, Option.ite_none_right_eq_some] at acted
  obtain ⟨selectable, acted⟩ := acted
  obtain ⟨producer, stepped, rfl⟩ := Option.map_eq_some_iff.mp acted
  refine ⟨fun id subscription found => given.recorded id subscription ?_, given.looking⟩
  cases action with
  | request request =>
    cases request with
    | subscribeRoute => cases selectable
    | unsubscribe =>
      simp only [Producer.act, Option.ite_none_left_eq_some] at stepped
      obtain ⟨_, same⟩ := stepped
      cases same
      simp only [Producer.handleRequest, Table.find?_erase, Function.update_apply] at found
      split at found
      · cases found
      · exact found
  | event =>
    simp only [Producer.act, Option.ite_none_left_eq_some] at stepped
    exact Producer.subscriptions_handleEvent stepped.2 found
  | finish =>
    simp only [Producer.act, Option.ite_none_left_eq_some] at stepped
    obtain ⟨_, same⟩ := stepped
    cases same
    exact found

end Subscriber.Given

def StreamsGiven (process : Process) : Prop :=
  ∀ stream subscriber, process.subscribers.find? stream = some subscriber → subscriber.Given

theorem given_of_reachable {target : MaterializationTarget} {process : Process}
    (reachable : (processSystem limits target).Reachable (fun _ => True) process) :
    StreamsGiven process := by
  refine reachable.invariant ?_ ?_
  · rintro _ rfl _ _ found
    cases found
  · intro event before after _ held stepped stream subscriber found
    obtain kept | rfl | ⟨-, old, stored, turn⟩ := handle_subscribers stepped found
    · exact held stream subscriber kept
    · exact .attach _
    · have given := held stream old stored
      cases turn with
      | resolve resolved => exact given.resolve resolved
      | answer answered => exact given.answer answered
      | act acted => exact given.act acted

/-- Every dependency a stream has recorded is an answer of the store; and a change that is committed
after an answer's snapshot, invalidates it and has been dispatched was announced since the stream
attached. -/
theorem dispatched_changes_are_announced {limits : StreamLimits} {target : MaterializationTarget}
    {process : Process}
    (reachable : (processSystem limits target).ReachableUnder startsInTime process)
    {stream : Nat} {subscriber : Subscriber}
    (found : process.subscribers.find? stream = some subscriber) :
    (∀ id subscription, subscriber.producer.subscriptions.find? id = some subscription →
      ∃ answer ∈ subscriber.answers, answer.subscription = subscription) ∧
    ∀ answer ∈ subscriber.answers, ∀ index change event cursor, answer.snapshot ≤ index →
      process.db.outbox.history[index]? = some change → publishDurable change = .ok event →
      subscriptionInvalidatedByEvent answer.subscription event = true →
      process.dispatcher.cursor = some cursor → index + 1 ≤ cursor →
      ∃ sent ∈ process.channel.sent.drop subscriber.attachedAt,
        sent = .reset ∨ subscriptionInvalidatedByEvent answer.subscription sent = true := by
  refine ⟨(given_of_reachable reachable.reachable stream subscriber found).recorded, ?_⟩
  intro answer given index change event cursor later appended published invalidates dispatched reached
  have announced : Announced process := reachable.invariant
    (fun _ initial => initial ▸ .start) fun _ _ _ inTime held stepped => held.step inTime stepped
  have attended := announced.attended stream subscriber answer found given
  have below : index < process.dispatcher.progress :=
    Nat.lt_of_lt_of_le reached (announced.dispatching.inOrder.cursor_le dispatched)
  rcases Nat.lt_or_ge index process.dispatcher.origin with behind | ahead
  · rw [attended.behind index change event later behind appended published] at invalidates
    cases invalidates
  · obtain ⟨sent, member, told⟩ := attended.ahead.announced index change later ahead below appended
    refine ⟨sent, member, ?_⟩
    rcases told with reset | decoded
    · exact .inl reset
    · rw [decodeChange, published] at decoded
      cases decoded
      exact .inr invalidates

/-! A dispatcher that starts before the stream's lookup, and one that starts behind it. -/

namespace Sample

open Store.Sample

instance : (event : ProcessEvent) → (process : Process) → Decidable (startsInTime event process)
  | .load false, process => inferInstanceAs (Decidable (process.dispatcher.cursor = none → _))
  | .load true, _ => .isTrue trivial
  | .commit _ _, _ => .isTrue trivial
  | .advance, _ => .isTrue trivial
  | .shutdown, _ => .isTrue trivial
  | .notify _, _ => .isTrue trivial
  | .attach _, _ => .isTrue trivial
  | .resolve _ _ _, _ => .isTrue trivial
  | .answer _ _ _, _ => .isTrue trivial
  | .act _ _, _ => .isTrue trivial

def streamLimits : StreamLimits := ⟨8, 1000⟩

def exactBinding : RouteBindingId := ⟨⟨"exact", rfl⟩⟩

def deployed : List ProcessEvent :=
  [.commit (session 0) createWeb, .commit (session 1) (bind "exact" rfl (eastShop none))]

def subscribed : List ProcessEvent := [.attach 0, .resolve 0 1 (eastShop none), .answer 0 false true]

def unbound : List ProcessEvent := [.commit (session 2) (.deleteRouteBinding exactBinding)]

/-- The first change behind the first answer of the first stream, once it is dispatched. -/
def dispatchedChange (process : Process) :
    Option (Subscriber × Answer × RouteChange × RouteBindingChange × Nat) := do
  let subscriber ← process.subscribers.find? 0
  let answer ← subscriber.answers.head?
  let change ← process.db.outbox.history[answer.snapshot]?
  let event ← decodeChange change
  let cursor ← process.dispatcher.cursor
  if subscriptionInvalidatedByEvent answer.subscription event = true ∧ answer.snapshot + 1 ≤ cursor then
    some (subscriber, answer, change, event, cursor)
  else none

theorem dispatchedChange_eq_some {process : Process} {subscriber : Subscriber} {answer : Answer}
    {change : RouteChange} {event : RouteBindingChange}
    (found : dispatchedChange process = some (subscriber, answer, change, event, cursor)) :
    process.subscribers.find? 0 = some subscriber ∧ answer ∈ subscriber.answers ∧
      process.db.outbox.history[answer.snapshot]? = some change ∧
      publishDurable change = .ok event ∧
      subscriptionInvalidatedByEvent answer.subscription event = true ∧
      process.dispatcher.cursor = some cursor ∧ answer.snapshot + 1 ≤ cursor := by
  simp only [dispatchedChange, Option.bind_eq_bind, Option.bind_eq_some_iff,
    Option.ite_none_right_eq_some] at found
  obtain ⟨_, stored, _, given, _, appended, _, decoded, _, current, ⟨invalidates, reached⟩, same⟩ := found
  cases same
  exact ⟨stored, List.mem_of_head? given, appended, toOption_eq_some.mp decoded, invalidates, current,
    reached⟩

def passedBy (process : Process) : Bool :=
  (dispatchedChange process).any fun found => (process.channel.sent.drop found.1.attachedAt).isEmpty

end Sample

theorem late_start_passes_a_change_by :
    ∃ process stream subscriber answer index change event cursor,
      (processSystem Sample.streamLimits Store.Sample.target).Reachable (fun _ => True) process ∧
      process.subscribers.find? stream = some subscriber ∧ answer ∈ subscriber.answers ∧
      answer.snapshot ≤ index ∧ process.db.outbox.history[index]? = some change ∧
      publishDurable change = .ok event ∧
      subscriptionInvalidatedByEvent answer.subscription event = true ∧
      process.dispatcher.cursor = some cursor ∧ index + 1 ≤ cursor ∧
      process.channel.sent.drop subscriber.attachedAt = [] := by
  have run : ∃ process, (processSystem Sample.streamLimits Store.Sample.target).ReachableUnder
      (fun _ _ => True) process ∧ Sample.passedBy process = true :=
    TransitionSystem.exists_reachableUnder_of_run (fun _ _ _ handled => handled) rfl
      (Sample.deployed ++ Sample.subscribed ++ Sample.unbound ++ [.load false, .advance]) _ (by decide)
  obtain ⟨process, reachable, passed⟩ := run
  unfold Sample.passedBy at passed
  cases found : Sample.dispatchedChange process with
  | none =>
    rw [found] at passed
    cases passed
  | some change =>
    obtain ⟨subscriber, answer, change, event, cursor⟩ := change
    rw [found] at passed
    obtain ⟨stored, given, appended, published, invalidates, current, reached⟩ :=
      Sample.dispatchedChange_eq_some found
    exact ⟨process, 0, subscriber, answer, answer.snapshot, change, event, cursor,
      reachable.reachable, stored, given, Nat.le_refl _, appended, published, invalidates, current,
      reached, List.isEmpty_iff.mp passed⟩

theorem sample_dispatched_changes_are_announced :
    ∃ (process : Process) (subscriber : Subscriber) (answer : Answer),
      process.subscribers.find? 0 = some subscriber ∧ answer ∈ subscriber.answers ∧
      ∃ sent ∈ process.channel.sent.drop subscriber.attachedAt,
        sent = .reset ∨ subscriptionInvalidatedByEvent answer.subscription sent = true := by
  have run : ∃ process, (processSystem Sample.streamLimits Store.Sample.target).ReachableUnder
      startsInTime process ∧ (Sample.dispatchedChange process).isSome = true :=
    TransitionSystem.exists_reachableUnder_of_run (fun _ _ _ handled => handled) rfl
      (Sample.deployed ++ [.load false, .advance] ++ Sample.subscribed ++ Sample.unbound ++
        [.load false, .advance, .advance]) _ (by decide)
  obtain ⟨process, reachable, test⟩ := run
  obtain ⟨⟨subscriber, answer, change, event, cursor⟩, found⟩ := Option.isSome_iff_exists.mp test
  obtain ⟨stored, given, appended, published, invalidates, current, reached⟩ :=
    Sample.dispatchedChange_eq_some found
  exact ⟨process, subscriber, answer, stored, given,
    (dispatched_changes_are_announced reachable stored).2 answer given _ change event cursor
      (Nat.le_refl _) appended published invalidates current reached⟩

end Sleepypods.Proxy
