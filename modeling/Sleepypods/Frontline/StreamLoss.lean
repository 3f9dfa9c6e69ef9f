import Sleepypods.Frontline.Crossing
import Sleepypods.Frontline.Reassignment

/-! What the control plane loses the frontline must not serve: a stream that was ended because
events were dropped leaves no answer it granted, once its end was drained. -/

set_option autoImplicit false

namespace Sleepypods.Frontline

open Library Attached Transport
open Proxy (Producer ProducerAction StreamEnd StreamLimits)
open Transport (Quiet)

/-! ### Streams -/

def EndedOrderly (attached : Attached) (session : Nat) : Prop :=
  ∃ producer reason, attached.streams.find? session = some producer ∧
    producer.ended = some reason ∧ reason.lossy = false

def StreamsFollow (before after : Attached) : Prop :=
  ∀ session producer, before.streams.find? session = some producer →
    ∃ later, after.streams.find? session = some later ∧
      ∀ reason, producer.ended = some reason → later.ended = some reason

variable {before after : Attached} {session : Nat}

theorem StreamsFollow.orderly (follow : StreamsFollow before after)
    (orderly : EndedOrderly before session) : EndedOrderly after session := by
  obtain ⟨producer, reason, found, ended, lossless⟩ := orderly
  obtain ⟨later, there, kept⟩ := follow session producer found
  exact ⟨later, reason, there, kept reason ended, lossless⟩

theorem streamsFollow_of_eq (same : after.streams = before.streams) :
    StreamsFollow before after :=
  fun _ producer found => ⟨producer, same ▸ found, fun _ ended => ended⟩

def StreamsKnown (attached : Attached) : Prop :=
  ∀ session, (attached.streams.find? session).isSome → session < attached.transport.nextSession

variable {producer : Producer}

theorem streamsFollow_insert (streams : after.streams = before.streams.insert session producer)
    (kept : ∀ old, before.streams.find? session = some old → ∀ reason, old.ended = some reason →
      producer.ended = some reason) :
    StreamsFollow before after := by
  intro other old found
  rw [streams, Table.find?_insert, Function.update_apply]
  split
  next same =>
    subst same
    exact ⟨producer, rfl, kept old found⟩
  · exact ⟨old, found, fun _ ended => ended⟩

/-- A stream that is written again keeps the reason of its end. -/
theorem streams_rewrite {old : Producer} (found : before.streams.find? session = some old)
    (streams : after.streams = before.streams.insert session producer)
    (kept : ∀ reason, old.ended = some reason → producer.ended = some reason) :
    StreamsFollow before after ∧ ∀ session, (after.streams.find? session).isSome →
      (before.streams.find? session).isSome := by
  constructor
  · refine streamsFollow_insert streams fun other there => ?_
    cases found.symm.trans there
    exact kept
  · intro other there
    rw [streams, Table.find?_insert, Function.update_apply] at there
    split at there
    next equal => exact equal ▸ Option.isSome_iff_exists.mpr ⟨old, found⟩
    · exact there

section

variable {limits : StreamLimits} {action : ProducerAction}

theorem act_ended {next : Producer} {channel : Broadcast Proxy.RouteBindingChange}
    (acted : producer.act limits channel action = some next) : producer.ended = none := by
  cases ended : producer.ended with
  | none => rfl
  | some =>
    -- A producer that returned selects nothing any more.
    cases action with
    | request | event | finish => simp [Producer.act, ended] at acted

namespace Attached

variable {attached next : Attached}

theorem produce_streams {id : Nat} (produced : attached.produce limits id action = some next) :
    StreamsFollow attached next ∧ ∀ session, (next.streams.find? session).isSome →
      (attached.streams.find? session).isSome := by
  obtain ⟨taken, took, produced⟩ := Option.bind_eq_some_iff.mp produced
  have same : taken.streams = attached.streams := by
    cases action with
    | request =>
      obtain ⟨session, _, took⟩ := Option.bind_eq_some_iff.mp took
      split at took
      · cases took
        rfl
      · cases took
    | event | finish =>
      cases took
      rfl
  obtain ⟨producer, found, produced⟩ := Option.bind_eq_some_iff.mp produced
  obtain ⟨acted, act, rfl⟩ := Option.map_eq_some_iff.mp produced
  rw [same] at found
  refine streams_rewrite found (congrArg (fun streams => Table.insert streams id acted) same) ?_
  intro reason ended
  rw [act_ended act] at ended
  cases ended

theorem read_streams {id : Nat} {room : Bool} (readItem : attached.read id room = some next) :
    StreamsFollow attached next ∧ ∀ session, (next.streams.find? session).isSome →
      (attached.streams.find? session).isSome := by
  unfold read at readItem
  split at readItem
  · obtain ⟨producer, found, readItem⟩ := Option.bind_eq_some_iff.mp readItem
    split at readItem
    next response rest items =>
      simp only at readItem
      split at readItem
      · cases readItem
        exact streams_rewrite found rfl fun _ ended => ended
      · cases readItem
        exact streams_rewrite found rfl fun _ ended => ended
    next rest items =>
      cases readItem
      exact streams_rewrite found rfl fun _ ended => ended
    · split at readItem
      · cases readItem
        exact ⟨streamsFollow_of_eq rfl, fun _ there => there⟩
      · cases readItem
  · cases readItem

theorem subscribe_streams (known : StreamsKnown attached) {requestId : RouteRequestId}
    {identity : RouteIdentity} {connected delivered : Bool}
    (subscribed : attached.subscribe requestId identity connected delivered = some next) :
    StreamsFollow attached next ∧ ∀ session, (next.streams.find? session).isSome →
      (attached.streams.find? session).isSome ∨
        (session = attached.transport.nextSession ∧
          attached.transport.nextSession ≠ next.transport.nextSession) := by
  unfold subscribe at subscribed
  split at subscribed
  · cases subscribed
    simp only
    split
    · exact ⟨streamsFollow_of_eq rfl, fun _ there => .inl there⟩
    next opened =>
      constructor
      · refine streamsFollow_insert rfl fun old there => ?_
        have bound := known _ (Option.isSome_iff_exists.mpr ⟨old, there⟩)
        exact absurd bound (Nat.lt_irrefl _)
      · intro session there
        rw [Table.find?_insert, Function.update_apply] at there
        split at there
        next equal => exact .inr ⟨equal, fun same => opened same.symm⟩
        · exact .inl there
  · cases subscribed

end Attached

theorem AttachedChange.nextSession_le {step : AttachedEvent}
    (change : AttachedChange step before after) :
    before.transport.nextSession ≤ after.transport.nextSession := by
  cases change with
  | quiet _ calm => exact calm.nextSession
  | wait _ _ _ _ _ calm _ transport =>
    rw [transport]
    exact calm.nextSession
  | answer _ _ _ _ _ _ _ _ calm _ transport =>
    rw [transport]
    exact calm.nextSession
  | queue _ _ _ _ _ transport =>
    rw [transport]
    exact Nat.le_of_eq (push_nextSession ..).symm
  | finish _ _ _ _ _ _ _ _ _ transport =>
    rw [transport]
    exact Nat.le_refl _
  | settle _ _ _ _ _ calm _ transport =>
    rw [transport, pushEnd, push_nextSession]
    exact calm.nextSession
  | turn _ _ _ calm => exact calm.nextSession

theorem Attached.handle_streams {attached next : Attached} (numbering : Numbering attached)
    (known : StreamsKnown attached) {event : AttachedEvent}
    (handled : handle limits event attached = some next) :
    StreamsFollow attached next ∧ StreamsKnown next := by
  have grows := (handle_change numbering handled).nextSession_le
  have kept : next.streams = attached.streams → StreamsFollow attached next ∧ StreamsKnown next :=
    fun same => ⟨streamsFollow_of_eq same, fun session there =>
      Nat.lt_of_lt_of_le (known session (same ▸ there)) grows⟩
  cases event with
  | publish =>
    cases handled
    exact kept rfl
  | produce =>
    obtain ⟨follow, old⟩ := produce_streams handled
    exact ⟨follow, fun session there => Nat.lt_of_lt_of_le (known session (old session there)) grows⟩
  | subscribe =>
    obtain ⟨follow, old⟩ := subscribe_streams known handled
    refine ⟨follow, fun session there => ?_⟩
    rcases old session there with before | ⟨rfl, opened⟩
    · exact Nat.lt_of_lt_of_le (known session before) grows
    · exact Nat.lt_of_le_of_ne grows opened
  | timeout | disconnect | abort =>
    obtain ⟨_, same⟩ := Option.ite_none_right_eq_some.mp handled
    cases same
    exact kept rfl
  | read =>
    obtain ⟨follow, old⟩ := read_streams handled
    exact ⟨follow, fun session there => Nat.lt_of_lt_of_le (known session (old session there)) grows⟩
  | leave id =>
    have left : attached.leave id = some next := handled
    unfold leave at left
    split at left
    · cases left
      exact kept rfl
    · cases left
  | turn =>
    obtain ⟨_, turned⟩ := Option.ite_none_right_eq_some.mp handled
    obtain ⟨actor, _, rfl⟩ := Option.map_eq_some_iff.mp turned
    exact kept rfl
  | cleanup =>
    simp only [handle, cleanup] at handled
    split at handled
    · obtain ⟨actor, _, rfl⟩ := Option.map_eq_some_iff.mp handled
      exact kept rfl
    · cases handled

/-! ### The invariant -/

/-- The answers a session granted are gone once its end was drained, unless the control plane ended
its stream in order. -/
structure Lossless (attached : Attached) : Prop where
  crossed : Crossed attached
  streams : StreamsKnown attached
  owed : ∀ session, attached.transport.Owes session .responseStreamEnded →
    EndedOrderly attached session
  ending : ∀ session ∈ attached.transport.ending,
    EndedOrderly attached session ∨ attached.transport.Barred
  drained : ∀ session ∈ attached.drained, EndedOrderly attached session ∨
    ∀ identity, (attached.actor.cache.positive identity).isSome →
      attached.origins identity ≠ some session

namespace Lossless

variable {before after : Attached}

theorem start (capacity : Nat) : Lossless (.start capacity) where
  crossed := Crossed.start capacity
  streams := fun _ found => by cases found
  owed := by
    rintro session ⟨stored, actions, found, _⟩
    cases found
  ending := fun _ member => absurd member List.not_mem_nil
  drained := fun _ member => absurd member List.not_mem_nil

theorem drained_unmoved (lossless : Lossless before) (unmoved : Unmoved before after)
    (follow : StreamsFollow before after) :
    ∀ session ∈ after.drained, EndedOrderly after session ∨
      ∀ identity, (after.actor.cache.positive identity).isSome →
        after.origins identity ≠ some session := by
  rw [unmoved.drained, unmoved.cache, unmoved.origins]
  intro session member
  rcases lossless.drained session member with orderly | gone
  · exact .inl (follow.orderly orderly)
  · exact .inr gone

variable {transport : Transport}

theorem barred_push (event : GrpcRouteSubscriptionEvent) :
    transport.Barred → (transport.push event).Barred := by
  rintro ⟨queued, there, closes⟩
  rcases push_keeps event there with kept | barred
  · exact ⟨queued, kept, closes⟩
  · exact barred

variable {allowed : RouteRequestId → Prop}

variable (lossless : Lossless before)

include lossless

theorem owed_quiet (follow : StreamsFollow before after)
    (quiet : Quiet allowed before.transport transport) (session : Nat)
    (owes : transport.Owes session .responseStreamEnded) : EndedOrderly after session := by
  rcases quiet.owes session _ owes with old | closes
  · exact follow.orderly (lossless.owed session old)
  · cases closes

theorem ending_quiet (follow : StreamsFollow before after)
    (quiet : Quiet allowed before.transport transport) :
    ∀ session ∈ transport.ending, EndedOrderly after session ∨ transport.Barred := by
  intro session member
  rcases quiet.ending session member with old | new
  · rcases lossless.ending session old with orderly | barred
    · exact .inl (follow.orderly orderly)
    · exact .inr (quiet.barred barred)
  · exact .inr new.2.2

/-- Where the end is not known to be orderly, a close barrier is drained with it. -/
theorem drain_empties {event : Actor.ActorEvent} (sees : before.sees event = true)
    (barred : before.transport.Barred) (drains : event.drains = true) (identity : RouteIdentity) :
    (before.actor.drained event).cache.positive identity = none := by
  obtain ⟨queued, there, closes⟩ := barred
  have passive := passive_events lossless.crossed.ends sees
  have cut : Cut (fun _ => False) before.actor (before.actor.drained event) := by
    unfold Actor.drained
    rw [if_pos drains]
    refine drainEvents_cut (fun _ _ kept _ => kept) before.actor passive
      ⟨.streamClosed, ?_, streamClosed_cuts⟩
    rw [events_of_sees sees drains, ← closes]
    exact List.mem_map_of_mem there
  cases found : (before.actor.drained event).cache.positive identity with
  | none => rfl
  | some positive => exact (cut.1 identity positive found).elim

theorem turned {event : Actor.ActorEvent} (crossed : Crossed after)
    (follow : StreamsFollow before after) (known : StreamsKnown after)
    (sees : before.sees event = true) (handled : before.actor.handle event = some after.actor)
    (calm : Calm before (joined before.transport event) after.transport)
    (drained : after.drained =
      if event.drains then before.drained ++ before.transport.ending else before.drained)
    (origins : after.origins = grantedBy before.origins after.actor.cache) :
    Lossless after := by
  have turn := Turn.of_sees lossless.crossed.ends sees handled
  refine ⟨crossed, known, ?_, ?_, ?_⟩
  · intro session owes
    rcases calm.owes session _ owes with old | closes
    · exact follow.orderly (lossless.owed session old)
    · cases closes
  · intro session member
    rcases calm.ending session member with old | new
    · cases drains : event.drains with
      | true =>
        simp only [joined, drains, if_true] at old
        exact absurd old List.not_mem_nil
      | false =>
        simp only [joined, drains, Bool.false_eq_true, if_false] at old
        rcases lossless.ending session old with orderly | barred
        · exact .inl (follow.orderly orderly)
        · refine .inr (calm.barred ?_)
          simpa only [Transport.Barred, joined, drains, Bool.false_eq_true, if_false]
            using barred
    · exact .inr new.2.2
  · intro session member
    by_cases orderly : EndedOrderly after session
    · exact .inl orderly
    · right
      have disorderly : ¬ EndedOrderly before session := fun ended => orderly (follow.orderly ended)
      intro identity cached granted
      obtain ⟨positive, found⟩ := Option.isSome_iff_exists.mp cached
      rw [origins, grantedBy, found, Option.bind_some] at granted
      cases backed : positive.subscriptionId with
      | some id =>
        rw [backed] at granted
        exact crossed.revoked identity positive id session found backed granted member
      | none =>
        rw [backed] at granted
        obtain ⟨middle, kept, old, there⟩ := turn.unbacked found backed
        rw [drained] at member
        rcases Crossed.mem_drained member with before | ⟨ending, drains⟩
        · rcases lossless.drained session before with ended | gone
          · exact disorderly ended
          · exact gone identity (Option.isSome_iff_exists.mpr ⟨old, there⟩) granted
        · rcases lossless.ending session ending with ended | barred
          · exact disorderly ended
          · rw [lossless.drain_empties sees barred drains identity] at kept
            cases kept

theorem change {step : AttachedEvent}
    (follow : StreamsFollow before after) (known : StreamsKnown after)
    (readsOrderly : ∀ session room, step = .read session room → ∀ producer,
      before.streams.find? session = some producer → producer.responses = [] →
      producer.ended.isSome = true → EndedOrderly before session)
    (change : AttachedChange step before after) : Lossless after := by
  have crossed := lossless.crossed.change change
  cases change with
  | quiet unmoved calm =>
    exact ⟨crossed, known, lossless.owed_quiet follow calm, lossless.ending_quiet follow calm,
      lossless.drained_unmoved unmoved follow⟩
  | wait unmoved _ _ _ _ calm _ transport | answer unmoved _ _ _ _ _ _ _ calm _ transport =>
    have owed := lossless.owed_quiet follow calm
    have ending := lossless.ending_quiet follow calm
    refine ⟨crossed, known, ?_, ?_, lossless.drained_unmoved unmoved follow⟩
    · rw [transport]
      exact owed
    · rw [transport]
      exact ending
  | queue unmoved _ message _ _ transport =>
    refine ⟨crossed, known, ?_, ?_, lossless.drained_unmoved unmoved follow⟩
    · intro other owes
      rw [transport, Transport.Owes, push_sessions] at owes
      exact follow.orderly (lossless.owed other owes)
    · intro other member
      rw [transport, push_ending] at member
      rcases lossless.ending other member with orderly | barred
      · exact .inl (follow.orderly orderly)
      · exact .inr (transport ▸ barred_push (.message message) barred)
  | finish unmoved _ producer _ stream exhausted ended room reads transport =>
    refine ⟨crossed, known, ?_, ?_, lossless.drained_unmoved unmoved follow⟩
    · intro other owes
      rw [transport] at owes
      rcases owes_leave owes with old | ⟨rfl, _⟩
      · exact follow.orderly (lossless.owed other old)
      · exact follow.orderly (readsOrderly other room reads producer stream exhausted ended)
    · rw [transport]
      intro other member
      rcases lossless.ending other member with orderly | barred
      · exact .inl (follow.orderly orderly)
      · exact .inr barred
  | settle unmoved session event middle owed calm _ transport =>
    refine ⟨crossed, known, ?_, ?_, lossless.drained_unmoved unmoved follow⟩
    · intro other owes
      rw [transport, Transport.Owes, pushEnd, push_sessions] at owes
      exact lossless.owed_quiet follow calm other owes
    · intro other member
      rw [transport] at member ⊢
      rcases List.mem_append.mp member with old | new
      · rcases lossless.ending_quiet follow calm other old with orderly | there
        · exact .inl orderly
        · exact .inr (barred_push event there)
      · rw [List.mem_singleton.mp new]
        cases event with
        | responseStreamEnded => exact .inl (follow.orderly (lossless.owed session owed))
        | message => cases lossless.crossed.ends.owes session _ owed
        | responseStreamClosed | status | protocol | unexpectedRouteResponse =>
          exact .inr (push_barred (.inl rfl))
  | turn _ sees handled calm drained origins =>
    exact lossless.turned crossed follow known sees handled calm drained origins

end Lossless

/-! ### Runs -/

/-- No reader takes the end of a stream for orderly that the control plane ended for loss. -/
def readsOrderlyEnd : AttachedEvent → Attached → Bool
  | .read session _, attached =>
    (attached.streams.find? session).all fun producer =>
      !producer.responses.isEmpty || producer.ended.all fun reason => !reason.lossy
  | _, _ => true

theorem Lossless.step {event : AttachedEvent} (lossless : Lossless before)
    (orderly : readsOrderlyEnd event before = true)
    (handled : handle limits event before = some after) : Lossless after := by
  have numbering := lossless.crossed.numbering
  obtain ⟨follow, known⟩ := handle_streams numbering lossless.streams handled
  refine lossless.change follow known ?_ (handle_change numbering handled)
  rintro session room rfl producer stream exhausted ended
  obtain ⟨reason, ended⟩ := Option.isSome_iff_exists.mp ended
  refine ⟨producer, reason, stream, ended, ?_⟩
  simpa [readsOrderlyEnd, stream, exhausted, ended] using orderly

end

/-- Once the end of a stream that the control plane ended for loss was drained, nothing the stream
granted is cached. -/
theorem lost_stream_leaves_no_answer {capacity : Nat} {limits : StreamLimits} {attached : Attached}
    (reached : (attachedSystem capacity limits).ReachableUnder
      (fun event attached => readsOrderlyEnd event attached = true) attached)
    {session : Nat} (drained : session ∈ attached.drained) {producer : Producer}
    (stream : attached.streams.find? session = some producer) {reason : StreamEnd}
    (ended : producer.ended = some reason) (lossy : reason.lossy = true)
    {identity : RouteIdentity} (cached : (attached.actor.cache.positive identity).isSome = true) :
    attached.origins identity ≠ some session := by
  have lossless : Lossless attached := by
    refine reached.invariant ?_ fun _ _ _ orderly lossless handled => lossless.step orderly handled
    rintro _ rfl
    exact Lossless.start capacity
  rcases lossless.drained session drained with ⟨other, why, found, because, lossless⟩ | gone
  · rw [stream] at found
    cases found
    rw [ended] at because
    cases because
    rw [lossy] at lossless
    cases lossless
  · exact gone identity cached

/-! A reset of the broadcast channel ends a stream that backs an answer. -/

namespace Sample

def limits : StreamLimits := ⟨8, 100⟩

def running : RouteEntry :=
  { oldRoute with
    instanceState := .running
    backend := some ⟨⟨"http://old", rfl⟩, none⟩
    backendGeneration := some 1 }

/-- Resolve a route over the first session, and let the control plane end its stream. -/
def resetStream : List AttachedEvent :=
  [ .turn (.command shop 0 false),
    .subscribe 1 shop true true,
    .produce 1 (.request (.subscribeRoute 1 shop) (some (.resolved shop running)) true),
    .read 1 true,
    .turn (.joinSubscribe shop 1 ⟨1, 0, 0⟩
      (.ok (.routeResolved 1 (subscription (Proxy.nextSubscriptionId 1) 1) shop running 100))
      false [] 1 1),
    .publish .reset,
    .produce 1 (.event 0 .undelivered) ]

/-- The first session was drained, its stream was reset, and the route is still looked up. -/
def servesLost (attached : Attached) : Bool :=
  attached.drained.contains 1 &&
    decide ((attached.streams.find? 1).bind Producer.ended = some .reset) &&
    (match attached.actor.cache.lookup shop 2 with
      | .positive _ => true
      | _ => false) &&
    decide (attached.origins shop = some 1)

def resolveAgain : List AttachedEvent :=
  [ .turn (.command shop 3 false),
    .subscribe 2 shop true true,
    .produce 2 (.request (.subscribeRoute 2 shop) (some (.resolved shop running)) true),
    .read 2 true,
    .turn (.joinSubscribe shop 2 ⟨2, 1, 0⟩
      (.ok (.routeResolved 2 (subscription (Proxy.nextSubscriptionId 1) 2) shop running 100))
      false [] 4 4) ]

/-- The first session was drained, its stream was reset, and the route is cached. -/
def recovered (attached : Attached) : Bool :=
  attached.drained.contains 1 &&
    decide ((attached.streams.find? 1).bind Producer.ended = some .reset) &&
    (attached.actor.cache.positive shop).isSome

end Sample

theorem sample_drained_session_is_crossed :
    ∃ attached, Crossed attached ∧ attached.drained.contains 1 = true := by
  obtain ⟨attached, reached, drained⟩ := @TransitionSystem.exists_reachableUnder_of_run _ _
    (attachedSystem 8 Sample.limits) (fun _ _ => True) _ _ (fun _ _ _ handled => handled) _ rfl
    (Sample.resetStream ++ [.disconnect 1, .leave 1, .leave 1, .turn (.drain [.streamClosed] 2)])
    (·.drained.contains 1) (by decide)
  exact ⟨attached, crossed_of_reachable reached.reachable, drained⟩

/-- The connection breaks before the end of the reset stream is read, so the answer is dropped; the
one that is cached later is another session's. -/
theorem sample_lost_stream_leaves_no_answer :
    ∃ attached, (attachedSystem 8 Sample.limits).Reachable (fun _ => True) attached ∧
      (attached.actor.cache.positive Sample.shop).isSome = true ∧
      attached.origins Sample.shop ≠ some 1 := by
  have run : ∃ attached, (attachedSystem 8 Sample.limits).ReachableUnder
      (fun event attached => readsOrderlyEnd event attached = true) attached ∧
      Sample.recovered attached = true :=
    TransitionSystem.exists_reachableUnder_of_run (fun _ _ _ handled => handled) rfl
      (Sample.resetStream ++
        [.disconnect 1, .leave 1, .leave 1, .turn (.drain [.streamClosed] 2)] ++
        Sample.resolveAgain) _ (by decide)
  obtain ⟨attached, reached, observed⟩ := run
  simp only [Sample.recovered, Bool.and_eq_true, List.contains_iff_mem, decide_eq_true_eq]
    at observed
  obtain ⟨⟨drained, ended⟩, cached⟩ := observed
  obtain ⟨producer, stream, ended⟩ := Option.bind_eq_some_iff.mp ended
  exact ⟨attached, reached.reachable, cached,
    lost_stream_leaves_no_answer reached drained stream ended rfl cached⟩

/-- The reset stream ends cleanly for its reader, so its answer is kept and looked up. -/
theorem lost_stream_keeps_its_answer :
    ∃ attached entry, (attachedSystem 8 Sample.limits).Reachable (fun _ => True) attached ∧
      1 ∈ attached.drained ∧
      (attached.streams.find? 1).bind Producer.ended = some .reset ∧
      attached.actor.cache.lookup Sample.shop 2 = .positive entry ∧
      attached.origins Sample.shop = some 1 := by
  have run : ∃ attached, (attachedSystem 8 Sample.limits).ReachableUnder (fun _ _ => True) attached ∧
      Sample.servesLost attached = true :=
    TransitionSystem.exists_reachableUnder_of_run (fun _ _ _ handled => handled) rfl
      (Sample.resetStream ++
        [.read 1 true, .leave 1, .leave 1, .turn (.drain [.streamEnded] 2)]) _ (by decide)
  obtain ⟨attached, reached, observed⟩ := run
  simp only [Sample.servesLost, Bool.and_eq_true, List.contains_iff_mem, decide_eq_true_eq]
    at observed
  obtain ⟨⟨⟨drained, ended⟩, served⟩, granted⟩ := observed
  split at served
  next entry found =>
    exact ⟨attached, entry, reached.reachable, drained, ended, found, granted⟩
  · cases served

end Sleepypods.Frontline
