import Sleepypods.Library.Transition

/-! The counter of active connections and the watch that detects activity after an idle moment.
Every step is one access to one of its atomics or to the `updates` channel, so calls interleave at
each of them. Revisions and counts are unbounded numbers in place of 64 bit words. -/

set_option autoImplicit false

namespace Sleepypods.ProxyCore

open Library

/-- The shared cells, and how many calls are between which of their steps. -/
structure ActiveConnectionCounter where
  active : Nat
  revision : Nat
  /-- How often an update was sent on the channel. -/
  version : Nat
  /-- `track`: the count is raised, the revision is not. -/
  counted : Nat
  /-- `track`: the revision is raised, the update is not sent. -/
  numbered : Nat
  guards : Nat
  /-- `release`: the count is lowered, the revision is not raised. -/
  removed : Nat
  retired : Nat

inductive CounterEvent where
  | trackAdd
  | trackPublish
  | trackSend
  | releaseSubtract
  | releasePublish
  | releaseSend

namespace ActiveConnectionCounter

def new : ActiveConnectionCounter := ⟨0, 0, 0, 0, 0, 0, 0, 0⟩

def perform (counter : ActiveConnectionCounter) :
    CounterEvent → Option ActiveConnectionCounter
  | .trackAdd =>
    some { counter with active := counter.active + 1, counted := counter.counted + 1 }
  | .trackPublish =>
    if 0 < counter.counted then
      some { counter with
        counted := counter.counted - 1
        revision := counter.revision + 1
        numbered := counter.numbered + 1 }
    else none
  | .trackSend =>
    if 0 < counter.numbered then
      some { counter with
        numbered := counter.numbered - 1
        version := counter.version + 1
        guards := counter.guards + 1 }
    else none
  | .releaseSubtract =>
    if 0 < counter.guards then
      some { counter with
        guards := counter.guards - 1
        active := counter.active - 1
        removed := counter.removed + 1 }
    else none
  | .releasePublish =>
    if 0 < counter.removed then
      some { counter with
        removed := counter.removed - 1
        revision := counter.revision + 1
        retired := counter.retired + 1 }
    else none
  | .releaseSend =>
    if 0 < counter.retired then
      some { counter with retired := counter.retired - 1, version := counter.version + 1 }
    else none

/-- Updates that are published or will be before their calls return. -/
def announced (counter : ActiveConnectionCounter) : Nat := counter.revision + counter.counted

def unsent (counter : ActiveConnectionCounter) : Nat := counter.numbered + counter.retired

/-- The linearization argument: a step that raises the count announces an update, and the revision
is ahead of the channel only by the updates that are not yet sent. -/
theorem perform_announced {counter next : ActiveConnectionCounter} {event : CounterEvent}
    (performed : counter.perform event = some next) :
    counter.revision ≤ next.revision ∧ counter.announced ≤ next.announced ∧
      next.active + counter.announced ≤ counter.active + next.announced ∧
      counter.version ≤ next.version ∧
      (next.version = counter.version →
        next.revision + counter.unsent ≤ counter.revision + next.unsent) := by
  cases event <;> simp only [perform, Option.ite_none_right_eq_some, Option.some.injEq] at performed
  case trackAdd =>
    subst performed
    simp only [announced, unsent]
    omega
  all_goals
    obtain ⟨pending, rfl⟩ := performed
    simp only [announced, unsent]
    omega

end ActiveConnectionCounter

/-! ### Watches -/

/-- `watch_for_activity_after_idle` up to its answer, and then `wait_for_update`. -/
inductive WatchPhase where
  | subscribing
  | reading (seen : Nat)
  | confirming (seen baseline : Nat)
  | refused
  | checking (seen baseline : Nat)
  | waiting (seen baseline : Nat)
  | completed (baseline : Nat)

namespace WatchPhase

def resume (counter : ActiveConnectionCounter) : WatchPhase → Option WatchPhase
  | .subscribing => some (.reading counter.version)
  | .reading seen => some (.confirming seen counter.revision)
  | .confirming seen baseline =>
    some (if counter.active ≠ 0 then .refused else .checking seen baseline)
  | .checking seen baseline =>
    some (if counter.revision > baseline then .completed baseline else .waiting seen baseline)
  | .waiting seen baseline =>
    if counter.version ≠ seen then some (.checking counter.version baseline) else none
  | .refused | .completed _ => none

/-- The baseline of a watch that was returned. -/
def baseline? : WatchPhase → Option Nat
  | .checking _ baseline | .waiting _ baseline | .completed baseline => some baseline
  | _ => none

theorem resume_baseline {counter : ActiveConnectionCounter} {phase next : WatchPhase}
    {baseline : Nat} (resumed : phase.resume counter = some next)
    (watching : phase.baseline? = some baseline) : next.baseline? = some baseline := by
  cases phase <;> simp_all only [resume, baseline?, reduceCtorEq, Option.some.injEq,
    Option.ite_none_right_eq_some] <;> grind

end WatchPhase

/-- A counter and one call for a watch. Watches write to no shared cell, so others are not
needed. -/
structure Watched where
  counter : ActiveConnectionCounter
  watch : WatchPhase

/-- Steps of the watch have no label. -/
inductive WatchedStep : Option CounterEvent → Watched → Watched → Prop where
  | call {state : Watched} {event : CounterEvent} {counter : ActiveConnectionCounter}
      (performed : state.counter.perform event = some counter) :
      WatchedStep (some event) state { state with counter := counter }
  | watch {state : Watched} {phase : WatchPhase}
      (resumed : state.watch.resume state.counter = some phase) :
      WatchedStep none state { state with watch := phase }

def watchedSystem : TransitionSystem Watched (Option CounterEvent) where
  initial state := state = ⟨.new, .subscribing⟩
  step := WatchedStep

namespace Watched

/-- What a watch knows of the counter. -/
def Sound (state : Watched) : Prop :=
  let counter := state.counter
  match state.watch with
  | .reading seen => seen ≤ counter.version
  | .confirming seen baseline => baseline ≤ counter.revision ∧ seen ≤ counter.version
  | .checking seen baseline =>
    counter.active + baseline ≤ counter.announced ∧ seen ≤ counter.version
  | .waiting seen baseline => counter.active + baseline ≤ counter.announced ∧
      seen ≤ counter.version ∧
      (counter.version = seen → counter.revision ≤ baseline + counter.unsent)
  | .completed baseline => counter.active + baseline ≤ counter.announced
  | .subscribing | .refused => True

variable {state : Watched}

theorem Sound.step {label : Option CounterEvent} {next : Watched} (sound : state.Sound)
    (step : WatchedStep label state next) : next.Sound := by
  cases step with
  | call performed =>
    have effect := ActiveConnectionCounter.perform_announced performed
    unfold Sound at sound ⊢
    split at sound <;> simp_all only <;> omega
  | watch resumed =>
    unfold Sound at sound ⊢
    split at sound <;> simp_all only [WatchPhase.resume, Option.some.injEq, reduceCtorEq,
      Option.ite_none_right_eq_some] <;> grind [ActiveConnectionCounter.announced]

theorem sound_of_reachable (reachable : watchedSystem.Reachable (fun _ => True) state) : state.Sound := by
  refine reachable.invariant ?_ fun label before next _ => Sound.step
  rintro _ rfl
  trivial

variable {baseline : Nat}

theorem active_le_of_sound (sound : state.Sound) (watching : state.watch.baseline? = some baseline) :
    state.counter.active + baseline ≤ state.counter.announced := by
  unfold Sound at sound
  split at sound <;> simp_all [WatchPhase.baseline?]

/-- Along a run updates are only added, and a watch keeps its baseline. -/
theorem announced_of_path {later : Watched} (watching : state.watch.baseline? = some baseline)
    (path : watchedSystem.Path (fun _ => True) state later) :
    state.counter.announced ≤ later.counter.announced ∧
      later.watch.baseline? = some baseline := by
  induction path with
  | refl => exact ⟨Nat.le_refl _, watching⟩
  | tail _ last ih =>
    obtain ⟨announced, kept⟩ := ih
    obtain ⟨label, -, step⟩ := last
    cases step with
    | call performed =>
      have effect := ActiveConnectionCounter.perform_announced performed
      exact ⟨Nat.le_trans announced effect.2.1, kept⟩
    | watch resumed => exact ⟨announced, WatchPhase.resume_baseline resumed kept⟩

/-- The watch completes without another step of anybody else. -/
def Completes (state : Watched) : Prop :=
  ∃ final baseline, watchedSystem.Path (fun label => label = none) state final ∧
    final.watch = .completed baseline

theorem completes_of_ahead (watching : state.watch.baseline? = some baseline)
    (ahead : baseline < state.counter.revision)
    (awake : ∀ seen, state.watch = .waiting seen baseline → state.counter.version ≠ seen) :
    state.Completes := by
  obtain ⟨counter, watch⟩ := state
  have checked : ∀ seen, watchedSystem.Next (fun label => label = none)
      ⟨counter, .checking seen baseline⟩ ⟨counter, .completed baseline⟩ := fun seen =>
    ⟨none, rfl, .watch (by simp [WatchPhase.resume, ahead])⟩
  cases watch with
  | checking seen =>
    cases watching
    exact ⟨_, baseline, .single (checked seen), rfl⟩
  | waiting seen =>
    cases watching
    refine ⟨_, baseline, .tail (.single ⟨none, rfl, .watch ?_⟩) (checked counter.version), rfl⟩
    simp [WatchPhase.resume, awake seen rfl]
  | completed =>
    cases watching
    exact ⟨_, baseline, .refl, rfl⟩
  | subscribing | reading | confirming | refused => cases watching

end Watched

/-- While the revision is the baseline of a watch and no `track` call has an update to publish,
nothing has been active since the watch was created. When work was tracked since and is published,
the watch completes on its own, or as soon as an update that is under way is sent. -/
theorem idle_watch_is_sound {state later : Watched} {baseline : Nat}
    (reachable : watchedSystem.Reachable (fun _ => True) state)
    (watching : state.watch.baseline? = some baseline)
    (path : watchedSystem.Path (fun _ => True) state later) (published : later.counter.counted = 0) :
    (later.counter.revision = baseline → state.counter.active = 0 ∧ later.counter.active = 0) ∧
      ((∃ before after, watchedSystem.Path (fun _ => True) state before ∧
          WatchedStep (some .trackAdd) before after ∧
          watchedSystem.Path (fun _ => True) after later) →
        later.Completes ∨ 0 < later.counter.unsent ∧
          ∀ event next, event = .trackSend ∨ event = .releaseSend →
            WatchedStep (some event) later next → next.Completes) := by
  have sound := Watched.sound_of_reachable reachable
  have laterSound := Watched.sound_of_reachable (reachable.path path)
  obtain ⟨announced, laterWatching⟩ := Watched.announced_of_path watching path
  have quiet := Watched.active_le_of_sound sound watching
  have laterQuiet := Watched.active_le_of_sound laterSound laterWatching
  constructor
  · intro unchanged
    simp only [ActiveConnectionCounter.announced] at *
    omega
  · rintro ⟨before, after, toBefore, tracked, toLater⟩
    obtain ⟨first, beforeWatching⟩ := Watched.announced_of_path watching toBefore
    have ahead : baseline < later.counter.revision := by
      cases tracked with
      | call performed =>
        cases performed
        have last := (Watched.announced_of_path (by exact beforeWatching) toLater).1
        simp only [ActiveConnectionCounter.announced] at *
        omega
    by_cases blocked : ∃ seen, later.watch = .waiting seen baseline ∧ later.counter.version = seen
    · obtain ⟨seen, waiting, same⟩ := blocked
      simp only [Watched.Sound, waiting] at laterSound
      have behind := laterSound.2.2 same
      refine .inr ⟨by omega, fun event next sends step => ?_⟩
      cases step with
      | call performed =>
        refine Watched.completes_of_ahead laterWatching ?_ ?_
        all_goals
          rcases sends with rfl | rfl
          all_goals
            simp only [ActiveConnectionCounter.perform, Option.ite_none_right_eq_some,
              Option.some.injEq] at performed
            obtain ⟨_, rfl⟩ := performed
            grind
    · exact .inl (Watched.completes_of_ahead laterWatching ahead fun seen waiting same =>
        blocked ⟨seen, waiting, same⟩)

/-- A watch of a counter that was never used, before and after a connection is tracked. -/
theorem tracked_connection_completes :
    let idle : Watched := ⟨.new, .checking 0 0⟩
    let tracked : Watched := ⟨⟨1, 1, 1, 0, 0, 1, 0, 0⟩, .checking 0 0⟩
    watchedSystem.Reachable (fun _ => True) idle ∧ idle.counter.active = 0 ∧
      (tracked.Completes ∨ 0 < tracked.counter.unsent) := by
  have created : watchedSystem.Path (fun _ => True) ⟨.new, .subscribing⟩ ⟨.new, .checking 0 0⟩ :=
    .head ⟨none, trivial, .watch rfl⟩ (.head ⟨none, trivial, .watch rfl⟩
      (.single ⟨none, trivial, .watch rfl⟩))
  have added : WatchedStep (some .trackAdd) ⟨.new, .checking 0 0⟩
      ⟨⟨1, 0, 0, 1, 0, 0, 0, 0⟩, .checking 0 0⟩ := .call rfl
  have sent : watchedSystem.Path (fun _ => True) ⟨⟨1, 0, 0, 1, 0, 0, 0, 0⟩, .checking 0 0⟩
      ⟨⟨1, 1, 1, 0, 0, 1, 0, 0⟩, .checking 0 0⟩ :=
    .head ⟨some .trackPublish, trivial, .call rfl⟩
      (.single ⟨some .trackSend, trivial, .call rfl⟩)
  have reachable := (TransitionSystem.Reachable.init (by exact rfl)).path created
  exact ⟨reachable, ((idle_watch_is_sound reachable rfl .refl rfl).1 rfl).1,
    ((idle_watch_is_sound reachable rfl (sent.head ⟨_, trivial, added⟩) rfl).2
      ⟨_, _, .refl, added, sent⟩).imp_right And.left⟩

end Sleepypods.ProxyCore
