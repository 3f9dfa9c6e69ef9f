import Sleepypods.Library.Transition

/-! Admission of work and its drain. `try_acquire` and `start_drain` share a lock that each holds
until it returns. Permits are released and the count is read without it. A step is one access to the
lock, to the count or to the `updates` channel of the counter; its revision is not read here. -/

set_option autoImplicit false

namespace Sleepypods.ProxyCore

open Library

inductive PermitPhase where
  | held
  /-- `release` has taken the connection out of the permit. -/
  | taken
  | lowered
  | spent
deriving DecidableEq

structure DrainPermit where
  phase : PermitPhase
  /-- How often the count was lowered for this permit. -/
  lowerings : Nat

namespace DrainPermit

/-- The start of `release` and of `drop`: only the first of them finds a connection. -/
def release (permit : DrainPermit) : DrainPermit :=
  if permit.phase = .held then { permit with phase := .taken } else permit

def unreleased (permit : DrainPermit) : Bool := permit.phase = .held ∨ permit.phase = .taken

theorem release_same (permit : DrainPermit) : permit.release.unreleased = permit.unreleased ∧
    permit.release.lowerings = permit.lowerings := by
  unfold release
  split
  next held => simp [unreleased, held]
  · exact ⟨rfl, rfl⟩

end DrainPermit

inductive DrainError where
  | draining
  | graceTimeout (timeout active : Nat)

/-- `drain` after its `start_drain`. -/
inductive DrainCall where
  | started
  | subscribing
  | checking (seen : Nat)
  | waiting (seen : Nat)
  | expired
  | failing
  | returned (result : Except DrainError Unit)

def DrainCall.resume (grace active version : Nat) : DrainCall → Option DrainCall
  | .started => some (if active = 0 then .returned (.ok ()) else .subscribing)
  | .subscribing => some (.checking version)
  | .checking seen => some (if active = 0 then .returned (.ok ()) else .waiting seen)
  | .waiting seen => if version ≠ seen then some (.checking version) else none
  | .expired => some (if active = 0 then .returned (.ok ()) else .failing)
  | .failing => some (.returned (.error (.graceTimeout grace active)))
  | .returned _ => none

theorem DrainCall.resume_ok {grace active version : Nat} {call : DrainCall}
    (resumed : call.resume grace active version = some (.returned (.ok ()))) : active = 0 := by
  cases call <;> simp only [resume, Option.some.injEq, reduceCtorEq] at resumed <;> grind

/-- `try_acquire`, while it holds the lock. -/
inductive AcquirePhase where
  | admitted
  | counted

structure DrainTracker where
  draining : Bool
  lock : Option AcquirePhase
  active : Nat
  /-- How often an update was sent on the channel. -/
  version : Nat
  permits : List DrainPermit
  drains : List DrainCall

namespace DrainTracker

def new : DrainTracker := ⟨false, none, 0, 0, [], []⟩

def tryAcquire (state : DrainTracker) : Except DrainError DrainTracker :=
  if state.draining then .error .draining else .ok { state with lock := some .admitted }

def startDrain (state : DrainTracker) : DrainTracker := { state with draining := true }

/-- The permit that is counted and not returned by `try_acquire`. -/
def acquiring (state : DrainTracker) : Nat :=
  match state.lock with
  | some .counted => 1
  | _ => 0

end DrainTracker

/-- A permit is borrowed while a call releases it. A wait may expire whenever it is parked. -/
inductive DrainStep (grace : Nat) (state : DrainTracker) : DrainTracker → Prop where
  | tryAcquire {next} (free : state.lock = none) (admitted : state.tryAcquire = .ok next) :
      DrainStep grace state next
  | trackAdd (locked : state.lock = some .admitted) : DrainStep grace state { state with
      active := state.active + 1
      lock := some .counted }
  | trackSend (locked : state.lock = some .counted) : DrainStep grace state { state with
      version := state.version + 1
      lock := none
      permits := ⟨.held, 0⟩ :: state.permits }
  | startDrain (free : state.lock = none) : DrainStep grace state state.startDrain
  | drain (free : state.lock = none) :
      DrainStep grace state { state.startDrain with drains := .started :: state.drains }
  | release {before permit after} (live : state.permits = before ++ permit :: after) :
      DrainStep grace state { state with permits := before ++ permit.release :: after }
  | releaseSubtract {before lowerings after}
      (live : state.permits = before ++ ⟨.taken, lowerings⟩ :: after) :
      DrainStep grace state { state with
        active := state.active - 1
        permits := before ++ ⟨.lowered, lowerings + 1⟩ :: after }
  | releaseSend {before lowerings after}
      (live : state.permits = before ++ ⟨.lowered, lowerings⟩ :: after) :
      DrainStep grace state { state with
        version := state.version + 1
        permits := before ++ ⟨.spent, lowerings⟩ :: after }
  | resume {before call after next} (live : state.drains = before ++ call :: after)
      (resumed : call.resume grace state.active state.version = some next) :
      DrainStep grace state { state with drains := before ++ next :: after }
  | expire {before seen after} (live : state.drains = before ++ .waiting seen :: after) :
      DrainStep grace state { state with drains := before ++ .expired :: after }

def drainSystem (grace : Nat) : TransitionSystem DrainTracker Unit where
  initial state := state = .new
  step _ := DrainStep grace

namespace DrainTracker

structure Sound (state : DrainTracker) : Prop where
  active : state.active = state.permits.countP DrainPermit.unreleased + state.acquiring
  lowerings : ∀ permit ∈ state.permits, permit.lowerings = if permit.unreleased then 0 else 1
  closed : state.draining = true → state.lock = none
  begun : state.drains ≠ [] → state.draining = true
  idle : .returned (.ok ()) ∈ state.drains → state.active = 0

variable {grace : Nat} {state next : DrainTracker}

/-- While the tracker drains nothing is admitted, so the count is only lowered. -/
theorem Sound.drains (sound : state.Sound) (draining : state.draining = true)
    (step : DrainStep grace state next) : next.draining = true ∧
      next.permits.length = state.permits.length ∧ next.active ≤ state.active := by
  have free := sound.closed draining
  cases step with
  | tryAcquire _ admitted => simp [tryAcquire, draining] at admitted
  | trackAdd locked | trackSend locked => cases free.symm.trans locked
  | startDrain | drain => simp [startDrain]
  | release live | releaseSubtract live | releaseSend live => simp [live, draining]
  | resume | expire => simp [draining]

/-- A `try_acquire` that holds the lock has excluded every drain. -/
theorem Sound.undrained (sound : state.Sound) {phase : AcquirePhase}
    (locked : state.lock = some phase) : state.draining = false ∧ state.drains = [] := by
  have undrained : state.draining = false := by simpa [locked] using mt sound.closed
  refine ⟨undrained, ?_⟩
  simpa [undrained] using mt sound.begun

theorem replaced {holds : DrainPermit → Prop} {before after : List DrainPermit}
    {old new : DrainPermit} (all : ∀ permit ∈ before ++ old :: after, holds permit)
    (kept : holds old → holds new) : ∀ permit ∈ before ++ new :: after, holds permit := by
  rw [List.forall_mem_append, List.forall_mem_cons] at all ⊢
  exact ⟨all.1, kept all.2.1, all.2.2⟩

theorem Sound.step (sound : state.Sound) (step : DrainStep grace state next) : next.Sound := by
  have ⟨active, lowerings, closed, begun, idle⟩ := sound
  cases step with
  | tryAcquire free admitted =>
    unfold tryAcquire at admitted
    split at admitted
    · cases admitted
    next admits =>
      cases admitted
      rw [acquiring, free] at active
      exact ⟨active, lowerings, (absurd · admits), begun, idle⟩
  | trackAdd locked =>
    obtain ⟨undrained, none⟩ := sound.undrained locked
    rw [acquiring, locked] at active
    exact ⟨congrArg (· + 1) active, lowerings, by simp [undrained], begun, by simp [none]⟩
  | trackSend locked =>
    rw [acquiring, locked] at active
    refine ⟨?_, ?_, fun _ => rfl, begun, idle⟩
    · simpa [acquiring, DrainPermit.unreleased] using active
    · simpa [DrainPermit.unreleased] using lowerings
  | startDrain free | drain free =>
    refine ⟨active, lowerings, fun _ => free, fun _ => rfl, ?_⟩
    simpa [startDrain] using idle
  | release live =>
    rename_i permit _
    obtain ⟨counted, lowered⟩ := permit.release_same
    rw [live] at active lowerings
    refine ⟨?_, replaced lowerings ?_, closed, begun, idle⟩
    · simpa [List.countP_cons, counted, acquiring] using active
    · rw [counted, lowered]
      exact fun same => same
  | releaseSubtract live =>
    rw [live] at active lowerings
    refine ⟨?_, replaced lowerings ?_, closed, begun, fun returned => by simp [idle returned]⟩
    · simp [DrainPermit.unreleased, acquiring] at active ⊢
      omega
    · simp [DrainPermit.unreleased]
  | releaseSend live =>
    rw [live] at active lowerings
    refine ⟨?_, replaced lowerings ?_, closed, begun, idle⟩
    · simpa [DrainPermit.unreleased, acquiring] using active
    · simp [DrainPermit.unreleased]
  | resume live resumed =>
    rw [live] at begun idle
    refine ⟨active, lowerings, closed, fun _ => begun (by simp), fun returned => ?_⟩
    simp only [List.mem_append, List.mem_cons] at idle returned
    obtain earlier | rfl | later := returned
    · exact idle (.inl earlier)
    · exact DrainCall.resume_ok resumed
    · exact idle (.inr (.inr later))
  | expire live =>
    rw [live] at begun idle
    refine ⟨active, lowerings, closed, fun _ => begun (by simp), fun returned => idle ?_⟩
    simpa using returned

theorem sound_of_reachable (reachable : (drainSystem grace).Reachable (fun _ => True) state) :
    state.Sound := by
  refine reachable.invariant ?_ fun _ _ _ _ => Sound.step
  rintro _ rfl
  constructor <;> simp [new, acquiring]

theorem Sound.drained (sound : state.Sound) (draining : state.draining = true)
    (path : (drainSystem grace).Path (fun _ => True) state next) : next.Sound ∧
      next.draining = true ∧ next.permits.length = state.permits.length ∧
      next.active ≤ state.active := by
  induction path with
  | refl => exact ⟨sound, draining, rfl, Nat.le_refl _⟩
  | tail _ last ih =>
    obtain ⟨_, -, step⟩ := last
    obtain ⟨sound, draining, permits, active⟩ := ih
    obtain ⟨drains, same, lower⟩ := sound.drains draining step
    exact ⟨sound.step step, drains, same.trans permits, Nat.le_trans lower active⟩

end DrainTracker

end Sleepypods.ProxyCore
