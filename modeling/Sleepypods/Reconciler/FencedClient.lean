import Sleepypods.Lifecycle.EffectBarrier

/-! Fenced dispatch: controllers that run `FencedKubernetesClient::mutate` against the store.
Calls may be cancelled or die at every await, answers of the store may be lost, and a request that
was sent may be executed again at any later time. -/

set_option autoImplicit false

namespace Sleepypods.Reconciler

open Library Store Lifecycle

/-! ### One call of `mutate` -/

inductive MutatePhase where
  /-- Awaiting `begin_materialization_effect`. -/
  | beginning
  /-- The marker is committed and the effect has not been polled. -/
  | begun
  /-- The effect has been polled. -/
  | dispatched
  /-- Awaiting `acknowledge_materialization_effect`. -/
  | acknowledging
  /-- Returned or died after dispatch without a definite response. -/
  | uncertain
  | finished
  deriving DecidableEq

inductive MutateEvent where
  | beginReturned (started : Bool)
  | beginFailed
  | cancelledBeforeDispatch
  | polled
  | responded
  /-- The deadline, a cancellation, or an error whose outcome is uncertain. -/
  | outcomeUnknown
  | acknowledgementReturned
  | died
  deriving DecidableEq

def mutateStep : MutatePhase → MutateEvent → Option (MutatePhase × Bool)
  | .beginning, .beginReturned true => some (.begun, false)
  | .beginning, .beginReturned false => some (.finished, false)
  -- The failed begin may still have committed: one acknowledgement compensates.
  | .beginning, .beginFailed => some (.acknowledging, true)
  | .beginning, .died => some (.finished, false)
  | .begun, .cancelledBeforeDispatch => some (.acknowledging, true)
  | .begun, .polled => some (.dispatched, false)
  | .begun, .died => some (.finished, false)
  | .dispatched, .responded => some (.acknowledging, true)
  | .dispatched, .outcomeUnknown => some (.uncertain, false)
  | .dispatched, .died => some (.uncertain, false)
  | .acknowledging, .acknowledgementReturned => some (.finished, false)
  | .acknowledging, .died => some (.finished, false)
  | _, _ => none

/-- The mutation may still reach Kubernetes or be executing there. -/
def MutatePhase.mayBeInFlight : MutatePhase → Bool
  | .dispatched => true
  | .uncertain => true
  | _ => false

/-- The phases of a call that has sent no acknowledgement and will not forget its marker. -/
def MutatePhase.holdsMarker : MutatePhase → Bool
  | .begun => true
  | .dispatched => true
  | .uncertain => true
  | _ => false

def MutatePhase.unacknowledged : MutatePhase → Bool
  | .beginning => true
  | phase => phase.holdsMarker

def mutateRequest (id : MaterializationId) (record : MaterializationRow) (lease : ReconcileLease)
    (effectId : Nat) (operation : EffectOperation) (object : RenderedObjectRef)
    (precondition : Option LiveObjectIdentity) : EffectRequest where
  effectId := effectId
  materializationId := id
  owner := lease.owner
  attempt := record.reconcileAttempt
  instanceGeneration := record.instanceGeneration
  expectedState := record.state
  operation := operation
  object := object
  precondition := precondition

/-- The acknowledgement a call sends, on every path that sends one. -/
def acknowledgementOf (request : EffectRequest) : AcknowledgeEffectRequest where
  instanceGeneration := request.instanceGeneration
  effectId := request.effectId
  materializationId := request.materializationId
  owner := request.owner
  attempt := request.attempt

structure MutateRun where
  request : EffectRequest
  phase : MutatePhase

/-! ### Controllers and the store -/

/-- A controller process is named by its owner text, which no other process uses. -/
structure System where
  db : Database
  /-- `NEXT_EFFECT_ID` of each process. -/
  nextEffectId : String → Nat
  /-- The records that claims have returned to each process. -/
  records : String → List (MaterializationId × MaterializationRow)
  runs : Nat → Option MutateRun
  /-- The acknowledgements sent so far; each may be executed at any time from then on. -/
  acknowledgements : List AcknowledgeEffectRequest

def System.setRun (system : System) (run : Nat) (value : MutateRun) : System :=
  { system with runs := Function.update system.runs run (some value) }

theorem System.runs_setRun (system : System) (run : Nat) (value : MutateRun) :
    (system.setRun run value).runs run = some value :=
  Function.update_self ..

/-- Effect markers are begun and acknowledged by calls of `mutate` only. -/
def isEffectOp : Op → Bool
  | .beginEffect _ => true
  | .acknowledgeEffect _ => true
  | _ => false

inductive FencedStep : System → System → Prop where
  /-- Any other production operation, by anyone. -/
  | stored {system : System} {session : Session} {op : Op} {after : Database}
      (unforced : op.isForce = false) (other : isEffectOp op = false)
      (committed : commit session op system.db = .ok after) :
      FencedStep system { system with db := after }
  | claimed {system : System} {session : Session} {request : ClaimRequest}
      {record : MaterializationRow} {after : Database}
      (returned : claimMaterializationReconciliation session request system.db =
        .ok (some record, after)) :
      FencedStep system
        { system with
          db := after
          records := Function.update system.records request.owner
            ((request.materializationId, record) :: system.records request.owner) }
  /-- A process calls `mutate` for a record it claimed; cancellation before this point returns. -/
  | started {system : System} {process : String} {id : MaterializationId}
      {record : MaterializationRow} {lease : ReconcileLease} {run : Nat}
      {operation : EffectOperation} {object : RenderedObjectRef}
      {precondition : Option LiveObjectIdentity}
      (claimed : (id, record) ∈ system.records process)
      (leased : record.lease = some lease)
      (remaining : system.nextEffectId process + 1 < bigintBound)
      (fresh : system.runs run = none) :
      FencedStep system
        { system with
          nextEffectId := Function.update system.nextEffectId process
            (system.nextEffectId process + 1)
          runs := Function.update system.runs run
            (some
              { request := mutateRequest id record lease (system.nextEffectId process) operation
                  object precondition
                phase := .beginning }) }
  /-- The begin of a call is executed, and its answer is lost or nobody waits for it. -/
  | beginExecuted {system : System} {session : Session} {run : Nat} {call : MutateRun}
      {started : Bool} {after : Database}
      (found : system.runs run = some call)
      (executed : beginMaterializationEffect session call.request system.db =
        .ok (started, after)) :
      FencedStep system { system with db := after }
  /-- The begin of a call is executed and answered. -/
  | beginAnswered {system : System} {session : Session} {run : Nat} {call : MutateRun}
      {started : Bool} {phase : MutatePhase} {after : Database}
      (found : system.runs run = some call)
      (executed : beginMaterializationEffect session call.request system.db =
        .ok (started, after))
      (continues : mutateStep call.phase (.beginReturned started) = some (phase, false)) :
      FencedStep system
        ({ system with db := after }.setRun run { call with phase := phase })
  | acknowledged {system : System} {request : AcknowledgeEffectRequest} {removed : Bool}
      {after : Database}
      (sent : request ∈ system.acknowledgements)
      (executed : acknowledgeMaterializationEffect request system.db = .ok (removed, after)) :
      FencedStep system { system with db := after }
  /-- A call goes on by itself. -/
  | continued {system : System} {run : Nat} {call : MutateRun} {event : MutateEvent}
      {phase : MutatePhase} {sends : Bool}
      (found : system.runs run = some call)
      (unanswered : ∀ started, event ≠ .beginReturned started)
      (continues : mutateStep call.phase event = some (phase, sends)) :
      FencedStep system
        ({ system with
          acknowledgements :=
            if sends then acknowledgementOf call.request :: system.acknowledgements
            else system.acknowledgements }.setRun run { call with phase := phase })

def System.start : System where
  db := .empty
  nextEffectId := fun _ => 1
  records := fun _ => []
  runs := fun _ => none
  acknowledgements := []

def fencedSystem : TransitionSystem System Unit where
  initial system := system = .start
  step _ := FencedStep

section phases

variable {phase next : MutatePhase} {event : MutateEvent} {sends : Bool}

/-- A call comes to hold a marker by an answered begin only, and keeps it silently. -/
theorem mutateStep_holdsMarker (continues : mutateStep phase event = some (next, sends))
    (holds : next.holdsMarker = true) :
    (phase.holdsMarker = true ∧ sends = false) ∨ event = .beginReturned true := by
  unfold mutateStep at continues
  split at continues <;> cases continues <;> simp_all [MutatePhase.holdsMarker]

theorem mutateStep_unacknowledged (continues : mutateStep phase event = some (next, sends))
    (unacknowledged : next.unacknowledged = true) :
    phase.unacknowledged = true ∧ sends = false := by
  unfold mutateStep at continues
  split at continues <;> cases continues <;>
    simp_all [MutatePhase.unacknowledged, MutatePhase.holdsMarker]

theorem unacknowledged_of_holdsMarker (holds : phase.holdsMarker = true) :
    phase.unacknowledged = true := by
  cases phase <;> first | rfl | cases holds

theorem holdsMarker_of_mayBeInFlight (inFlight : phase.mayBeInFlight = true) :
    phase.holdsMarker = true := by
  cases phase <;> first | rfl | cases inFlight

end phases

variable {session : Session} {record : MaterializationRow} {after : Database}
  {lease : ReconcileLease}

theorem marker_of_beginEffect {request : EffectRequest} {db : Database}
    (executed : beginMaterializationEffect session request db = .ok (true, after)) :
    after.effects.find? request.materializationId = some request.marker := by
  rcases beginEffect_ok executed with ⟨rfl, existing⟩ | ⟨-, row, -, -, -, viewed⟩
  · exact (existing rfl).1
  · have marked := congrArg (fun state => state.effects request.materializationId) viewed
    exact marked.trans (Function.update_self ..)

/-! ### The invariant -/

structure Fenced (system : System) : Prop where
  wellFormed : WellFormed (view system.db)
  owned : ∀ {process : String} {id : MaterializationId} {record : MaterializationRow}
    {lease : ReconcileLease}, (id, record) ∈ system.records process → record.lease = some lease →
    lease.owner = process
  allocated : ∀ {run : Nat} {call : MutateRun}, system.runs run = some call →
    call.request.effectId < system.nextEffectId call.request.owner
  distinct : ∀ {first second : Nat} {firstCall secondCall : MutateRun},
    system.runs first = some firstCall → system.runs second = some secondCall →
    firstCall.request.owner = secondCall.request.owner →
    firstCall.request.effectId = secondCall.request.effectId → first = second
  /-- An acknowledgement was sent by a call that no longer relies on its marker. -/
  sent : ∀ {request : AcknowledgeEffectRequest}, request ∈ system.acknowledgements →
    ∃ run call, system.runs run = some call ∧ request = acknowledgementOf call.request ∧
      call.phase.unacknowledged = false
  marked : ∀ {run : Nat} {call : MutateRun}, system.runs run = some call →
    call.phase.holdsMarker = true →
    system.db.effects.find? call.request.materializationId = some call.request.marker

theorem fenced_start : Fenced .start where
  wellFormed := wellFormed_empty
  owned := fun claimed => by cases claimed
  allocated := fun found => by cases found
  distinct := fun found => by cases found
  sent := fun sent => by cases sent
  marked := fun found => by cases found

namespace Fenced

variable {system : System}

/-- A committed operation that acknowledges none of the markers in use keeps the invariant. -/
theorem commit (fenced : Fenced system) {op : Op} (unforced : op.isForce = false)
    (committed : Store.commit session op system.db = .ok after)
    (unacknowledged : ∀ request run call, op = .acknowledgeEffect request →
      system.runs run = some call → call.phase.holdsMarker = true →
      ¬AcknowledgesExactly request call.request.materializationId call.request.marker) :
    Fenced { system with db := after } where
  wellFormed := (commit_refines fenced.wellFormed.keyed committed).wellFormed fenced.wellFormed
  owned := fenced.owned
  allocated := fenced.allocated
  distinct := fenced.distinct
  sent := fenced.sent
  marked := by
    intro run call found holds
    have step := commit_refines fenced.wellFormed.keyed committed
    rcases step.barrier fenced.wellFormed unforced (fenced.marked found holds) with
      ⟨stays, -⟩ | ⟨request, acknowledges, exactly, -⟩
    · exact stays
    · exact absurd exactly (unacknowledged request run call acknowledges found holds)

theorem begin (fenced : Fenced system) {request : EffectRequest} {started : Bool}
    (executed : beginMaterializationEffect session request system.db = .ok (started, after)) :
    Fenced { system with db := after } := by
  have committed : Store.commit session (.beginEffect request) system.db = .ok after := by
    simp only [Store.commit, executed]
    rfl
  exact fenced.commit rfl committed (by rintro _ _ _ ⟨⟩)

variable {run : Nat}

variable (fenced : Fenced system)

include fenced

theorem not_acknowledgesExactly {request : AcknowledgeEffectRequest}
    (sent : request ∈ system.acknowledgements) {call : MutateRun}
    (found : system.runs run = some call) (holds : call.phase.holdsMarker = true) :
    ¬AcknowledgesExactly request call.request.materializationId call.request.marker := by
  rintro ⟨-, sameOwner, -, sameEffect, -⟩
  obtain ⟨sender, senderCall, senderFound, rfl, done⟩ := fenced.sent sent
  obtain rfl : sender = run := fenced.distinct senderFound found sameOwner sameEffect
  cases senderFound.symm.trans found
  rw [unacknowledged_of_holdsMarker holds] at done
  cases done

theorem start {process : String} {id : MaterializationId} {operation : EffectOperation}
    {object : RenderedObjectRef} {precondition : Option LiveObjectIdentity}
    (claimed : (id, record) ∈ system.records process) (leased : record.lease = some lease)
    (fresh : system.runs run = none) :
    Fenced
      { system with
        nextEffectId := Function.update system.nextEffectId process
          (system.nextEffectId process + 1)
        runs := Function.update system.runs run
          (some
            { request := mutateRequest id record lease (system.nextEffectId process) operation
                object precondition
              phase := .beginning }) } := by
  have isOwn : lease.owner = process := fenced.owned claimed leased
  -- A call is the new one, with the next effect id of its process, or an earlier one below it.
  have cases_run : ∀ {other : Nat} {call : MutateRun}, Function.update system.runs run
      (some
        { request := mutateRequest id record lease (system.nextEffectId process) operation
            object precondition
          phase := MutatePhase.beginning }) other = some call →
      (other = run ∧ call.phase = .beginning ∧ call.request.owner = process ∧
          call.request.effectId = system.nextEffectId process) ∨
        (other ≠ run ∧ system.runs other = some call) := by
    intro other call found
    by_cases same : other = run
    · subst same
      rw [Function.update_self] at found
      cases found
      exact .inl ⟨rfl, rfl, isOwn, rfl⟩
    · rw [Function.update_of_ne same] at found
      exact .inr ⟨same, found⟩
  refine ⟨fenced.wellFormed, fenced.owned, ?_, ?_, ?_, ?_⟩
  · intro other call found
    rcases cases_run found with ⟨-, -, owner, effectId⟩ | ⟨-, kept⟩
    · rw [owner, effectId]
      simp
    · have below := fenced.allocated kept
      by_cases same : call.request.owner = process
      · rw [same] at below ⊢
        simp only [Function.update_self]
        omega
      · simpa only [Function.update_of_ne same] using below
  · intro first second firstCall secondCall firstFound secondFound sameOwner sameEffect
    rcases cases_run firstFound with ⟨rfl, -, owner, effectId⟩ | ⟨-, firstKept⟩ <;>
      rcases cases_run secondFound with ⟨rfl, -, owner', effectId'⟩ | ⟨-, secondKept⟩
    · rfl
    · have below := fenced.allocated secondKept
      rw [← sameOwner, owner, ← sameEffect, effectId] at below
      exact absurd below (Nat.lt_irrefl _)
    · have below := fenced.allocated firstKept
      rw [sameOwner, owner', sameEffect, effectId'] at below
      exact absurd below (Nat.lt_irrefl _)
    · exact fenced.distinct firstKept secondKept sameOwner sameEffect
  · intro request sent
    obtain ⟨sender, call, found, acknowledgement, done⟩ := fenced.sent sent
    have different : sender ≠ run := by
      rintro rfl
      cases fresh.symm.trans found
    exact ⟨sender, call, (Function.update_of_ne different ..).trans found, acknowledgement, done⟩
  · intro other call found holds
    rcases cases_run found with ⟨-, phase, -⟩ | ⟨-, kept⟩
    · rw [phase] at holds
      cases holds
    · exact fenced.marked kept holds

theorem setRun {call : MutateRun} {event : MutateEvent}
    {phase : MutatePhase} {sends : Bool} (found : system.runs run = some call)
    (continues : mutateStep call.phase event = some (phase, sends))
    (begun : event = .beginReturned true →
      system.db.effects.find? call.request.materializationId = some call.request.marker) :
    Fenced
      ({ system with
        acknowledgements :=
          if sends then acknowledgementOf call.request :: system.acknowledgements
          else system.acknowledgements }.setRun run { call with phase := phase }) := by
  have cases_run : ∀ {other : Nat} {otherCall : MutateRun}, Function.update system.runs run
      (some { call with phase := phase }) other = some otherCall →
      (other = run ∧ otherCall = { call with phase := phase }) ∨
        (other ≠ run ∧ system.runs other = some otherCall) := by
    intro other otherCall foundOther
    by_cases same : other = run
    · subst same
      rw [Function.update_self] at foundOther
      cases foundOther
      exact .inl ⟨rfl, rfl⟩
    · rw [Function.update_of_ne same] at foundOther
      exact .inr ⟨same, foundOther⟩
  -- Every call has the request it had before.
  have before : ∀ {other : Nat} {otherCall : MutateRun}, Function.update system.runs run
      (some { call with phase := phase }) other = some otherCall →
      ∃ previous, system.runs other = some previous ∧ previous.request = otherCall.request := by
    intro other otherCall foundOther
    rcases cases_run foundOther with ⟨rfl, rfl⟩ | ⟨-, kept⟩
    · exact ⟨call, found, rfl⟩
    · exact ⟨otherCall, kept, rfl⟩
  have acknowledged : ∀ {request : AcknowledgeEffectRequest} {sender : Nat} {senderCall : MutateRun},
      system.runs sender = some senderCall → request = acknowledgementOf senderCall.request →
      senderCall.phase.unacknowledged = false →
      ∃ run' call', Function.update system.runs run (some { call with phase := phase }) run' =
        some call' ∧ request = acknowledgementOf call'.request ∧
          call'.phase.unacknowledged = false := by
    intro request sender senderCall senderFound acknowledgement done
    by_cases same : sender = run
    · subst same
      cases found.symm.trans senderFound
      refine ⟨sender, _, Function.update_self .., acknowledgement, ?_⟩
      by_contra still
      rw [Bool.not_eq_false] at still
      rw [(mutateStep_unacknowledged continues still).1] at done
      cases done
    · exact ⟨sender, senderCall, (Function.update_of_ne same ..).trans senderFound,
        acknowledgement, done⟩
  refine ⟨fenced.wellFormed, fenced.owned, ?_, ?_, ?_, ?_⟩
  · intro other otherCall foundOther
    obtain ⟨previous, previousFound, same⟩ := before foundOther
    rw [← same]
    exact fenced.allocated previousFound
  · intro first second firstCall secondCall firstFound secondFound sameOwner sameEffect
    obtain ⟨_, firstPrevious, firstSame⟩ := before firstFound
    obtain ⟨_, secondPrevious, secondSame⟩ := before secondFound
    rw [← firstSame, ← secondSame] at sameOwner sameEffect
    exact fenced.distinct firstPrevious secondPrevious sameOwner sameEffect
  · intro request sent
    cases sends with
    | false =>
      obtain ⟨sender, senderCall, senderFound, acknowledgement, done⟩ := fenced.sent sent
      exact acknowledged senderFound acknowledgement done
    | true =>
      rcases List.mem_cons.mp sent with rfl | earlier
      · refine ⟨run, _, Function.update_self .., rfl, ?_⟩
        by_contra still
        rw [Bool.not_eq_false] at still
        cases (mutateStep_unacknowledged continues still).2
      · obtain ⟨sender, senderCall, senderFound, acknowledgement, done⟩ := fenced.sent earlier
        exact acknowledged senderFound acknowledgement done
  · intro other otherCall foundOther holds
    rcases cases_run foundOther with ⟨rfl, rfl⟩ | ⟨-, kept⟩
    · rcases mutateStep_holdsMarker continues holds with ⟨held, -⟩ | answered
      · have kept := fenced.marked found held
        exact kept
      · exact begun answered
    · exact fenced.marked kept holds

end Fenced

variable {system next : System}

theorem FencedStep.fenced (step : FencedStep system next) (fenced : Fenced system) :
    Fenced next := by
  cases step with
  | stored unforced other committed =>
    refine fenced.commit unforced committed ?_
    rintro request run call rfl
    cases other
  | claimed returned =>
    rename_i session request record after
    have committed : commit session (.claim request) system.db = .ok after := by
      simp only [commit, returned]
      rfl
    have stored := fenced.commit rfl committed (by rintro _ _ _ ⟨⟩)
    refine ⟨stored.wellFormed, ?_, stored.allocated, stored.distinct, stored.sent, stored.marked⟩
    intro process id claimed lease member leased
    by_cases same : process = request.owner
    · subst same
      simp only [Function.update_self, List.mem_cons, Prod.mk.injEq] at member
      rcases member with ⟨-, rfl⟩ | earlier
      · rcases claim_ok returned with ⟨⟨⟩, -⟩ | ⟨_, _, -, -, -, recorded, -⟩
        cases recorded
        cases leased
        rfl
      · exact fenced.owned earlier leased
    · simp only [Function.update_of_ne same] at member
      exact fenced.owned member leased
  | started claimed leased _ fresh => exact fenced.start claimed leased fresh
  | beginExecuted _ executed => exact fenced.begin executed
  | beginAnswered found executed continues =>
    refine (fenced.begin executed).setRun found continues ?_
    rintro ⟨⟩
    exact marker_of_beginEffect executed
  | acknowledged sent executed =>
    rename_i request removed after
    have committed : ∀ session, commit session (.acknowledgeEffect request) system.db =
        .ok after := by
      intro session
      simp only [commit, executed]
      rfl
    refine fenced.commit rfl (committed ⟨0, 0, none⟩) ?_
    rintro _ run call ⟨⟩ found holds
    exact fenced.not_acknowledgesExactly sent found holds
  | continued found unanswered continues =>
    exact fenced.setRun found continues fun answered => absurd answered (unanswered true)

theorem fenced_of_reachable (reachable : fencedSystem.Reachable (fun _ => True) system) :
    Fenced system := by
  have initially : ∀ system, fencedSystem.initial system → Fenced system := by
    rintro _ rfl
    exact fenced_start
  have preserved : ∀ label system next, True → Fenced system →
      fencedSystem.step label system next → Fenced next :=
    fun _ _ _ _ fenced step => step.fenced fenced
  exact reachable.invariant initially preserved

/-- While a mutation may be in flight its marker is in the store, with exactly its owner, attempt,
effect id and generation; so at most one mutation of a materialization is in flight. -/
theorem in_flight_mutation_is_marked {system : System}
    (reachable : fencedSystem.Reachable (fun _ => True) system) :
    (∀ run call, system.runs run = some call → call.phase.mayBeInFlight = true →
      ∃ marker, system.db.effects.find? call.request.materializationId = some marker ∧
        marker.leaseOwner = call.request.owner ∧ marker.leaseAttempt = call.request.attempt ∧
        marker.effectId = call.request.effectId ∧
        marker.instanceGeneration = call.request.instanceGeneration) ∧
      ∀ first second firstCall secondCall, system.runs first = some firstCall →
        system.runs second = some secondCall → firstCall.phase.mayBeInFlight = true →
        secondCall.phase.mayBeInFlight = true →
        firstCall.request.materializationId = secondCall.request.materializationId →
        first = second := by
  have fenced := fenced_of_reachable reachable
  refine ⟨fun run call found inFlight => ?_, ?_⟩
  · exact ⟨_, fenced.marked found (holdsMarker_of_mayBeInFlight inFlight), rfl, rfl, rfl, rfl⟩
  · intro first second firstCall secondCall firstFound secondFound firstFlies secondFlies same
    have firstMarked := fenced.marked firstFound (holdsMarker_of_mayBeInFlight firstFlies)
    have secondMarked := fenced.marked secondFound (holdsMarker_of_mayBeInFlight secondFlies)
    rw [same] at firstMarked
    have markers := Option.some.inj (firstMarked.symm.trans secondMarked)
    exact fenced.distinct firstFound secondFound (congrArg EffectRow.leaseOwner markers)
      (congrArg EffectRow.effectId markers)

theorem reachable_fencedStep (reachable : fencedSystem.Reachable (fun _ => True) system)
    (step : FencedStep system next) : fencedSystem.Reachable (fun _ => True) next :=
  reachable.path (.single ⟨(), trivial, step⟩)

/-- The sample controller claims the pending work and begins to apply its pod. -/
def sampleBegins : Bool :=
  match runOps Sample.waking .empty with
  | .error _ => false
  | .ok db =>
    match claimMaterializationReconciliation (Sample.session 2) Sample.claimWork db with
    | .ok (some record, claimed) =>
      match record.lease with
      | none => false
      | some lease =>
        match beginMaterializationEffect (Sample.session 3)
            (mutateRequest Sample.work record lease 1 .apply Sample.pod none) claimed with
        | .ok (true, _) => true
        | _ => false
    | _ => false

theorem sample_in_flight_mutation_is_marked :
    ∃ system run call, fencedSystem.Reachable (fun _ => True) system ∧
      system.runs run = some call ∧ call.phase.mayBeInFlight = true ∧
      ∃ marker, system.db.effects.find? call.request.materializationId = some marker := by
  have begins : sampleBegins = true := by decide
  unfold sampleBegins at begins
  split at begins
  · cases begins
  next db ran =>
    split at begins
    next record claimed returned =>
      split at begins
      · cases begins
      next lease leased =>
        split at begins
        next begun executed =>
          have path := @runOps_path (fun label => label.2.isForce = false ∧ isEffectOp label.2 = false)
            _ (by decide) _ _ ran
          have pending := @TransitionSystem.Path.preserves _ _ _ _
            (fun db => fencedSystem.Reachable (fun _ => True) { System.start with db := db })
            (fun _ _ _ others reached committed =>
              reachable_fencedStep reached (.stored others.1 others.2 committed)) _ _ path
            (.init rfl)
          have claims := reachable_fencedStep pending (.claimed returned)
          have starts := reachable_fencedStep claims (@FencedStep.started _ Sample.controller
            Sample.work _ _ 0 .apply Sample.pod none (by simp [Sample.claimWork]) leased
            (show 1 + 1 < bigintBound by decide) rfl)
          have answers := reachable_fencedStep starts
            (.beginAnswered (Function.update_self ..) executed rfl)
          have dispatches := reachable_fencedStep answers
            (@FencedStep.continued _ 0 _ .polled _ _ (System.runs_setRun ..) (by simp) rfl)
          obtain ⟨marker, stored, -⟩ :=
            (in_flight_mutation_is_marked dispatches).1 0 _ (System.runs_setRun ..) rfl
          exact ⟨_, 0, _, dispatches, System.runs_setRun .., rfl, marker, stored⟩
        · cases begins
    · cases begins

end Sleepypods.Reconciler
