import Sleepypods.Idle.AutomaticSleep

/-! The durations of sleep policies pass from the `u64` of the API to the signed 64 bit columns of
the store. Nothing bounds them on the way, so a class is accepted whose instances can never sleep;
durations that leave room for the clock are executed. -/

set_option autoImplicit false

namespace Sleepypods.Idle

open Library Library.Fallible Store

/-- The durations of a policy stay below a bound. -/
structure WorkloadSleepPolicy.Below (policy : WorkloadSleepPolicy) (limit : Nat) : Prop where
  idle : policy.idleTimeoutMs < limit
  grace : policy.drainGraceTimeoutMs < limit
  override : ∀ bounds, policy.idleTimeoutOverride = some bounds → bounds.maxIdleTimeoutMs < limit

theorem WorkloadSleepPolicy.Below.resolved {policy : WorkloadSleepPolicy} {limit : Nat}
    {values : List (String × String)} {resolvedPolicy : ResolvedSleepPolicy}
    (below : policy.Below limit) (resolved : policy.resolve values = .ok resolvedPolicy) :
    resolvedPolicy.idleTimeoutMs < limit ∧ resolvedPolicy.drainGraceTimeoutMs < limit := by
  simp only [WorkloadSleepPolicy.resolve, bind_eq_ok, pure_eq_ok] at resolved
  obtain ⟨_, -, timeout, timeoutResolved, rfl⟩ := resolved
  refine ⟨?_, below.grace⟩
  rcases resolveIdleTimeout_bounds timeoutResolved with same | ⟨bounds, found, -, most⟩
  · exact same ▸ below.idle
  · exact Nat.lt_of_le_of_lt most (below.override bounds found)

end Sleepypods.Idle
