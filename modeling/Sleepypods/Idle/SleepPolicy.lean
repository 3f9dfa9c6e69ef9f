import Sleepypods.Api.Ids
import Sleepypods.Library.Fallible

/-! Sleep policies of workload classes: how long an instance must be idle, with an override that
the values of the instance may give within the bounds of its class. Durations are in
milliseconds. -/

set_option autoImplicit false

namespace Sleepypods.Idle

open Library.Fallible

structure IdleTimeoutOverridePolicy where
  valueField : String
  minIdleTimeoutMs : Nat
  maxIdleTimeoutMs : Nat

structure WorkloadSleepPolicy where
  idleTimeoutMs : Nat
  idleRetryBackoffMs : Nat
  drainGraceTimeoutMs : Nat
  idleTimeoutOverride : Option IdleTimeoutOverridePolicy

structure ResolvedSleepPolicy where
  idleTimeoutMs : Nat
  idleRetryBackoffMs : Nat
  drainGraceTimeoutMs : Nat

inductive SleepPolicyError where
  | nonPositiveDuration (field : String)
  | emptyOverrideField
  | invalidOverrideBounds (minIdleTimeoutMs maxIdleTimeoutMs : Nat)
  | malformedOverrideValue (field value : String)
  | overrideOutOfBounds (field : String) (value minIdleTimeoutMs maxIdleTimeoutMs : Nat)

def validatePositiveDuration (field : String) (value : Nat) : Except SleepPolicyError Unit :=
  require (value ≠ 0) (.nonPositiveDuration field)

def IdleTimeoutOverridePolicy.validate (policy : IdleTimeoutOverridePolicy) :
    Except SleepPolicyError Unit := do
  require (isBlank policy.valueField = false) .emptyOverrideField
  validatePositiveDuration "sleep_policy.idle_timeout_override.min_idle_timeout_ms"
    policy.minIdleTimeoutMs
  validatePositiveDuration "sleep_policy.idle_timeout_override.max_idle_timeout_ms"
    policy.maxIdleTimeoutMs
  require (policy.minIdleTimeoutMs ≤ policy.maxIdleTimeoutMs)
    (.invalidOverrideBounds policy.minIdleTimeoutMs policy.maxIdleTimeoutMs)

def decimalValue (digits : List Char) : Nat :=
  digits.foldl (fun value digit => value * 10 + (digit.toNat - '0'.toNat)) 0

/-- A number of milliseconds that fits a `u64`. -/
def parseDecimalMillis (field value : String) : Except SleepPolicyError Nat := do
  require (value.toList ≠ [] ∧ value.toList.all Char.isDigit = true)
    (.malformedOverrideValue field value)
  require (decimalValue value.toList < 2 ^ 64) (.malformedOverrideValue field value)
  return decimalValue value.toList

namespace WorkloadSleepPolicy

variable (policy : WorkloadSleepPolicy)

def validate : Except SleepPolicyError Unit := do
  validatePositiveDuration "sleep_policy.idle_timeout_ms" policy.idleTimeoutMs
  validatePositiveDuration "sleep_policy.idle_retry_backoff_ms" policy.idleRetryBackoffMs
  validatePositiveDuration "sleep_policy.drain_grace_timeout_ms" policy.drainGraceTimeoutMs
  match policy.idleTimeoutOverride with
  | none => return ()
  | some overridePolicy => overridePolicy.validate

def resolveIdleTimeout (values : List (String × String)) : Except SleepPolicyError Nat :=
  match policy.idleTimeoutOverride with
  | none => .ok policy.idleTimeoutMs
  | some overridePolicy =>
    match values.lookup overridePolicy.valueField with
    | none => .ok policy.idleTimeoutMs
    | some value => do
        let parsed ← parseDecimalMillis overridePolicy.valueField value
        require (overridePolicy.minIdleTimeoutMs ≤ parsed ∧
            parsed ≤ overridePolicy.maxIdleTimeoutMs)
          (.overrideOutOfBounds overridePolicy.valueField parsed overridePolicy.minIdleTimeoutMs
            overridePolicy.maxIdleTimeoutMs)
        return parsed

def resolve (values : List (String × String)) : Except SleepPolicyError ResolvedSleepPolicy := do
  policy.validate
  let idleTimeoutMs ← policy.resolveIdleTimeout values
  return { idleTimeoutMs := idleTimeoutMs
           idleRetryBackoffMs := policy.idleRetryBackoffMs
           drainGraceTimeoutMs := policy.drainGraceTimeoutMs }

end WorkloadSleepPolicy

theorem resolveIdleTimeout_bounds {policy : WorkloadSleepPolicy} {values : List (String × String)}
    {timeout : Nat} (resolved : policy.resolveIdleTimeout values = .ok timeout) :
    timeout = policy.idleTimeoutMs ∨ ∃ overridePolicy, policy.idleTimeoutOverride = some overridePolicy ∧
      overridePolicy.minIdleTimeoutMs ≤ timeout ∧ timeout ≤ overridePolicy.maxIdleTimeoutMs := by
  unfold WorkloadSleepPolicy.resolveIdleTimeout at resolved
  split at resolved
  · cases resolved
    exact .inl rfl
  next overridePolicy overrides =>
    split at resolved
    · cases resolved
      exact .inl rfl
    · simp only [bind_eq_ok, require_eq_ok, pure_eq_ok, exists_const] at resolved
      obtain ⟨parsed, -, bounds, rfl⟩ := resolved
      exact .inr ⟨overridePolicy, overrides, bounds⟩

theorem resolve_positive {policy : WorkloadSleepPolicy} {values : List (String × String)}
    {resolvedPolicy : ResolvedSleepPolicy} (resolved : policy.resolve values = .ok resolvedPolicy) :
    0 < resolvedPolicy.idleTimeoutMs ∧ 0 < resolvedPolicy.drainGraceTimeoutMs := by
  simp only [WorkloadSleepPolicy.resolve, WorkloadSleepPolicy.validate, validatePositiveDuration,
    bind_eq_ok, require_eq_ok, pure_eq_ok, exists_const] at resolved
  obtain ⟨_, ⟨idle, -, grace, overrides⟩, timeout, timeoutResolved, rfl⟩ := resolved
  refine ⟨?_, Nat.pos_of_ne_zero grace⟩
  rcases resolveIdleTimeout_bounds timeoutResolved with same | ⟨overridePolicy, found, least, -⟩
  · rw [same]
    exact Nat.pos_of_ne_zero idle
  · simp only [found, IdleTimeoutOverridePolicy.validate, validatePositiveDuration, bind_eq_ok,
      require_eq_ok, exists_const] at overrides
    exact Nat.lt_of_lt_of_le (Nat.pos_of_ne_zero overrides.2.1) least

end Sleepypods.Idle
