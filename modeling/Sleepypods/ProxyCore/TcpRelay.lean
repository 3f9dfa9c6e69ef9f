import Sleepypods.Library.Transition

/-! One direction of the TCP relay: a loop that fills a buffer from the reader and empties it into
the writer before it reads again. The streams answer each call with anything they may return; a
deadline of the relay may pass at any call. -/

set_option autoImplicit false

namespace Sleepypods.ProxyCore

open Library

inductive IoErrorKind where
  | timedOut
  | writeZero
  | other

structure IoError where
  kind : IoErrorKind
  message : String

/-- What `copy_direction` awaits. -/
inductive CopyPhase where
  | reading
  | writing (buffer : List UInt8) (written : Nat)
  | shuttingDown
  | returned (result : Except IoError Nat)

structure CopyDirection where
  /-- Everything the reader returned and everything the writer took, in order. -/
  received : List UInt8
  sent : List UInt8
  total : Nat
  phase : CopyPhase

inductive IoEvent where
  /-- No bytes are the end of the stream. -/
  | read (bytes : List UInt8)
  | wrote (count : Nat)
  | shutdown
  | failed (error : IoError)
  /-- `wait_for_progress` finds that neither direction made progress. -/
  | idle
  | stalled

def bufferSize : Nat := 16 * 1024

namespace CopyDirection

def start : CopyDirection where
  received := []
  sent := []
  total := 0
  phase := .reading

def fail (copy : CopyDirection) (kind : IoErrorKind) (message : String) : CopyDirection :=
  { copy with phase := .returned (.error ⟨kind, message⟩) }

/-- The loop until its next await, or nothing for an event that the awaited call cannot answer. -/
def resume (copy : CopyDirection) (event : IoEvent) : Option CopyDirection :=
  match copy.phase, event with
  | .returned _, _ => none
  | _, .failed error => some (copy.fail error.kind error.message)
  | _, .idle => some (copy.fail .timedOut "stream idle timeout elapsed")
  | .reading, .read bytes =>
    if bytes = [] then some { copy with phase := .shuttingDown }
    else if bytes.length ≤ bufferSize then
      some { copy with received := copy.received ++ bytes, phase := .writing bytes 0 }
    else none
  | .writing buffer written, .wrote count =>
    if count = 0 then some (copy.fail .writeZero "stream stopped accepting bytes")
    else if written + count ≤ buffer.length then
      let taken := copy.sent ++ (buffer.drop written).take count
      if written + count < buffer.length then
        some { copy with sent := taken, phase := .writing buffer (written + count) }
      else some { copy with sent := taken, total := copy.total + buffer.length, phase := .reading }
    else none
  | .writing _ _, .stalled => some (copy.fail .timedOut "TCP write stalled")
  | .shuttingDown, .shutdown => some { copy with phase := .returned (.ok copy.total) }
  | .shuttingDown, .stalled => some (copy.fail .timedOut "TCP shutdown write stalled")
  | _, _ => none

/-- What was sent, by where the loop is. -/
def Faithful (copy : CopyDirection) : Prop :=
  match copy.phase with
  | .reading | .shuttingDown => copy.sent = copy.received ∧ copy.total = copy.received.length
  | .writing buffer written => ∃ earlier, copy.received = earlier ++ buffer ∧
      copy.sent = earlier ++ buffer.take written ∧ copy.total = earlier.length
  | .returned (.ok count) => copy.sent = copy.received ∧ count = copy.received.length
  | .returned (.error _) => copy.sent <+: copy.received

variable {copy : CopyDirection}

theorem Faithful.sent_prefix (faithful : copy.Faithful) : copy.sent <+: copy.received := by
  unfold Faithful at faithful
  split at faithful
  · exact faithful.1 ▸ List.prefix_rfl
  · exact faithful.1 ▸ List.prefix_rfl
  · obtain ⟨earlier, received, sent, -⟩ := faithful
    rw [received, sent, List.prefix_append_right_inj]
    exact List.take_prefix _ _
  · exact faithful.1 ▸ List.prefix_rfl
  · exact faithful

theorem Faithful.fail (faithful : copy.Faithful) (kind : IoErrorKind) (message : String) : (copy.fail kind message).Faithful :=
  faithful.sent_prefix

variable {next : CopyDirection}

theorem Faithful.wrote {buffer : List UInt8} {written count : Nat} (faithful : copy.Faithful)
    (phase : copy.phase = .writing buffer written)
    (resumed : copy.resume (.wrote count) = some next) : next.Faithful := by
  have parts := faithful
  simp only [Faithful, phase] at parts
  obtain ⟨earlier, received, sent, total⟩ := parts
  have taken : copy.sent ++ (buffer.drop written).take count =
      earlier ++ buffer.take (written + count) := by
    rw [sent, List.append_assoc, List.take_add]
  simp only [resume, phase, taken] at resumed
  split at resumed
  · cases resumed
    exact faithful.fail _ _
  split at resumed
  next fits =>
    split at resumed
    · cases resumed
      exact ⟨earlier, received, rfl, total⟩
    next whole =>
      cases resumed
      simp [Faithful, received, total, List.take_of_length_le (Nat.le_of_not_lt whole)]
  · cases resumed

theorem Faithful.resume {event : IoEvent} (faithful : copy.Faithful)
    (resumed : copy.resume event = some next) : next.Faithful := by
  have parts := faithful
  cases phase : copy.phase with
  | reading =>
    simp only [Faithful, phase] at parts
    cases event <;> simp only [CopyDirection.resume, phase, Option.some.injEq, reduceCtorEq] at resumed
    case read bytes =>
      split at resumed
      · cases resumed
        exact parts
      split at resumed <;> cases resumed
      exact ⟨copy.received, rfl, by simp [parts.1], parts.2⟩
    all_goals exact resumed ▸ faithful.fail _ _
  | writing buffer written =>
    cases event with
    | wrote count => exact faithful.wrote phase resumed
    | read | shutdown => simp [CopyDirection.resume, phase] at resumed
    | failed | idle | stalled =>
      simp only [CopyDirection.resume, phase, Option.some.injEq] at resumed
      exact resumed ▸ faithful.fail _ _
  | shuttingDown =>
    simp only [Faithful, phase] at parts
    cases event <;> simp only [CopyDirection.resume, phase, Option.some.injEq, reduceCtorEq] at resumed
    case shutdown => exact resumed ▸ parts
    all_goals exact resumed ▸ faithful.fail _ _
  | returned => simp [CopyDirection.resume, phase] at resumed

end CopyDirection

end Sleepypods.ProxyCore
