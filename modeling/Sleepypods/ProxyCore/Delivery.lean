import Sleepypods.Library.Transition

/-! Bytes of body frames that were produced and not yet written. The buffers of a body share one
record of progress behind a lock, and a watchdog reads it. Taking bytes off a buffer and booking
them are two steps, so calls on different buffers interleave between them. Instants are numbers. -/

set_option autoImplicit false

namespace Sleepypods.ProxyCore

open Library

/-- The contract of `Buf`: `advance` takes that many bytes off, and panics beyond the last one. -/
class Buf (B : Type) where
  remaining : B → Nat
  advance : B → Nat → Option B
  remaining_advance {inner after : B} {count : Nat} (advanced : advance inner count = some after) :
    remaining inner = count + remaining after

def advanceChunks : List (List UInt8) → Nat → Option (List (List UInt8))
  | [], count => if count = 0 then some [] else none
  | chunk :: rest, count =>
    if count < chunk.length then some (chunk.drop count :: rest)
    else advanceChunks rest (count - chunk.length)

instance : Buf (List (List UInt8)) where
  remaining chunks := (chunks.map List.length).sum
  advance := advanceChunks
  remaining_advance {inner after count} advanced := by
    fun_induction advanceChunks inner count with
    | case1 => cases advanced; rfl
    | case2 => cases advanced
    | case3 chunk rest count inside =>
      cases advanced
      simp
      omega
    | case4 chunk rest count beyond ih =>
      have taken := ih advanced
      simp
      omega

structure DeliveryProgress where
  pending : Nat
  last : Nat

namespace DeliveryProgress

variable (progress : DeliveryProgress) (now : Nat)

/-- `DeliveryBuf::new`, under the lock. -/
def produce (bytes : Nat) : DeliveryProgress :=
  if 0 < bytes then
    { pending := progress.pending + bytes
      last := if progress.pending = 0 then now else progress.last }
  else progress

/-- `advance`, under the lock. -/
def book (count : Nat) : DeliveryProgress :=
  if 0 < count then { pending := progress.pending - count, last := now } else progress

def drop (bytes : Nat) : DeliveryProgress :=
  { progress with pending := progress.pending - bytes }

theorem produce_pending (bytes : Nat) :
    (progress.produce now bytes).pending = progress.pending + bytes := by
  unfold produce
  split
  · rfl
  · omega

theorem book_pending (count : Nat) :
    (progress.book now count).pending = progress.pending - count := by
  unfold book
  split
  · rfl
  · omega

end DeliveryProgress

inductive Watchdog where
  | unset
  | deciding
  | sleeping (deadline : Nat)
  | cancelled

structure DeliveryBuf (B : Type) where
  inner : B
  /-- What an `advance` in progress took off `inner` and has not booked. -/
  unbooked : Nat

structure DeliveryState (B : Type) where
  progress : DeliveryProgress
  watchdog : Watchdog
  now : Nat
  /-- The buffers that were created and not dropped. -/
  buffers : List (DeliveryBuf B)

variable {B : Type} [Buf B] {timeout : Nat} {state next : DeliveryState B}

def DeliveryBuf.outstanding (buffer : DeliveryBuf B) : Nat :=
  buffer.unbooked + Buf.remaining buffer.inner

/-- A buffer is borrowed for the whole of `advance`, so it is not dropped in between. -/
inductive DeliveryStep (timeout : Nat) (state : DeliveryState B) : DeliveryState B → Prop where
  | new (inner : B) : DeliveryStep timeout state { state with
      progress := state.progress.produce state.now (Buf.remaining inner)
      buffers := ⟨inner, 0⟩ :: state.buffers }
  | advance {before buffer after inner count} (live : state.buffers = before ++ buffer :: after)
      (idle : buffer.unbooked = 0) (advanced : Buf.advance buffer.inner count = some inner) :
      DeliveryStep timeout state { state with buffers := before ++ ⟨inner, count⟩ :: after }
  | book {before buffer after} (live : state.buffers = before ++ buffer :: after) :
      DeliveryStep timeout state { state with
        progress := state.progress.book state.now buffer.unbooked
        buffers := before ++ ⟨buffer.inner, 0⟩ :: after }
  | drop {before buffer after} (live : state.buffers = before ++ buffer :: after)
      (idle : buffer.unbooked = 0) : DeliveryStep timeout state { state with
        progress := state.progress.drop (Buf.remaining buffer.inner)
        buffers := before ++ after }
  | elapse (duration : Nat) : DeliveryStep timeout state { state with now := state.now + duration }
  | start (unset : state.watchdog = .unset) :
      DeliveryStep timeout state { state with watchdog := .deciding }
  | decide (deciding : state.watchdog = .deciding) : DeliveryStep timeout state { state with
      watchdog := .sleeping
        ((if state.progress.pending = 0 then state.now else state.progress.last) + timeout) }
  | wake {deadline} (sleeping : state.watchdog = .sleeping deadline) (due : deadline ≤ state.now) :
      DeliveryStep timeout state { state with
        watchdog := if 0 < state.progress.pending ∧ state.progress.last + timeout ≤ state.now then
          .cancelled else .deciding }

def deliverySystem (B : Type) [Buf B] (timeout : Nat) : TransitionSystem (DeliveryState B) Unit where
  initial state := state.progress.pending = 0 ∧ state.watchdog = .unset ∧ state.buffers = []
  step _ := DeliveryStep timeout

def outstandingIn (buffers : List (DeliveryBuf B)) : Nat :=
  (buffers.map DeliveryBuf.outstanding).sum

theorem outstandingIn_eq (before : List (DeliveryBuf B)) (buffer : DeliveryBuf B)
    (after : List (DeliveryBuf B)) : outstandingIn (before ++ buffer :: after) =
      buffer.unbooked + Buf.remaining buffer.inner + outstandingIn (before ++ after) := by
  simp [outstandingIn, DeliveryBuf.outstanding]
  omega

theorem DeliveryStep.accounted (step : DeliveryStep timeout state next)
    (accounted : state.progress.pending = outstandingIn state.buffers) :
    next.progress.pending = outstandingIn next.buffers := by
  cases step with
  | new inner =>
    have grown := outstandingIn_eq [] ⟨inner, 0⟩ state.buffers
    simp only [DeliveryProgress.produce_pending, List.nil_append] at grown ⊢
    omega
  | advance live idle advanced =>
    have taken := Buf.remaining_advance advanced
    rw [live, outstandingIn_eq] at accounted
    simp only [outstandingIn_eq]
    omega
  | book live =>
    rw [live, outstandingIn_eq] at accounted
    simp only [outstandingIn_eq, DeliveryProgress.book_pending]
    omega
  | drop live idle =>
    rw [live, outstandingIn_eq] at accounted
    simp only [DeliveryProgress.drop]
    omega
  | elapse | start | decide | wake => exact accounted

theorem accounted_of_reachable
    (reachable : (deliverySystem B timeout).Reachable (fun _ => True) state) :
    state.progress.pending = outstandingIn state.buffers := by
  refine @TransitionSystem.Reachable.invariant _ _ _ _
    (fun state => state.progress.pending = outstandingIn state.buffers) ?_
    (fun _ _ _ _ accounted step => DeliveryStep.accounted step accounted) _ reachable
  rintro start ⟨idle, -, empty⟩
  rw [idle, empty]
  rfl

/-- Bytes that are pending were produced, or followed by progress, at `idle` or later. -/
def DeliveryState.BusySince (idle : Nat) (state : DeliveryState B) : Prop :=
  idle ≤ state.now ∧ (0 < state.progress.pending → idle ≤ state.progress.last)

theorem DeliveryState.BusySince.step {idle : Nat} (busy : state.BusySince idle)
    (step : DeliveryStep timeout state next) : next.BusySince idle := by
  obtain ⟨clock, last⟩ := busy
  cases step with
  | new | book =>
    refine ⟨clock, ?_⟩
    simp only [DeliveryProgress.produce, DeliveryProgress.book]
    grind
  | drop => exact ⟨clock, fun pending => last (Nat.lt_of_lt_of_le pending (Nat.sub_le _ _))⟩
  | elapse => exact ⟨Nat.le_trans clock (Nat.le_add_right _ _), last⟩
  | advance | start | decide | wake => exact ⟨clock, last⟩

/-- The bytes pending are those of the live buffers and what an `advance` in progress has not
booked, so no subtraction underflows. The first of them set the time of the last progress, so the
whole timeout passes between a moment without any and a cancellation. -/
theorem delivery_is_accounted {idle : DeliveryState B}
    (reachable : (deliverySystem B timeout).Reachable (fun _ => True) idle)
    (path : (deliverySystem B timeout).Path (fun _ => True) idle state)
    (step : DeliveryStep timeout state next) :
    state.progress.pending = (state.buffers.map DeliveryBuf.outstanding).sum ∧
      ((∀ buffer ∈ state.buffers, buffer.unbooked = 0) →
        state.progress.pending = (state.buffers.map fun buffer => Buf.remaining buffer.inner).sum) ∧
      ((∀ buffer ∈ state.buffers, buffer.outstanding = 0) → state.progress.pending = 0) ∧
      (∀ buffer ∈ state.buffers, buffer.outstanding ≤ state.progress.pending) ∧
      (state.progress.pending = 0 → next.progress.pending ≠ 0 →
        next.progress.last = next.now) ∧
      (idle.progress.pending = 0 → state.watchdog ≠ .cancelled → next.watchdog = .cancelled →
        idle.now + timeout ≤ next.now) := by
  have accounted := accounted_of_reachable (reachable.path path)
  refine ⟨accounted, ?_, ?_, ?_, ?_, ?_⟩
  · intro booked
    rw [accounted, outstandingIn]
    congr 1
    exact List.map_congr_left fun buffer member => by simp [DeliveryBuf.outstanding, booked _ member]
  · intro consumed
    rw [accounted, outstandingIn, List.map_congr_left (g := fun _ => 0) consumed]
    rw [List.map_const', List.sum_replicate_nat, Nat.mul_zero]
  · intro buffer member
    obtain ⟨before, after, live⟩ := List.append_of_mem member
    rw [live, outstandingIn_eq] at accounted
    rw [DeliveryBuf.outstanding]
    omega
  · intro none some
    cases step <;> grind [DeliveryProgress.produce, DeliveryProgress.book, DeliveryProgress.drop]
  · intro none running cancelled
    have busy := path.preserves (fun _ _ _ _ => DeliveryState.BusySince.step)
      ⟨Nat.le_refl _, fun pending => absurd none (Nat.ne_of_gt pending)⟩
    cases step with
    | wake sleeping due =>
      simp only at cancelled
      split at cancelled
      next stalled => exact Nat.le_trans (Nat.add_le_add_right (busy.2 stalled.1) _) stalled.2
      · cases cancelled
    | start | decide => cases cancelled
    | new | advance | book | drop | elapse => exact absurd cancelled running

/-- Two chunks were produced, and an `advance` takes more than the first. -/
theorem crossed_chunk_is_accounted :
    let produced : DeliveryState (List (List UInt8)) := ⟨⟨3, 7⟩, .unset, 7, [⟨[[1], [2, 3]], 0⟩]⟩
    produced.progress.pending = (produced.buffers.map DeliveryBuf.outstanding).sum ∧
      DeliveryStep 5 produced ⟨⟨3, 7⟩, .unset, 7, [⟨[[3]], 2⟩]⟩ := by
  intro produced
  have created : DeliveryStep 5 (⟨⟨0, 0⟩, .unset, 7, []⟩ : DeliveryState _) produced :=
    .new [[1], [2, 3]]
  have advanced : DeliveryStep 5 produced ⟨⟨3, 7⟩, .unset, 7, [⟨[[3]], 2⟩]⟩ :=
    @DeliveryStep.advance _ _ _ _ [] _ _ _ _ rfl rfl rfl
  have reachable : (deliverySystem _ 5).Reachable (fun _ => True) produced :=
    .step (.init ⟨rfl, rfl, rfl⟩) trivial (show (deliverySystem _ 5).step () _ _ from created)
  exact ⟨(delivery_is_accounted reachable .refl advanced).1, advanced⟩

end Sleepypods.ProxyCore
