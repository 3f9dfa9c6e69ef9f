import Mathlib

/-! A relay reads a log in order and announces its payloads on a channel. Where it cannot go on
in order it announces a reset and goes on further up the log. Nothing that was appended after it
began is passed by without an announcement. -/

set_option autoImplicit false

namespace Library

structure Relay (α β : Type) where
  /-- Every payload ever appended to the log. -/
  history : List α
  /-- Where the relay began to read, and how far it is. -/
  start : Nat
  progress : Nat
  sent : List β

namespace Relay

variable {α β : Type}

inductive Step (decode : α → Option β) (reset : β) (relay : Relay α β) : Relay α β → Prop where
  | append (more : List α) : Step decode reset relay { relay with history := relay.history ++ more }
  | begin (position : Nat) (bounded : position ≤ relay.history.length) :
      Step decode reset relay { relay with start := position, progress := position }
  | announce (payload : α) (event : β) (next : relay.history[relay.progress]? = some payload)
      (decoded : decode payload = some event) :
      Step decode reset relay
        { relay with progress := relay.progress + 1, sent := relay.sent ++ [event] }
  | skip (position : Nat) (bounded : position ≤ relay.history.length) :
      Step decode reset relay { relay with progress := position, sent := relay.sent ++ [reset] }
  | emit (event : β) : Step decode reset relay { relay with sent := relay.sent ++ [event] }

abbrev Steps (decode : α → Option β) (reset : β) : Relay α β → Relay α β → Prop :=
  Relation.ReflTransGen (Step decode reset)

theorem Step.extends {decode : α → Option β} {reset : β} {relay next : Relay α β}
    (step : Step decode reset relay next) :
    relay.history <+: next.history ∧ relay.sent <+: next.sent := by
  cases step with
  | append => exact ⟨List.prefix_append _ _, List.prefix_rfl⟩
  | begin => exact ⟨List.prefix_rfl, List.prefix_rfl⟩
  | announce | skip | emit => exact ⟨List.prefix_rfl, List.prefix_append _ _⟩

theorem Steps.extends {decode : α → Option β} {reset : β} {relay next : Relay α β}
    (steps : Steps decode reset relay next) :
    relay.history <+: next.history ∧ relay.sent <+: next.sent := by
  induction steps with
  | refl => exact ⟨List.prefix_rfl, List.prefix_rfl⟩
  | tail _ step ih => exact ⟨ih.1.trans step.extends.1, ih.2.trans step.extends.2⟩

/-- An observer joined the channel at `position` and has seen the log up to `snapshot`: what it has
not seen was announced to it, as far as the relay got. -/
structure Covers (decode : α → Option β) (reset : β) (relay : Relay α β) (position snapshot : Nat) :
    Prop where
  bounded : relay.progress ≤ relay.history.length
  joined : position ≤ relay.sent.length
  announced : ∀ index payload, snapshot ≤ index → relay.start ≤ index → index < relay.progress →
    relay.history[index]? = some payload →
    ∃ event ∈ relay.sent.drop position, event = reset ∨ decode payload = some event

namespace Covers

variable {decode : α → Option β} {reset : β} {relay next : Relay α β} {position snapshot : Nat}

variable (covers : Covers decode reset relay position snapshot)

include covers

theorem step (step : Step decode reset relay next) :
    Covers decode reset next position snapshot := by
  obtain ⟨bounded, joined, announced⟩ := covers
  have longer : ∀ event : β, position ≤ (relay.sent ++ [event]).length := by
    intro event
    rw [List.length_append]
    exact Nat.le_add_right_of_le joined
  have kept : ∀ (event : β) index payload, snapshot ≤ index → relay.start ≤ index →
      index < relay.progress → relay.history[index]? = some payload →
      ∃ found ∈ (relay.sent ++ [event]).drop position, found = reset ∨ decode payload = some found := by
    intro event index payload seen started below stored
    obtain ⟨found, member, told⟩ := announced index payload seen started below stored
    rw [List.drop_append_of_le_length joined]
    exact ⟨found, List.mem_append_left _ member, told⟩
  have latest : ∀ event : β, event ∈ (relay.sent ++ [event]).drop position := by
    intro event
    rw [List.drop_append_of_le_length joined]
    exact List.mem_append_right _ (List.mem_singleton_self _)
  cases step with
  | append =>
    refine ⟨?_, joined, fun index payload seen started below stored => ?_⟩
    · rw [List.length_append]
      exact Nat.le_add_right_of_le bounded
    · rw [List.getElem?_append_left (Nat.lt_of_lt_of_le below bounded)] at stored
      exact announced index payload seen started below stored
  | begin _ within =>
    refine ⟨within, joined, fun index payload seen started below stored => ?_⟩
    exact absurd below (Nat.not_lt.mpr started)
  | announce _ event stored decoded =>
    refine ⟨(List.getElem?_eq_some_iff.mp stored).1, longer event, ?_⟩
    intro index other seen started below found
    rcases Nat.lt_or_eq_of_le (Nat.le_of_lt_succ below) with before | same
    · exact kept event index other seen started before found
    · rw [same, stored] at found
      cases found
      exact ⟨event, latest event, .inr decoded⟩
  | skip _ within =>
    exact ⟨within, longer reset, fun _ _ _ _ _ _ => ⟨reset, latest reset, .inl rfl⟩⟩
  | emit event => exact ⟨bounded, longer event, kept event⟩

theorem steps (steps : Steps decode reset relay next) :
    Covers decode reset next position snapshot := by
  induction steps with
  | refl => exact covers
  | tail _ step ih => exact ih.step step

end Covers

end Relay

end Library
