import Mathlib

/-! A bounded broadcast channel. Every receiver attached to it sees the events sent from then on,
in order, until it falls more than the capacity behind: then it is told that it lagged and goes on
from the oldest event that is still held. -/

set_option autoImplicit false

namespace Library

structure Broadcast (Event : Type) where
  capacity : Nat
  /-- Every event ever sent; only the last `capacity` of them are held. -/
  sent : List Event

inductive Received (Event : Type) where
  | event (event : Event)
  | lagged
  | empty

namespace Broadcast

variable {Event : Type}

def channel (capacity : Nat) : Broadcast Event := ⟨capacity, []⟩

def send (channel : Broadcast Event) (event : Event) : Broadcast Event :=
  { channel with sent := channel.sent ++ [event] }

/-- A new receiver starts behind the last event. -/
def subscribe (channel : Broadcast Event) : Nat := channel.sent.length

def recv (channel : Broadcast Event) (position : Nat) : Received Event × Nat :=
  if position + channel.capacity < channel.sent.length then
    (.lagged, channel.sent.length - channel.capacity)
  else
    match channel.sent[position]? with
    | some event => (.event event, position + 1)
    | none => (.empty, position)

end Broadcast

end Library
