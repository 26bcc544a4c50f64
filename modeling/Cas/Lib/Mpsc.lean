import Mathlib

set_option autoImplicit false

-- A bounded channel with one receiver. Beside the values in transit it keeps
-- everything that ever went in and came out, and that no value is lost or overtaken.
structure Mpsc (Value : Type) where
  capacity : Nat
  buffer : List Value
  closed : Bool
  sent : List Value
  received : List Value
  fits : buffer.length ≤ capacity
  accounted : sent = received ++ buffer
deriving DecidableEq

namespace Mpsc

variable {Value : Type}

inductive SendError where
  | full
  | closed
deriving DecidableEq, Repr

def new (capacity : Nat) : Mpsc Value := ⟨capacity, [], false, [], [], Nat.zero_le _, rfl⟩

def trySend (channel : Mpsc Value) (value : Value) : Except SendError (Mpsc Value) :=
  if channel.closed then .error .closed
  else if room : channel.buffer.length < channel.capacity then
    .ok { channel with
      buffer := channel.buffer ++ [value]
      sent := channel.sent ++ [value]
      fits := by rw [List.length_append]; exact room
      accounted := by rw [channel.accounted, List.append_assoc] }
  else .error .full

-- `none` while there is nothing to receive.
def recv (channel : Mpsc Value) : Option (Value × Mpsc Value) :=
  match held : channel.buffer with
  | [] => none
  | value :: rest => some (value, { channel with
      buffer := rest
      received := channel.received ++ [value]
      fits := by have fits := channel.fits; rw [held, List.length_cons] at fits; omega
      accounted := by rw [channel.accounted, held, List.append_assoc, List.singleton_append] })

def close (channel : Mpsc Value) : Mpsc Value := { channel with closed := true }

structure Accepted (channel : Mpsc Value) (value : Value) (next : Mpsc Value) : Prop where
  was_open : channel.closed = false
  closed : next.closed = false
  sent : next.sent = channel.sent ++ [value]
  received : next.received = channel.received
  buffer : next.buffer = channel.buffer ++ [value]
  capacity : next.capacity = channel.capacity

theorem try_send_accepted (channel next : Mpsc Value) (value : Value) (accepted : channel.trySend value = .ok next) :
    Accepted channel value next := by
  unfold trySend at accepted
  split at accepted
  · cases accepted
  · rename_i isOpen
    split at accepted
    · obtain rfl := Except.ok.inj accepted
      have was_open : channel.closed = false := by simpa using isOpen
      exact ⟨was_open, was_open, rfl, rfl, rfl, rfl⟩
    · cases accepted

theorem try_send_closed (channel : Mpsc Value) (value : Value) (refused : channel.trySend value = .error .closed) :
    channel.closed = true := by
  unfold trySend at refused
  split at refused
  · assumption
  · split at refused <;> cases refused

structure Taken (channel : Mpsc Value) (value : Value) (next : Mpsc Value) : Prop where
  closed : next.closed = channel.closed
  sent : next.sent = channel.sent
  received : next.received = channel.received ++ [value]
  buffer : channel.buffer = value :: next.buffer
  capacity : next.capacity = channel.capacity

theorem recv_taken (channel next : Mpsc Value) (value : Value) (taken : channel.recv = some (value, next)) : Taken channel value next := by
  unfold recv at taken
  split at taken
  · cases taken
  · rename_i first rest held
    obtain ⟨rfl, rfl⟩ := Prod.mk.inj (Option.some.inj taken)
    exact ⟨rfl, rfl, rfl, held, rfl⟩

end Mpsc
