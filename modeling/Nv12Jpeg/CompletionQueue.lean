import Nv12Jpeg.Fault

/-!
# Completion queues

Workers send completions under a key through a bounded channel; the receiver asks for them by key,
in whatever order. Completions that arrive while another key is waited for are parked.

* `CompletionQueue.allocate` sets the room of a channel aside, all of it at once;
* `CompletionQueue.complete` sends a completion, unless the receiver is gone or the channel full;
* `CompletionQueue.wait` hands out the completion of a key;
* `CompletionQueue.depth`, `peak` and `parkedCount` are the statistics of the queue.
-/

namespace Nv12Jpeg

/-- A channel of completions with its receiver's store. -/
structure CompletionQueue (κ τ : Type) where
  capacity : Nat
  /-- Sent and not yet received, oldest first. -/
  channel : List (κ × τ)
  /-- Received while waiting for another key; one completion a key. -/
  parked : List (κ × τ)
  /-- The count of completions in the channel. -/
  depth : Nat
  /-- The largest count there has been. -/
  peak : Nat
  /-- The senders that were not dropped. -/
  senders : Nat
  /-- Whether the receiver was not dropped. -/
  receiving : Bool
  deriving Repr

/-- What sending a completion leads to. -/
inductive Sent where
  | queued
  /-- The receiver is gone. -/
  | disconnected
  /-- The sender would have to wait for room in the channel. -/
  | full
  deriving DecidableEq, Repr

/-- What waiting for a completion leads to. -/
inductive Waited (τ : Type) where
  | received (value : τ)
  /-- It did not arrive in time. -/
  | missing
  /-- It is not there, and every sender is gone. -/
  | disconnected
  deriving DecidableEq, Repr

namespace CompletionQueue

variable {κ τ : Type}

/-- An empty queue with one sender; a channel holds at least one completion. -/
def ofCapacity (capacity : Nat) : CompletionQueue κ τ where
  capacity := max capacity 1
  channel := []
  parked := []
  depth := 0
  peak := 0
  senders := 1
  receiving := true

/-- The bytes a channel keeps beside each completion: the turn in which it was sent. -/
def turnSize : Nat := 8

/-- Allocates an empty queue of completions of `entrySize` bytes each, key included. -/
def allocate (entrySize capacity : Nat) : Except Fault (CompletionQueue κ τ) := do
  let queue := ofCapacity capacity
  let _ ← Size.buffer (queue.capacity * (entrySize + turnSize))
  return queue

/-- Whether a sender would have to wait. -/
def isFull (queue : CompletionQueue κ τ) : Bool :=
  queue.receiving && decide (queue.capacity ≤ queue.depth)

/-- How many completions are parked. -/
def parkedCount (queue : CompletionQueue κ τ) : Nat := queue.parked.length

/-- Counts a completion in. -/
def raise (queue : CompletionQueue κ τ) : CompletionQueue κ τ :=
  { queue with depth := queue.depth + 1, peak := max queue.peak (queue.depth + 1) }

/-- Counts a completion out. -/
def lower (queue : CompletionQueue κ τ) : CompletionQueue κ τ :=
  { queue with depth := queue.depth - 1 }

/-- Sends the completion of `key`. -/
def complete (queue : CompletionQueue κ τ) (key : κ) (value : τ) : Sent × CompletionQueue κ τ :=
  if queue.isFull then (.full, queue)
  else if queue.receiving then
    (.queued, { queue.raise with channel := queue.channel ++ [(key, value)] })
  else (.disconnected, queue.raise.lower)

/-- Adds a sender. -/
def cloneSender (queue : CompletionQueue κ τ) : CompletionQueue κ τ :=
  { queue with senders := queue.senders + 1 }

/-- Drops a sender. -/
def dropSender (queue : CompletionQueue κ τ) : CompletionQueue κ τ :=
  { queue with senders := queue.senders - 1 }

/-- Drops the receiver, with all that was sent to it. -/
def dropReceiver (queue : CompletionQueue κ τ) : CompletionQueue κ τ :=
  { queue with channel := [], parked := [], receiving := false }

variable [DecidableEq κ]

/-- Parks a completion, in place of one of the same key. -/
def park (parked : List (κ × τ)) (key : κ) (value : τ) : List (κ × τ) :=
  (key, value) :: parked.filter fun entry => entry.1 ≠ key

/-- Receives the completions of `channel` until one of `key` comes. -/
def receive (key : κ) : (channel : List (κ × τ)) → CompletionQueue κ τ →
    Waited τ × CompletionQueue κ τ
  | [], queue =>
    (if queue.senders = 0 then .disconnected else .missing, { queue with channel := [] })
  | (received, value) :: rest, queue =>
    let queue := queue.lower
    if received = key then (.received value, { queue with channel := rest })
    else receive key rest { queue with parked := park queue.parked received value }

/-- Hands out the completion of `key`: a parked one, or the first one that arrives within `waitMs`
milliseconds. The clock, which has been running for `present` nanoseconds, has to tell the end of
the wait before the channel is looked at. -/
def wait (queue : CompletionQueue κ τ) (key : κ) (present : UInt64) (waitMs : Nat) :
    Except Fault (Waited τ × CompletionQueue κ τ) :=
  match queue.parked.lookup key with
  | some value =>
    .ok (.received value, { queue with parked := queue.parked.filter fun entry => entry.1 ≠ key })
  | none => do
    let _ ← Clock.deadline present waitMs
    return receive key queue.channel queue

end CompletionQueue

end Nv12Jpeg
