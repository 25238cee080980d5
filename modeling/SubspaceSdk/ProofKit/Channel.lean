import Mathlib.Data.List.Basic

/-! Channels between tasks, as an asynchronous runtime provides them: a one-shot channel, a bounded
queue, and a watch channel that keeps only its latest value. -/

namespace ProofKit

variable {α : Type}

/-! ### One-shot channels -/

/-- A one-shot channel: what its sender sent, and whether the sender was dropped. -/
structure Oneshot (α : Type) where
  sent : List α := []
  senderDropped : Bool := false
  deriving Repr, DecidableEq

namespace Oneshot

def send (c : Oneshot α) (a : α) : Oneshot α := { c with sent := c.sent ++ [a] }

def dropSender (c : Oneshot α) : Oneshot α := { c with senderDropped := true }

/-- What a poll of the receiver gives: the value, an error where the sender is gone, or nothing
yet. -/
def poll (c : Oneshot α) : Option (Except Unit α) :=
  match c.sent with
  | a :: _ => some (.ok a)
  | [] => if c.senderDropped then some (.error ()) else none

/-- The receiver resolves: a value was sent, or the sender was dropped. -/
def arrived (c : Oneshot α) : Bool := c.poll.isSome

@[simp] theorem sent_send (c : Oneshot α) (a : α) : (c.send a).sent = c.sent ++ [a] := rfl

@[simp] theorem arrived_send (c : Oneshot α) (a : α) : (c.send a).arrived = true := by
  cases h : c.sent <;> simp [arrived, poll, send, h]

@[simp] theorem arrived_dropSender (c : Oneshot α) : c.dropSender.arrived = true := by
  cases h : c.sent <;> simp [arrived, poll, dropSender, h]

/-- A value that the receiver may take stays the one that it takes. -/
theorem poll_send {c : Oneshot α} {a : α} (b : α) (h : c.poll = some (.ok a)) :
    (c.send b).poll = some (.ok a) := by
  cases sent : c.sent with
  | nil =>
    rw [poll, sent] at h
    dsimp only at h
    split at h <;> cases h
  | cons first rest => simpa [poll, send, sent] using h

theorem poll_dropSender {c : Oneshot α} {a : α} (h : c.poll = some (.ok a)) :
    c.dropSender.poll = some (.ok a) := by
  cases sent : c.sent with
  | nil =>
    rw [poll, sent] at h
    dsimp only at h
    split at h <;> cases h
  | cons first rest => simpa [poll, dropSender, sent] using h

theorem poll_of_sent {c : Oneshot α} {a : α} (h : c.sent = [a]) : c.poll = some (.ok a) := by
  simp [poll, h]

end Oneshot

/-- What a poll of a stream gives: an item, the end, or nothing yet. -/
inductive StreamPoll (α : Type) where
  | ready (a : α)
  | ended
  | pending
  deriving Repr, DecidableEq

/-! ### Bounded queues -/

inductive TrySendError where
  | full
  | closed
  deriving Repr, DecidableEq

/-- A bounded queue of messages that is never longer than its capacity. -/
structure Queue (α : Type) (capacity : Nat) where
  buffer : List α := []
  fits : buffer.length ≤ capacity := by simp
  receiverAlive : Bool := true

namespace Queue

variable {capacity : Nat}

theorem fits_push {buffer : List α} (room : buffer.length < capacity) (a : α) :
    (buffer ++ [a]).length ≤ capacity := by
  rw [List.length_append]
  exact room

theorem fits_tail {buffer : List α} (fits : buffer.length ≤ capacity) :
    buffer.tail.length ≤ capacity := by
  rw [List.length_tail]
  omega

def empty : Queue α capacity where
  buffer := []
  fits := Nat.zero_le _

/-- Put a message without waiting. -/
def trySend (q : Queue α capacity) (a : α) : Except TrySendError (Queue α capacity) :=
  if !q.receiverAlive then .error .closed
  else if room : q.buffer.length < capacity then
    .ok { q with buffer := q.buffer ++ [a], fits := fits_push room a }
  else .error .full

/-- Take the oldest message. -/
def pop (q : Queue α capacity) : Queue α capacity :=
  { q with buffer := q.buffer.tail, fits := fits_tail q.fits }

def dropReceiver (_ : Queue α capacity) : Queue α capacity :=
  { buffer := [], fits := Nat.zero_le _, receiverAlive := false }

theorem trySend_ok {q q' : Queue α capacity} {a : α} (h : q.trySend a = .ok q') :
    q'.buffer = q.buffer ++ [a] ∧ q'.receiverAlive = q.receiverAlive ∧ q.receiverAlive = true := by
  unfold trySend at h
  split at h
  · cases h
  · rename_i alive
    split at h
    · cases h
      exact ⟨rfl, rfl, by simpa using alive⟩
    · cases h

/-- A poll of the receiver: the oldest message, or the end once the sender is gone. -/
def poll (q : Queue α capacity) (senderAlive : Bool) : StreamPoll α × Queue α capacity :=
  match q.buffer with
  | a :: _ => (.ready a, q.pop)
  | [] => (if senderAlive then .pending else .ended, q)

/-- A message is refused for good only where the receiver is gone. -/
theorem dead_of_closed {q : Queue α capacity} {a : α} (h : q.trySend a = .error .closed) :
    q.receiverAlive = false := by
  by_contra alive
  simp only [Bool.not_eq_false] at alive
  simp only [trySend, alive, Bool.not_true, Bool.false_eq_true, if_false] at h
  split at h <;> cases h

/-- A message is accepted while there is room for it and the receiver is alive. -/
theorem trySend_of_room {q : Queue α capacity} (a : α) (alive : q.receiverAlive = true)
    (room : q.buffer.length < capacity) : ∃ q', q.trySend a = .ok q' := by
  simp [trySend, alive, room]

/-- The queue of what a function makes of its messages. -/
def map {β : Type} (f : α → β) (q : Queue α capacity) : Queue β capacity where
  buffer := q.buffer.map f
  fits := by
    rw [List.length_map]
    exact q.fits
  receiverAlive := q.receiverAlive

theorem map_pop {β : Type} (f : α → β) (q : Queue α capacity) : q.pop.map f = (q.map f).pop := by
  simp [map, pop]

theorem trySend_map {β : Type} (f : α → β) {q q' : Queue α capacity} {a : α}
    (h : q.trySend a = .ok q') : (q.map f).trySend (f a) = .ok (q'.map f) := by
  unfold trySend at h
  split at h
  · cases h
  · next alive =>
    split at h
    · next room =>
      cases h
      simp_all [trySend, map]
    · cases h

end Queue

/-! ### Watch channels -/

/-- A watch channel: its latest value, how many values were sent, and whether the sender is
alive. -/
structure Watch (α : Type) where
  value : α
  version : Nat := 0
  senderAlive : Bool := true
  deriving Repr, DecidableEq

def Watch.send (w : Watch α) (a : α) : Watch α := { w with value := a, version := w.version + 1 }

def Watch.dropSender (w : Watch α) : Watch α := { w with senderAlive := false }

/-- A stream of the values of a watch channel: the version of the value that it gave last. -/
structure WatchStream where
  seen : Option Nat := none
  deriving Repr, DecidableEq

inductive WatchPoll where
  | ready
  | ended
  | pending
  deriving Repr, DecidableEq

/-- The first poll gives the current value, and each later one a value that was not given. -/
def WatchStream.poll (stream : WatchStream) (w : Watch α) : WatchPoll :=
  if stream.seen ≠ some w.version then .ready
  else if w.senderAlive then .pending
  else .ended

theorem WatchStream.poll_fresh {stream : WatchStream} {w : Watch α}
    (fresh : stream.seen ≠ some w.version) : stream.poll w = .ready := by
  rw [poll, if_pos fresh]

theorem WatchStream.poll_seen {stream : WatchStream} {w : Watch α}
    (seen : stream.seen = some w.version) :
    stream.poll w = if w.senderAlive then .pending else .ended := by
  rw [poll, if_neg (not_not_intro seen)]

end ProofKit
