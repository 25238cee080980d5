import SubspaceSdk.ProofKit.Channel
import SubspaceSdk.ProofKit.Transition

/-! `Node::sync` and the progress stream that it waits for.  Each phase retries its query of the
sync service until the query gives a result or its window of time is over; a window may be over
after any query that asks for another.  The first phases run in `subscribe_syncing_progress` itself,
and the last in a task that sends what it finds on the stream. -/

namespace SubspaceSdk

open ProofKit

inductive SyncState where
  | idle
  | pending
  | importing (target : Nat)
  | downloading (target : Nat)
  deriving Repr, DecidableEq

inductive SyncStatus where
  | importing
  | downloading
  deriving Repr, DecidableEq

/-- The target and the status of a `SyncingProgress`. -/
structure SyncingProgress where
  target : Nat
  status : SyncStatus
  deriving Repr, DecidableEq

/-- A reply of the sync service, with what `is_offline` says at that moment. -/
structure Query where
  status : Except Unit SyncState
  isOffline : Bool
  deriving Repr, DecidableEq

/-- The query of the start-up phase: a result, or the error after which it is made again. -/
def startUpQuery (query : Query) : Except (Option String) SyncingProgress :=
  match query.status with
  | .ok (.importing target) => .ok ⟨target, .importing⟩
  | .ok (.downloading target) => .ok ⟨target, .downloading⟩
  | .error () =>
    if query.isOffline then .error (some "Node went offline")
    else .error (some "Failed to fetch networking status")
  | .ok .idle | .ok .pending =>
    if query.isOffline then .error (some "Node went offline") else .error none

/-- The query of the background loop, which sends its result on the stream.  It does not look at
`is_offline`, and an error of the service is a result. -/
def backgroundQuery (query : Query) : Except Unit (Except String SyncingProgress) :=
  match query.status with
  | .ok (.importing target) => .ok (.ok ⟨target, .importing⟩)
  | .ok (.downloading target) => .ok (.ok ⟨target, .downloading⟩)
  | .error () => .ok (.error "Failed to fetch networking status")
  | .ok .idle | .ok .pending => .error ()

/-- The error that a retry ends with: the one of its last attempt. -/
def lastError {ε α : Type} (operation : Query → Except ε α) (window : List Query) : Option ε :=
  window.getLast?.bind fun query =>
    match operation query with
    | .ok _ => none
    | .error error => some error

theorem lastError_eq_some {ε α : Type} {operation : Query → Except ε α} {window : List Query}
    {error : ε} (last : lastError operation window = some error) :
    ∃ query, window.getLast? = some query ∧ operation query = .error error := by
  obtain ⟨query, here, failed⟩ := Option.bind_eq_some_iff.mp last
  refine ⟨query, here, ?_⟩
  split at failed
  · cases failed
  · next same =>
    cases failed
    exact same

theorem ne_nil_of_lastError {ε α : Type} {operation : Query → Except ε α} {window : List Query}
    {error : ε} (last : lastError operation window = some error) : window ≠ [] := by
  rintro rfl
  cases last

theorem lastError_append {ε α : Type} {operation : Query → Except ε α} (window : List Query)
    {query : Query} {error : ε} (failed : operation query = .error error) :
    lastError operation (window ++ [query]) = some error := by
  simp [lastError, failed]

inductive SyncPhase where
  /-- Waiting for the network, with the answer of the last check. -/
  | connecting (offline : Bool)
  | startUp (window : List Query)
  | background (window : List Query)
  | forwarding (item : Except String SyncingProgress)
  /-- The sender of the stream is gone. -/
  | ended
  | returned (result : Except String Unit)
  deriving DecidableEq

/-- The stream before anything is sent on it. -/
def emptyStream : Queue (Except String SyncingProgress) 10 where
  buffer := []
  fits := Nat.zero_le _

structure Syncing where
  phase : SyncPhase := .connecting false
  stream : Queue (Except String SyncingProgress) 10 := emptyStream
  /-- All that was sent on the stream. -/
  forwarded : List (Except String SyncingProgress) := []
  /-- The queries of the retry window after which the stream ended or the call failed. -/
  finalWindow : List Query := []

namespace Syncing

inductive Action where
  | checkOffline (isOffline : Bool)
  | query (query : Query)
  | windowOver
  | send
  | receive
  | streamOver
  deriving DecidableEq

def next (s : Syncing) : Action → Option Syncing
  | .checkOffline isOffline =>
    match s.phase with
    | .connecting _ =>
      some { s with phase := if isOffline then .connecting true else .startUp [] }
    | _ => none
  | .query query =>
    match s.phase with
    | .startUp window =>
      match startUpQuery query with
      | .ok progress =>
        match s.stream.trySend (.ok progress) with
        | .ok stream => some { s with
            phase := .background []
            stream := stream
            forwarded := s.forwarded ++ [.ok progress] }
        | .error _ => none
      | .error _ => some { s with phase := .startUp (window ++ [query]) }
    | .background window =>
      match backgroundQuery query with
      | .ok item => some { s with phase := .forwarding item }
      | .error () => some { s with phase := .background (window ++ [query]) }
    | _ => none
  | .windowOver =>
    match s.phase with
    | .connecting true =>
      some { s with phase := .returned (.error "Failed to connect to the network") }
    | .startUp window =>
      match lastError startUpQuery window with
      | some (some error) =>
        some { s with phase := .returned (.error error), finalWindow := window }
      -- The node was idle for quite some time: the stream has no sender.
      | some none => some { s with phase := .ended, finalWindow := window }
      | none => none
    | .background window =>
      match lastError backgroundQuery window with
      | some () => some { s with phase := .ended, finalWindow := window }
      | none => none
    | _ => none
  | .send =>
    match s.phase with
    | .forwarding item =>
      match s.stream.trySend item with
      | .ok stream => some { s with
          phase := .background []
          stream := stream
          forwarded := s.forwarded ++ [item] }
      | .error _ => none
    | _ => none
  -- `for_each` drops what it is given.
  | .receive =>
    match s.stream.buffer with
    | _ :: _ => some { s with stream := s.stream.pop }
    | [] => none
  | .streamOver =>
    match s.phase, s.stream.buffer with
    | .ended, [] => some { s with phase := .returned (.ok ()) }
    | _, _ => none

def system : System Syncing Action := ⟨next⟩

variable {s t u : Syncing} {a : Action} {as : List Action}

inductive Step (s : Syncing) : Action → Syncing → Prop
  | offline {before : Bool} (at' : s.phase = .connecting before) :
      Step s (.checkOffline true) { s with phase := .connecting true }
  | online {before : Bool} (at' : s.phase = .connecting before) :
      Step s (.checkOffline false) { s with phase := .startUp [] }
  | startUpFound {window : List Query} {query : Query} {progress : SyncingProgress}
      {stream : Queue (Except String SyncingProgress) 10} (at' : s.phase = .startUp window)
      (found : startUpQuery query = .ok progress)
      (sent : s.stream.trySend (.ok progress) = .ok stream) :
      Step s (.query query) { s with
        phase := .background []
        stream := stream
        forwarded := s.forwarded ++ [.ok progress] }
  | startUpAgain {window : List Query} {query : Query} {error : Option String}
      (at' : s.phase = .startUp window) (again : startUpQuery query = .error error) :
      Step s (.query query) { s with phase := .startUp (window ++ [query]) }
  | backgroundFound {window : List Query} {query : Query} {item : Except String SyncingProgress}
      (at' : s.phase = .background window) (found : backgroundQuery query = .ok item) :
      Step s (.query query) { s with phase := .forwarding item }
  | backgroundAgain {window : List Query} {query : Query} (at' : s.phase = .background window)
      (again : backgroundQuery query = .error ()) :
      Step s (.query query) { s with phase := .background (window ++ [query]) }
  | connectingOver (at' : s.phase = .connecting true) : Step s .windowOver
      { s with phase := .returned (.error "Failed to connect to the network") }
  | startUpFailed {window : List Query} {error : String} (at' : s.phase = .startUp window)
      (last : lastError startUpQuery window = some (some error)) :
      Step s .windowOver { s with phase := .returned (.error error), finalWindow := window }
  | startUpIdle {window : List Query} (at' : s.phase = .startUp window)
      (last : lastError startUpQuery window = some none) :
      Step s .windowOver { s with phase := .ended, finalWindow := window }
  | backgroundIdle {window : List Query} (at' : s.phase = .background window)
      (last : lastError backgroundQuery window = some ()) :
      Step s .windowOver { s with phase := .ended, finalWindow := window }
  | sent {item : Except String SyncingProgress}
      {stream : Queue (Except String SyncingProgress) 10} (at' : s.phase = .forwarding item)
      (sent : s.stream.trySend item = .ok stream) :
      Step s .send { s with
        phase := .background []
        stream := stream
        forwarded := s.forwarded ++ [item] }
  | received {item : Except String SyncingProgress} {items : List (Except String SyncingProgress)}
      (waiting : s.stream.buffer = item :: items) :
      Step s .receive { s with stream := s.stream.pop }
  | streamOver (at' : s.phase = .ended) (empty : s.stream.buffer = []) :
      Step s .streamOver { s with phase := .returned (.ok ()) }

theorem step_of_next (h : next s a = some u) : Step s a u := by
  unfold next at h
  split at h
  · next isOffline =>
    split at h
    · next at' =>
      cases h
      cases isOffline
      · exact .online at'
      · exact .offline at'
    · cases h
  · next query =>
    split at h
    · next at' =>
      split at h
      · next found =>
        split at h
        · next sent =>
          cases h
          exact .startUpFound at' found sent
        · cases h
      · next again =>
        cases h
        exact .startUpAgain at' again
    · next at' =>
      split at h
      · next found =>
        cases h
        exact .backgroundFound at' found
      · next again =>
        cases h
        exact .backgroundAgain at' again
    · cases h
  · split at h
    · next at' =>
      cases h
      exact .connectingOver at'
    · next at' =>
      split at h
      · next last =>
        cases h
        exact .startUpFailed at' last
      · next last =>
        cases h
        exact .startUpIdle at' last
      · cases h
    · next at' =>
      split at h
      · next last =>
        cases h
        exact .backgroundIdle at' last
      · cases h
    · cases h
  · split at h
    · next at' =>
      split at h
      · next sent =>
        cases h
        exact .sent at' sent
      · cases h
    · cases h
  · split at h
    · next waiting =>
      cases h
      exact .received waiting
    · cases h
  · split at h
    · next at' empty =>
      cases h
      exact .streamOver at' empty
    · cases h

end Syncing

end SubspaceSdk
