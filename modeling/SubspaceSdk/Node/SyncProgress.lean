import SubspaceSdk.Node.Sync

/-! The stream of `Node::subscribe_syncing_progress` with all that it carries, for a subscriber that
takes its items at its own speed and may drop it.  A reply of the sync service comes with the best
number that the client has once the retry gives the reply back, since nothing else happens between
the two reads. -/

namespace SubspaceSdk

open ProofKit

/-- A `SyncingProgress` with all its fields. -/
structure SyncingProgressAt extends SyncingProgress where
  /-- Imported this much blocks. -/
  at' : Nat
  deriving Repr, DecidableEq

abbrev SyncingItem := Except String SyncingProgressAt

/-- A reply of the sync service, and the best number of the client after it. -/
structure Reply where
  query : Query
  bestNumber : Nat
  deriving Repr, DecidableEq

/-- `SyncingProgressStream`: a stream of items, with two numbers of the last progress. -/
structure SyncingProgressStream (S : Type) where
  inner : S
  at' : Nat
  target : Nat
  deriving Repr, DecidableEq

/-- `poll_next`, over a poll of the inner stream. -/
def SyncingProgressStream.pollNext {S : Type} (poll : S → StreamPoll SyncingItem × S)
    (this : SyncingProgressStream S) : StreamPoll SyncingItem × SyncingProgressStream S :=
  match poll this.inner with
  | (.ready (.ok progress), inner) =>
    (.ready (.ok progress), ⟨inner, progress.at', progress.target⟩)
  | (next, inner) => (next, { this with inner := inner })

/-- Why the sender of the stream is gone. -/
inductive SyncStop where
  /-- The call returned an error, after the queries of a window if it was connected. -/
  | failed (error : String) (window : List Query)
  /-- The start-up found nothing to sync. -/
  | idleAtStart (window : List Query)
  /-- The background loop found nothing to sync any more. -/
  | idle (window : List Query)
  /-- The background loop found that the stream was dropped. -/
  | closed
  deriving DecidableEq

/-- What holds the sender of the stream: the call, and after it the background loop. -/
inductive SyncTask where
  | connecting (offline : Bool)
  | startUp (window : List Query)
  | background (window : List Query)
  | forwarding (item : SyncingItem)
  | stopped (stop : SyncStop)
  deriving DecidableEq

/-- Who has the stream. -/
inductive Subscriber where
  | waiting
  /-- The numbers of the stream, and whether a poll told its end. -/
  | holds (at' target : Nat) (told : Bool)
  | dropped
  deriving Repr, DecidableEq

def emptyChannel : Queue SyncingItem 10 := .empty

structure Subscription where
  task : SyncTask := .connecting false
  channel : Queue SyncingItem 10 := emptyChannel
  subscriber : Subscriber := .waiting
  /-- The items that the subscriber got. -/
  received : List SyncingItem := []

def SyncTask.senderAlive : SyncTask → Bool
  | .stopped _ => false
  | _ => true

/-- The call returned a stream. -/
def SyncTask.hasStream : SyncTask → Bool
  | .connecting _ | .startUp _ | .stopped (.failed _ _) => false
  | _ => true

namespace Subscription

inductive Action where
  | checkOffline (isOffline : Bool)
  | reply (reply : Reply)
  | windowOver
  | send
  | poll
  | dropStream
  deriving DecidableEq

/-- A poll by the subscriber that holds the stream with these numbers. -/
def polled (s : Subscription) (at' target : Nat) (told : Bool) : Subscription :=
  let poll := fun channel : Queue SyncingItem 10 => channel.poll s.task.senderAlive
  match SyncingProgressStream.pollNext poll ⟨s.channel, at', target⟩ with
  | (.ready item, stream) => { s with
      channel := stream.inner
      subscriber := .holds stream.at' stream.target told
      received := s.received ++ [item] }
  | (.ended, _) => { s with subscriber := .holds at' target true }
  | (.pending, _) => s

def next (s : Subscription) : Action → Option Subscription
  | .checkOffline isOffline =>
    match s.task with
    | .connecting _ =>
      some { s with task := if isOffline then .connecting true else .startUp [] }
    | _ => none
  | .reply reply =>
    match s.task with
    | .startUp window =>
      match startUpQuery reply.query with
      | .ok progress =>
        match s.channel.trySend (.ok ⟨progress, reply.bestNumber⟩) with
        | .ok channel => some { s with
            task := .background []
            channel := channel
            subscriber := .holds reply.bestNumber progress.target false }
        | .error _ => none
      | .error _ => some { s with task := .startUp (window ++ [reply.query]) }
    | .background window =>
      match backgroundQuery reply.query with
      | .ok (.ok progress) =>
        some { s with task := .forwarding (.ok ⟨progress, reply.bestNumber⟩) }
      | .ok (.error error) => some { s with task := .forwarding (.error error) }
      | .error () => some { s with task := .background (window ++ [reply.query]) }
    | _ => none
  | .windowOver =>
    match s.task with
    | .connecting true =>
      some { s with task := .stopped (.failed "Failed to connect to the network" []) }
    | .startUp window =>
      match lastError startUpQuery window with
      | some (some error) => some { s with task := .stopped (.failed error window) }
      -- The node was idle for quite some time.
      | some none => some { s with
          task := .stopped (.idleAtStart window)
          subscriber := .holds 0 0 false }
      | none => none
    | .background window =>
      match lastError backgroundQuery window with
      | some () => some { s with task := .stopped (.idle window) }
      | none => none
    | _ => none
  | .send =>
    match s.task with
    | .forwarding item =>
      match s.channel.trySend item with
      | .ok channel => some { s with task := .background [], channel := channel }
      | .error .closed => some { s with task := .stopped .closed }
      -- The send waits for the subscriber.
      | .error .full => none
    | _ => none
  | .poll =>
    match s.subscriber with
    | .holds at' target told => some (s.polled at' target told)
    | _ => none
  | .dropStream =>
    match s.subscriber with
    | .holds _ _ _ => some { s with
        channel := s.channel.dropReceiver
        subscriber := .dropped }
    | _ => none

def system : System Subscription Action := ⟨next⟩

variable {s t u : Subscription} {a : Action} {as : List Action}

/-- The numbers of the stream after an item. -/
def numbers (at' target : Nat) : SyncingItem → Nat × Nat
  | .ok progress => (progress.at', progress.target)
  | .error _ => (at', target)

inductive Step (s : Subscription) : Action → Subscription → Prop
  | offline {before : Bool} (is : s.task = .connecting before) :
      Step s (.checkOffline true) { s with task := .connecting true }
  | online {before : Bool} (is : s.task = .connecting before) :
      Step s (.checkOffline false) { s with task := .startUp [] }
  | startUpFound {window : List Query} {reply : Reply} {progress : SyncingProgress}
      {channel : Queue SyncingItem 10} (is : s.task = .startUp window)
      (found : startUpQuery reply.query = .ok progress)
      (sent : s.channel.trySend (.ok ⟨progress, reply.bestNumber⟩) = .ok channel) :
      Step s (.reply reply) { s with
        task := .background []
        channel := channel
        subscriber := .holds reply.bestNumber progress.target false }
  | startUpAgain {window : List Query} {reply : Reply} {error : Option String}
      (is : s.task = .startUp window) (again : startUpQuery reply.query = .error error) :
      Step s (.reply reply) { s with task := .startUp (window ++ [reply.query]) }
  | foundProgress {window : List Query} {reply : Reply} {progress : SyncingProgress}
      (is : s.task = .background window)
      (found : backgroundQuery reply.query = .ok (.ok progress)) :
      Step s (.reply reply) { s with task := .forwarding (.ok ⟨progress, reply.bestNumber⟩) }
  | foundError {window : List Query} {reply : Reply} {error : String}
      (is : s.task = .background window)
      (found : backgroundQuery reply.query = .ok (.error error)) :
      Step s (.reply reply) { s with task := .forwarding (.error error) }
  | backgroundAgain {window : List Query} {reply : Reply} (is : s.task = .background window)
      (again : backgroundQuery reply.query = .error ()) :
      Step s (.reply reply) { s with task := .background (window ++ [reply.query]) }
  | connectingOver (is : s.task = .connecting true) : Step s .windowOver
      { s with task := .stopped (.failed "Failed to connect to the network" []) }
  | startUpFailed {window : List Query} {error : String} (is : s.task = .startUp window)
      (last : lastError startUpQuery window = some (some error)) :
      Step s .windowOver { s with task := .stopped (.failed error window) }
  | startUpIdle {window : List Query} (is : s.task = .startUp window)
      (last : lastError startUpQuery window = some none) :
      Step s .windowOver { s with
        task := .stopped (.idleAtStart window)
        subscriber := .holds 0 0 false }
  | backgroundIdle {window : List Query} (is : s.task = .background window)
      (last : lastError backgroundQuery window = some ()) :
      Step s .windowOver { s with task := .stopped (.idle window) }
  | sent {item : SyncingItem} {channel : Queue SyncingItem 10} (is : s.task = .forwarding item)
      (sent : s.channel.trySend item = .ok channel) :
      Step s .send { s with task := .background [], channel := channel }
  | sendClosed {item : SyncingItem} (is : s.task = .forwarding item)
      (closed : s.channel.trySend item = .error .closed) :
      Step s .send { s with task := .stopped .closed }
  | polledItem {at' target : Nat} {told : Bool} {item : SyncingItem} {items : List SyncingItem}
      (holds : s.subscriber = .holds at' target told) (waiting : s.channel.buffer = item :: items) :
      Step s .poll { s with
        channel := s.channel.pop
        subscriber := .holds (numbers at' target item).1 (numbers at' target item).2 told
        received := s.received ++ [item] }
  | polledEnd {at' target : Nat} {told : Bool} (holds : s.subscriber = .holds at' target told)
      (empty : s.channel.buffer = []) (gone : s.task.senderAlive = false) :
      Step s .poll { s with subscriber := .holds at' target true }
  | polledPending {at' target : Nat} {told : Bool} (holds : s.subscriber = .holds at' target told)
      (empty : s.channel.buffer = []) (alive : s.task.senderAlive = true) : Step s .poll s
  | streamDropped {at' target : Nat} {told : Bool} (holds : s.subscriber = .holds at' target told) :
      Step s .dropStream { s with channel := s.channel.dropReceiver, subscriber := .dropped }

/-- A poll that finds an item. -/
theorem polled_cons {at' target : Nat} {told : Bool} {item : SyncingItem} {items : List SyncingItem}
    (waiting : s.channel.buffer = item :: items) :
    s.polled at' target told = { s with
      channel := s.channel.pop
      subscriber := .holds (numbers at' target item).1 (numbers at' target item).2 told
      received := s.received ++ [item] } := by
  cases item <;> simp [polled, SyncingProgressStream.pollNext, Queue.poll, waiting, numbers]

theorem polled_nil {at' target : Nat} {told : Bool} (empty : s.channel.buffer = []) :
    s.polled at' target told = if s.task.senderAlive then s else
      { s with subscriber := .holds at' target true } := by
  cases alive : s.task.senderAlive <;>
    simp [polled, SyncingProgressStream.pollNext, Queue.poll, empty, alive]

theorem polled_step {at' target : Nat} {told : Bool}
    (holds : s.subscriber = .holds at' target told) : Step s .poll (s.polled at' target told) := by
  cases waiting : s.channel.buffer with
  | cons item items =>
    rw [polled_cons waiting]
    exact .polledItem holds waiting
  | nil =>
    rw [polled_nil waiting]
    split
    · next alive => exact .polledPending holds waiting alive
    · next gone => exact .polledEnd holds waiting (Bool.eq_false_iff.mpr gone)

theorem reply_step {reply : Reply} (h : next s (.reply reply) = some u) :
    Step s (.reply reply) u := by
  simp only [next] at h
  split at h
  · next is =>
    split at h
    · next found =>
      split at h
      · next sent =>
        cases h
        exact .startUpFound is found sent
      · cases h
    · next again =>
      cases h
      exact .startUpAgain is again
  · next is =>
    split at h
    · next found =>
      cases h
      exact .foundProgress is found
    · next found =>
      cases h
      exact .foundError is found
    · next again =>
      cases h
      exact .backgroundAgain is again
  · cases h

theorem windowOver_step (h : next s .windowOver = some u) : Step s .windowOver u := by
  simp only [next] at h
  split at h
  · next is =>
    cases h
    exact .connectingOver is
  · next is =>
    split at h
    · next last =>
      cases h
      exact .startUpFailed is last
    · next last =>
      cases h
      exact .startUpIdle is last
    · cases h
  · next is =>
    split at h
    · next last =>
      cases h
      exact .backgroundIdle is last
    · cases h
  · cases h

theorem send_step (h : next s .send = some u) : Step s .send u := by
  simp only [next] at h
  split at h
  · next is =>
    split at h
    · next sent =>
      cases h
      exact .sent is sent
    · next closed =>
      cases h
      exact .sendClosed is closed
    · cases h
  · cases h

theorem step_of_next (h : next s a = some u) : Step s a u := by
  cases a with
  | checkOffline isOffline =>
    simp only [next] at h
    split at h
    · next is =>
      cases h
      cases isOffline with
      | false => exact .online is
      | true => exact .offline is
    · cases h
  | reply reply => exact reply_step h
  | windowOver => exact windowOver_step h
  | send => exact send_step h
  | poll =>
    simp only [next] at h
    split at h
    · next holds =>
      cases h
      exact polled_step holds
    · cases h
  | dropStream =>
    simp only [next] at h
    split at h
    · next holds =>
      cases h
      exact .streamDropped holds
    · cases h

/-! ### The stream under `sync` -/

/-- An item without its best number. -/
def forgetItem (item : SyncingItem) : Except String SyncingProgress :=
  item.map SyncingProgressAt.toSyncingProgress

/-- Where `sync` is when its subscription is here. -/
def forgetPhase (task : SyncTask) (subscriber : Subscriber) : SyncPhase :=
  match task, subscriber with
  | .connecting offline, _ => .connecting offline
  | .startUp window, _ => .startUp window
  | .background window, _ => .background window
  | .forwarding item, _ => .forwarding (forgetItem item)
  | .stopped (.failed error _), _ => .returned (.error error)
  | .stopped _, .holds _ _ true => .returned (.ok ())
  | .stopped _, _ => .ended

/-- The window after which the sender is gone. -/
def finalWindow : SyncTask → List Query
  | .stopped (.failed _ window) | .stopped (.idleAtStart window) | .stopped (.idle window) => window
  | _ => []

/-- `sync` over a subscription. -/
def forget (s : Subscription) : Syncing where
  phase := forgetPhase s.task s.subscriber
  stream := s.channel.map forgetItem
  forwarded := (s.received ++ s.channel.buffer).map forgetItem
  finalWindow := finalWindow s.task

/-- A subscriber that keeps the stream knows its end only after the sender is gone, and has no
stream before the call returned one. -/
structure Kept (s : Subscription) : Prop where
  alive : s.channel.receiverAlive = true
  told : ∀ at' target, s.subscriber = .holds at' target true → s.task.senderAlive = false
  without : s.task.hasStream = false → s.subscriber = .waiting

theorem Kept.step (kept : Kept s) (step : Step s a u) (keeps : a ≠ .dropStream) : Kept u := by
  have ⟨alive, told, without⟩ := kept
  cases step with
  | offline is | online is | startUpAgain is | connectingOver is | startUpFailed is =>
    have waits := without (by rw [is]; rfl)
    exact ⟨alive, fun _ _ holds => by simp [waits] at holds, fun _ => waits⟩
  | startUpFound is found sent => exact ⟨(Queue.trySend_ok sent).2.1.trans alive, nofun, nofun⟩
  | startUpIdle => exact ⟨alive, nofun, nofun⟩
  | foundProgress is | foundError is | backgroundAgain is =>
    refine ⟨alive, fun at' target holds => ?_, nofun⟩
    have gone := told at' target holds
    rw [is] at gone
    exact gone
  | backgroundIdle | sendClosed => exact ⟨alive, fun _ _ _ => rfl, nofun⟩
  | sent is sent =>
    refine ⟨(Queue.trySend_ok sent).2.1.trans alive, fun at' target holds => ?_, nofun⟩
    have gone := told at' target holds
    rw [is] at gone
    exact gone
  | @polledItem at' target _ _ _ holds =>
    refine ⟨alive, fun _ _ same => told at' target ?_, fun none => ?_⟩
    · cases same
      exact holds
    · rw [without none] at holds
      cases holds
  | polledEnd holds _ gone =>
    refine ⟨alive, fun _ _ _ => gone, fun none => ?_⟩
    rw [without none] at holds
    cases holds
  | polledPending => exact kept
  | streamDropped => exact absurd rfl keeps

/-- The phase of `sync` does not depend on the numbers of the stream. -/
theorem forgetPhase_holds (task : SyncTask) (at' target at'' target' : Nat) (told : Bool) :
    forgetPhase task (.holds at' target told) = forgetPhase task (.holds at'' target' told) := by
  rcases task with _ | _ | _ | _ | (_ | _ | _ | _) <;> cases told <;> rfl

/-- Without a sender, and with a stream that its holder does not know to be over, `sync` waits for
the end. -/
theorem forgetPhase_ended {task : SyncTask} (gone : task.senderAlive = false)
    (stream : task.hasStream = true) (at' target : Nat) :
    forgetPhase task (.holds at' target false) = .ended ∧
      forgetPhase task (.holds at' target true) = .returned (.ok ()) := by
  cases task with
  | connecting | startUp | background | forwarding => cases gone
  | stopped stop =>
    cases stop with
    | failed => cases stream
    | idleAtStart | idle | closed => exact ⟨rfl, rfl⟩

/-- Every step of a kept subscription is a step of `sync` over it, or none. -/
theorem forget_step (kept : Kept s) (step : Step s a u) (keeps : a ≠ .dropStream) :
    u.forget = s.forget ∨ ∃ b, Syncing.next s.forget b = some u.forget := by
  cases step with
  | offline is =>
    refine .inr ⟨.checkOffline true, ?_⟩
    simp only [Syncing.next, forget, forgetPhase, is]
    rfl
  | online is =>
    refine .inr ⟨.checkOffline false, ?_⟩
    simp only [Syncing.next, forget, forgetPhase, is]
    rfl
  | @startUpFound window reply progress channel is found sent =>
    refine .inr ⟨.query reply.query, ?_⟩
    have accepted : (s.channel.map forgetItem).trySend (.ok progress) =
        .ok (channel.map forgetItem) := Queue.trySend_map forgetItem sent
    have buffer := (Queue.trySend_ok sent).1
    simp only [Syncing.next, forget, forgetPhase, is, found, accepted, buffer]
    simp [finalWindow, forgetItem, Except.map]
  | @startUpAgain window reply error is again =>
    refine .inr ⟨.query reply.query, ?_⟩
    simp only [Syncing.next, forget, forgetPhase, is, again]
    rfl
  | @foundProgress window reply progress is found =>
    refine .inr ⟨.query reply.query, ?_⟩
    simp only [Syncing.next, forget, forgetPhase, is, found]
    rfl
  | @foundError window reply error is found =>
    refine .inr ⟨.query reply.query, ?_⟩
    simp only [Syncing.next, forget, forgetPhase, is, found]
    rfl
  | @backgroundAgain window reply is again =>
    refine .inr ⟨.query reply.query, ?_⟩
    simp only [Syncing.next, forget, forgetPhase, is, again]
    rfl
  | connectingOver is =>
    refine .inr ⟨.windowOver, ?_⟩
    simp only [Syncing.next, forget, forgetPhase, is]
    rfl
  | startUpFailed is last =>
    refine .inr ⟨.windowOver, ?_⟩
    simp only [Syncing.next, forget, forgetPhase, is, last]
    rfl
  | startUpIdle is last =>
    refine .inr ⟨.windowOver, ?_⟩
    simp only [Syncing.next, forget, forgetPhase, is, last]
    rfl
  | backgroundIdle is last =>
    refine .inr ⟨.windowOver, ?_⟩
    have untold : ∀ at' target, s.subscriber ≠ .holds at' target true := fun at' target told => by
      have gone := kept.told at' target told
      rw [is] at gone
      cases gone
    simp only [Syncing.next, forget, forgetPhase, is, last]
    rfl
  | @sent item channel is sent =>
    refine .inr ⟨.send, ?_⟩
    have accepted := Queue.trySend_map forgetItem sent
    have buffer := (Queue.trySend_ok sent).1
    simp only [Syncing.next, forget, forgetPhase, is, accepted, buffer]
    simp [finalWindow]
  | sendClosed is refused =>
    have dead := Queue.dead_of_closed refused
    rw [kept.alive] at dead
    cases dead
  | @polledItem at' target told item items holds waiting =>
    refine .inr ⟨.receive, ?_⟩
    have waiting' :
        (s.channel.map forgetItem).buffer = forgetItem item :: items.map forgetItem := by
      simp [Queue.map, waiting]
    have rest : s.channel.pop.buffer = items := congrArg List.tail waiting
    have phase := forgetPhase_holds s.task at' target (numbers at' target item).1
      (numbers at' target item).2 told
    simp only [Syncing.next, forget, waiting', Queue.map_pop, rest, waiting, holds, phase]
    simp
  | @polledEnd at' target told holds empty gone =>
    cases told with
    | true => exact .inl (by simp only [forget, holds])
    | false =>
      refine .inr ⟨.streamOver, ?_⟩
      have stream : s.task.hasStream = true := by
        by_contra none
        rw [kept.without (Bool.eq_false_iff.mpr none)] at holds
        cases holds
      obtain ⟨before, after⟩ := forgetPhase_ended gone stream at' target
      have empty' : (s.channel.map forgetItem).buffer = [] := by simp [Queue.map, empty]
      simp only [Syncing.next, forget, holds, before, after, empty']
  | polledPending => exact .inl rfl
  | streamDropped => exact absurd rfl keeps

/-- A subscription that is kept to its end is one under `sync`, whatever the best numbers are. -/
theorem run_forget (run : system.RunIf (fun _ _ a => a ≠ .dropStream) {} as s) :
    ∃ bs, Syncing.system.Run {} bs s.forget := by
  have both := run.invariant (I := fun _ s => Kept s ∧ ∃ bs, Syncing.system.Run {} bs s.forget)
    ⟨⟨rfl, nofun, fun _ => rfl⟩, [], .start⟩ ?_
  · exact both.2
  rintro _ t a u ⟨kept, bs, before⟩ keeps hnext
  have step := step_of_next hnext
  refine ⟨kept.step step keeps, ?_⟩
  rcases forget_step kept step keeps with same | ⟨b, next⟩
  · exact ⟨bs, same ▸ before⟩
  · exact ⟨bs ++ [b], before.next next⟩

end Subscription

end SubspaceSdk
