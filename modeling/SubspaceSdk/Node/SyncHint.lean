import SubspaceSdk.Node.SyncReports

/-! The size hint of the syncing-progress stream.  It gives two block numbers of the last progress
as bounds on the number of items, which has nothing to do with them: while the inner stream is fed,
any number of items may follow. -/

namespace SubspaceSdk

open ProofKit

namespace SyncingProgressStream

/-- `size_hint`. -/
def sizeHint {S : Type} (this : SyncingProgressStream S) : Nat × Option Nat :=
  (this.at', some this.target)

end SyncingProgressStream

/-! ### Over any inner stream -/

/-- An inner stream: the items that it is yet to give, and whether no others will come. -/
structure Feed where
  waiting : List SyncingItem := []
  isOver : Bool := false
  deriving DecidableEq

def Feed.poll (feed : Feed) : StreamPoll SyncingItem × Feed :=
  match feed.waiting with
  | item :: rest => (.ready item, { feed with waiting := rest })
  | [] => (if feed.isOver then .ended else .pending, feed)

/-- The wrapper over a feed, and what was taken from it. -/
structure Consumption where
  stream : SyncingProgressStream Feed
  received : List SyncingItem := []
  deriving DecidableEq

namespace Consumption

inductive Action where
  | feed (item : SyncingItem)
  | close
  | poll
  deriving DecidableEq

/-- The wrapper as it is built, with numbers of the builder's choice. -/
def start (at' target : Nat) : Consumption where
  stream := ⟨{}, at', target⟩

def next (s : Consumption) : Action → Option Consumption
  | .feed item =>
    let inner := s.stream.inner
    if inner.isOver then none
    else some { s with stream := { s.stream with
      inner := { inner with waiting := inner.waiting ++ [item] } } }
  | .close => some { s with stream := { s.stream with
      inner := { s.stream.inner with isOver := true } } }
  | .poll =>
    match s.stream.pollNext Feed.poll with
    | (.ready item, stream) => some { stream := stream, received := s.received ++ [item] }
    | (_, stream) => some { s with stream := stream }

def system : System Consumption Action := ⟨next⟩

variable {s t : Consumption} {as : List Action}

/-- The inner stream gave all its items. -/
def Ended (s : Consumption) : Prop := s.stream.inner.isOver = true ∧ s.stream.inner.waiting = []

/-- The hint's bounds are in order, and hold of the items still to come. -/
def HintValid (s : Consumption) : Prop :=
  (∀ upper ∈ s.stream.sizeHint.2, s.stream.sizeHint.1 ≤ upper) ∧
    system.Bounds Ended (fun t => t.received.length) s s.stream.sizeHint

/-- The numbers of the last progress among the items. -/
def lastNumbers (at' target : Nat) (items : List SyncingItem) : Nat × Nat :=
  items.foldl (fun last item => Subscription.numbers last.1 last.2 item) (at', target)

theorem next_poll_cons {item : SyncingItem} {rest : List SyncingItem}
    (waiting : s.stream.inner.waiting = item :: rest) :
    next s .poll = some {
      stream := ⟨{ s.stream.inner with waiting := rest },
        (Subscription.numbers s.stream.at' s.stream.target item).1,
        (Subscription.numbers s.stream.at' s.stream.target item).2⟩
      received := s.received ++ [item] } := by
  cases item <;>
    simp [next, SyncingProgressStream.pollNext, Feed.poll, waiting, Subscription.numbers]

theorem next_poll_nil (waiting : s.stream.inner.waiting = []) : next s .poll = some s := by
  cases isOver : s.stream.inner.isOver <;>
    simp [next, SyncingProgressStream.pollNext, Feed.poll, waiting, isOver]

/-- All that a step can do. -/
inductive Step (s : Consumption) : Action → Consumption → Prop
  | fed (item : SyncingItem) (isOpen : s.stream.inner.isOver = false) :
      Step s (.feed item) { s with stream := { s.stream with
        inner := { s.stream.inner with waiting := s.stream.inner.waiting ++ [item] } } }
  | closed : Step s .close { s with stream := { s.stream with
      inner := { s.stream.inner with isOver := true } } }
  | taken {item : SyncingItem} {rest : List SyncingItem}
      (waiting : s.stream.inner.waiting = item :: rest) :
      Step s .poll {
        stream := ⟨{ s.stream.inner with waiting := rest },
          (Subscription.numbers s.stream.at' s.stream.target item).1,
          (Subscription.numbers s.stream.at' s.stream.target item).2⟩
        received := s.received ++ [item] }
  | nothing : Step s .poll s

theorem step_of_next {a : Action} (h : next s a = some t) : Step s a t := by
  cases a with
  | feed item =>
    simp only [next] at h
    split at h
    · cases h
    · next isOpen =>
      cases h
      exact .fed item (Bool.eq_false_iff.mpr isOpen)
  | close =>
    cases h
    exact .closed
  | poll =>
    cases waiting : s.stream.inner.waiting with
    | nil =>
      rw [next_poll_nil waiting] at h
      cases h
      exact .nothing
    | cons item rest =>
      rw [next_poll_cons waiting] at h
      cases h
      exact .taken waiting

/-- The numbers of the stream are those of the last progress that it gave. -/
theorem run_numbers {at' target : Nat} (run : system.Run (start at' target) as s) :
    (s.stream.at', s.stream.target) = lastNumbers at' target s.received := by
  refine run.invariant (I := fun _ s =>
    (s.stream.at', s.stream.target) = lastNumbers at' target s.received) rfl ?_
  intro _ t a u numbers _ hnext
  cases step_of_next hnext with
  | fed | closed | nothing => exact numbers
  | taken =>
    rw [lastNumbers, List.foldl_append] at *
    rw [← numbers]
    rfl

/-- After the end of the inner stream no item is added. -/
theorem run_over (run : system.Run s as t) (isOver : s.stream.inner.isOver = true) :
    t.received.length + t.stream.inner.waiting.length =
      s.received.length + s.stream.inner.waiting.length := by
  have both := run.invariant (I := fun _ t => t.stream.inner.isOver = true ∧
    t.received.length + t.stream.inner.waiting.length =
      s.received.length + s.stream.inner.waiting.length) ⟨isOver, rfl⟩ ?_
  · exact both.2
  rintro _ t a u ⟨isOver, same⟩ _ hnext
  cases step_of_next hnext with
  | fed _ isOpen =>
    rw [isOver] at isOpen
    cases isOpen
  | closed => exact ⟨rfl, same⟩
  | nothing => exact ⟨isOver, same⟩
  | taken waiting =>
    refine ⟨isOver, ?_⟩
    simp only [waiting, List.length_append, List.length_cons, List.length_nil] at same ⊢
    omega

theorem run_taken (s : Consumption) : ∃ as t, system.Run s as t ∧
    t.stream.inner = { s.stream.inner with waiting := [] } ∧
    t.received = s.received ++ s.stream.inner.waiting := by
  induction waiting : s.stream.inner.waiting generalizing s with
  | nil => exact ⟨[], s, .start, by rw [← waiting], (List.append_nil _).symm⟩
  | cons item rest ih =>
    obtain ⟨after, step, inner, received⟩ : ∃ after, system.next s .poll = some after ∧
        after.stream.inner = { s.stream.inner with waiting := rest } ∧
        after.received = s.received ++ [item] := ⟨_, next_poll_cons waiting, rfl, rfl⟩
    obtain ⟨as, t, run, inner', received'⟩ := ih after (by rw [inner])
    refine ⟨.poll :: as, t, .cons step run, ?_, ?_⟩
    · rw [inner', inner]
    · rw [received', received, List.append_assoc]
      rfl

/-- An inner stream that is not over may be fed any number of items. -/
theorem run_fed (isOpen : s.stream.inner.isOver = false) (n : Nat) : ∃ as t, system.Run s as t ∧
    t.stream.inner.isOver = false ∧ t.received = s.received ∧
    t.stream.inner.waiting.length = s.stream.inner.waiting.length + n := by
  induction n with
  | zero => exact ⟨[], s, .start, isOpen, rfl, rfl⟩
  | succ n ih =>
    obtain ⟨as, t, run, isOpen, received, length⟩ := ih
    let item : SyncingItem := .error "Failed to fetch networking status"
    have step : system.next t (.feed item) = some { t with stream := { t.stream with
        inner := { t.stream.inner with waiting := t.stream.inner.waiting ++ [item] } } } := by
      simp [system, next, isOpen]
    refine ⟨_, _, run.next step, isOpen, received, ?_⟩
    simp only [List.length_append, List.length_singleton]
    omega

/-- A hint is right exactly where the inner stream is over, and the numbers happen to be around the
number of the items that wait in it. -/
theorem hintValid_iff (s : Consumption) : s.HintValid ↔ s.stream.inner.isOver = true ∧
    s.stream.at' ≤ s.stream.inner.waiting.length ∧
    s.stream.inner.waiting.length ≤ s.stream.target := by
  cases isOver : s.stream.inner.isOver with
  | false =>
    refine ⟨fun valid => absurd valid.2 (System.not_bounds_of_unbounded fun n => ?_), nofun⟩
    obtain ⟨as, t, run, -, received, length⟩ := run_fed isOver n
    let closed : Consumption := { t with stream := { t.stream with
      inner := { t.stream.inner with isOver := true } } }
    have step : system.next t .close = some closed := rfl
    obtain ⟨bs, u, run', inner, received'⟩ := run_taken closed
    refine ⟨_, u, (run.next step).append run', ?_, ?_⟩
    · exact ⟨by rw [inner], by rw [inner]⟩
    · rw [received', List.length_append]
      show _ ≤ t.received.length + t.stream.inner.waiting.length
      rw [received, length]
      omega
  | true =>
    have exact : ∀ as t, system.Run s as t → t.Ended →
        t.received.length - s.received.length = s.stream.inner.waiting.length := by
      rintro as t run ⟨-, none⟩
      have same := run_over run isOver
      rw [none, List.length_nil] at same
      omega
    obtain ⟨as, t, run, inner, -⟩ := run_taken s
    have ends : ∃ as t, system.Run s as t ∧ t.Ended :=
      ⟨as, t, run, by rw [inner]; exact isOver, by rw [inner]⟩
    rw [HintValid, System.bounds_iff_of_exact exact ends]
    simp only [SyncingProgressStream.sizeHint, Option.mem_def, Option.some.injEq, forall_eq',
      true_and]
    omega

end Consumption

/-! ### Over the stream of a subscription -/

namespace Subscription

variable {s t u : Subscription} {a : Action} {as : List Action}

/-- The hint of the stream that the subscriber holds. -/
def sizeHint (s : Subscription) : Option (Nat × Option Nat) :=
  match s.subscriber with
  | .holds at' target _ => some (SyncingProgressStream.sizeHint ⟨s.channel, at', target⟩)
  | .waiting | .dropped => none

/-- The stream gave all its items to the subscriber. -/
def Ended (s : Subscription) : Prop :=
  s.task.senderAlive = false ∧ s.channel.buffer = [] ∧ s.subscriber ≠ .dropped

/-- The hint's bounds are in order, and hold of the items still to come. -/
def HintValid (s : Subscription) : Prop :=
  ∀ hint ∈ s.sizeHint, (∀ upper ∈ hint.2, hint.1 ≤ upper) ∧
    system.Bounds Ended (fun t => t.received.length) s hint

/-- The loop asks the service, and the subscriber took all there was. -/
structure Asking (s : Subscription) : Prop where
  background : ∃ window, s.task = .background window
  empty : s.channel.buffer = []
  alive : s.channel.receiverAlive = true
  holds : ∃ at' target told, s.subscriber = .holds at' target told

/-- An item in the hands of the loop may reach the subscriber. -/
theorem run_sent {item : SyncingItem} (is : s.task = .forwarding item)
    (empty : s.channel.buffer = []) (alive : s.channel.receiverAlive = true)
    {at' target : Nat} {told : Bool} (holds : s.subscriber = .holds at' target told) :
    ∃ as t, system.Run s as t ∧ Asking t ∧ t.received = s.received ++ [item] := by
  obtain ⟨channel, sent⟩ := Queue.trySend_of_room item alive (by rw [empty]; decide)
  have ⟨buffer, alive', _⟩ := Queue.trySend_ok sent
  let sending : Subscription := { s with task := .background [], channel := channel }
  have step : system.next s .send = some sending := by
    simp only [system, next, is, sent, sending]
  obtain ⟨as, t, -, run, received, none, alive'', task, at'', target', holds'⟩ :=
    run_polled (s := sending) holds
  refine ⟨.send :: as, t, .cons step run, ⟨⟨[], task⟩, none, ?_, at'', target', told, holds'⟩, ?_⟩
  · exact alive''.trans (alive'.trans alive)
  · rw [received]
    show s.received ++ channel.buffer = _
    rw [buffer, empty]
    rfl

theorem run_to_asking (sender : s.task.senderAlive = true) (begun : s.task.begun = true)
    (alive : s.channel.receiverAlive = true) {at' target : Nat} {told : Bool}
    (holds : s.subscriber = .holds at' target told) :
    ∃ as t, system.Run s as t ∧ Asking t ∧ s.received.length ≤ t.received.length := by
  obtain ⟨as, t, -, run, received, empty, alive', task, at'', target', holds'⟩ := run_polled holds
  have more : s.received.length ≤ t.received.length := by
    rw [received, List.length_append]
    omega
  cases is : s.task with
  | connecting | startUp =>
    rw [is] at begun
    cases begun
  | stopped =>
    rw [is] at sender
    cases sender
  | background window =>
    refine ⟨as, t, run, ⟨⟨window, task.trans is⟩, empty, alive'.trans alive, ?_⟩, more⟩
    exact ⟨at'', target', told, holds'⟩
  | forwarding item =>
    obtain ⟨bs, u, run', asking, received'⟩ :=
      run_sent (task.trans is) empty (alive'.trans alive) holds'
    refine ⟨as ++ bs, u, run.append run', asking, ?_⟩
    rw [received', List.length_append]
    omega

/-- Any number of replies may each bring an item. -/
theorem run_asked (asking : Asking s) (n : Nat) : ∃ as t, system.Run s as t ∧ Asking t ∧
    t.received.length = s.received.length + n := by
  induction n with
  | zero => exact ⟨[], s, .start, asking, rfl⟩
  | succ n ih =>
    obtain ⟨as, t, run, ⟨⟨window, is⟩, empty, alive, at', target, told, holds⟩, length⟩ := ih
    let item : SyncingItem := .error "Failed to fetch networking status"
    let forwarding : Subscription := { t with task := .forwarding item }
    have step : system.next t (.reply ⟨⟨.error (), false⟩, 0⟩) = some forwarding := by
      simp only [system, next, is]
      rfl
    obtain ⟨bs, u, run', asking, received⟩ := run_sent (s := forwarding) rfl empty alive holds
    refine ⟨_, u, (run.next step).append run', asking, ?_⟩
    rw [received, List.length_append]
    show t.received.length + 1 = _
    omega

/-- And one idle reply may be the last. -/
theorem run_ended (asking : Asking s) : ∃ as t, system.Run s as t ∧ Ended t ∧
    t.received = s.received := by
  obtain ⟨⟨window, is⟩, empty, alive, at', target, told, holds⟩ := asking
  let idle : Query := ⟨.ok .idle, false⟩
  let after : Subscription := { s with task := .background (window ++ [idle]) }
  have first : system.next s (.reply ⟨idle, 0⟩) = some after := by
    simp only [system, next, is]
    rfl
  have second : system.next after .windowOver =
      some { after with task := .stopped (.idle (window ++ [idle])) } := by
    simp only [system, next, after,
      lastError_append window (show backgroundQuery idle = _ from rfl)]
  refine ⟨_, _, (System.Run.next .start first).next second, ⟨rfl, empty, ?_⟩, rfl⟩
  show s.subscriber ≠ .dropped
  rw [holds]
  exact Subscriber.noConfusion

theorem not_hintValid_of_sender (sender : s.task.senderAlive = true) (begun : s.task.begun = true)
    (alive : s.channel.receiverAlive = true) {at' target : Nat} {told : Bool}
    (holds : s.subscriber = .holds at' target told) : ¬HintValid s := by
  intro valid
  have bounds := (valid (at', some target) (by rw [sizeHint, holds]; rfl)).2
  refine System.not_bounds_of_unbounded (fun n => ?_) bounds
  obtain ⟨as, t, run, asking, more⟩ := run_to_asking sender begun alive holds
  obtain ⟨bs, u, run', asking', length⟩ := run_asked asking n
  obtain ⟨cs, v, run'', ended, received⟩ := run_ended asking'
  refine ⟨_, v, (run.append run').append run'', ended, ?_⟩
  rw [received]
  omega

/-- Without a sender, what is still to come waits in the channel. -/
theorem run_stopped (run : system.Run s as t) (gone : s.task.senderAlive = false) :
    t.task.senderAlive = false ∧ (t.subscriber = .dropped ∨
      t.received.length + t.channel.buffer.length =
        s.received.length + s.channel.buffer.length) := by
  refine run.invariant (I := fun _ t => t.task.senderAlive = false ∧ (t.subscriber = .dropped ∨
    t.received.length + t.channel.buffer.length =
      s.received.length + s.channel.buffer.length)) ⟨gone, .inr rfl⟩ ?_
  rintro _ t a u ⟨gone, same⟩ _ hnext
  cases step_of_next hnext with
  | offline is | online is | startUpFound is | startUpAgain is | foundProgress is | foundError is
  | backgroundAgain is | connectingOver is | startUpFailed is | startUpIdle is | backgroundIdle is
  | sent is | sendClosed is =>
    rw [is] at gone
    cases gone
  | polledItem holds waiting =>
    refine ⟨gone, .inr ?_⟩
    rw [holds] at same
    have same := same.resolve_left nofun
    rw [waiting, List.length_cons] at same
    simp only [Queue.pop, waiting, List.tail_cons, List.length_append, List.length_singleton]
    omega
  | polledEnd holds =>
    rw [holds] at same
    exact ⟨gone, .inr (same.resolve_left nofun)⟩
  | polledPending => exact ⟨gone, same⟩
  | streamDropped => exact ⟨gone, .inl rfl⟩

/-- The hint of a held stream is right exactly where its sender is gone, and its numbers happen to
be around the number of the items that wait in the channel. -/
theorem hintValid_iff (run : system.Run {} as s) {at' target : Nat} {told : Bool}
    (holds : s.subscriber = .holds at' target told) :
    HintValid s ↔ s.task.senderAlive = false ∧ at' ≤ s.channel.buffer.length ∧
      s.channel.buffer.length ≤ target := by
  have delivered := run_delivered run
  have alive := delivered.alive_of_holds holds
  cases sender : s.task.senderAlive with
  | true =>
    have begun := delivered.begun_of_sender holds sender
    exact ⟨fun valid => absurd valid (not_hintValid_of_sender sender begun alive holds), nofun⟩
  | false =>
    have exact : ∀ bs t, system.Run s bs t → Ended t →
        t.received.length - s.received.length = s.channel.buffer.length := by
      rintro bs t run' ⟨-, empty, kept⟩
      have same := (run_stopped run' sender).2.resolve_left kept
      rw [empty, List.length_nil] at same
      omega
    obtain ⟨bs, t, -, run', -, empty, -, task, at'', target', holds'⟩ := run_polled holds
    have ends : ∃ bs t, system.Run s bs t ∧ Ended t :=
      ⟨bs, t, run', by rw [task]; exact sender, empty, by rw [holds']; nofun⟩
    have hint : s.sizeHint = some (at', some target) := by
      rw [sizeHint, holds]
      rfl
    simp only [HintValid, hint, Option.mem_def, Option.some.injEq, forall_eq',
      System.bounds_iff_of_exact exact ends, true_and]
    omega

/-- The step leads to a state in which the hint is valid. -/
def KeepsHint (_ : List Action) (s : Subscription) (a : Action) : Prop :=
  ∀ u, next s a = some u → HintValid u

/-- The start-up gets no reply that is a progress. -/
def FindsNothing (_ : List Action) (s : Subscription) (a : Action) : Prop :=
  ∀ window reply, s.task = .startUp window → a = .reply reply →
    ∀ progress, reply.item ≠ some (.ok progress)

/-- Nothing was found, so the stream, if there is one, has the numbers that it was built with. -/
structure Unfound (s : Subscription) : Prop where
  before : s.task.begun = false
  numbers : ∀ at' target told, s.subscriber = .holds at' target told → at' = 0 ∧ target = 0

theorem Unfound.empty (unfound : Unfound s) (run : system.Run {} as s) {at' target : Nat}
    {told : Bool} (holds : s.subscriber = .holds at' target told) : s.channel.buffer = [] := by
  have delivered := run_delivered run
  exact (delivered.empty_of_not_begun unfound.before (delivered.alive_of_holds holds)).2

theorem Unfound.step (unfound : Unfound s) (run : system.Run {} as s) (ok : FindsNothing as s a)
    (step : Step s a u) : Unfound u := by
  have ⟨before, numbers⟩ := unfound
  cases step with
  | offline | online | startUpAgain | connectingOver | startUpFailed => exact ⟨rfl, numbers⟩
  | startUpFound is found => exact absurd (item_of_startUpQuery found) (ok _ _ is rfl _)
  | startUpIdle =>
    refine ⟨rfl, ?_⟩
    rintro _ _ _ ⟨⟩
    exact ⟨rfl, rfl⟩
  | foundProgress is | foundError is | backgroundAgain is | backgroundIdle is | sent is
  | sendClosed is =>
    rw [is] at before
    cases before
  | polledItem holds waiting =>
    rw [unfound.empty run holds] at waiting
    cases waiting
  | polledEnd holds =>
    refine ⟨before, ?_⟩
    rintro _ _ _ ⟨⟩
    exact numbers _ _ _ holds
  | polledPending => exact unfound
  | streamDropped => exact ⟨before, nofun⟩

theorem Unfound.hintValid (unfound : Unfound s) (run : system.Run {} as s) : HintValid s := by
  cases subscriber : s.subscriber with
  | waiting | dropped => simp [HintValid, sizeHint, subscriber]
  | holds at' target told =>
    obtain ⟨rfl, rfl⟩ := unfound.numbers _ _ _ subscriber
    have empty := unfound.empty run subscriber
    refine (hintValid_iff run subscriber).mpr
      ⟨?_, Nat.zero_le _, by rw [empty]; exact Nat.le_refl 0⟩
    have delivered := run_delivered run
    cases is : s.task with
    | stopped => rfl
    | background | forwarding =>
      have before := unfound.before
      rw [is] at before
      cases before
    | connecting | startUp =>
      rw [delivered.starting (by rw [is]; rfl)] at subscriber
      cases subscriber

theorem keepsHint_iff :
    system.RunIf KeepsHint {} as s ↔ system.RunIf FindsNothing {} as s := by
  constructor
  · intro keeps
    refine keeps.imp_of_invariant (I := fun as s => system.Run {} as s) .start ?_
    intro as t a u before keeps hnext
    refine ⟨?_, before.next hnext⟩
    rintro window reply is rfl progress item
    have step : Step t (.reply reply) u := step_of_next hnext
    cases step with
    | startUpFound _ found sent =>
      have ⟨_, same, alive⟩ := Queue.trySend_ok sent
      exact not_hintValid_of_sender rfl rfl (same.trans alive) rfl (keeps _ hnext)
    | startUpAgain _ again => exact item_of_startUpQuery_error again progress item
    | foundProgress is' | foundError is' | backgroundAgain is' =>
      rw [is] at is'
      cases is'
  · intro ok
    refine ok.imp_of_invariant (I := fun as s => system.Run {} as s ∧ Unfound s)
      ⟨.start, rfl, nofun⟩ ?_
    rintro as t a u ⟨before, unfound⟩ ok hnext
    have unfound' := unfound.step before ok (step_of_next hnext)
    refine ⟨fun u' hnext' => ?_, before.next hnext, unfound'⟩
    rw [show next t a = some u from hnext] at hnext'
    cases hnext'
    exact unfound'.hintValid (before.next hnext)

end Subscription

/-- Of a wrapped stream, a hint is right exactly where the inner stream is over and as many items
wait in it as lie between the numbers of the last progress.  Of the streams of a subscription, all
hints are right over a run exactly where its start-up finds nothing. -/
theorem sync_hints_valid_iff (at' target : Nat) (as : List Consumption.Action) (s : Consumption)
    (run : Consumption.system.Run (.start at' target) as s) :
    (s.HintValid ↔ s.stream.inner.isOver = true ∧
      (Consumption.lastNumbers at' target s.received).1 ≤ s.stream.inner.waiting.length ∧
      s.stream.inner.waiting.length ≤ (Consumption.lastNumbers at' target s.received).2) ∧
    (∀ bs (t : Subscription), Subscription.system.RunIf Subscription.KeepsHint {} bs t ↔
      Subscription.system.RunIf Subscription.FindsNothing {} bs t) := by
  refine ⟨?_, fun bs t => Subscription.keepsHint_iff⟩
  rw [← Consumption.run_numbers run]
  exact Consumption.hintValid_iff s

/-- The last item is a progress at 0 with target 1, and one more waits when the stream is over. -/
theorem sync_hints_valid_iff_one_left :
    Consumption.HintValid ⟨⟨⟨[.error "Failed to fetch networking status"], true⟩, 0, 1⟩,
      [.ok ⟨⟨1, .importing⟩, 0⟩]⟩ := by
  have run : Consumption.system.Run (.start 3 2) [.feed (.ok ⟨⟨1, .importing⟩, 0⟩),
      .feed (.error "Failed to fetch networking status"), .poll, .close]
      ⟨⟨⟨[.error "Failed to fetch networking status"], true⟩, 0, 1⟩,
        [.ok ⟨⟨1, .importing⟩, 0⟩]⟩ := System.RunIf.of_exec rfl
  exact (sync_hints_valid_iff 3 2 _ _ run).1.mpr ⟨rfl, Nat.zero_le _, Nat.le_refl _⟩

/-- A node at block 7 of 9 gets one reply, and then is idle: the hint after the one item is that
between 7 and 9 others follow. -/
theorem sync_hint_of_blocks : ¬∀ as (s : Subscription), Subscription.system.Run {} as s →
    s.HintValid := by
  intro valid
  obtain ⟨s, done, holds, stopped⟩ : ∃ s, Subscription.system.exec (fun _ _ _ => True) [] {}
      [.checkOffline false, .reply ⟨⟨.ok (.importing 9), false⟩, 7⟩, .poll,
        .reply ⟨⟨.ok .idle, false⟩, 7⟩, .windowOver] = some s ∧
      s.sizeHint = some (7, some 9) ∧ s.Ended :=
    ⟨_, rfl, rfl, rfl, rfl, nofun⟩
  have run := System.RunIf.of_exec done
  have lower := ((valid _ s run _ holds).2 [] s .start stopped).1
  omega

end SubspaceSdk
