import SubspaceSdk.Node.SyncProgress

/-! What the syncing-progress stream reports: the first progress that the start-up is told of, and
from then on one item for every reply that is not idle, whatever the speed of the subscriber. -/

namespace SubspaceSdk

open ProofKit

/-- The service has nothing to sync. -/
def Query.isIdle (query : Query) : Bool :=
  query.status = .ok .idle || query.status = .ok .pending

/-- The item for a reply, if there is to be one. -/
def Reply.item (reply : Reply) : Option SyncingItem :=
  match reply.query.status with
  | .ok .idle | .ok .pending => none
  | .ok (.importing target) => some (.ok ⟨⟨target, .importing⟩, reply.bestNumber⟩)
  | .ok (.downloading target) => some (.ok ⟨⟨target, .downloading⟩, reply.bestNumber⟩)
  | .error () => some (.error "Failed to fetch networking status")

/-- The items for all replies so far: those before the first progress have none. -/
def reports : List Reply → List SyncingItem
  | [] => []
  | reply :: replies =>
    match reply.item with
    | some (.ok progress) => .ok progress :: replies.filterMap Reply.item
    | _ => reports replies

theorem item_of_startUpQuery {reply : Reply} {progress : SyncingProgress}
    (found : startUpQuery reply.query = .ok progress) :
    reply.item = some (.ok ⟨progress, reply.bestNumber⟩) := by
  obtain ⟨⟨status, isOffline⟩, bestNumber⟩ := reply
  rcases status with _ | (_ | _ | target | target) <;> cases isOffline <;> cases found <;> rfl

theorem item_of_startUpQuery_error {reply : Reply} {error : Option String}
    (again : startUpQuery reply.query = .error error) (progress : SyncingProgressAt) :
    reply.item ≠ some (.ok progress) := by
  obtain ⟨⟨status, isOffline⟩, bestNumber⟩ := reply
  rcases status with _ | (_ | _ | target | target) <;> cases isOffline <;> cases again <;>
    simp [Reply.item]

/-- The background loop sends the item of each reply. -/
theorem item_eq (reply : Reply) : reply.item =
    match backgroundQuery reply.query with
    | .ok (.ok progress) => some (.ok ⟨progress, reply.bestNumber⟩)
    | .ok (.error error) => some (.error error)
    | .error () => none := by
  obtain ⟨⟨status, isOffline⟩, bestNumber⟩ := reply
  rcases status with _ | (_ | _ | target | target) <;> rfl

theorem backgroundQuery_eq_error {reply : Reply} :
    backgroundQuery reply.query = .error () ↔ reply.query.isIdle = true := by
  obtain ⟨⟨status, isOffline⟩, bestNumber⟩ := reply
  rcases status with _ | (_ | _ | target | target) <;> simp [backgroundQuery, Query.isIdle]

/-! ### The reports of one more reply -/

theorem reports_append_first {replies : List Reply} {reply : Reply} {progress : SyncingProgressAt}
    (none : reports replies = []) (found : reply.item = some (.ok progress)) :
    reports (replies ++ [reply]) = [.ok progress] := by
  fun_induction reports replies with
  | case1 => simp [reports, found]
  | case2 => cases none
  | case3 first rest other ih =>
    rw [List.cons_append, reports]
    split
    · next here => exact absurd here (other _)
    · exact ih none

theorem reports_append_none {replies : List Reply} {reply : Reply} (none : reports replies = [])
    (other : ∀ progress, reply.item ≠ some (.ok progress)) :
    reports (replies ++ [reply]) = [] := by
  fun_induction reports replies with
  | case1 =>
    rw [List.nil_append, reports]
    split
    · next here => exact absurd here (other _)
    · rfl
  | case2 => cases none
  | case3 first rest other' ih =>
    rw [List.cons_append, reports]
    split
    · next here => exact absurd here (other' _)
    · exact ih none

theorem reports_append_later {replies : List Reply} (some : reports replies ≠ []) (reply : Reply) :
    reports (replies ++ [reply]) = reports replies ++ reply.item.toList := by
  fun_induction reports replies with
  | case1 => exact absurd rfl some
  | case2 first rest progress here =>
    have last : [reply].filterMap Reply.item = reply.item.toList := by
      cases same : reply.item <;> simp [same]
    rw [List.cons_append, reports, here]
    simp only [List.filterMap_append, last, List.cons_append]
  | case3 first rest other ih =>
    rw [List.cons_append, reports]
    split
    · next here => exact absurd here (other _)
    · exact ih some

/-! ### Where the items are -/

/-- The item that waits for room in the channel. -/
def SyncTask.pending : SyncTask → List SyncingItem
  | .forwarding item => [item]
  | _ => []

/-- The start-up found a progress. -/
def SyncTask.begun : SyncTask → Bool
  | .background _ | .forwarding _ | .stopped (.idle _) | .stopped .closed => true
  | .connecting _ | .startUp _ | .stopped (.failed _ _) | .stopped (.idleAtStart _) => false

/-- The stream was not returned yet. -/
def SyncTask.starting : SyncTask → Bool
  | .connecting _ | .startUp _ => true
  | _ => false

/-- The queries of the background loop since its last item. -/
def SyncTask.window? : SyncTask → Option (List Query)
  | .background window | .stopped (.idle window) => some window
  | .forwarding _ => some []
  | .connecting _ | .startUp _ | .stopped _ => none

/-- A window of idle queries that holds all replies since the last item. -/
structure IdleSinceItem (seen : List Reply) (window : List Query) : Prop where
  whole : ∃ earlier reply later, seen = earlier ++ [reply] ++ later ∧ reply.item.isSome = true ∧
    later.map Reply.query = window
  idle : ∀ query ∈ window, query.isIdle = true

theorem IdleSinceItem.of_item (seen : List Reply) {reply : Reply} {item : SyncingItem}
    (found : reply.item = some item) : IdleSinceItem (seen ++ [reply]) [] := by
  refine ⟨⟨seen, reply, [], ?_, by rw [found]; rfl, rfl⟩, nofun⟩
  rw [List.append_nil]

theorem IdleSinceItem.append {seen : List Reply} {window : List Query}
    (since : IdleSinceItem seen window) {reply : Reply} (idle : reply.query.isIdle = true) :
    IdleSinceItem (seen ++ [reply]) (window ++ [reply.query]) := by
  obtain ⟨⟨earlier, first, later, rfl, found, rfl⟩, idle'⟩ := since
  refine ⟨⟨earlier, first, later ++ [reply], by simp, found, by simp⟩, ?_⟩
  exact List.forall_mem_append.mpr ⟨idle', List.forall_mem_singleton.mpr idle⟩

namespace Subscription

variable {s t u : Subscription} {a : Action} {as : List Action} {seen : List Reply}

def Action.reply? : Action → Option Reply
  | .reply given => some given
  | _ => none

/-- The replies of a run. -/
def replies (as : List Action) : List Reply := as.filterMap Action.reply?

theorem replies_append (as : List Action) (a : Action) :
    replies (as ++ [a]) = replies as ++ a.reply?.toList := by
  have last : [a].filterMap Action.reply? = a.reply?.toList := by
    cases same : a.reply? <;> simp [same]
  rw [replies, List.filterMap_append, last]
  rfl

/-- All items that are due are where they belong: with the subscriber, in the channel, or in the
hands of the loop. -/
structure Delivered (items : List SyncingItem) (s : Subscription) : Prop where
  begun : s.task.begun = true ↔ items ≠ []
  starting : s.task.starting = true → s.subscriber = .waiting
  waiting : s.subscriber = .waiting → s.task.begun = false
  dropped : s.channel.receiverAlive = false ↔ s.subscriber = .dropped
  inOrder : s.channel.receiverAlive = true →
    s.received ++ s.channel.buffer ++ s.task.pending = items
  noInvention : s.received <+: items

namespace Delivered

variable {items : List SyncingItem}

theorem start : Delivered [] {} := by
  refine ⟨?_, fun _ => rfl, fun _ => rfl, ?_, fun _ => rfl, List.nil_prefix⟩
  · simp [SyncTask.begun]
  · simp [emptyChannel, Queue.empty]

theorem nil_of_not_begun (delivered : Delivered items s) (before : s.task.begun = false) :
    items = [] := by
  by_contra some
  rw [delivered.begun.mpr some] at before
  cases before

/-- Before the first item there is nothing to take. -/
theorem empty_of_not_begun (delivered : Delivered items s) (before : s.task.begun = false)
    (alive : s.channel.receiverAlive = true) : s.received = [] ∧ s.channel.buffer = [] := by
  have all := delivered.inOrder alive
  rw [delivered.nil_of_not_begun before, List.append_eq_nil_iff, List.append_eq_nil_iff] at all
  exact all.1

/-- A loop that had a first progress does not fail. -/
theorem stop_cases (delivered : Delivered items s) (found : items ≠ []) {stop : SyncStop}
    (is : s.task = .stopped stop) : (∃ window, stop = .idle window) ∨ stop = .closed := by
  have begun := delivered.begun.mpr found
  rw [is] at begun
  cases stop with
  | idle window => exact .inl ⟨window, rfl⟩
  | closed => exact .inr rfl
  | failed | idleAtStart => cases begun

theorem alive_of_kept (delivered : Delivered items s) (kept : s.subscriber ≠ .dropped) :
    s.channel.receiverAlive = true := by
  by_contra dead
  exact kept (delivered.dropped.mp (Bool.eq_false_iff.mpr dead))

theorem alive_of_starting (delivered : Delivered items s) (starting : s.task.starting = true) :
    s.channel.receiverAlive = true := by
  apply delivered.alive_of_kept
  rw [delivered.starting starting]
  exact Subscriber.noConfusion

theorem alive_of_holds (delivered : Delivered items s) {at' target : Nat} {told : Bool}
    (holds : s.subscriber = .holds at' target told) : s.channel.receiverAlive = true := by
  apply delivered.alive_of_kept
  rw [holds]
  exact Subscriber.noConfusion

/-- The task still has the sender of a stream that somebody holds only after a first item. -/
theorem begun_of_sender (delivered : Delivered items s) {at' target : Nat} {told : Bool}
    (holds : s.subscriber = .holds at' target told) (sender : s.task.senderAlive = true) :
    s.task.begun = true := by
  cases is : s.task with
  | background | forwarding => rfl
  | stopped =>
    rw [is] at sender
    cases sender
  | connecting | startUp =>
    rw [delivered.starting (by rw [is]; rfl)] at holds
    cases holds

/-- Only the task moved on, with the same item in its hands. -/
theorem task (delivered : Delivered items s) {task : SyncTask} (begun : task.begun = s.task.begun)
    (starting : task.starting = true → s.task.starting = true)
    (pending : task.pending = s.task.pending) : Delivered items { s with task := task } := by
  constructor
  · exact begun ▸ delivered.begun
  · exact fun h => delivered.starting (starting h)
  · exact fun h => begun.trans (delivered.waiting h)
  · exact delivered.dropped
  · exact pending ▸ delivered.inOrder
  · exact delivered.noInvention

/-- The start-up found the first item. -/
theorem first (delivered : Delivered items s) (starting : s.task.starting = true)
    {item : SyncingItem} {channel : Queue SyncingItem 10}
    (sent : s.channel.trySend item = .ok channel)
    (at' target : Nat) : Delivered [item] { s with
      task := .background [], channel := channel, subscriber := .holds at' target false } := by
  have before : s.task.begun = false := delivered.waiting (delivered.starting starting)
  have ⟨buffer, same, alive⟩ := Queue.trySend_ok sent
  have ⟨received, empty⟩ := delivered.empty_of_not_begun before alive
  constructor
  · simp [SyncTask.begun]
  · nofun
  · nofun
  · simp [same, alive]
  · simp [buffer, received, empty, SyncTask.pending]
  · simp [received]

/-- The loop has one more item in its hands. -/
theorem forward (delivered : Delivered items s) {window : List Query}
    (is : s.task = .background window) (item : SyncingItem) :
    Delivered (items ++ [item]) { s with task := .forwarding item } := by
  have begun : s.task.begun = true := by rw [is]; rfl
  constructor
  · simp [SyncTask.begun]
  · nofun
  · intro waiting
    rw [delivered.waiting waiting] at begun
    cases begun
  · exact delivered.dropped
  · intro alive
    have here := delivered.inOrder alive
    rw [is] at here
    rw [← here]
    simp [SyncTask.pending]
  · exact delivered.noInvention.trans (List.prefix_append _ _)

theorem sent (delivered : Delivered items s) {item : SyncingItem} {channel : Queue SyncingItem 10}
    (is : s.task = .forwarding item) (sent : s.channel.trySend item = .ok channel) :
    Delivered items { s with task := .background [], channel := channel } := by
  have ⟨buffer, same, alive⟩ := Queue.trySend_ok sent
  constructor
  · have begun := delivered.begun
    rw [is] at begun
    exact begun
  · nofun
  · intro waiting
    have begun := delivered.waiting waiting
    rw [is] at begun
    cases begun
  · rw [same]
    exact delivered.dropped
  · intro _
    have here := delivered.inOrder alive
    rw [is] at here
    rw [← here, buffer]
    simp [SyncTask.pending]
  · exact delivered.noInvention

theorem closed (delivered : Delivered items s) {item : SyncingItem} (is : s.task = .forwarding item)
    (dead : s.channel.receiverAlive = false) :
    Delivered items { s with task := .stopped .closed } := by
  obtain ⟨begun, -, waiting, dropped, -, noInvention⟩ := delivered
  rw [is] at begun waiting
  exact ⟨begun, nofun, waiting, dropped, fun alive => by simp [dead] at alive, noInvention⟩

theorem polled (delivered : Delivered items s) {at' target : Nat} {told told' : Bool}
    {item : SyncingItem} {rest : List SyncingItem} (holds : s.subscriber = .holds at' target told)
    (waiting : s.channel.buffer = item :: rest) (at'' target' : Nat) : Delivered items { s with
      channel := s.channel.pop
      subscriber := .holds at'' target' told'
      received := s.received ++ [item] } := by
  have alive := delivered.alive_of_holds holds
  have here := delivered.inOrder alive
  rw [waiting] at here
  have here' : s.received ++ [item] ++ rest ++ s.task.pending = items := by
    rw [← here]
    simp
  have pop : s.channel.pop.buffer = rest := congrArg List.tail waiting
  constructor
  · exact delivered.begun
  · intro starting
    have waits := delivered.starting starting
    rw [holds] at waits
    cases waits
  · nofun
  · simp [Queue.pop, alive]
  · intro _
    rw [pop]
    exact here'
  · rw [← here', List.append_assoc]
    exact List.prefix_append _ _

/-- Without an item given or taken, the subscriber may come to know that there is none. -/
theorem told (delivered : Delivered items s) {at' target at'' target' : Nat} {told told' : Bool}
    (holds : s.subscriber = .holds at' target told) :
    Delivered items { s with subscriber := .holds at'' target' told' } := by
  obtain ⟨begun, starting, -, dropped, inOrder, noInvention⟩ := delivered
  rw [holds] at starting dropped
  exact ⟨begun, fun h => (nomatch starting h), nofun, by simpa using dropped, inOrder, noInvention⟩

theorem streamDropped (delivered : Delivered items s) {at' target : Nat} {told : Bool}
    (holds : s.subscriber = .holds at' target told) :
    Delivered items { s with channel := s.channel.dropReceiver, subscriber := .dropped } := by
  obtain ⟨begun, starting, -, -, -, noInvention⟩ := delivered
  rw [holds] at starting
  exact ⟨begun, fun h => (nomatch starting h), nofun, by simp [Queue.dropReceiver], nofun,
    noInvention⟩

/-- The start-up ends without a first item, and returns the stream all the same. -/
theorem idleAtStart (delivered : Delivered items s) (starting : s.task.starting = true)
    (window : List Query) : Delivered items { s with
      task := .stopped (.idleAtStart window), subscriber := .holds 0 0 false } := by
  have before : s.task.begun = false := delivered.waiting (delivered.starting starting)
  have alive := delivered.alive_of_starting starting
  have nil := delivered.nil_of_not_begun before
  have here := delivered.inOrder alive
  rw [nil, List.append_eq_nil_iff] at here
  refine ⟨by simp [SyncTask.begun, nil], nofun, nofun, by simp [alive], fun _ => ?_,
    delivered.noInvention⟩
  rw [here.1, nil]
  rfl

end Delivered

theorem delivered_step (delivered : Delivered (reports (replies as)) s) (step : Step s a u) :
    Delivered (reports (replies (as ++ [a]))) u := by
  rw [replies_append]
  generalize replies as = seen at *
  have quiet : a.reply? = none → reports (seen ++ a.reply?.toList) = reports seen := by
    intro none
    rw [none, Option.toList_none, List.append_nil]
  cases step with
  | offline is | online is | connectingOver is | startUpFailed is | backgroundIdle is =>
    rw [quiet rfl]
    exact delivered.task (by rw [is]; rfl) (by rw [is]; simp [SyncTask.starting]) (by rw [is]; rfl)
  | @startUpFound window reply progress channel is found sent =>
    have none := delivered.nil_of_not_begun (by rw [is]; rfl)
    have first := reports_append_first none (item_of_startUpQuery found)
    exact first ▸ delivered.first (by rw [is]; rfl) sent _ _
  | @startUpAgain window reply error is again =>
    have none := delivered.nil_of_not_begun (by rw [is]; rfl)
    have still := reports_append_none none (item_of_startUpQuery_error again)
    rw [none] at delivered
    exact still ▸ delivered.task (by rw [is]; rfl) (by rw [is]; exact id) (by rw [is]; rfl)
  | @foundProgress window reply progress is found =>
    have later := reports_append_later (delivered.begun.mp (by rw [is]; rfl)) reply
    rw [item_eq, found] at later
    exact later ▸ delivered.forward is _
  | @foundError window reply error is found =>
    have later := reports_append_later (delivered.begun.mp (by rw [is]; rfl)) reply
    rw [item_eq, found] at later
    exact later ▸ delivered.forward is _
  | @backgroundAgain window reply is again =>
    have later := reports_append_later (delivered.begun.mp (by rw [is]; rfl)) reply
    rw [item_eq, again, Option.toList_none, List.append_nil] at later
    refine later ▸ delivered.task (by rw [is]; rfl) ?_ (by rw [is]; rfl)
    simp [SyncTask.starting]
  | startUpIdle is last =>
    rw [quiet rfl]
    exact delivered.idleAtStart (by rw [is]; rfl) _
  | sent is sent =>
    rw [quiet rfl]
    exact delivered.sent is sent
  | sendClosed is closed =>
    rw [quiet rfl]
    exact delivered.closed is (Queue.dead_of_closed closed)
  | polledItem holds items =>
    rw [quiet rfl]
    exact delivered.polled holds items _ _
  | polledEnd holds empty gone =>
    rw [quiet rfl]
    exact delivered.told holds
  | polledPending =>
    rw [quiet rfl]
    exact delivered
  | streamDropped holds =>
    rw [quiet rfl]
    exact delivered.streamDropped holds

theorem run_delivered (run : system.Run {} as s) : Delivered (reports (replies as)) s := by
  refine run.invariant (I := fun as s => Delivered (reports (replies as)) s) .start ?_
  intro as t a u delivered _ hnext
  exact delivered_step delivered (step_of_next hnext)

/-! ### Nothing is lost -/

theorem next_poll_cons {at' target : Nat} {told : Bool} {item : SyncingItem}
    {items : List SyncingItem} (holds : s.subscriber = .holds at' target told)
    (waiting : s.channel.buffer = item :: items) :
    system.next s .poll = some { s with
      channel := s.channel.pop
      subscriber := .holds (numbers at' target item).1 (numbers at' target item).2 told
      received := s.received ++ [item] } := by
  simp only [system, next, holds, polled_cons waiting]

/-- The subscriber may take all that waits in the channel. -/
theorem run_polled {at' target : Nat} {told : Bool}
    (holds : s.subscriber = .holds at' target told) :
    ∃ as t, (∀ a ∈ as, a = .poll ∨ a = .send) ∧ system.Run s as t ∧
      t.received = s.received ++ s.channel.buffer ∧ t.channel.buffer = [] ∧
      t.channel.receiverAlive = s.channel.receiverAlive ∧ t.task = s.task ∧
      ∃ at' target, t.subscriber = .holds at' target told := by
  induction waiting : s.channel.buffer generalizing s at' target with
  | nil =>
    refine ⟨[], s, nofun, .start, ?_, waiting, rfl, rfl, at', target, holds⟩
    rw [List.append_nil]
  | cons item items ih =>
    have step := next_poll_cons holds waiting
    generalize after : { s with
      channel := s.channel.pop
      subscriber := Subscriber.holds (numbers at' target item).1 (numbers at' target item).2 told
      received := s.received ++ [item] } = u at step
    obtain ⟨as, t, own, run, received, kept⟩ := ih (s := u) (by rw [← after])
      (by rw [← after]; exact congrArg List.tail waiting)
    refine ⟨.poll :: as, t, ?_, .cons step run, ?_, ?_⟩
    · exact List.forall_mem_cons.mpr ⟨.inl rfl, own⟩
    · rw [received, ← after, List.append_assoc]
      rfl
    · rw [← after] at kept
      exact kept

/-- All that is due may reach the subscriber that did not drop the stream, by its polls and by the
loop's send alone. -/
theorem run_all_received (delivered : Delivered (reports seen) s)
    (kept : s.subscriber ≠ .dropped) :
    ∃ as t, (∀ a ∈ as, a = .poll ∨ a = .send) ∧ system.Run s as t ∧ t.received = reports seen := by
  have alive := delivered.alive_of_kept kept
  have all := delivered.inOrder alive
  cases holds : s.subscriber with
  | dropped => exact absurd holds kept
  | waiting =>
    have nil := delivered.nil_of_not_begun (delivered.waiting holds)
    have noInvention := delivered.noInvention
    rw [nil] at noInvention
    exact ⟨[], s, nofun, .start, (List.prefix_nil.mp noInvention).trans nil.symm⟩
  | holds at' target told =>
    obtain ⟨as, t, own, run, received, empty, alive', task, at'', target', holds'⟩ :=
      run_polled holds
    cases is : s.task with
    | forwarding item =>
      obtain ⟨channel, sent⟩ := Queue.trySend_of_room item (alive'.trans alive)
        (by rw [empty]; decide)
      let sending : Subscription := { t with task := .background [], channel := channel }
      have step : system.next t .send = some sending := by
        simp only [system, next, task, is, sent, sending]
      obtain ⟨bs, u, own', run', received', -⟩ := run_polled (s := sending) holds'
      refine ⟨as ++ [.send] ++ bs, u, ?_, (run.next step).append run', ?_⟩
      · exact List.forall_mem_append.mpr ⟨List.forall_mem_append.mpr
          ⟨own, List.forall_mem_singleton.mpr (.inr rfl)⟩, own'⟩
      · rw [is] at all
        rw [received', ← all]
        show t.received ++ channel.buffer = _
        rw [received, (Queue.trySend_ok sent).1, empty]
        rfl
    | connecting | startUp | background | stopped =>
      refine ⟨as, t, own, run, ?_⟩
      rw [is, show SyncTask.pending _ = [] from rfl, List.append_nil] at all
      exact received.trans all

/-! ### Why the stream ends -/

/-- How the loop comes to stop: after a window of idle replies, or without a subscriber. -/
structure Windows (seen : List Reply) (s : Subscription) : Prop where
  since : ∀ window, s.task.window? = some window → IdleSinceItem seen window
  nonempty : ∀ window, s.task = .stopped (.idle window) → window ≠ []
  closed : s.task = .stopped .closed → s.subscriber = .dropped

theorem Windows.step (delivered : Delivered (reports (replies as)) s)
    (windows : Windows (replies as) s) (step : Step s a u) : Windows (replies (as ++ [a])) u := by
  rw [replies_append]
  generalize replies as = seen at *
  have ⟨since, nonempty, closed⟩ := windows
  have quiet : a.reply? = none → seen ++ a.reply?.toList = seen := by
    intro none
    rw [none, Option.toList_none, List.append_nil]
  cases step with
  | offline | online | connectingOver | startUpFailed | startUpIdle | startUpAgain =>
    exact ⟨nofun, nofun, nofun⟩
  | startUpFound is found =>
    refine ⟨?_, nofun, nofun⟩
    rintro _ ⟨⟩
    exact .of_item seen (item_of_startUpQuery found)
  | @foundProgress window reply progress is found =>
    refine ⟨?_, nofun, nofun⟩
    rintro _ ⟨⟩
    have item := item_eq reply
    rw [found] at item
    exact .of_item seen item
  | @foundError window reply error is found =>
    refine ⟨?_, nofun, nofun⟩
    rintro _ ⟨⟩
    have item := item_eq reply
    rw [found] at item
    exact .of_item seen item
  | backgroundAgain is again =>
    refine ⟨?_, nofun, nofun⟩
    rintro _ ⟨⟩
    exact (since _ (by rw [is]; rfl)).append (backgroundQuery_eq_error.mp again)
  | backgroundIdle is last =>
    rw [quiet rfl]
    refine ⟨?_, ?_, nofun⟩
    · rintro _ ⟨⟩
      exact since _ (by rw [is]; rfl)
    · rintro _ ⟨⟩
      exact ne_nil_of_lastError last
  | sent is =>
    rw [quiet rfl]
    refine ⟨?_, nofun, nofun⟩
    rintro _ ⟨⟩
    exact since _ (by rw [is]; rfl)
  | sendClosed is refused =>
    refine ⟨nofun, nofun, fun _ => ?_⟩
    exact delivered.dropped.mp (Queue.dead_of_closed refused)
  | polledItem holds | polledEnd holds =>
    rw [quiet rfl]
    refine ⟨since, nonempty, fun isClosed => ?_⟩
    rw [closed isClosed] at holds
    cases holds
  | polledPending =>
    rw [quiet rfl]
    exact windows
  | streamDropped =>
    rw [quiet rfl]
    exact ⟨since, nonempty, fun _ => rfl⟩

theorem run_windows (run : system.Run {} as s) : Windows (replies as) s := by
  have both := run.invariant (I := fun as s =>
    Delivered (reports (replies as)) s ∧ Windows (replies as) s)
    ⟨.start, ⟨nofun, nofun, nofun⟩⟩ ?_
  · exact both.2
  rintro as t a u ⟨delivered, windows⟩ _ hnext
  have step := step_of_next hnext
  exact ⟨delivered_step delivered step, windows.step delivered step⟩

/-- A start-up window of idle queries is over: the stream is returned without a sender, unless the
node was offline at the last of them. -/
theorem startUp_idle {window : List Query} {last : Query}
    (is : s.task = .startUp (window ++ [last])) (idle : last.isIdle = true) :
    next s .windowOver = some
      (if last.isOffline then
        { s with task := .stopped (.failed "Node went offline" (window ++ [last])) }
      else { s with
        task := .stopped (.idleAtStart (window ++ [last]))
        subscriber := .holds 0 0 false }) := by
  have failed : startUpQuery last =
      .error (if last.isOffline then some "Node went offline" else none) := by
    obtain ⟨status, isOffline⟩ := last
    rcases status with _ | (_ | _ | target | target) <;> cases isOffline <;>
      simp_all [startUpQuery, Query.isIdle]
  simp only [next, is, lastError_append window failed]
  cases last.isOffline <;> rfl

/-- What the syncing-progress stream owes its subscriber, by the replies so far. -/
structure Faithful (seen : List Reply) (s : Subscription) : Prop where
  inOrder : s.subscriber ≠ .dropped →
    s.received ++ s.channel.buffer ++ s.task.pending = reports seen
  noInvention : s.received <+: reports seen
  noLoss : s.subscriber ≠ .dropped → ∃ as t, (∀ a ∈ as, a = .poll ∨ a = .send) ∧
    system.Run s as t ∧ t.received = reports seen
  idle : ∀ window, s.task = .stopped (.idle window) →
    window ≠ [] ∧ IdleSinceItem seen window
  closed : s.task = .stopped .closed → s.subscriber = .dropped
  stops : ∀ stop, s.task = .stopped stop → reports seen ≠ [] →
    (∃ window, stop = .idle window) ∨ stop = .closed
  idleAtStart : ∀ window last, s.task = .startUp (window ++ [last]) →
    (∀ query ∈ window ++ [last], query.isIdle = true) → next s .windowOver = some
      (if last.isOffline then
        { s with task := .stopped (.failed "Node went offline" (window ++ [last])) }
      else { s with
        task := .stopped (.idleAtStart (window ++ [last]))
        subscriber := .holds 0 0 false })
  emptyStream : ∀ window, s.task = .stopped (.idleAtStart window) →
    s.received = [] ∧ ∀ at' target told, s.subscriber = .holds at' target told →
      next s .poll = some { s with subscriber := .holds at' target true }

/-- After every run of the subscription, with any replies and any speed of the subscriber. -/
theorem stream_faithful (run : system.Run {} as s) : Faithful (replies as) s := by
  have delivered := run_delivered run
  have windows := run_windows run
  constructor
  · exact fun kept => delivered.inOrder (delivered.alive_of_kept kept)
  · exact delivered.noInvention
  · exact run_all_received delivered
  · exact fun window is => ⟨windows.nonempty window is, windows.since window (by rw [is]; rfl)⟩
  · exact windows.closed
  · exact fun stop is found => delivered.stop_cases found is
  · exact fun window last is idle => startUp_idle is (idle last (by simp))
  · intro window is
    have before : s.task.begun = false := by rw [is]; rfl
    have nil := delivered.nil_of_not_begun before
    refine ⟨List.prefix_nil.mp (nil ▸ delivered.noInvention), fun at' target told holds => ?_⟩
    have empty := (delivered.empty_of_not_begun before (delivered.alive_of_holds holds)).2
    simp only [next, holds, polled_nil empty, is, SyncTask.senderAlive]
    rfl

/-- The service is idle, then importing, then out of reach, and last idle again. -/
theorem stream_faithful_outage :
    ∃ s, system.Run {} [.checkOffline false, .reply ⟨⟨.ok .idle, false⟩, 1⟩,
        .reply ⟨⟨.ok (.importing 7), false⟩, 2⟩, .reply ⟨⟨.error (), true⟩, 3⟩, .poll, .send,
        .reply ⟨⟨.ok .pending, false⟩, 4⟩, .windowOver, .poll, .poll] s ∧
      s.received = [.ok ⟨⟨7, .importing⟩, 2⟩, .error "Failed to fetch networking status"] ∧
      Faithful [⟨⟨.ok .idle, false⟩, 1⟩, ⟨⟨.ok (.importing 7), false⟩, 2⟩, ⟨⟨.error (), true⟩, 3⟩,
        ⟨⟨.ok .pending, false⟩, 4⟩] s := by
  obtain ⟨s, done, received⟩ : ∃ s, system.exec (fun _ _ _ => True) [] {} [.checkOffline false,
        .reply ⟨⟨.ok .idle, false⟩, 1⟩, .reply ⟨⟨.ok (.importing 7), false⟩, 2⟩,
        .reply ⟨⟨.error (), true⟩, 3⟩, .poll, .send, .reply ⟨⟨.ok .pending, false⟩, 4⟩,
        .windowOver, .poll, .poll] = some s ∧
      s.received = [.ok ⟨⟨7, .importing⟩, 2⟩, .error "Failed to fetch networking status"] :=
    ⟨_, rfl, rfl⟩
  have run := System.RunIf.of_exec done
  exact ⟨s, run, received, stream_faithful run⟩

/-- The only reply of the start-up is idle, of a node that went offline: the call fails, and there
is no stream. -/
theorem idle_start_without_stream :
    ¬ ∀ as s t window, system.Run {} as s → s.task = .startUp window →
      (∀ query ∈ window, query.isIdle = true) → next s .windowOver = some t →
      t.task.hasStream = true := by
  intro returned
  obtain ⟨s, t, done, is, isOver, failed⟩ : ∃ s t,
      system.exec (fun _ _ _ => True) []
        {} [.checkOffline false, .reply ⟨⟨.ok .idle, true⟩, 1⟩] = some s ∧
      s.task = .startUp [⟨.ok .idle, true⟩] ∧ next s .windowOver = some t ∧
      t.task = .stopped (.failed "Node went offline" [⟨.ok .idle, true⟩]) :=
    ⟨_, _, rfl, rfl, rfl, rfl⟩
  have stream := returned _ s t _ (System.RunIf.of_exec done) is (by decide) isOver
  rw [failed] at stream
  cases stream

end Subscription

end SubspaceSdk
