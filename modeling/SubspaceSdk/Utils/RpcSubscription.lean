import SubspaceSdk.ProofKit.Channel
import SubspaceSdk.ProofKit.Transition

/-! The subscriptions of the in-process RPC client.  `subscribe` spawns a task that takes the
results of the inner subscription and sends their items into a bounded channel; the caller's stream
decodes what it takes out and leaves out what it cannot decode.  A send of the channel is over once
its message is within the buffer, so that the task may wait after a message as well. -/

namespace SubspaceSdk

open ProofKit

/-- What a poll of the inner subscription gives, `none` at its end. -/
abbrev InnerResult (Raw : Type) := Option (Except Unit Raw)

inductive ForwarderPhase (Raw : Type) where
  /-- The task waits for the inner subscription. -/
  | receiving
  /-- The task is about to send. -/
  | sending (item : Raw)
  /-- The message is in the channel, beyond its buffer. -/
  | flushing
  | stopped
  deriving Repr, DecidableEq

/-- The buffer of `mpsc::channel(10)`. -/
def notifsBuffer : Nat := 10

structure RpcSubscription (Raw Item : Type) where
  /-- The results that the inner subscription has not given so far. -/
  inner : List (InnerResult Raw) := []
  phase : ForwarderPhase Raw := .receiving
  /-- The channel takes one message of its sender beyond the buffer. -/
  notifs : Queue Raw (notifsBuffer + 1) := .empty
  /-- The items that the caller's stream has given. -/
  items : List Item := []
  /-- The caller's stream has given its end. -/
  ended : Bool := false

namespace RpcSubscription

variable {Raw Item : Type}

inductive Action (Raw : Type) where
  /-- The inner subscription is to give a result. -/
  | publish (result : InnerResult Raw)
  /-- The task is polled, and takes a step. -/
  | task
  /-- The caller polls its stream. -/
  | poll
  /-- The caller drops its stream. -/
  | drop

def Action.published? : Action Raw → Option (InnerResult Raw)
  | .publish result => some result
  | _ => none

/-- A step of the spawned task, or `none` where it waits. -/
def task (s : RpcSubscription Raw Item) : Option (RpcSubscription Raw Item) :=
  match s.phase with
  | .receiving =>
    match s.inner with
    | [] => none
    | some (.ok item) :: inner => some { s with inner, phase := .sending item }
    | _ :: inner => some { s with inner, phase := .stopped }
  | .sending item =>
    match s.notifs.trySend item with
    | .ok notifs => some { s with
        notifs
        phase := if notifs.buffer.length ≤ notifsBuffer then .receiving else .flushing }
    | .error .closed => some { s with phase := .stopped }
    | .error .full => none
  | .flushing =>
    if !s.notifs.receiverAlive || s.notifs.buffer.length ≤ notifsBuffer then
      some { s with phase := .receiving }
    else none
  | .stopped => none

/-- The channel has its sender while the task runs. -/
def senderAlive (s : RpcSubscription Raw Item) : Bool :=
  match s.phase with
  | .stopped => false
  | _ => true

def next (decode : Raw → Option Item) (s : RpcSubscription Raw Item) :
    Action Raw → Option (RpcSubscription Raw Item)
  | .publish result => some { s with inner := s.inner ++ [result] }
  | .task => s.task
  | .poll =>
    if s.notifs.receiverAlive then
      match s.notifs.poll s.senderAlive with
      | (.ready raw, notifs) => some { s with notifs, items := s.items ++ (decode raw).toList }
      | (.ended, _) => some { s with ended := true }
      | (.pending, _) => none
    else none
  | .drop => some { s with notifs := s.notifs.dropReceiver }

def system (decode : Raw → Option Item) :
    System (RpcSubscription Raw Item) (Action Raw) := ⟨next decode⟩

/-- The items that are forwarded of some results: those before the first one that is not an item. -/
def forwarded : List (InnerResult Raw) → List Raw
  | some (.ok item) :: results => item :: forwarded results
  | _ => []

/-- All results are items. -/
def AllItems (results : List (InnerResult Raw)) : Prop :=
  ∀ result ∈ results, ∃ item, result = some (.ok item)

theorem AllItems.append {results : List (InnerResult Raw)} (all : AllItems results) (item : Raw) :
    AllItems (results ++ [some (.ok item)]) := by
  intro result mem
  rcases List.mem_append.mp mem with before | last
  · exact all result before
  · exact ⟨item, List.mem_singleton.mp last⟩

theorem forwarded_append {results : List (InnerResult Raw)} (all : AllItems results)
    (more : List (InnerResult Raw)) :
    forwarded (results ++ more) = forwarded results ++ forwarded more := by
  induction results with
  | nil => rfl
  | cons result results ih =>
    obtain ⟨item, rfl⟩ := all result List.mem_cons_self
    show item :: forwarded (results ++ more) = item :: (forwarded results ++ forwarded more)
    rw [ih fun other mem => all other (List.mem_cons_of_mem _ mem)]

/-- Nothing after a result that is not an item is forwarded. -/
theorem forwarded_failure {result : InnerResult Raw} (failure : ∀ item, result ≠ some (.ok item))
    (more : List (InnerResult Raw)) : forwarded (result :: more) = [] := by
  unfold forwarded
  split
  · next item _ same =>
    cases same
    exact absurd rfl (failure item)
  · rfl

variable {decode : Raw → Option Item} {s t u : RpcSubscription Raw Item} {a : Action Raw}
variable {as bs : List (Action Raw)}

/-! ### What a step can do -/

variable (decode s) in
inductive Step : Action Raw → RpcSubscription Raw Item → Prop
  | publish (result : InnerResult Raw) :
      Step (.publish result) { s with inner := s.inner ++ [result] }
  | takes {item : Raw} {inner : List (InnerResult Raw)} (at' : s.phase = .receiving)
      (first : s.inner = some (.ok item) :: inner) :
      Step .task { s with inner, phase := .sending item }
  | fails {result : InnerResult Raw} {inner : List (InnerResult Raw)} (at' : s.phase = .receiving)
      (failure : ∀ item, result ≠ some (.ok item)) (first : s.inner = result :: inner) :
      Step .task { s with inner, phase := .stopped }
  | sends {item : Raw} {notifs : Queue Raw (notifsBuffer + 1)} (at' : s.phase = .sending item)
      (alive : s.notifs.receiverAlive = true) (alive' : notifs.receiverAlive = true)
      (buffer : notifs.buffer = s.notifs.buffer ++ [item]) :
      Step .task { s with
        notifs
        phase := if notifs.buffer.length ≤ notifsBuffer then .receiving else .flushing }
  | closed {item : Raw} (at' : s.phase = .sending item)
      (dead : s.notifs.receiverAlive = false) : Step .task { s with phase := .stopped }
  | flushed (at' : s.phase = .flushing)
      (room : s.notifs.receiverAlive = false ∨ s.notifs.buffer.length ≤ notifsBuffer) :
      Step .task { s with phase := .receiving }
  | ready {raw : Raw} {buffer : List Raw} (alive : s.notifs.receiverAlive = true)
      (first : s.notifs.buffer = raw :: buffer) :
      Step .poll { s with notifs := s.notifs.pop, items := s.items ++ (decode raw).toList }
  | ended (alive : s.notifs.receiverAlive = true) (stopped : s.phase = .stopped)
      (empty : s.notifs.buffer = []) : Step .poll { s with ended := true }
  | drop : Step .drop { s with notifs := s.notifs.dropReceiver }

theorem step_of_task (h : s.task = some t) : Step decode s .task t := by
  unfold task at h
  split at h
  · next at' =>
    split at h
    · cases h
    · next item inner first =>
      cases h
      exact .takes at' first
    · next result inner failure first =>
      cases h
      exact .fails at' failure first
  · next item at' =>
    split at h
    · next notifs sent =>
      cases h
      obtain ⟨buffer, same, alive⟩ := Queue.trySend_ok sent
      exact .sends at' alive (same.trans alive) buffer
    · next full =>
      cases h
      exact .closed at' (Queue.dead_of_closed full)
    · cases h
  · next at' =>
    split at h
    · next room =>
      cases h
      exact .flushed at' (by simpa using room)
    · cases h
  · cases h

theorem senderAlive_eq_false (h : s.senderAlive = false) : s.phase = .stopped := by
  unfold senderAlive at h
  split at h
  · assumption
  · cases h

theorem step_of_next (h : (system decode).next s a = some t) : Step decode s a t := by
  cases a with
  | publish result =>
    cases h
    exact .publish result
  | task => exact step_of_task h
  | poll =>
    simp only [system, next] at h
    split at h
    · next alive =>
      cases first : s.notifs.buffer with
      | cons raw buffer =>
        simp only [Queue.poll, first, Option.some.injEq] at h
        exact h ▸ .ready alive first
      | nil =>
        cases sender : s.senderAlive with
        | true => simp [Queue.poll, first, sender] at h
        | false =>
          simp only [Queue.poll, first, sender, Bool.false_eq_true, if_false,
            Option.some.injEq] at h
          exact h ▸ .ended alive (senderAlive_eq_false sender) first
    · cases h
  | drop =>
    cases h
    exact .drop

/-! ### What the caller gets -/

/-- The results that the inner subscription was to give, oldest first. -/
def published (as : List (Action Raw)) : List (InnerResult Raw) :=
  as.filterMap Action.published?

/-- The items that the task has taken and the caller's stream has not. -/
def inFlight (s : RpcSubscription Raw Item) : List Raw :=
  match s.phase with
  | .sending item => s.notifs.buffer ++ [item]
  | _ => s.notifs.buffer

/-- The results that the task has taken, by its phase. -/
def Taken (taken : List (InnerResult Raw)) : ForwarderPhase Raw → Prop
  | .stopped => ∃ items result, taken = items ++ [result] ∧ AllItems items ∧
      ∀ item, result ≠ some (.ok item)
  | _ => AllItems taken

variable (decode) in
/-- While the caller has its stream: what the task has taken was polled out by the caller or is in
flight. -/
structure Delivery (as : List (Action Raw)) (s : RpcSubscription Raw Item)
    (taken : List (InnerResult Raw)) (polled : List Raw) : Prop where
  split : published as = taken ++ s.inner
  phase : Taken taken s.phase
  accounts : forwarded taken = polled ++ s.inFlight
  items : s.items = polled.filterMap decode

/-- Nothing more is forwarded once the task has stopped. -/
theorem Taken.forwarded_append {taken : List (InnerResult Raw)}
    (taken_ : Taken taken ForwarderPhase.stopped) (inner : List (InnerResult Raw)) :
    forwarded (taken ++ inner) = forwarded taken := by
  obtain ⟨items, result, rfl, all, failure⟩ := taken_
  rw [List.append_assoc, RpcSubscription.forwarded_append all,
    RpcSubscription.forwarded_append all]
  show _ ++ forwarded (result :: inner) = _ ++ forwarded [result]
  rw [forwarded_failure failure, forwarded_failure failure]

theorem published_append (as : List (Action Raw)) (a : Action Raw) :
    published (as ++ [a]) = published as ++ a.published?.toList := by
  rw [published, List.filterMap_append]
  cases own : a.published? <;> simp [published, own]

theorem Delivery.step {taken : List (InnerResult Raw)} {polled : List Raw}
    (delivery : Delivery decode as s taken polled) (step : Step decode s a t)
    (alive : t.notifs.receiverAlive = true) :
    ∃ taken' polled', Delivery decode (as ++ [a]) t taken' polled' := by
  obtain ⟨split, phase, accounts, items⟩ := delivery
  have publishes := published_append as a
  rw [split] at publishes
  cases step with
  | publish result =>
    exact ⟨taken, polled, by rw [publishes, List.append_assoc]; rfl, phase, accounts, items⟩
  | @takes item inner at' first =>
    rw [at'] at phase
    have all : AllItems taken := phase
    refine ⟨taken ++ [some (.ok item)], polled, ?_, ?_, ?_, items⟩
    · rw [publishes, first]
      simp [Action.published?]
    · exact all.append item
    · rw [forwarded_append all, accounts]
      simp [inFlight, at', forwarded]
  | @fails result inner at' failure first =>
    rw [at'] at phase
    have all : AllItems taken := phase
    refine ⟨taken ++ [result], polled, ?_, ⟨taken, result, rfl, all, failure⟩, ?_, items⟩
    · rw [publishes, first]
      simp [Action.published?]
    · rw [forwarded_append all, accounts, forwarded_failure failure]
      simp [inFlight, at']
  | @sends item notifs at' _ _ buffer =>
    rw [at'] at phase
    have all : AllItems taken := phase
    have counted : forwarded taken = polled ++ notifs.buffer := by
      rw [accounts, inFlight, at', buffer]
    refine ⟨taken, polled, by rw [publishes]; simp [Action.published?], ?_, ?_, items⟩
    · show Taken taken (if _ then .receiving else .flushing)
      split <;> exact all
    · rw [counted]
      unfold inFlight
      by_cases room : notifs.buffer.length ≤ notifsBuffer <;> simp [room]
  | closed at' dead => exact absurd (dead.symm.trans alive) Bool.false_ne_true
  | flushed at' =>
    rw [at'] at phase
    refine ⟨taken, polled, by rw [publishes]; simp [Action.published?], phase, ?_, items⟩
    rw [accounts]
    simp [inFlight, at']
  | @ready raw buffer _ first =>
    refine ⟨taken, polled ++ [raw], by rw [publishes]; simp [Action.published?], phase, ?_, ?_⟩
    · rw [accounts]
      cases at' : s.phase <;> simp [inFlight, at', first, Queue.pop]
    · show s.items ++ (decode raw).toList = _
      have last : [raw].filterMap decode = (decode raw).toList := by
        cases decoded : decode raw <;> simp [decoded]
      rw [items, List.filterMap_append, last]
  | ended =>
    exact ⟨taken, polled, by rw [publishes]; simp [Action.published?], phase, accounts, items⟩
  | drop => cases alive

theorem alive_of_step (step : Step decode s a t) (alive : t.notifs.receiverAlive = true) :
    s.notifs.receiverAlive = true := by
  cases step with
  | sends _ before => exact before
  | drop => cases alive
  | _ => exact alive

theorem run_delivery (run : (system decode).Run {} as t)
    (alive : t.notifs.receiverAlive = true) :
    ∃ taken polled, Delivery decode as t taken polled := by
  induction run with
  | start => exact ⟨[], [], rfl, List.forall_mem_nil _, rfl, rfl⟩
  | step _ _ hnext ih =>
    have step := step_of_next hnext
    obtain ⟨taken, polled, delivery⟩ := ih (alive_of_step step alive)
    exact delivery.step step alive

/-- A result is not an item. -/
def Failure (result : InnerResult Raw) : Prop := ∀ item, result ≠ some (.ok item)

theorem AllItems.no_failure {results : List (InnerResult Raw)} (all : AllItems results)
    {result : InnerResult Raw} (mem : result ∈ results) : ¬Failure result := by
  obtain ⟨item, same⟩ := all result mem
  exact fun failure => failure item same

/-- What is forwarded stays the beginning of what is forwarded. -/
theorem forwarded_mono (results more : List (InnerResult Raw)) :
    forwarded results <+: forwarded (results ++ more) := by
  induction results with
  | nil => exact List.nil_prefix
  | cons result results ih =>
    by_cases item : ∃ item, result = some (.ok item)
    · obtain ⟨item, rfl⟩ := item
      show item :: forwarded results <+: item :: forwarded (results ++ more)
      exact List.cons_prefix_cons.mpr ⟨rfl, ih⟩
    · rw [forwarded_failure fun found same => item ⟨found, same⟩]
      exact List.nil_prefix

/-- Nothing more is forwarded after a failure. -/
theorem forwarded_of_failure {results : List (InnerResult Raw)}
    (failed : ∃ result ∈ results, Failure result) (more : List (InnerResult Raw)) :
    forwarded (results ++ more) = forwarded results := by
  induction results with
  | nil =>
    obtain ⟨_, mem, _⟩ := failed
    cases mem
  | cons result results ih =>
    by_cases item : ∃ item, result = some (.ok item)
    · obtain ⟨item, rfl⟩ := item
      show item :: forwarded (results ++ more) = item :: forwarded results
      rw [ih]
      obtain ⟨other, mem, failure⟩ := failed
      rcases List.mem_cons.mp mem with rfl | later
      · exact absurd rfl (failure item)
      · exact ⟨other, later, failure⟩
    · have failure : Failure result := fun found same => item ⟨found, same⟩
      rw [List.cons_append, forwarded_failure failure, forwarded_failure failure]

/-- The caller's stream has given the items of a beginning of what is forwarded. -/
def GaveBeginning (decode : Raw → Option Item) (as : List (Action Raw))
    (s : RpcSubscription Raw Item) : Prop :=
  ∃ polled, polled <+: forwarded (published as) ∧ s.items = polled.filterMap decode

theorem GaveBeginning.of_delivery {taken : List (InnerResult Raw)} {polled : List Raw}
    (delivery : Delivery decode as s taken polled) : GaveBeginning decode as s := by
  refine ⟨polled, ?_, delivery.items⟩
  have first : polled <+: forwarded taken := delivery.accounts ▸ List.prefix_append _ _
  rw [delivery.split]
  exact first.trans (forwarded_mono _ _)

theorem run_gaveBeginning (run : (system decode).Run {} as t) : GaveBeginning decode as t := by
  induction run with
  | start => exact ⟨[], List.nil_prefix, rfl⟩
  | @step as a s t before _ hnext ih =>
    cases alive : t.notifs.receiverAlive with
    | true =>
      obtain ⟨taken, polled, delivery⟩ := run_delivery (before.step trivial hnext) alive
      exact .of_delivery delivery
    | false =>
      obtain ⟨polled, first, items⟩ := ih
      have same : t.items = s.items := by
        cases step_of_next hnext with
        | ready was => exact absurd (was.symm.trans alive) Bool.noConfusion
        | _ => rfl
      refine ⟨polled, ?_, same.trans items⟩
      rw [published_append]
      exact first.trans (forwarded_mono _ _)

/-- A caller that has seen the end has got all that is forwarded, and there was a failure. -/
structure SawEnd (decode : Raw → Option Item) (as : List (Action Raw))
    (s : RpcSubscription Raw Item) : Prop where
  stopped : s.phase = .stopped
  empty : s.notifs.buffer = []
  failed : ∃ result ∈ published as, Failure result
  items : s.items = (forwarded (published as)).filterMap decode

theorem SawEnd.of_delivery {taken : List (InnerResult Raw)} {polled : List Raw}
    (delivery : Delivery decode as s taken polled) (stopped : s.phase = .stopped)
    (empty : s.notifs.buffer = []) : SawEnd decode as s := by
  obtain ⟨split, phase, accounts, items⟩ := delivery
  rw [stopped] at phase
  refine ⟨stopped, empty, ?_, ?_⟩
  · obtain ⟨before, result, rfl, -, failure⟩ := phase
    refine ⟨result, ?_, failure⟩
    rw [split]
    simp
  · rw [split, phase.forwarded_append, accounts, items]
    simp [inFlight, stopped, empty]

theorem SawEnd.step (saw : SawEnd decode as s) (step : Step decode s a t) :
    SawEnd decode (as ++ [a]) t := by
  obtain ⟨stopped, empty, failed, items⟩ := saw
  have still : forwarded (published (as ++ [a])) = forwarded (published as) := by
    rw [published_append, forwarded_of_failure failed]
  have failed' : ∃ result ∈ published (as ++ [a]), Failure result := by
    obtain ⟨result, mem, failure⟩ := failed
    rw [published_append]
    exact ⟨result, List.mem_append_left _ mem, failure⟩
  rw [← still] at items
  cases step with
  | publish | ended => exact ⟨stopped, empty, failed', items⟩
  | takes at' | fails at' | sends at' | closed at' | flushed at' =>
    rw [stopped] at at'
    cases at'
  | ready _ first =>
    rw [empty] at first
    cases first
  | drop => exact ⟨stopped, rfl, failed', items⟩

theorem run_sawEnd (run : (system decode).Run {} as t) (ended : t.ended = true) :
    SawEnd decode as t := by
  induction run with
  | start => cases ended
  | @step as a s t before _ hnext ih =>
    have step := step_of_next hnext
    cases already : s.ended with
    | true => exact (ih already).step step
    | false =>
      obtain ⟨alive, stopped, empty⟩ : t.notifs.receiverAlive = true ∧ t.phase = .stopped ∧
          t.notifs.buffer = [] := by
        cases step with
        | ended alive stopped empty => exact ⟨alive, stopped, empty⟩
        | _ => exact absurd (already.symm.trans ended) Bool.noConfusion
      obtain ⟨taken, polled, delivery⟩ := run_delivery (before.step trivial hnext) alive
      exact .of_delivery delivery stopped empty

/-! ### What is still to come -/

def weight : ForwarderPhase Raw → Nat
  | .receiving => 1
  | .sending _ => 5
  | .flushing => 2
  | .stopped => 0

/-- How much there is to do without the inner subscription. -/
def toDo (s : RpcSubscription Raw Item) : Nat :=
  5 * s.inner.length + 2 * s.notifs.buffer.length + weight s.phase + if s.ended then 0 else 1

/-- Nothing is left to do: the task waits for the inner subscription, or the caller has seen the
end. -/
def Quiet (s : RpcSubscription Raw Item) : Prop :=
  s.notifs.buffer = [] ∧
    (s.phase = .receiving ∧ s.inner = [] ∨ s.phase = .stopped ∧ s.ended = true)

/-- The task, or the caller polling its stream. -/
def Action.isOnward : Action Raw → Bool
  | .task | .poll => true
  | _ => false

theorem quiet_or_onward (decode : Raw → Option Item) (alive : s.notifs.receiverAlive = true) :
    Quiet s ∨ ∃ a t, a.isOnward = true ∧ (system decode).next s a = some t ∧
      t.toDo < s.toDo ∧ t.notifs.receiverAlive = true := by
  cases first : s.notifs.buffer with
  | cons raw buffer =>
    refine .inr ⟨.poll, { s with
      notifs := s.notifs.pop, items := s.items ++ (decode raw).toList }, rfl, ?_, ?_, alive⟩
    · simp [system, next, alive, Queue.poll, first]
    · simp only [toDo, Queue.pop, first, List.length_cons, List.tail_cons]
      omega
  | nil =>
    have task {t : RpcSubscription Raw Item} (moves : s.task = some t) (less : t.toDo < s.toDo)
        (alive : t.notifs.receiverAlive = true) :
        Quiet s ∨ ∃ a t, a.isOnward = true ∧ (system decode).next s a = some t ∧
          t.toDo < s.toDo ∧ t.notifs.receiverAlive = true :=
      .inr ⟨.task, t, rfl, moves, less, alive⟩
    cases at' : s.phase with
    | receiving =>
      cases results : s.inner with
      | nil => exact .inl ⟨first, .inl ⟨at', results⟩⟩
      | cons result inner =>
        by_cases item : ∃ item, result = some (.ok item)
        · obtain ⟨item, rfl⟩ := item
          refine task (t := { s with inner, phase := .sending item }) ?_ ?_ alive
          · simp [RpcSubscription.task, at', results]
          · simp only [toDo, at', results, List.length_cons, weight]
            omega
        · refine task (t := { s with inner, phase := .stopped }) ?_ ?_ alive
          · rcases result with _ | _ | found
            · simp [RpcSubscription.task, at', results]
            · simp [RpcSubscription.task, at', results]
            · exact absurd ⟨found, rfl⟩ item
          · simp only [toDo, at', results, List.length_cons, weight]
            omega
    | sending item =>
      obtain ⟨notifs, sent⟩ := Queue.trySend_of_room item alive
        (by rw [first]; exact Nat.succ_pos _)
      obtain ⟨buffer, same, -⟩ := Queue.trySend_ok sent
      have one : notifs.buffer.length ≤ notifsBuffer := by
        rw [buffer, first]
        exact Nat.succ_pos _
      refine task (t := { s with notifs, phase := .receiving }) ?_ ?_ (same.trans alive)
      · simp [RpcSubscription.task, at', sent, one]
      · simp only [toDo, at', buffer, first, List.nil_append, weight, List.length_singleton,
          List.length_nil]
        omega
    | flushing =>
      refine task (t := { s with phase := .receiving }) ?_ ?_ alive
      · simp [RpcSubscription.task, at', first]
      · simp only [toDo, at', weight]
        omega
    | stopped =>
      cases already : s.ended with
      | true => exact .inl ⟨first, .inr ⟨at', already⟩⟩
      | false =>
        refine .inr ⟨.poll, { s with ended := true }, rfl, ?_, ?_, alive⟩
        · simp [system, next, alive, Queue.poll, first, senderAlive, at']
        · simp [toDo, already]

/-- The task and the caller alone get to where nothing is left to do. -/
theorem run_quiet (decode : Raw → Option Item) (alive : s.notifs.receiverAlive = true) :
    ∃ bs t, (∀ a ∈ bs, a.isOnward = true) ∧ (system decode).Run s bs t ∧ Quiet t ∧
      t.notifs.receiverAlive = true := by
  induction h : s.toDo using Nat.strongRecOn generalizing s with
  | ind n ih =>
    rcases quiet_or_onward decode alive with quiet | ⟨a, u, onward, hnext, less, alive'⟩
    · exact ⟨[], s, List.forall_mem_nil _, .start, quiet, alive⟩
    · obtain ⟨bs, t, all, run, quiet, last⟩ := ih u.toDo (h ▸ less) alive' rfl
      refine ⟨a :: bs, t, ?_, .cons hnext run, quiet, last⟩
      intro b mem
      rcases List.mem_cons.mp mem with rfl | later
      · exact onward
      · exact all b later

theorem published_onward (all : ∀ a ∈ bs, a.isOnward = true) :
    published (as ++ bs) = published as := by
  have nothing : published bs = [] := by
    refine List.filterMap_eq_nil_iff.mpr fun a mem => ?_
    have onward := all a mem
    cases a with
    | publish => cases onward
    | _ => rfl
  rw [published, List.filterMap_append, ← published, ← published, nothing, List.append_nil]

theorem Quiet.all {taken : List (InnerResult Raw)} {polled : List Raw} (quiet : Quiet s)
    (delivery : Delivery decode as s taken polled) :
    s.items = (forwarded (published as)).filterMap decode ∧
      ((∃ result ∈ published as, Failure result) → s.ended = true) := by
  obtain ⟨empty, ⟨at', drained⟩ | ⟨stopped, ended⟩⟩ := quiet
  · obtain ⟨split, phase, accounts, items⟩ := delivery
    rw [drained, List.append_nil] at split
    rw [at'] at phase
    refine ⟨?_, fun ⟨result, mem, failure⟩ => ?_⟩
    · rw [split, accounts, items]
      simp [inFlight, at', empty]
    · exact absurd failure (AllItems.no_failure phase (split ▸ mem))
  · exact ⟨(SawEnd.of_delivery delivery stopped empty).items, fun _ => ended⟩

/-- As long as the caller keeps its stream, the task and the caller can get to where all is given,
and to the end if there was a failure. -/
theorem run_toAll (run : (system decode).Run {} as t) (alive : t.notifs.receiverAlive = true) :
    ∃ bs u, (∀ a ∈ bs, a.isOnward = true) ∧ (system decode).Run t bs u ∧
      u.items = (forwarded (published as)).filterMap decode ∧
      ((∃ result ∈ published as, Failure result) → u.ended = true) := by
  obtain ⟨bs, u, all, rest, quiet, alive'⟩ := run_quiet decode alive
  obtain ⟨taken, polled, delivery⟩ := run_delivery (run.append rest) alive'
  obtain ⟨items, ended⟩ := quiet.all delivery
  rw [published_onward all] at items ended
  exact ⟨bs, u, all, rest, items, ended⟩

/-- In every run, whatever the pace of the caller: its stream gives, in order, the items that can be
decoded of a beginning of what the inner subscription gave before its first failure.  Once the
stream has ended, these are all of them and there was a failure.  And as long as the caller keeps
its stream, the task and the caller can always get to where all of them are given, and to the end of
the stream if there was a failure. -/
theorem run_delivers (run : (system decode).Run {} as t) :
    (∃ polled, polled <+: forwarded (published as) ∧ t.items = polled.filterMap decode) ∧
    (t.ended = true → t.items = (forwarded (published as)).filterMap decode ∧
      ∃ result ∈ published as, Failure result) ∧
    (t.notifs.receiverAlive = true → ∃ bs u, (∀ a ∈ bs, a.isOnward = true) ∧
      (system decode).Run t bs u ∧ u.items = (forwarded (published as)).filterMap decode ∧
      ((∃ result ∈ published as, Failure result) → u.ended = true)) := by
  refine ⟨run_gaveBeginning run, fun ended => ?_, run_toAll run⟩
  have saw := run_sawEnd run ended
  exact ⟨saw.items, saw.failed⟩

/-- The text of a number, as an item that may not be decoded. -/
def decodeDigit (raw : Char) : Option Nat :=
  if raw.isDigit then some (raw.toNat - '0'.toNat) else none

/-- An item that cannot be decoded, and one after a failure. -/
def undecodable : List (Action Char) :=
  [.publish (some (.ok '1')), .publish (some (.ok 'x')), .task, .task, .poll,
    .publish (some (.ok '2')), .publish (some (.error ())), .publish (some (.ok '3'))]

theorem run_delivers_undecodable :
    ∃ (t u : RpcSubscription Char Nat) (bs : List (Action Char)),
      (system decodeDigit).Run {} undecodable t ∧ (system decodeDigit).Run t bs u ∧
        u.items = [1, 2] ∧ u.ended = true := by
  obtain ⟨t, done, alive⟩ : ∃ t : RpcSubscription Char Nat,
      (system decodeDigit).exec (fun _ _ _ => True) [] {} undecodable = some t ∧
        t.notifs.receiverAlive = true := ⟨_, rfl, rfl⟩
  have run := System.RunIf.of_exec done
  obtain ⟨bs, u, -, rest, items, ended⟩ := (run_delivers run).2.2 alive
  refine ⟨t, u, bs, run, rest, items, ended ⟨some (.error ()), ?_, fun item same => by cases same⟩⟩
  exact List.mem_filterMap.mpr ⟨.publish (some (.error ())), by simp [undecodable], rfl⟩

/-! ### The pace of the task -/

/-- The buffer has room whenever the task is about to send, and is empty without a receiver. -/
structure Paced (s : RpcSubscription Raw Item) : Prop where
  room : s.phase = .receiving ∨ (∃ item, s.phase = .sending item) →
    s.notifs.buffer.length ≤ notifsBuffer
  dropped : s.notifs.receiverAlive = false → s.notifs.buffer = []

theorem Paced.step (paced : Paced s) (step : Step decode s a t) : Paced t := by
  obtain ⟨room, dropped⟩ := paced
  cases step with
  | publish | ended => exact ⟨room, dropped⟩
  | takes at' => exact ⟨fun _ => room (.inl at'), dropped⟩
  | fails | closed => exact ⟨fun waits => by simp at waits, dropped⟩
  | @sends item notifs at' _ alive buffer =>
    refine ⟨fun waits => ?_, fun dead => absurd (dead.symm.trans alive) Bool.false_ne_true⟩
    by_contra full
    simp [full] at waits
  | flushed at' room =>
    refine ⟨fun _ => ?_, dropped⟩
    rcases room with dead | room
    · simp [dropped dead]
    · exact room
  | ready alive first =>
    refine ⟨fun waits => ?_, fun dead => absurd (dead.symm.trans alive) Bool.false_ne_true⟩
    have before := room waits
    show s.notifs.buffer.tail.length ≤ notifsBuffer
    rw [List.length_tail]
    omega
  | drop => exact ⟨fun _ => Nat.zero_le _, fun _ => rfl⟩

theorem run_paced (run : (system decode).Run {} as t) : Paced t :=
  run.invariant (I := fun _ t => Paced t)
    ⟨fun _ => Nat.zero_le _, fun dead => by cases dead⟩
    fun _ _ _ _ paced _ hnext => paced.step (step_of_next hnext)

theorem Paced.inFlight_le (paced : Paced s) : s.inFlight.length ≤ notifsBuffer + 1 := by
  have fits := s.notifs.fits
  unfold inFlight
  split
  · next item at' =>
    have room := paced.room (.inr ⟨item, at'⟩)
    rw [List.length_append, List.length_singleton]
    omega
  · exact fits

/-- The steps that the task has left once the caller has dropped its stream. -/
def stepsLeft : ForwarderPhase Raw → Nat
  | .flushing => 3
  | .receiving => 2
  | .sending _ => 1
  | .stopped => 0

def Action.isTask : Action Raw → Bool
  | .task => true
  | _ => false

/-- What can happen once the caller has dropped its stream. -/
structure AfterDrop (s : RpcSubscription Raw Item) (bs : List (Action Raw))
    (t : RpcSubscription Raw Item) : Prop where
  dead : t.notifs.receiverAlive = false
  items : t.items = s.items
  steps : stepsLeft t.phase + (bs.filter (·.isTask)).length ≤ stepsLeft s.phase
  takes : ∃ taken, s.inner ++ published bs = taken ++ t.inner ∧
    taken.length + min 1 (stepsLeft t.phase - 1) ≤ 1

theorem AfterDrop.step (after : AfterDrop u as s) (step : Step decode s a t) :
    AfterDrop u (as ++ [a]) t := by
  obtain ⟨dead, items, steps, taken, split, few⟩ := after
  have publishes : u.inner ++ published (as ++ [a]) =
      taken ++ (s.inner ++ a.published?.toList) := by
    rw [published_append, ← List.append_assoc, split, List.append_assoc]
  have count : ((as ++ [a]).filter (·.isTask)).length =
      (as.filter (·.isTask)).length + if a.isTask then 1 else 0 := by
    rw [List.filter_append, List.length_append]
    cases task : a.isTask <;> simp [task]
  cases step with
  | publish result =>
    exact ⟨dead, items, by rw [count]; exact steps, taken, publishes, few⟩
  | @takes item inner at' first =>
    rw [at'] at steps few
    rw [first] at publishes
    refine ⟨dead, items, ?_, taken ++ [some (.ok item)], ?_, ?_⟩
    · rw [count]
      simp only [stepsLeft, Action.isTask, if_true] at steps ⊢
      omega
    · rw [publishes]
      simp [Action.published?]
    · simp only [stepsLeft, List.length_append, List.length_singleton] at few ⊢
      omega
  | @fails result inner at' _ first =>
    rw [at'] at steps few
    rw [first] at publishes
    refine ⟨dead, items, ?_, taken ++ [result], ?_, ?_⟩
    · rw [count]
      simp only [stepsLeft, Action.isTask, if_true] at steps ⊢
      omega
    · rw [publishes]
      simp [Action.published?]
    · simp only [stepsLeft, List.length_append, List.length_singleton] at few ⊢
      omega
  | sends _ alive => exact absurd (dead.symm.trans alive) Bool.false_ne_true
  | closed at' =>
    rw [at'] at steps few
    refine ⟨dead, items, ?_, taken, ?_, ?_⟩
    · rw [count]
      simp only [stepsLeft, Action.isTask, if_true] at steps ⊢
      omega
    · rw [publishes]
      simp [Action.published?]
    · simp only [stepsLeft] at few ⊢
      omega
  | flushed at' =>
    rw [at'] at steps few
    refine ⟨dead, items, ?_, taken, ?_, ?_⟩
    · rw [count]
      simp only [stepsLeft, Action.isTask, if_true] at steps ⊢
      omega
    · rw [publishes]
      simp [Action.published?]
    · simp only [stepsLeft] at few ⊢
      omega
  | ready alive => exact absurd (dead.symm.trans alive) Bool.false_ne_true
  | ended alive => exact absurd (dead.symm.trans alive) Bool.false_ne_true
  | drop =>
    refine ⟨rfl, items, by rw [count]; exact steps, taken, ?_, few⟩
    rw [publishes]
    simp [Action.published?]

theorem run_afterDrop (dead : s.notifs.receiverAlive = false) (run : (system decode).Run s bs t) :
    AfterDrop s bs t := by
  refine run.invariant (I := fun bs t => AfterDrop s bs t) ⟨dead, rfl, ?_, [], ?_, ?_⟩
    fun _ _ _ _ after _ hnext => after.step (step_of_next hnext)
  · simp
  · simp [published]
  · simp only [List.length_nil]
    omega

/-- Without a receiver the task waits for nothing but the inner subscription. -/
theorem task_eq_none_iff (dead : s.notifs.receiverAlive = false) :
    s.task = none ↔ s.phase = .stopped ∨ s.phase = .receiving ∧ s.inner = [] := by
  cases at' : s.phase with
  | receiving =>
    rcases results : s.inner with _ | ⟨_ | _ | item, inner⟩ <;> simp [task, at', results]
  | sending item => simp [task, at', Queue.trySend, dead]
  | flushing => simp [task, at', dead]
  | stopped => simp [task, at']

/-- The task is never more than the messages of the channel ahead of the caller.  Once the caller
has dropped its stream it gets nothing more, and the task takes at most one more result, and stops
after at most three more steps, none of which waits for anything but the inner subscription. -/
theorem run_paced_dropped (run : (system decode).Run {} as t) :
    t.inFlight.length ≤ 11 ∧
    (t.notifs.receiverAlive = false → ∀ bs u, (system decode).Run t bs u →
      u.items = t.items ∧ stepsLeft u.phase + (bs.filter (·.isTask)).length ≤ 3 ∧
      (∃ taken, t.inner ++ published bs = taken ++ u.inner ∧ taken.length ≤ 1) ∧
      (u.task = none ↔ u.phase = .stopped ∨ u.phase = .receiving ∧ u.inner = [])) := by
  refine ⟨(run_paced run).inFlight_le, fun dead bs u rest => ?_⟩
  obtain ⟨dead', items, steps, taken, split, few⟩ := run_afterDrop dead rest
  have most : stepsLeft t.phase ≤ 3 := by
    cases t.phase <;> simp [stepsLeft]
  exact ⟨items, by omega, ⟨taken, split, by omega⟩, task_eq_none_iff dead'⟩

theorem run_paced_dropped_undecodable :
    ∃ t u : RpcSubscription Char Nat, (system decodeDigit).Run {} (undecodable ++ [.drop]) t ∧
      (system decodeDigit).Run t [.task, .task] u ∧ u.items = t.items ∧
        stepsLeft u.phase + 2 ≤ 3 := by
  obtain ⟨t, u, done, done', dead⟩ : ∃ t u : RpcSubscription Char Nat,
      (system decodeDigit).exec (fun _ _ _ => True) [] {} (undecodable ++ [.drop]) = some t ∧
        (system decodeDigit).exec (fun _ _ _ => True) [] t [.task, .task] = some u ∧
        t.notifs.receiverAlive = false := ⟨_, _, rfl, rfl, rfl⟩
  have run := System.RunIf.of_exec done
  obtain ⟨items, steps, -⟩ := (run_paced_dropped run).2 dead _ u (System.RunIf.of_exec done')
  exact ⟨t, u, run, System.RunIf.of_exec done', items, steps⟩

end RpcSubscription

end SubspaceSdk
