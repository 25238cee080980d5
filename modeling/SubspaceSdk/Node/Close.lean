import SubspaceSdk.Node.DomainTasks

/-! `Node::close`: the close of the node's domain, of its own destructors, and the task that drives
the node's task manager.  An error of the domain's close returns at once, and the node's destructors
are dropped instead of being awaited: the task is neither joined nor asked for its result. -/

namespace SubspaceSdk

open ProofKit

/-- The task that the node's destructor signals and joins. -/
inductive NodeTask where
  | taskManager
  deriving Repr, DecidableEq

inductive TaskManagerPhase where
  /-- In the `select!` over the drop signal, the task manager and the networking runner. -/
  | running
  | ended
  | panicked
  deriving Repr, DecidableEq

inductive NodeOwner where
  | held
  /-- `close` awaits the close of the domain. -/
  | closingDomain
  /-- `close` is in `async_drop`, and has polled the destructor or has not. -/
  | closing (signalled : Bool)
  | receiving
  | returned (result : Except String Unit)
  /-- The node, or the future of its `close`, was dropped, or `close` panicked. -/
  | dropped
  deriving Repr

structure Node (Info RpcHandlers : Type) where
  maybeDomain : Option (Domain Info RpcHandlers)
  taskManager : TaskManagerPhase := .running
  taskManagerResult : Oneshot (Except String (TaskOutput Unit String)) := {}
  taskManagerDrop : Oneshot Unit := {}
  owner : NodeOwner := .held
  /-- What became of the node's destructors. -/
  tornDown : List (Teardown Empty NodeTask Empty) := []

namespace Node

variable {Info RpcHandlers : Type} {n after : Node Info RpcHandlers}

/-- The destructors that `Config::build` registers. -/
def destructors : List (Registration Empty NodeTask Empty) := [.async .taskManager]

/-- The node that `Config::build` makes. -/
def new (maybeDomainId : Option Nat) : Node Info RpcHandlers where
  maybeDomain := maybeDomainId.map fun domainId => { domainId := domainId }

inductive Action (Info RpcHandlers : Type) where
  /-- A step of the domain's tasks, or of its `close`. -/
  | domain (a : Domain.Action Info RpcHandlers)
  | dropSignalled
  /-- The task manager's future ends, with the text of its error. -/
  | finished (result : Except String Unit)
  | networkingExited
  | taskManagerPanics
  | close
  /-- The close of the domain has ended, and that of the node goes on. -/
  | domainClosed
  | signal
  | join
  | receive
  | abandon

/-- The step of a domain that its owner, the node, takes. -/
def isOwners : Domain.Action Info RpcHandlers → Bool
  | .close | .abandon => true
  | _ => false

/-- An arm of the `select!` sends its result, and the task ends. -/
def endTaskManager (n : Node Info RpcHandlers)
    (result : Except String (TaskOutput Unit String)) : Node Info RpcHandlers :=
  { n with
    taskManagerResult := n.taskManagerResult.send result
    taskManager := .ended }

/-- The destructors are dropped, and the sender of the drop signal with them. -/
def dropDestructors (n : Node Info RpcHandlers) : Node Info RpcHandlers :=
  { n with
    taskManagerDrop := n.taskManagerDrop.dropSender
    tornDown := n.tornDown ++ [.cancelled .taskManager] }

/-- What `close` does with the end of the domain's close. -/
def domainClosed (n : Node Info RpcHandlers) : DomainOwner → Option (Node Info RpcHandlers)
  | .returned (.ok ()) => some { n with owner := .closing false }
  | .returned (.error e) => some { n.dropDestructors with owner := .returned (.error e) }
  | .dropping true _ => some { n.dropDestructors with owner := .dropped }
  | _ => none

def next (n : Node Info RpcHandlers) : Action Info RpcHandlers → Option (Node Info RpcHandlers)
  | .domain a =>
    match n.maybeDomain, isOwners a with
    | some domain, false =>
      match domain.next a with
      | some domain => some { n with maybeDomain := some domain }
      | none => none
    | _, _ => none
  | .dropSignalled =>
    match n.taskManager, n.taskManagerDrop.arrived with
    | .running, true => some (n.endTaskManager
        (.ok (.cancelled "received drop signal for task manager")))
    | _, _ => none
  | .finished result =>
    match n.taskManager with
    | .running => some (n.endTaskManager (result.map TaskOutput.value))
    | _ => none
  | .networkingExited =>
    match n.taskManager with
    | .running => some (n.endTaskManager (.ok (.value ())))
    | _ => none
  | .taskManagerPanics =>
    match n.taskManager with
    | .running => some { n with
        taskManagerResult := n.taskManagerResult.dropSender, taskManager := .panicked }
    | _ => none
  | .close =>
    match n.owner, n.maybeDomain with
    | .held, none => some { n with owner := .closing false }
    | .held, some domain =>
      match domain.next .close with
      | some domain => some { n with maybeDomain := some domain, owner := .closingDomain }
      | none => none
    | _, _ => none
  | .domainClosed =>
    match n.owner, n.maybeDomain with
    | .closingDomain, some domain => n.domainClosed domain.owner
    | _, _ => none
  | .signal =>
    match n.owner with
    | .closing false =>
      some { n with taskManagerDrop := n.taskManagerDrop.send (), owner := .closing true }
    | _ => none
  | .join =>
    match n.owner, n.taskManager with
    | .closing true, .ended =>
      some { n with tornDown := n.tornDown ++ [.awaited .taskManager], owner := .receiving }
    | .closing true, .panicked =>
      some { n with tornDown := n.tornDown ++ [.cancelled .taskManager], owner := .dropped }
    | _, _ => none
  | .receive =>
    match n.owner, n.taskManagerResult.poll with
    | .receiving, some output => some { n with owner := .returned (Domain.verdict output) }
    | _, _ => none
  | .abandon =>
    match n.owner with
    | .returned _ | .dropped => none
    | .receiving => some { n with owner := .dropped }
    | _ => some { n.dropDestructors with
        maybeDomain := n.maybeDomain.map fun domain => (domain.next .abandon).getD domain
        owner := .dropped }

variable (Info RpcHandlers) in
def system : System (Node Info RpcHandlers) (Action Info RpcHandlers) := ⟨next⟩

/-- `async_drop` awaits the node's destructor, and the drop of the set drops it un-awaited. -/
theorem destructors_teardown (name : String) :
    (∀ polls, DestructorSet.completes 1 polls = true →
      ((DestructorSet.new name).registerAll destructors).2.asyncDrop polls =
        .ok ([.awaited .taskManager], .returned (.ok ()))) ∧
    ((DestructorSet.new name).registerAll destructors).2.drop =
      .ok [.cancelled .taskManager] :=
  ⟨fun _ all => DestructorSet.registerAll_asyncDrop name destructors all,
    DestructorSet.registerAll_drop name destructors⟩

/-- All that an action can do to a node. -/
inductive Step (n : Node Info RpcHandlers) : Node Info RpcHandlers → Prop
  | domain (domain domain' : Domain Info RpcHandlers) (a : Domain.Action Info RpcHandlers)
      (is : n.maybeDomain = some domain) (does : domain.next a = some domain') :
      Step n { n with maybeDomain := some domain' }
  | ends (running : n.taskManager = .running)
      (result : Except String (TaskOutput Unit String)) : Step n (n.endTaskManager result)
  | panics (running : n.taskManager = .running) : Step n { n with
      taskManagerResult := n.taskManagerResult.dropSender, taskManager := .panicked }
  | closes (at' : n.owner = .held) (none : n.maybeDomain = none) :
      Step n { n with owner := .closing false }
  | closesDomain (at' : n.owner = .held) (domain : Domain Info RpcHandlers) :
      Step n { n with maybeDomain := some domain, owner := .closingDomain }
  | domainClosed (at' : n.owner = .closingDomain) (domain : Domain Info RpcHandlers)
      (is : n.maybeDomain = some domain) (returned : domain.owner = .returned (.ok ())) :
      Step n { n with owner := .closing false }
  | domainFailed (at' : n.owner = .closingDomain) (domain : Domain Info RpcHandlers)
      (is : n.maybeDomain = some domain) (e : String)
      (returned : domain.owner = .returned (.error e)) :
      Step n { n.dropDestructors with owner := .returned (.error e) }
  | signal (at' : n.owner = .closing false) :
      Step n { n with taskManagerDrop := n.taskManagerDrop.send (), owner := .closing true }
  | joins (at' : n.owner = .closing true) (ended : n.taskManager = .ended) :
      Step n { n with tornDown := n.tornDown ++ [.awaited .taskManager], owner := .receiving }
  | receives (at' : n.owner = .receiving)
      (output : Except Unit (Except String (TaskOutput Unit String)))
      (poll : n.taskManagerResult.poll = some output) :
      Step n { n with owner := .returned (Domain.verdict output) }
  | drops (maybeDomain : Option (Domain Info RpcHandlers)) (drop : Oneshot Unit)
      (tornDown : List (Teardown Empty NodeTask Empty)) :
      Step n { n with maybeDomain := maybeDomain, taskManagerDrop := drop,
                      tornDown := tornDown, owner := .dropped }

theorem domainClosed_step {domain : Domain Info RpcHandlers} (at' : n.owner = .closingDomain)
    (is : n.maybeDomain = some domain) (h : n.domainClosed domain.owner = some after) :
    Step n after := by
  unfold domainClosed at h
  split at h
  · rename_i returned
    cases h
    exact .domainClosed at' domain is returned
  · rename_i e returned
    cases h
    exact .domainFailed at' domain is e returned
  · cases h
    exact .drops n.maybeDomain _ _
  · cases h

theorem step_of_next {a : Action Info RpcHandlers} (h : n.next a = some after) :
    Step n after := by
  cases a with
  | domain a =>
    simp only [next] at h
    split at h
    · rename_i domain is _
      split at h
      · rename_i domain' does
        cases h
        exact .domain domain domain' a is does
      · cases h
    · cases h
  | dropSignalled =>
    simp only [next] at h
    split at h
    · rename_i running _
      cases h
      exact .ends running _
    · cases h
  | finished result =>
    simp only [next] at h
    split at h
    · rename_i running
      cases h
      exact .ends running _
    · cases h
  | networkingExited =>
    simp only [next] at h
    split at h
    · rename_i running
      cases h
      exact .ends running _
    · cases h
  | taskManagerPanics =>
    simp only [next] at h
    split at h
    · rename_i running
      cases h
      exact .panics running
    · cases h
  | close =>
    simp only [next] at h
    split at h
    · rename_i at' none
      cases h
      exact .closes at' none
    · rename_i domain at' is
      split at h
      · cases h
        exact .closesDomain at' _
      · cases h
    · cases h
  | domainClosed =>
    simp only [next] at h
    split at h
    · rename_i domain at' is
      exact domainClosed_step at' is h
    · cases h
  | signal =>
    simp only [next] at h
    split at h
    · rename_i at'
      cases h
      exact .signal at'
    · cases h
  | join =>
    simp only [next] at h
    split at h
    · rename_i at' ended
      cases h
      exact .joins at' ended
    · cases h
      exact .drops n.maybeDomain n.taskManagerDrop _
    · cases h
  | receive =>
    simp only [next] at h
    split at h
    · rename_i output at' poll
      cases h
      exact .receives at' output poll
    · cases h
  | abandon =>
    simp only [next] at h
    split at h
    · cases h
    · cases h
    · cases h
      exact .drops n.maybeDomain n.taskManagerDrop n.tornDown
    · cases h
      exact .drops _ _ _

/-! ### What holds in every run -/

/-- The domain's close has returned an error. -/
def DomainFailed (n : Node Info RpcHandlers) : Prop :=
  ∃ domain e, n.maybeDomain = some domain ∧ domain.owner = .returned (.error e)

/-- The domain, where there is one, was closed without an error. -/
def DomainClosed (n : Node Info RpcHandlers) : Prop :=
  ∀ domain, n.maybeDomain = some domain → domain.owner = .returned (.ok ())

/-- The task manager's task, by its phase: one result once it ended, and none before. -/
def TaskManagerSends (n : Node Info RpcHandlers) : Prop :=
  match n.taskManager with
  | .ended => ∃ result, n.taskManagerResult.sent = [result]
  | _ => n.taskManagerResult.sent = []

/-- The task manager's task was signalled and joined, and has sent `result`. -/
structure ShutDown (n : Node Info RpcHandlers) (result : Except String (TaskOutput Unit String)) :
    Prop where
  tornDown : n.tornDown = [.awaited .taskManager]
  signalled : n.taskManagerDrop.sent = [()]
  ended : n.taskManager = .ended
  sent : n.taskManagerResult.sent = [result]

/-- What `close` has done, where it stands. -/
inductive Stands (n : Node Info RpcHandlers) : NodeOwner → Prop
  | held (none : n.tornDown = []) (silent : n.taskManagerDrop.sent = []) : Stands n .held
  | closingDomain (none : n.tornDown = []) (silent : n.taskManagerDrop.sent = []) :
      Stands n .closingDomain
  | closing (signalled : Bool) (closed : DomainClosed n) (none : n.tornDown = [])
      (sent : n.taskManagerDrop.sent = if signalled then [()] else []) :
      Stands n (.closing signalled)
  | receiving (closed : DomainClosed n) (result : Except String (TaskOutput Unit String))
      (shutDown : ShutDown n result) : Stands n .receiving
  | returned (closed : DomainClosed n) (result : Except String (TaskOutput Unit String))
      (shutDown : ShutDown n result) : Stands n (.returned (Domain.verdict (.ok result)))
  | failed (failed : DomainFailed n) (e : String)
      (tornDown : n.tornDown = [.cancelled .taskManager]) :
      Stands n (.returned (.error e))
  | dropped : Stands n .dropped

/-- A domain whose `close` has returned keeps the result. -/
theorem returned_of_next {domain domain' : Domain Info RpcHandlers}
    {a : Domain.Action Info RpcHandlers} {result : Except String Unit}
    (h : domain.next a = some domain') (returned : domain.owner = .returned result) :
    domain'.owner = .returned result := by
  cases Domain.step_of_next h with
  | close at' | signal _ _ at' | joined _ _ at' | joinPanics _ _ at' | received at'
  | dropNext _ _ _ at' => simp [returned] at at'
  | abandon todo left => simp [returned, Domain.leftToDrop] at left
  | _ => exact returned

theorem TaskManagerSends.none (sends : TaskManagerSends n) (running : n.taskManager = .running) :
    n.taskManagerResult.sent = [] := by
  rwa [TaskManagerSends, running] at sends

theorem TaskManagerSends.step (sends : TaskManagerSends n) (step : Step n after) :
    TaskManagerSends after := by
  cases step with
  | ends running result =>
    refine ⟨result, ?_⟩
    rw [endTaskManager, Oneshot.sent_send, sends.none running, List.nil_append]
  | panics running => exact sends.none running
  | _ => exact sends

theorem ShutDown.domain {result : Except String (TaskOutput Unit String)}
    {maybeDomain : Option (Domain Info RpcHandlers)} (shutDown : ShutDown n result) :
    ShutDown { n with maybeDomain := maybeDomain } result :=
  ⟨shutDown.tornDown, shutDown.signalled, shutDown.ended, shutDown.sent⟩

theorem Stands.domain {owner : NodeOwner} {domain domain' : Domain Info RpcHandlers}
    {a : Domain.Action Info RpcHandlers} (stands : Stands n owner)
    (is : n.maybeDomain = some domain) (does : domain.next a = some domain') :
    Stands { n with maybeDomain := some domain' } owner := by
  have closed : DomainClosed n → DomainClosed { n with maybeDomain := some domain' } := by
    rintro closed _ ⟨⟩
    exact returned_of_next does (closed domain is)
  cases stands with
  | held none silent => exact .held none silent
  | closingDomain none silent => exact .closingDomain none silent
  | closing signalled was none sent => exact .closing signalled (closed was) none sent
  | receiving was result shutDown => exact .receiving (closed was) result shutDown.domain
  | returned was result shutDown => exact .returned (closed was) result shutDown.domain
  | failed failed e tornDown =>
    obtain ⟨_, e', is', returned⟩ := failed
    rw [is] at is'
    cases is'
    exact .failed ⟨domain', e', rfl, returned_of_next does returned⟩ e tornDown
  | dropped => exact .dropped

/-- A task that ends was running, so no `close` had joined it. -/
theorem Stands.running {owner : NodeOwner} {phase : TaskManagerPhase}
    {results : Oneshot (Except String (TaskOutput Unit String))} (stands : Stands n owner)
    (running : n.taskManager = .running) :
    Stands { n with taskManagerResult := results, taskManager := phase } owner := by
  cases stands with
  | held none silent => exact .held none silent
  | closingDomain none silent => exact .closingDomain none silent
  | closing signalled closed none sent => exact .closing signalled closed none sent
  | receiving closed result shutDown => simp [shutDown.ended] at running
  | returned closed result shutDown => simp [shutDown.ended] at running
  | failed failed e tornDown =>
    refine .failed ?_ e tornDown
    exact failed
  | dropped => exact .dropped

theorem Stands.step (stands : Stands n n.owner) (sends : TaskManagerSends n)
    (step : Step n after) : Stands after after.owner := by
  cases step with
  | domain domain domain' a is does => exact stands.domain is does
  | ends running => exact stands.running running
  | panics running => exact stands.running running
  | closes at' noDomain =>
    rw [at'] at stands
    cases stands with
    | held none silent =>
      refine .closing false (fun domain is => ?_) none silent
      rw [show n.maybeDomain = some domain from is] at noDomain
      cases noDomain
  | closesDomain at' =>
    rw [at'] at stands
    cases stands with
    | held none silent => exact .closingDomain none silent
  | domainClosed at' domain is returned =>
    rw [at'] at stands
    cases stands with
    | closingDomain none silent =>
      refine .closing false (fun other same => ?_) none silent
      cases is.symm.trans same
      exact returned
  | domainFailed at' domain is e returned =>
    rw [at'] at stands
    cases stands with
    | closingDomain none silent =>
      refine .failed ?_ e ?_
      · exact ⟨domain, e, is, returned⟩
      · rw [dropDestructors, none]
        rfl
  | signal at' =>
    rw [at'] at stands
    cases stands with
    | closing _ closed none sent =>
      refine .closing true closed none ?_
      rw [Oneshot.sent_send, sent]
      rfl
  | joins at' ended =>
    rw [at'] at stands
    cases stands with
    | closing _ closed none sent =>
      rw [TaskManagerSends, ended] at sends
      obtain ⟨result, one⟩ := sends
      exact .receiving closed result ⟨by rw [none]; rfl, sent, ended, one⟩
  | receives at' output poll =>
    rw [at'] at stands
    cases stands with
    | receiving closed result shutDown =>
      rw [Oneshot.poll_of_sent shutDown.sent] at poll
      cases poll
      refine .returned ?_ result
        ⟨shutDown.tornDown, shutDown.signalled, shutDown.ended, shutDown.sent⟩
      exact closed
  | drops => exact .dropped

theorem run_stands {maybeDomainId : Option Nat} {as : List (Action Info RpcHandlers)}
    (run : (system Info RpcHandlers).Run (new maybeDomainId) as n) : Stands n n.owner := by
  have both := run.invariant (I := fun _ n => TaskManagerSends n ∧ Stands n n.owner)
    ⟨rfl, .held rfl rfl⟩ ?_
  · exact both.2
  rintro as t a u ⟨sends, stands⟩ _ hnext
  have step := step_of_next hnext
  exact ⟨sends.step step, stands.step sends step⟩

/-! ### The close -/

/-- `close` has completed the node's own shutdown: the task manager's task was signalled and joined,
has sent one result, and `close` returns an error where the domain's close or that result is one. -/
structure CompletesShutdown (n : Node Info RpcHandlers) (result : Except String Unit) : Prop where
  tornDown : n.tornDown = [.awaited .taskManager]
  signalled : n.taskManagerDrop.sent = [()]
  joined : n.taskManager = .ended
  result : ∃ sent, n.taskManagerResult.sent = [sent] ∧
    ((∃ e, result = .error e) ↔ DomainFailed n ∨ ∃ e, sent = .error e)

theorem verdict_error (result : Except String (TaskOutput Unit String)) :
    (∃ e, Domain.verdict (.ok result) = .error e) ↔ ∃ e, result = .error e := by
  match result with
  | .error e => simp [Domain.verdict]
  | .ok (.value ()) => simp [Domain.verdict]
  | .ok (.cancelled reason) => simp [Domain.verdict]

/-- `close` completes the node's own shutdown exactly where the close of its domain, if it has one,
did not return an error. -/
theorem completesShutdown_iff {maybeDomainId : Option Nat} {as : List (Action Info RpcHandlers)}
    {result : Except String Unit} (run : (system Info RpcHandlers).Run (new maybeDomainId) as n)
    (returned : n.owner = .returned result) :
    CompletesShutdown n result ↔ ¬ DomainFailed n := by
  have stands := run_stands run
  rw [returned] at stands
  cases stands with
  | returned closed sent shutDown =>
    have fine : ¬ DomainFailed n := by
      rintro ⟨domain, e, is, failed⟩
      rw [closed domain is] at failed
      cases failed
    refine iff_of_true ?_ fine
    refine ⟨shutDown.tornDown, shutDown.signalled, shutDown.ended, sent, shutDown.sent, ?_⟩
    rw [verdict_error]
    exact ⟨.inr, (·.resolve_left fine)⟩
  | failed failed e tornDown =>
    refine iff_of_false (fun complete => ?_) (not_not_intro failed)
    rw [complete.tornDown] at tornDown
    cases tornDown

/-- The task manager has failed, and `close` stops the bootstrapping of the domain. -/
def closedBootstrapping : List (Action Unit Unit) :=
  [.domain .startBootstrapping, .finished (.error "out of memory"), .close, .domain .signal,
    .domain .droppedWhileBootstrapping, .domain .join, .domain .signal,
    .domain .bootstrappingDropped, .domain .join, .domain .receive, .domainClosed, .signal, .join,
    .receive]

theorem completesShutdown_iff_closed_domain : ∃ n e,
    (system Unit Unit).Run (new (some 0)) closedBootstrapping n ∧
      n.owner = .returned (.error e) ∧ CompletesShutdown n (.error e) := by
  obtain ⟨n, e, domain, done, returned, is, closed⟩ : ∃ n e domain,
      (system Unit Unit).exec (fun _ _ _ => True) [] (new (some 0)) closedBootstrapping = some n ∧
        n.owner = .returned (.error e) ∧ n.maybeDomain = some domain ∧
        domain.owner = .returned (.ok ()) := ⟨_, _, _, rfl, rfl, rfl, rfl⟩
  have run := System.RunIf.of_exec done
  refine ⟨n, e, run, returned, (completesShutdown_iff run returned).mpr ?_⟩
  rintro ⟨domain', e, is', failed⟩
  rw [is] at is'
  cases is'
  rw [closed] at failed
  cases failed

/-- The bootstrapping of the domain failed before: `close` returns that error while the task
manager's task runs, and drops its destructor. -/
theorem failed_domain_leaves_taskManager : ∃ as n e,
    (system Unit Unit).Run (new (some 0)) as n ∧ n.owner = .returned (.error e) ∧
      n.tornDown = [.cancelled .taskManager] ∧ n.taskManager = .running ∧
      n.taskManagerResult.sent = [] ∧ ¬ CompletesShutdown n (.error e) := by
  obtain ⟨n, done, e, returned, tornDown, running, sent⟩ : ∃ n,
      (system Unit Unit).exec (fun _ _ _ => True) [] (new (some 0))
        [.domain .startBootstrapping, .domain (.fetched (.error "gone")),
          .domain .bootstrapReceived, .close, .domain .signal, .domain .join, .domain .signal,
          .domain .join, .domain .receive, .domainClosed] = some n ∧
      ∃ e, n.owner = .returned (.error e) ∧ n.tornDown = [.cancelled .taskManager] ∧
        n.taskManager = .running ∧ n.taskManagerResult.sent = [] :=
    ⟨_, rfl, _, rfl, rfl, rfl, rfl⟩
  refine ⟨_, n, e, System.RunIf.of_exec done, returned, tornDown, running, sent, ?_⟩
  intro complete
  rw [complete.joined] at running
  cases running

end Node

end SubspaceSdk
