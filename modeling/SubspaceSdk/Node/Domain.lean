import SubspaceSdk.ProofKit.Channel
import SubspaceSdk.ProofKit.Transition
import SubspaceSdk.Utils.Teardown

/-! A domain node: the bootstrapping task, the runner task, the task that drives the domain once it
was prepared, and the owner that closes or drops the domain.  The tasks interleave freely, and what
the code outside gives them is part of the action.  A `select` takes either arm that is ready: the
first may become ready after it was polled. -/

namespace SubspaceSdk

open ProofKit

/-- Progress of a domain. -/
inductive DomainBuildingProgress where
  | default
  | buildingStarted
  | bootstrapped
  | preparingToStart
  | starting
  deriving Repr, DecidableEq

/-- The tasks that the destructors of a domain signal and join. -/
inductive DomainTask where
  | bootstrapper
  | runner
  deriving Repr, DecidableEq

inductive BootstrapperPhase where
  | spawned
  /-- The `select` over `fetch_domain_bootstrap_info` and the drop signal. -/
  | fetching
  | ended
  | panicked
  deriving Repr, DecidableEq

/-- The exits of the runner task. -/
inductive RunnerExit where
  | bootstrapCancelled (reason : String)
  | bootstrapFailed (bootstrapError : String)
  | bootstrapperGone (recvErr : String)
  | droppedWhileBootstrapping
  | specFailed (domainSpecCreationError : String)
  | prepareFailed (startError : String)
  | completed
  | runFailed (runError : String)
  | joinFailed (joinError : String)
  | droppedWhileRunning
  deriving Repr, DecidableEq

/-- What the runner task sends at an exit. -/
def RunnerExit.message (domainId : Nat) : RunnerExit → Except String (TaskOutput Unit String)
  | .bootstrapCancelled reason => .ok (.cancelled
      (s!"Bootstrapping task was cancelled for reason: {reason.quote} for domain_id: " ++
        s!"{domainId}. exiting..."))
  | .bootstrapFailed bootstrapError => .error
      (s!"received an error from domain bootstrapper for domain id: {domainId}  error: " ++
        bootstrapError)
  | .bootstrapperGone recvErr => .error
      (s!"unable to receive message from domain bootstrapper for domain id: {domainId} due to " ++
        s!"an error: {recvErr}")
  | .droppedWhileBootstrapping => .ok (.cancelled
      ("received cancellation signal while waiting for bootstrapping result for domain: " ++
        s!"{domainId}."))
  | .specFailed domainSpecCreationError => .error
      (s!"Error while creating domain spec for the domain: {domainId} Error: " ++
        domainSpecCreationError)
  | .prepareFailed startError => .error
      (s!"Error while preparing to start domain for the domain id: {domainId} Error: " ++
        startError)
  | .completed => .ok (.value ())
  | .runFailed runError => .error
      s!"received an error while trying to run the domain id: {domainId}  error: {runError}"
  | .joinFailed joinError => .error
      (s!"unable to join domain runner for domain id: {domainId} due to an error: " ++ joinError)
  | .droppedWhileRunning => .ok (.cancelled
      s!"Received cancellation signal while waiting for domain runner for domain: {domainId}.")

inductive RunnerPhase (RpcHandlers : Type) where
  /-- The `select` over the bootstrapping result and the drop signal. -/
  | awaitingBootstrap
  | bootstrapped
  | creatingSpec
  | configuring
  | configured
  | preparing
  | publishing (rpcHandler : RpcHandlers)
  | starting
  /-- The `select` over the handle of the start task and the drop signal. -/
  | running
  | ended (exit : RunnerExit)
  | panicked
  deriving Repr, DecidableEq

/-- The task that `prepare_for_start` spawns, with the result of its join handle: a join error, or
what the domain's task manager returned. -/
inductive StartDomain where
  | absent
  | running
  | ended (wrappedResult : Except String (Except String Unit))
  deriving Repr

inductive DomainOwner where
  | held
  /-- `close` is in `async_drop`, and has signalled the first task that is left or has not. -/
  | closing (todo : List DomainTask) (signalled : Bool)
  | receiving
  | returned (result : Except String Unit)
  /-- The destructors that are left are dropped: `close` panicked, or was dropped like the domain
  itself. -/
  | dropping (panicked : Bool) (todo : List DomainTask)
  deriving Repr

structure Domain (Info RpcHandlers : Type) where
  domainId : Nat
  currentBuildingProgress : DomainBuildingProgress := .default
  rpcHandlers : Option RpcHandlers := none
  bootstrapper : BootstrapperPhase := .spawned
  bootstrappingResult : Oneshot (Except String (TaskOutput Info String)) := {}
  bootstrappingWorkerDrop : Oneshot Unit := {}
  runner : RunnerPhase RpcHandlers := .awaitingBootstrap
  domainRunnerResult : Oneshot (Except String (TaskOutput Unit String)) := {}
  domainRunnerDrop : Oneshot Unit := {}
  startDomain : StartDomain := .absent
  owner : DomainOwner := .held

namespace Domain

variable {Info RpcHandlers : Type}

/-- The destructors that `DomainConfig::build` registers. -/
def destructors : List (Registration Empty DomainTask Empty) :=
  [.async .bootstrapper, .async .runner]

/-- The tasks in the order in which the destructors are torn down. -/
def teardownOrder : List DomainTask := [.runner, .bootstrapper]

/-- The text of a receive error. -/
def recvError : String := "channel closed"

inductive Action (Info RpcHandlers : Type) where
  | startBootstrapping
  /-- `fetch_domain_bootstrap_info` returns, with the text of its error. -/
  | fetched (result : Except String Info)
  | bootstrappingDropped
  | bootstrapperPanics
  | bootstrapReceived
  | droppedWhileBootstrapping
  /-- The runner gets the lock that it waits for. -/
  | lockAcquired
  | specCreated (domainSpecResult : Except String Unit)
  | configured
  | prepared (maybeStartData : Except String RpcHandlers)
  | startDomainEnded (wrappedResult : Except String (Except String Unit))
  | domainJoined
  | droppedWhileRunning
  | runnerPanics
  | close
  /-- `close` polls the next destructor, which sends its drop signal. -/
  | signal
  | join
  | receive
  /-- The domain, or the future of its `close`, is dropped. -/
  | abandon
  | dropNext

/-- The bootstrapping task sends its result and ends. -/
def endBootstrapper (d : Domain Info RpcHandlers)
    (result : Except String (TaskOutput Info String)) : Domain Info RpcHandlers :=
  { d with
    bootstrappingResult := d.bootstrappingResult.send result
    bootstrapper := .ended }

/-- The runner task sends its message and returns. -/
def exit (d : Domain Info RpcHandlers) (exit : RunnerExit) : Domain Info RpcHandlers :=
  { d with
    domainRunnerResult := d.domainRunnerResult.send (exit.message d.domainId)
    runner := .ended exit }

/-- The message for the text of an error of `fetch_domain_bootstrap_info`. -/
def bootstrapResult (domainId : Nat) : Except String Info → Except String (TaskOutput Info String)
  | .ok info => .ok (.value info)
  | .error bootstrappingError =>
    .error s!"Error while bootstrapping the domain:{domainId} : {bootstrappingError}"

/-- The left arm of the runner's first `select`. -/
def receiveBootstrap (d : Domain Info RpcHandlers) :
    Except Unit (Except String (TaskOutput Info String)) → Domain Info RpcHandlers
  | .ok (.ok (.value _)) => { d with runner := .bootstrapped }
  | .ok (.ok (.cancelled reason)) => d.exit (.bootstrapCancelled reason)
  | .ok (.error bootstrapError) => d.exit (.bootstrapFailed bootstrapError)
  | .error () => d.exit (.bootstrapperGone recvError)

/-- The left arm of the runner's second `select`. -/
def joinExit : Except String (Except String Unit) → RunnerExit
  | .ok (.ok ()) => .completed
  | .ok (.error runError) => .runFailed runError
  | .error joinError => .joinFailed joinError

/-- How a task that the destructors join ended, where it did: whether it panicked. -/
def joined (d : Domain Info RpcHandlers) : DomainTask → Option Bool
  | .bootstrapper =>
    match d.bootstrapper with
    | .ended => some false
    | .panicked => some true
    | _ => none
  | .runner =>
    match d.runner with
    | .ended _ => some false
    | .panicked => some true
    | _ => none

/-- A destructor that is polled sends the drop signal of its task. -/
def sendSignal (d : Domain Info RpcHandlers) : DomainTask → Domain Info RpcHandlers
  | .bootstrapper => { d with bootstrappingWorkerDrop := d.bootstrappingWorkerDrop.send () }
  | .runner => { d with domainRunnerDrop := d.domainRunnerDrop.send () }

/-- A destructor that is dropped drops the sender of the drop signal of its task. -/
def dropSignal (d : Domain Info RpcHandlers) : DomainTask → Domain Info RpcHandlers
  | .bootstrapper => { d with bootstrappingWorkerDrop := d.bootstrappingWorkerDrop.dropSender }
  | .runner => { d with domainRunnerDrop := d.domainRunnerDrop.dropSender }

/-- The drop signal of a task resolves. -/
def signalled (d : Domain Info RpcHandlers) : DomainTask → Bool
  | .bootstrapper => d.bootstrappingWorkerDrop.arrived
  | .runner => d.domainRunnerDrop.arrived

/-- What `close` does once the first destructors completed. -/
def proceed : List DomainTask → DomainOwner
  | [] => .receiving
  | task :: rest => .closing (task :: rest) false

/-- The destructors that are dropped with the domain, or with the future of its `close`; the one
that `close` has polled is past its signal. -/
def leftToDrop : DomainOwner → Option (List DomainTask)
  | .held => some teardownOrder
  | .closing todo false => some todo
  | .closing todo true => some todo.tail
  | .receiving => some []
  | _ => none

/-- What `close` returns for what it received. -/
def verdict : Except Unit (Except String (TaskOutput Unit String)) → Except String Unit
  | .error () => .error recvError
  | .ok (.error error) => .error error
  | .ok (.ok (.value ())) => .ok ()
  | .ok (.ok (.cancelled _)) => .ok ()

/-- The lock that the runner waits for, and what it writes under it. -/
def lockAcquired (d : Domain Info RpcHandlers) : Option (Domain Info RpcHandlers) :=
  match d.runner with
  | .bootstrapped =>
    some { d with currentBuildingProgress := .bootstrapped, runner := .creatingSpec }
  | .configured =>
    some { d with currentBuildingProgress := .preparingToStart, runner := .preparing }
  | .publishing rpcHandler => some { d with rpcHandlers := some rpcHandler, runner := .starting }
  | .starting => some { d with currentBuildingProgress := .starting, runner := .running }
  | _ => none

def next (d : Domain Info RpcHandlers) :
    Action Info RpcHandlers → Option (Domain Info RpcHandlers)
  | .startBootstrapping =>
    match d.bootstrapper with
    | .spawned => some { d with currentBuildingProgress := .buildingStarted
                                bootstrapper := .fetching }
    | _ => none
  | .fetched result =>
    match d.bootstrapper with
    | .fetching => some (d.endBootstrapper (bootstrapResult d.domainId result))
    | _ => none
  | .bootstrappingDropped =>
    match d.bootstrapper, d.signalled .bootstrapper with
    | .fetching, true => some (d.endBootstrapper (.ok (.cancelled
        s!"received cancellation signal while bootstrapping the domain: {d.domainId}.")))
    | _, _ => none
  | .bootstrapperPanics =>
    match d.joined .bootstrapper with
    | none => some { d with bootstrappingResult := d.bootstrappingResult.dropSender
                            bootstrapper := .panicked }
    | some _ => none
  | .bootstrapReceived =>
    match d.runner, d.bootstrappingResult.poll with
    | .awaitingBootstrap, some received => some (d.receiveBootstrap received)
    | _, _ => none
  | .droppedWhileBootstrapping =>
    match d.runner, d.signalled .runner with
    | .awaitingBootstrap, true => some (d.exit .droppedWhileBootstrapping)
    | _, _ => none
  | .lockAcquired => d.lockAcquired
  | .specCreated domainSpecResult =>
    match d.runner, domainSpecResult with
    | .creatingSpec, .ok () => some { d with runner := .configuring }
    | .creatingSpec, .error error => some (d.exit (.specFailed error))
    | _, _ => none
  | .configured =>
    match d.runner with
    | .configuring => some { d with runner := .configured }
    | _ => none
  | .prepared maybeStartData =>
    match d.runner, maybeStartData with
    | .preparing, .ok rpcHandler =>
      some { d with startDomain := .running, runner := .publishing rpcHandler }
    | .preparing, .error error => some (d.exit (.prepareFailed error))
    | _, _ => none
  | .startDomainEnded wrappedResult =>
    match d.startDomain with
    | .running => some { d with startDomain := .ended wrappedResult }
    | _ => none
  | .domainJoined =>
    match d.runner, d.startDomain with
    | .running, .ended wrappedResult => some (d.exit (joinExit wrappedResult))
    | _, _ => none
  | .droppedWhileRunning =>
    match d.runner, d.signalled .runner with
    | .running, true => some (d.exit .droppedWhileRunning)
    | _, _ => none
  | .runnerPanics =>
    match d.joined .runner with
    | none => some { d with domainRunnerResult := d.domainRunnerResult.dropSender
                            runner := .panicked }
    | some _ => none
  | .close =>
    match d.owner with
    | .held => some { d with owner := .closing teardownOrder false }
    | _ => none
  | .signal =>
    match d.owner with
    | .closing (task :: rest) false =>
      some { d.sendSignal task with owner := .closing (task :: rest) true }
    | _ => none
  | .join =>
    match d.owner with
    | .closing (task :: rest) true =>
      match d.joined task with
      | some false => some { d with owner := proceed rest }
      | some true => some { d with owner := .dropping true rest }
      | none => none
    | _ => none
  | .receive =>
    match d.owner, d.domainRunnerResult.poll with
    | .receiving, some output => some { d with owner := .returned (verdict output) }
    | _, _ => none
  | .abandon =>
    match leftToDrop d.owner with
    | some todo => some { d with owner := .dropping false todo }
    | none => none
  | .dropNext =>
    match d.owner with
    | .dropping panicked (task :: rest) =>
      some { d.dropSignal task with owner := .dropping panicked rest }
    | _ => none

variable (Info RpcHandlers) in
def system : System (Domain Info RpcHandlers) (Action Info RpcHandlers) := ⟨next⟩

/-- All that an action can do to a domain. -/
inductive Step (d : Domain Info RpcHandlers) :
    Action Info RpcHandlers → Domain Info RpcHandlers → Prop
  | startBootstrapping (at' : d.bootstrapper = .spawned) :
      Step d .startBootstrapping
        { d with currentBuildingProgress := .buildingStarted, bootstrapper := .fetching }
  | fetched (at' : d.bootstrapper = .fetching) (result : Except String Info) :
      Step d (.fetched result) (d.endBootstrapper (bootstrapResult d.domainId result))
  | bootstrappingDropped (at' : d.bootstrapper = .fetching)
      (signalled : d.signalled .bootstrapper = true) (reason : String) :
      Step d .bootstrappingDropped (d.endBootstrapper (.ok (.cancelled reason)))
  | bootstrapperPanics (isOver : d.joined .bootstrapper = none) :
      Step d .bootstrapperPanics { d with
        bootstrappingResult := d.bootstrappingResult.dropSender, bootstrapper := .panicked }
  | bootstrapReceived (at' : d.runner = .awaitingBootstrap) (info : Info)
      (poll : d.bootstrappingResult.poll = some (.ok (.ok (.value info)))) :
      Step d .bootstrapReceived { d with runner := .bootstrapped }
  | bootstrapRefused (at' : d.runner = .awaitingBootstrap)
      (received : Except Unit (Except String (TaskOutput Info String)))
      (poll : d.bootstrappingResult.poll = some received) (exit : RunnerExit)
      (why : (∃ recvErr, exit = .bootstrapperGone recvErr) ↔ received = .error ()) :
      Step d .bootstrapReceived (d.exit exit)
  | droppedWhileBootstrapping (at' : d.runner = .awaitingBootstrap)
      (signalled : d.signalled .runner = true) :
      Step d .droppedWhileBootstrapping (d.exit .droppedWhileBootstrapping)
  | notesBootstrapped (at' : d.runner = .bootstrapped) : Step d .lockAcquired
      { d with currentBuildingProgress := .bootstrapped, runner := .creatingSpec }
  | notesPreparing (at' : d.runner = .configured) : Step d .lockAcquired
      { d with currentBuildingProgress := .preparingToStart, runner := .preparing }
  | publishes (rpcHandler : RpcHandlers) (at' : d.runner = .publishing rpcHandler) :
      Step d .lockAcquired { d with rpcHandlers := some rpcHandler, runner := .starting }
  | notesStarting (at' : d.runner = .starting) : Step d .lockAcquired
      { d with currentBuildingProgress := .starting, runner := .running }
  | specCreated (at' : d.runner = .creatingSpec) :
      Step d (.specCreated (.ok ())) { d with runner := .configuring }
  | specFailed (at' : d.runner = .creatingSpec) (error : String) :
      Step d (.specCreated (.error error)) (d.exit (.specFailed error))
  | configured (at' : d.runner = .configuring) : Step d .configured { d with runner := .configured }
  | prepared (at' : d.runner = .preparing) (rpcHandler : RpcHandlers) :
      Step d (.prepared (.ok rpcHandler))
        { d with startDomain := .running, runner := .publishing rpcHandler }
  | prepareFailed (at' : d.runner = .preparing) (error : String) :
      Step d (.prepared (.error error)) (d.exit (.prepareFailed error))
  | startDomainEnded (at' : d.startDomain = .running)
      (wrappedResult : Except String (Except String Unit)) :
      Step d (.startDomainEnded wrappedResult) { d with startDomain := .ended wrappedResult }
  | domainJoined (at' : d.runner = .running) (wrappedResult : Except String (Except String Unit))
      (result : d.startDomain = .ended wrappedResult) :
      Step d .domainJoined (d.exit (joinExit wrappedResult))
  | droppedWhileRunning (at' : d.runner = .running) (signalled : d.signalled .runner = true) :
      Step d .droppedWhileRunning (d.exit .droppedWhileRunning)
  | runnerPanics (isOver : d.joined .runner = none) :
      Step d .runnerPanics { d with
        domainRunnerResult := d.domainRunnerResult.dropSender, runner := .panicked }
  | close (at' : d.owner = .held) :
      Step d .close { d with owner := .closing teardownOrder false }
  | signal (task : DomainTask) (rest : List DomainTask)
      (at' : d.owner = .closing (task :: rest) false) :
      Step d .signal { d.sendSignal task with owner := .closing (task :: rest) true }
  | joined (task : DomainTask) (rest : List DomainTask)
      (at' : d.owner = .closing (task :: rest) true) (isOver : d.joined task = some false) :
      Step d .join { d with owner := proceed rest }
  | joinPanics (task : DomainTask) (rest : List DomainTask)
      (at' : d.owner = .closing (task :: rest) true) (isOver : d.joined task = some true) :
      Step d .join { d with owner := .dropping true rest }
  | received (at' : d.owner = .receiving)
      (output : Except Unit (Except String (TaskOutput Unit String)))
      (poll : d.domainRunnerResult.poll = some output) :
      Step d .receive { d with owner := .returned (verdict output) }
  | abandon (todo : List DomainTask) (left : leftToDrop d.owner = some todo) :
      Step d .abandon { d with owner := .dropping false todo }
  | dropNext (panicked : Bool) (task : DomainTask) (rest : List DomainTask)
      (at' : d.owner = .dropping panicked (task :: rest)) :
      Step d .dropNext { d.dropSignal task with owner := .dropping panicked rest }

theorem receiveBootstrap_step {d : Domain Info RpcHandlers} (at' : d.runner = .awaitingBootstrap)
    {received : Except Unit (Except String (TaskOutput Info String))}
    (poll : d.bootstrappingResult.poll = some received) :
    Step d .bootstrapReceived (d.receiveBootstrap received) := by
  match received, poll with
  | .ok (.ok (.value info)), poll => exact .bootstrapReceived at' info poll
  | .ok (.ok (.cancelled reason)), poll =>
    exact .bootstrapRefused at' _ poll (.bootstrapCancelled reason) (by simp)
  | .ok (.error error), poll =>
    exact .bootstrapRefused at' _ poll (.bootstrapFailed error) (by simp)
  | .error (), poll => exact .bootstrapRefused at' _ poll (.bootstrapperGone recvError) (by simp)

theorem step_of_next {d after : Domain Info RpcHandlers} {a : Action Info RpcHandlers}
    (h : d.next a = some after) : Step d a after := by
  cases a with
  | startBootstrapping =>
    simp only [next] at h
    split at h
    · rename_i at'
      cases h
      exact .startBootstrapping at'
    · cases h
  | fetched result =>
    simp only [next] at h
    split at h
    · rename_i at'
      cases h
      exact .fetched at' result
    · cases h
  | bootstrappingDropped =>
    simp only [next] at h
    split at h
    · rename_i at' signalled
      cases h
      exact .bootstrappingDropped at' signalled _
    · cases h
  | bootstrapperPanics =>
    simp only [next] at h
    split at h
    · rename_i isOver
      cases h
      exact .bootstrapperPanics isOver
    · cases h
  | bootstrapReceived =>
    simp only [next] at h
    split at h
    · rename_i received at' poll
      cases h
      exact receiveBootstrap_step at' poll
    · cases h
  | droppedWhileBootstrapping =>
    simp only [next] at h
    split at h
    · rename_i at' signalled
      cases h
      exact .droppedWhileBootstrapping at' signalled
    · cases h
  | lockAcquired =>
    simp only [next, Domain.lockAcquired] at h
    split at h
    · rename_i at'
      cases h
      exact .notesBootstrapped at'
    · rename_i at'
      cases h
      exact .notesPreparing at'
    · rename_i rpcHandler at'
      cases h
      exact .publishes rpcHandler at'
    · rename_i at'
      cases h
      exact .notesStarting at'
    · cases h
  | specCreated result =>
    simp only [next] at h
    split at h
    · rename_i at'
      cases h
      exact .specCreated at'
    · rename_i error at'
      cases h
      exact .specFailed at' error
    · cases h
  | configured =>
    simp only [next] at h
    split at h
    · rename_i at'
      cases h
      exact .configured at'
    · cases h
  | prepared data =>
    simp only [next] at h
    split at h
    · rename_i rpcHandler at'
      cases h
      exact .prepared at' rpcHandler
    · rename_i error at'
      cases h
      exact .prepareFailed at' error
    · cases h
  | startDomainEnded result =>
    simp only [next] at h
    split at h
    · rename_i at'
      cases h
      exact .startDomainEnded at' result
    · cases h
  | domainJoined =>
    simp only [next] at h
    split at h
    · rename_i result at' ended
      cases h
      exact .domainJoined at' result ended
    · cases h
  | droppedWhileRunning =>
    simp only [next] at h
    split at h
    · rename_i at' signalled
      cases h
      exact .droppedWhileRunning at' signalled
    · cases h
  | runnerPanics =>
    simp only [next] at h
    split at h
    · rename_i isOver
      cases h
      exact .runnerPanics isOver
    · cases h
  | close =>
    simp only [next] at h
    split at h
    · rename_i at'
      cases h
      exact .close at'
    · cases h
  | signal =>
    simp only [next] at h
    split at h
    · rename_i task rest at'
      cases h
      exact .signal task rest at'
    · cases h
  | join =>
    simp only [next] at h
    split at h
    · rename_i task rest at'
      split at h
      · rename_i isOver
        cases h
        exact .joined task rest at' isOver
      · rename_i isOver
        cases h
        exact .joinPanics task rest at' isOver
      · cases h
    · cases h
  | receive =>
    simp only [next] at h
    split at h
    · rename_i output at' poll
      cases h
      exact .received at' output poll
    · cases h
  | abandon =>
    simp only [next] at h
    split at h
    · rename_i todo left
      cases h
      exact .abandon todo left
    · cases h
  | dropNext =>
    simp only [next] at h
    split at h
    · rename_i panicked task rest at'
      cases h
      exact .dropNext panicked task rest at'
    · cases h

end Domain

end SubspaceSdk
