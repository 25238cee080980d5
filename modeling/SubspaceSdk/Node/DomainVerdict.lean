import SubspaceSdk.Node.DomainTasks

/-! The verdict of a domain.  Each of the ten exits of the runner sends one message; `close` waits
only for tasks that were signalled, finds the message when it has joined them, and returns what it
says. Every run ends, as each step takes some task or the owner nearer to its end. -/

namespace SubspaceSdk

open ProofKit

namespace Domain

variable {Info RpcHandlers : Type} {d after : Domain Info RpcHandlers} {domainId : Nat}
variable {a : Action Info RpcHandlers} {as : List (Action Info RpcHandlers)}
variable {ok : List (Action Info RpcHandlers) → Domain Info RpcHandlers →
  Action Info RpcHandlers → Prop}

/-- An exit at which bootstrapping, the chain spec, the preparation or the domain failed. -/
def RunnerExit.failed : RunnerExit → Bool
  | .bootstrapFailed _ | .bootstrapperGone _ | .specFailed _ | .prepareFailed _ | .runFailed _
  | .joinFailed _ => true
  | _ => false

theorem RunnerExit.message_failed (exit : RunnerExit) (domainId : Nat) :
    RunnerExit.failed exit = true ↔ ∃ error, exit.message domainId = .error error := by
  cases exit <;> simp [RunnerExit.failed, RunnerExit.message]

/-- `close` returns an error exactly for a message that is one. -/
theorem verdict_message (exit : RunnerExit) (domainId : Nat) :
    (∀ error, verdict (.ok (exit.message domainId)) = .error error ↔
      exit.message domainId = .error error) ∧
    (verdict (.ok (exit.message domainId)) = .ok () ↔
      ∃ output, exit.message domainId = .ok output) := by
  cases exit <;> simp [RunnerExit.message, verdict]

/-! ### Termination -/

def bootstrapperRank : BootstrapperPhase → Nat
  | .spawned => 2
  | .fetching => 1
  | .ended | .panicked => 0

def runnerRank : RunnerPhase RpcHandlers → Nat
  | .awaitingBootstrap => 10
  | .bootstrapped => 9
  | .creatingSpec => 8
  | .configuring => 7
  | .configured => 6
  -- The preparation also spawns the start task.
  | .preparing => 5
  | .publishing _ => 3
  | .starting => 2
  | .running => 1
  | .ended _ | .panicked => 0

def startRank : StartDomain → Nat
  | .running => 1
  | .absent | .ended _ => 0

def ownerRank : DomainOwner → Nat
  | .held => 7
  | .closing todo false => 2 * todo.length + 2
  | .closing todo true => 2 * todo.length + 1
  | .receiving => 2
  | .returned _ => 0
  | .dropping _ todo => todo.length

/-- The steps that are left in a domain, at most. -/
def rank (d : Domain Info RpcHandlers) : Nat :=
  bootstrapperRank d.bootstrapper + runnerRank d.runner + startRank d.startDomain +
    ownerRank d.owner

theorem ownerRank_proceed (task : DomainTask) (rest : List DomainTask) :
    ownerRank (proceed rest) < ownerRank (.closing (task :: rest) true) := by
  cases rest with
  | nil => exact Nat.lt_succ_self 2
  | cons next rest =>
    simp only [proceed, ownerRank, List.length_cons]
    omega

theorem ownerRank_leftToDrop {owner : DomainOwner} {todo : List DomainTask}
    (left : leftToDrop owner = some todo) : todo.length < ownerRank owner := by
  unfold leftToDrop at left
  split at left <;> cases left <;> simp [ownerRank, teardownOrder] <;> omega

/-- Every step takes a domain nearer to its end. -/
theorem Step.rank_lt (step : Step d a after) : after.rank < d.rank := by
  cases step with
  | startBootstrapping at' => simp [rank, at', bootstrapperRank]
  | fetched at' | bootstrappingDropped at' =>
    simp [rank, endBootstrapper, at', bootstrapperRank]
  | bootstrapperPanics running =>
    cases phase : d.bootstrapper <;> simp [Domain.joined, phase] at running <;>
      simp [rank, phase, bootstrapperRank]
  | bootstrapRefused at' | droppedWhileBootstrapping at' | specFailed at' | prepareFailed at'
  | domainJoined at' | droppedWhileRunning at' => simp [rank, Domain.exit, at', runnerRank]
  | bootstrapReceived at' | notesBootstrapped at' | notesPreparing at' | publishes _ at'
  | notesStarting at' | specCreated at' | configured at' => simp [rank, at', runnerRank]
  | prepared at' =>
    simp only [rank, at', runnerRank, startRank]
    omega
  | startDomainEnded at' => simp [rank, at', startRank]
  | runnerPanics running =>
    cases phase : d.runner <;> simp [Domain.joined, phase] at running <;>
      simp [rank, phase, runnerRank]
  | close at' => simp [rank, at', ownerRank, teardownOrder]
  | signal task rest at' => cases task <;> simp [rank, sendSignal, at', ownerRank]
  | joined task rest at' =>
    simpa only [rank, at', Nat.add_lt_add_iff_left] using ownerRank_proceed task rest
  | joinPanics task rest at' =>
    simp only [rank, at', ownerRank, List.length_cons]
    omega
  | received at' => simp [rank, at', ownerRank]
  | abandon todo left =>
    exact Nat.add_lt_add_left (ownerRank_leftToDrop left) _
  | dropNext panicked task rest at' => cases task <;> simp [rank, dropSignal, at', ownerRank]

theorem run_bounded (run : (system Info RpcHandlers).RunIf ok { domainId := domainId } as d) :
    as.length + d.rank ≤ 19 :=
  run.length_add_le (I := fun _ => True) rank trivial fun _ _ _ _ hnext =>
    ⟨trivial, (step_of_next hnext).rank_lt⟩

/-- Every step but the end of the fetch and of the domain, which may never come, a panic, and what
the owner decides. -/
def Action.due : Action Info RpcHandlers → Bool
  | .fetched _ | .startDomainEnded _ | .bootstrapperPanics | .runnerPanics | .close | .abandon =>
    false
  | _ => true

/-- A task that has its drop signal and has not ended has a step to take. -/
theorem due_of_signalled {task : DomainTask} (signalled : d.signalled task = true)
    (running : d.joined task = none) : ∃ a : Action Info RpcHandlers,
      a.due = true ∧ (d.next a).isSome = true := by
  cases task with
  | bootstrapper =>
    cases phase : d.bootstrapper with
    | spawned => exact ⟨.startBootstrapping, rfl, by simp [next, phase]⟩
    | fetching => exact ⟨.bootstrappingDropped, rfl, by simp [next, phase, signalled]⟩
    | ended | panicked => simp [joined, phase] at running
  | runner =>
    cases phase : d.runner with
    | awaitingBootstrap =>
      exact ⟨.droppedWhileBootstrapping, rfl, by simp [next, phase, signalled]⟩
    | bootstrapped | configured | publishing | starting =>
      exact ⟨.lockAcquired, rfl, by simp [next, lockAcquired, phase]⟩
    | creatingSpec => exact ⟨.specCreated (.ok ()), rfl, by simp [next, phase]⟩
    | configuring => exact ⟨.configured, rfl, by simp [next, phase]⟩
    | preparing => exact ⟨.prepared (.error ""), rfl, by simp [next, phase]⟩
    | running => exact ⟨.droppedWhileRunning, rfl, by simp [next, phase, signalled]⟩
    | ended | panicked => simp [joined, phase] at running

/-- `close` has been called, and has neither returned nor panicked nor been dropped. -/
def underWay : DomainOwner → Bool
  | .closing _ _ | .receiving => true
  | _ => false

/-- Where `close` reads the channel, the runner has sent the message of its exit. -/
theorem received_of_receiving (protocol : Protocol d) (at' : d.owner = .receiving) :
    ∃ message, d.domainRunnerResult.poll = some (.ok message) := by
  have stands := protocol.owner
  rw [at'] at stands
  cases stands with
  | receiving isOver =>
    obtain ⟨exit, ended⟩ := joined_runner_ended.mp (isOver .runner (by decide))
    exact ⟨_, Oneshot.poll_of_sent (protocol.runnerSends.one ended)⟩

/-- A `close` that is under way does not wait for what may never come. -/
theorem due_of_underWay (protocol : Protocol d) (owner : underWay d.owner = true) :
    ∃ a : Action Info RpcHandlers, a.due = true ∧ (d.next a).isSome = true := by
  have stands := protocol.owner
  cases at' : d.owner with
  | held | returned | dropping => simp [at', underWay] at owner
  | closing todo signalled =>
    rw [at'] at stands
    cases stands with
    | closing done task rest _ order isOver sent =>
      cases signalled with
      | false => exact ⟨.signal, rfl, by simp [next, at']⟩
      | true =>
        cases ended : d.joined task with
        | none => exact due_of_signalled (sent rfl) ended
        | some panicked => exact ⟨.join, rfl, by cases panicked <;> simp [next, at', ended]⟩
  | receiving =>
    obtain ⟨message, poll⟩ := received_of_receiving protocol at'
    exact ⟨.receive, rfl, by simp [next, at', poll]⟩

/-! ### The protocol as a whole -/

/-- One message for every exit of the runner, and a `close` that ends with what it says. -/
structure DeliversVerdict (as : List (Action Info RpcHandlers)) (d : Domain Info RpcHandlers) :
    Prop where
  one : ∀ exit, d.runner = .ended exit →
    d.domainRunnerResult.sent = [exit.message d.domainId] ∧
      (RunnerExit.failed exit = true ↔ ∃ error, exit.message d.domainId = .error error)
  none : (∀ exit, d.runner ≠ .ended exit) → d.domainRunnerResult.sent = []
  signalled : ∀ task rest, d.owner = .closing (task :: rest) true → d.signalled task = true
  channel : d.owner = .receiving → ∃ message, d.domainRunnerResult.poll = some (.ok message)
  returned : ∀ result, d.owner = .returned result → (∀ task, d.joined task = some false) ∧
    ∃ message, d.domainRunnerResult.sent = [message] ∧
      (∀ error, result = .error error ↔ message = .error error) ∧
      (result = .ok () ↔ ∃ output, message = .ok output)
  /-- `close` panics only where a task that it joined did. -/
  panics : ∀ todo, d.owner = .dropping true todo → ∃ task, d.joined task = some true
  bounded : as.length ≤ 19
  progress : underWay d.owner = true →
    ∃ a : Action Info RpcHandlers, a.due = true ∧ (d.next a).isSome = true

/-- In every run of a domain the runner delivers one verdict, and `close` returns it, unless a task
that it joins has panicked: `close` propagates that panic. -/
theorem run_deliversVerdict
    (run : (system Info RpcHandlers).Run { domainId := domainId } as d) :
    DeliversVerdict as d := by
  have protocol := run_protocol run
  have stands := protocol.owner
  constructor
  · exact fun exit ended =>
      ⟨protocol.runnerSends.one ended, RunnerExit.message_failed exit d.domainId⟩
  · exact protocol.runnerSends.none
  · intro task rest at'
    rw [at'] at stands
    cases stands with
    | closing _ _ _ _ _ _ sent => exact sent rfl
  · exact received_of_receiving protocol
  · intro result at'
    rw [at'] at stands
    cases stands with
    | returned isOver exit ended =>
      have ⟨errors, oks⟩ := verdict_message exit d.domainId
      refine ⟨fun task => isOver task (by cases task <;> decide), _,
        protocol.runnerSends.one ended, errors, oks⟩
  · intro todo at'
    rw [at'] at stands
    cases stands with
    | panicked task isOver => exact ⟨task, isOver⟩
  · have := run_bounded run
    omega
  · exact due_of_underWay protocol

theorem run_deliversVerdict_failed : ∃ as d,
    (system Unit Unit).Run { domainId := 0 } as d ∧ DeliversVerdict as d ∧
      d.owner = .returned ((RunnerExit.bootstrapFailed
        "Error while bootstrapping the domain:0 : gone").message 0 |>.map fun _ => ()) := by
  obtain ⟨d, done, returned⟩ : ∃ d, (system Unit Unit).exec (fun _ _ _ => True) []
      { domainId := 0 } [.startBootstrapping, .fetched (.error "gone"), .bootstrapReceived, .close,
        .signal, .join, .signal, .join, .receive] = some d ∧
      d.owner = .returned ((RunnerExit.bootstrapFailed
        "Error while bootstrapping the domain:0 : gone").message 0 |>.map fun _ => ()) :=
    ⟨_, rfl, rfl⟩
  have run := System.RunIf.of_exec done
  exact ⟨_, d, run, run_deliversVerdict run, returned⟩

/-- The bootstrapping task panics: the message of the runner is an error, and `close` does not
return it, as it joins the bootstrapping task and panics. -/
theorem close_panics_of_bootstrapper : ∃ as d error,
    (system Unit Unit).Run { domainId := 0 } as d ∧
      d.runner = .ended (.bootstrapperGone recvError) ∧
      d.domainRunnerResult.sent = [.error error] ∧ d.owner = .dropping true [] ∧
      ∀ a, d.next a = none := by
  obtain ⟨d, done, bootstrapper, runner, start, owner, error, sent⟩ : ∃ d,
      (system Unit Unit).exec (fun _ _ _ => True) [] { domainId := 0 } [.startBootstrapping,
        .bootstrapperPanics, .bootstrapReceived, .close, .signal, .join, .signal, .join] = some d ∧
      d.bootstrapper = .panicked ∧ d.runner = .ended (.bootstrapperGone recvError) ∧
      d.startDomain = .absent ∧ d.owner = .dropping true [] ∧
      ∃ error, d.domainRunnerResult.sent = [.error error] :=
    ⟨_, rfl, rfl, rfl, rfl, rfl, _, rfl⟩
  refine ⟨_, d, error, System.RunIf.of_exec done, runner, sent, owner, fun a => ?_⟩
  cases a <;> simp [next, joined, lockAcquired, leftToDrop, bootstrapper, runner, start, owner]

end Domain

end SubspaceSdk
