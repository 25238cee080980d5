import SubspaceSdk.Node.Domain

/-! What holds in every run of a domain, whatever its owner does: what the tasks have sent at each
of their phases, and what the owner may rely on when it joins them. -/

namespace SubspaceSdk

open ProofKit

namespace Domain

variable {Info RpcHandlers : Type} {d after : Domain Info RpcHandlers}
variable {a : Action Info RpcHandlers} {as : List (Action Info RpcHandlers)}
variable {ok : List (Action Info RpcHandlers) → Domain Info RpcHandlers →
  Action Info RpcHandlers → Prop}

/-- `async_drop` awaits the destructors of a domain in the teardown order. -/
theorem destructors_asyncDrop (name : String) {polls : List PollOutcome}
    (all : DestructorSet.completes 2 polls = true) :
    ((DestructorSet.new name).registerAll destructors).2.asyncDrop polls =
      .ok (teardownOrder.map .awaited, .returned (.ok ())) :=
  DestructorSet.registerAll_asyncDrop name destructors all

/-- The drop of the set drops them in the same order. -/
theorem destructors_drop (name : String) :
    ((DestructorSet.new name).registerAll destructors).2.drop =
      .ok (teardownOrder.map .cancelled) :=
  DestructorSet.registerAll_drop name destructors

theorem joined_bootstrapper {panicked : Bool} : d.joined .bootstrapper = some panicked ↔
    d.bootstrapper = if panicked then .panicked else .ended := by
  cases phase : d.bootstrapper <;> cases panicked <;> simp [joined, phase]

theorem joined_runner_ended : d.joined .runner = some false ↔ ∃ exit, d.runner = .ended exit := by
  cases phase : d.runner <;> simp [joined, phase]

@[simp] theorem joined_sendSignal (task other : DomainTask) :
    (d.sendSignal task).joined other = d.joined other := by
  cases task <;> cases other <;> rfl

@[simp] theorem joined_dropSignal (task other : DomainTask) :
    (d.dropSignal task).joined other = d.joined other := by
  cases task <;> cases other <;> rfl

/-- A task that ended stays as it ended. -/
theorem Step.joined_mono (step : Step d a after) {task : DomainTask} {panicked : Bool}
    (isOver : d.joined task = some panicked) : after.joined task = some panicked := by
  cases step with
  | startBootstrapping at' | fetched at' | bootstrappingDropped at' =>
    cases task with
    | bootstrapper => simp [Domain.joined, at'] at isOver
    | runner => exact isOver
  | bootstrapperPanics running =>
    cases task with
    | bootstrapper => simp [running] at isOver
    | runner => exact isOver
  | runnerPanics running =>
    cases task with
    | bootstrapper => exact isOver
    | runner => simp [running] at isOver
  | startDomainEnded | close | joined | joinPanics | received | abandon => exact isOver
  | signal sent => exact (joined_sendSignal sent task).trans isOver
  | dropNext panicked dropped => exact (joined_dropSignal dropped task).trans isOver
  | bootstrapReceived at' | bootstrapRefused at' | droppedWhileBootstrapping at'
  | notesBootstrapped at' | notesPreparing at' | publishes _ at' | notesStarting at'
  | specCreated at' | specFailed at' | configured at' | prepared at' | prepareFailed at'
  | domainJoined at' | droppedWhileRunning at' =>
    cases task with
    | bootstrapper => exact isOver
    | runner => simp [Domain.joined, at'] at isOver

/-- A drop signal that arrived stays. -/
theorem Step.signalled_mono (step : Step d a after) {task : DomainTask}
    (arrived : d.signalled task = true) : after.signalled task = true := by
  cases step with
  | signal sent =>
    cases sent <;> cases task <;>
      first | exact arrived | exact Oneshot.arrived_send _ _
  | dropNext panicked dropped =>
    cases dropped <;> cases task <;>
      first | exact arrived | exact Oneshot.arrived_dropSender _
  | _ => cases task <;> exact arrived

/-! ### What the tasks sent -/

/-- The bootstrapping task's result channel, by its phase. -/
structure BootstrapperSends (d : Domain Info RpcHandlers) : Prop where
  sent : d.bootstrappingResult.sent ≠ [] → d.bootstrapper = .ended
  gone : d.bootstrappingResult.senderDropped = true → d.bootstrapper = .panicked

theorem BootstrapperSends.step (sends : BootstrapperSends d) (step : Step d a after) :
    BootstrapperSends after := by
  obtain ⟨sent, gone⟩ := sends
  cases step with
  | startBootstrapping at' =>
    refine ⟨fun some => ?_, fun none => ?_⟩
    · simp [at'] at sent
      exact absurd sent some
    · rw [at'] at gone
      cases gone none
  | fetched at' | bootstrappingDropped at' =>
    refine ⟨fun _ => rfl, fun none => ?_⟩
    rw [at'] at gone
    cases gone none
  | bootstrapperPanics running =>
    refine ⟨fun some => ?_, fun _ => rfl⟩
    have := sent some
    simp [joined, this] at running
  | signal task => cases task <;> exact ⟨sent, gone⟩
  | dropNext _ task => cases task <;> exact ⟨sent, gone⟩
  | _ => exact ⟨sent, gone⟩

theorem BootstrapperSends.ended {output : Except String (TaskOutput Info String)}
    (sends : BootstrapperSends d) (poll : d.bootstrappingResult.poll = some (.ok output)) :
    d.bootstrapper = .ended := by
  refine sends.sent fun none => ?_
  rw [Oneshot.poll, none] at poll
  dsimp only at poll
  split at poll <;> cases poll

theorem BootstrapperSends.panicked (sends : BootstrapperSends d)
    (poll : d.bootstrappingResult.poll = some (.error ())) : d.bootstrapper = .panicked := by
  apply sends.gone
  rw [Oneshot.poll] at poll
  split at poll
  · cases poll
  · split at poll
    · assumption
    · cases poll

/-- The runner task's result channel, by its phase: a message for its exit, and none before. -/
def RunnerSends (d : Domain Info RpcHandlers) : Prop :=
  match d.runner with
  | .ended exit => d.domainRunnerResult.sent = [exit.message d.domainId]
  | _ => d.domainRunnerResult.sent = []

theorem RunnerSends.none (sends : RunnerSends d) (running : ∀ exit, d.runner ≠ .ended exit) :
    d.domainRunnerResult.sent = [] := by
  unfold RunnerSends at sends
  split at sends
  · rename_i exit ended
    exact absurd ended (running exit)
  · exact sends

theorem RunnerSends.one {exit : RunnerExit} (sends : RunnerSends d)
    (ended : d.runner = .ended exit) :
    d.domainRunnerResult.sent = [exit.message d.domainId] := by
  unfold RunnerSends at sends
  rwa [ended] at sends

theorem RunnerSends.exit (sends : RunnerSends d) (running : ∀ exit, d.runner ≠ .ended exit)
    (exit : RunnerExit) : RunnerSends (d.exit exit) := by
  unfold RunnerSends
  simp only [Domain.exit, Oneshot.sent_send, sends.none running, List.nil_append]

theorem RunnerSends.step (sends : RunnerSends d) (step : Step d a after) : RunnerSends after := by
  cases step with
  | bootstrapRefused at' | droppedWhileBootstrapping at' | specFailed at' | prepareFailed at'
  | domainJoined at' | droppedWhileRunning at' => exact sends.exit (by simp [at']) _
  | bootstrapReceived at' | notesBootstrapped at' | notesPreparing at' | publishes _ at'
  | notesStarting at' | specCreated at' | configured at' | prepared at' =>
    exact sends.none (by simp [at'])
  | runnerPanics running =>
    refine sends.none fun exit ended => ?_
    simp [Domain.joined, ended] at running
  | signal task => cases task <;> exact sends
  | dropNext _ task => cases task <;> exact sends
  | _ => exact sends

/-! ### How far the runner came -/

/-- The runner task has received what the bootstrapping task found. -/
def pastBootstrap : RunnerPhase RpcHandlers → Bool
  | .awaitingBootstrap | .ended _ | .panicked => false
  | _ => true

/-- The runner task holds the join handle of the start task. -/
def holdsStart : RunnerPhase RpcHandlers → Bool
  | .publishing _ | .starting | .running => true
  | _ => false

/-- What the runner's phase says of the bootstrapping task. -/
structure Bootstraps (d : Domain Info RpcHandlers) : Prop where
  ended : pastBootstrap d.runner = true → d.joined .bootstrapper = some false
  gone : ∀ recvErr, d.runner = .ended (.bootstrapperGone recvErr) →
    d.joined .bootstrapper = some true

theorem Bootstraps.step (bootstraps : Bootstraps d) (sends : BootstrapperSends d)
    (step : Step d a after) : Bootstraps after := by
  have mono : ∀ task panicked, d.joined task = some panicked → after.joined task = some panicked :=
    fun _ _ isOver => step.joined_mono isOver
  obtain ⟨ended, gone⟩ := bootstraps
  cases step with
  | bootstrapReceived at' info poll =>
    exact ⟨fun _ => joined_bootstrapper.mpr (sends.ended poll), nofun⟩
  | bootstrapRefused at' received poll exit why =>
    refine ⟨nofun, fun recvErr same => ?_⟩
    cases same
    cases why.mp ⟨recvErr, rfl⟩
    exact joined_bootstrapper.mpr (sends.panicked poll)
  | droppedWhileBootstrapping | specFailed | prepareFailed | droppedWhileRunning =>
    exact ⟨nofun, nofun⟩
  | domainJoined at' wrapped =>
    refine ⟨nofun, fun recvErr same => ?_⟩
    have never : joinExit wrapped ≠ .bootstrapperGone recvErr := by
      unfold joinExit
      split <;> simp
    exact absurd (RunnerPhase.ended.inj same) never
  | runnerPanics => exact ⟨nofun, nofun⟩
  | notesBootstrapped at' | notesPreparing at' | publishes _ at' | notesStarting at'
  | specCreated at' | configured at' | prepared at' =>
    exact ⟨fun _ => ended (by rw [at']; rfl), nofun⟩
  | signal task =>
    cases task <;> exact ⟨fun past => mono _ _ (ended past), fun e same => mono _ _ (gone e same)⟩
  | dropNext _ task =>
    cases task <;> exact ⟨fun past => mono _ _ (ended past), fun e same => mono _ _ (gone e same)⟩
  | _ => exact ⟨fun past => mono _ _ (ended past), fun e same => mono _ _ (gone e same)⟩

/-! ### The owner -/

/-- What the owner has done, and may rely on, where it stands. -/
inductive OwnerStands (d : Domain Info RpcHandlers) : DomainOwner → Prop
  | held (silent : d.signalled .runner = false) : OwnerStands d .held
  | closing (done : List DomainTask) (task : DomainTask) (rest : List DomainTask)
      (signalled : Bool) (order : done ++ task :: rest = teardownOrder)
      (isOver : ∀ task ∈ done, d.joined task = some false)
      (sent : signalled = true → d.signalled task = true) :
      OwnerStands d (.closing (task :: rest) signalled)
  | receiving (isOver : ∀ task ∈ teardownOrder, d.joined task = some false) :
      OwnerStands d .receiving
  | returned (isOver : ∀ task ∈ teardownOrder, d.joined task = some false) (exit : RunnerExit)
      (ended : d.runner = .ended exit) :
      OwnerStands d (.returned (verdict (.ok (exit.message d.domainId))))
  | panicked (task : DomainTask) (isOver : d.joined task = some true) (todo : List DomainTask) :
      OwnerStands d (.dropping true todo)
  | dropping (todo : List DomainTask) : OwnerStands d (.dropping false todo)

/-- A step that leaves the owner where it stands takes nothing from it. -/
theorem OwnerStands.mono {owner : DomainOwner} (stands : OwnerStands d owner)
    (joined : ∀ task panicked, d.joined task = some panicked → after.joined task = some panicked)
    (signalled : ∀ task, d.signalled task = true → after.signalled task = true)
    (silent : owner = .held → d.signalled .runner = false → after.signalled .runner = false)
    (exits : ∀ exit, d.runner = .ended exit → after.runner = .ended exit)
    (same : after.domainId = d.domainId) : OwnerStands after owner := by
  cases stands with
  | held quiet => exact .held (silent rfl quiet)
  | closing done task rest sent order isOver arrived =>
    exact .closing done task rest sent order (fun t mem => joined t _ (isOver t mem))
      fun was => signalled task (arrived was)
  | receiving isOver => exact .receiving fun t mem => joined t _ (isOver t mem)
  | returned isOver exit ended =>
    rw [← same]
    exact .returned (fun t mem => joined t _ (isOver t mem)) exit (exits exit ended)
  | panicked task isOver todo => exact .panicked task (joined _ _ isOver) todo
  | dropping todo => exact .dropping todo

theorem Step.exits (step : Step d a after) (exit : RunnerExit) (ended : d.runner = .ended exit) :
    after.runner = .ended exit := by
  cases step with
  | bootstrapReceived at' | bootstrapRefused at' | droppedWhileBootstrapping at'
  | notesBootstrapped at' | notesPreparing at' | publishes _ at' | notesStarting at'
  | specCreated at' | specFailed at' | configured at' | prepared at' | prepareFailed at'
  | domainJoined at' | droppedWhileRunning at' => simp [at'] at ended
  | runnerPanics running => simp [Domain.joined, ended] at running
  | signal task => cases task <;> exact ended
  | dropNext _ task => cases task <;> exact ended
  | _ => exact ended

theorem Step.domainId (step : Step d a after) : after.domainId = d.domainId := by
  cases step with
  | signal task => cases task <;> rfl
  | dropNext _ task => cases task <;> rfl
  | _ => rfl

/-- No drop signal is sent while the owner holds the domain. -/
theorem Step.silent (step : Step d a after) (owner : d.owner = .held)
    (silent : d.signalled .runner = false) : after.signalled .runner = false := by
  cases step with
  | signal task rest at' => simp [owner] at at'
  | dropNext panicked task rest at' => simp [owner] at at'
  | _ => exact silent

theorem signalled_sendSignal (task : DomainTask) : (d.sendSignal task).signalled task = true := by
  cases task <;> exact Oneshot.arrived_send _ _

theorem OwnerStands.step (stands : OwnerStands d d.owner) (sends : RunnerSends d)
    (step : Step d a after) : OwnerStands after after.owner := by
  have kept := stands.mono (fun _ _ => step.joined_mono) (fun _ => step.signalled_mono)
    step.silent step.exits step.domainId
  cases step with
  | close at' => exact .closing [] .runner [.bootstrapper] false rfl (by simp) nofun
  | signal task rest at' =>
    rw [at'] at kept
    cases kept with
    | closing done _ _ _ order isOver =>
      exact .closing done task rest true order isOver fun _ => signalled_sendSignal task
  | joined task rest at' isOver =>
    rw [at'] at kept
    cases kept with
    | closing done _ _ _ order before =>
      have all : ∀ other ∈ done ++ [task],
          Domain.joined { d with owner := proceed rest } other = some false := by
        simp only [List.forall_mem_append, List.forall_mem_singleton]
        exact ⟨before, isOver⟩
      cases rest with
      | nil => exact .receiving (order ▸ all)
      | cons next rest =>
        exact .closing (done ++ [task]) next rest false (by simpa using order) all nofun
  | joinPanics task rest at' isOver =>
    refine .panicked task ?_ rest
    exact isOver
  | received at' output poll =>
    rw [at'] at kept
    cases kept with
    | receiving isOver =>
      obtain ⟨exit, ended⟩ := joined_runner_ended.mp (isOver .runner (by decide))
      rw [Oneshot.poll_of_sent (sends.one ended)] at poll
      cases poll
      exact .returned isOver exit ended
  | abandon todo => exact .dropping todo
  | dropNext panicked task rest at' =>
    rw [at'] at kept
    cases kept with
    | panicked other isOver => exact .panicked other isOver rest
    | dropping => exact .dropping rest
  | _ => exact kept

/-! ### Runs -/

/-- What holds of a domain in every run. -/
structure Protocol (d : Domain Info RpcHandlers) : Prop where
  bootstrapperSends : BootstrapperSends d
  runnerSends : RunnerSends d
  bootstraps : Bootstraps d
  owner : OwnerStands d d.owner

theorem Protocol.step (protocol : Protocol d) (step : Step d a after) : Protocol after where
  bootstrapperSends := protocol.bootstrapperSends.step step
  runnerSends := protocol.runnerSends.step step
  bootstraps := protocol.bootstraps.step protocol.bootstrapperSends step
  owner := protocol.owner.step protocol.runnerSends step

theorem run_protocol {domainId : Nat}
    (run : (system Info RpcHandlers).RunIf ok { domainId := domainId } as d) : Protocol d := by
  refine run.invariant (I := fun _ d => Protocol d) ?_ ?_
  · exact ⟨⟨fun some => absurd rfl some, nofun⟩, rfl, ⟨nofun, nofun⟩, .held rfl⟩
  · intro _ t a u protocol _ hnext
    exact protocol.step (step_of_next hnext)

end Domain

end SubspaceSdk
