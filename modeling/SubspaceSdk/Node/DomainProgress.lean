import SubspaceSdk.Node.DomainTasks

/-! The published progress of a domain.  Two tasks write it: the bootstrapping task its first stage,
and the runner task the others, of which it reaches none before it received what the bootstrapping
task found.  The RPC handlers are published between the last two stages. -/

namespace SubspaceSdk

open ProofKit

/-- The stage that comes next. -/
def DomainBuildingProgress.following : DomainBuildingProgress → Option DomainBuildingProgress
  | .default => some .buildingStarted
  | .buildingStarted => some .bootstrapped
  | .bootstrapped => some .preparingToStart
  | .preparingToStart => some .starting
  | .starting => none

namespace Domain

variable {Info RpcHandlers : Type} {d after : Domain Info RpcHandlers}
variable {a : Action Info RpcHandlers} {as : List (Action Info RpcHandlers)}

/-- What a reader of both locks may rely on. -/
structure Consistent (progress : DomainBuildingProgress) (published : Bool) : Prop where
  starting : progress = .starting → published = true
  published : published = true → progress = .preparingToStart ∨ progress = .starting

/-- What the runner's phase says of the progress, and of whether the handlers are published. -/
def Shows (progress : DomainBuildingProgress) (published : Bool) : RunnerPhase RpcHandlers → Prop
  | .awaitingBootstrap =>
    (progress = .default ∨ progress = .buildingStarted) ∧ published = false
  | .bootstrapped => progress = .buildingStarted ∧ published = false
  | .creatingSpec | .configuring | .configured => progress = .bootstrapped ∧ published = false
  | .preparing | .publishing _ => progress = .preparingToStart ∧ published = false
  | .starting => progress = .preparingToStart ∧ published = true
  | .running => progress = .starting ∧ published = true
  | .ended _ | .panicked => Consistent progress published

theorem Shows.consistent {progress : DomainBuildingProgress} {published : Bool}
    {phase : RunnerPhase RpcHandlers} (shown : Shows progress published phase) :
    Consistent progress published := by
  cases phase with
  | ended | panicked => exact shown
  | awaitingBootstrap =>
    obtain ⟨rfl | rfl, rfl⟩ := shown <;> exact ⟨nofun, nofun⟩
  | bootstrapped | creatingSpec | configuring | configured | preparing | publishing =>
    obtain ⟨rfl, rfl⟩ := shown
    exact ⟨nofun, nofun⟩
  | starting =>
    obtain ⟨rfl, rfl⟩ := shown
    exact ⟨nofun, fun _ => .inl rfl⟩
  | running =>
    obtain ⟨rfl, rfl⟩ := shown
    exact ⟨fun _ => rfl, fun _ => .inr rfl⟩

/-- How the phases of the two tasks and the two locks go together. -/
structure Stages (d : Domain Info RpcHandlers) : Prop where
  fresh : d.bootstrapper = .spawned → d.currentBuildingProgress = .default
  begun : d.bootstrapper = .fetching ∨ d.bootstrapper = .ended →
    d.currentBuildingProgress ≠ .default
  shown : Shows d.currentBuildingProgress d.rpcHandlers.isSome d.runner

/-- The runner does not advance before the bootstrapping task ended, so it does not advance while
that task is yet to write its stage. -/
theorem Bootstraps.not_spawned (bootstraps : Bootstraps d) (past : pastBootstrap d.runner = true) :
    d.bootstrapper ≠ .spawned := by
  intro at'
  have ended := bootstraps.ended past
  simp [Domain.joined, at'] at ended

theorem Shows.buildingStarted {published : Bool} {phase : RunnerPhase RpcHandlers}
    (shown : Shows .default published phase) (early : pastBootstrap phase = false) :
    Shows .buildingStarted published phase := by
  cases phase with
  | awaitingBootstrap => exact ⟨.inr rfl, shown.2⟩
  | ended | panicked =>
    have unpublished : published ≠ true := fun some => by
      rcases shown.published some with same | same <;> cases same
    exact ⟨nofun, fun some => absurd some unpublished⟩
  | _ => cases early

theorem Stages.step (stages : Stages d) (sends : BootstrapperSends d) (bootstraps : Bootstraps d)
    (step : Step d a after) : Stages after := by
  obtain ⟨fresh, begun, shown⟩ := stages
  cases step with
  | startBootstrapping at' =>
    refine ⟨nofun, nofun, ?_⟩
    rw [fresh at'] at shown
    exact shown.buildingStarted
      (Bool.eq_false_iff.mpr fun past => bootstraps.not_spawned past at')
  | fetched at' | bootstrappingDropped at' =>
    exact ⟨nofun, fun _ => begun (.inl at'), shown⟩
  | bootstrapperPanics => exact ⟨nofun, nofun, shown⟩
  | bootstrapReceived at' info poll =>
    refine ⟨fresh, begun, ?_⟩
    rw [at'] at shown
    have notDefault := begun (.inr (sends.ended poll))
    exact ⟨shown.1.resolve_left notDefault, shown.2⟩
  | bootstrapRefused | droppedWhileBootstrapping | specFailed | prepareFailed | domainJoined
  | droppedWhileRunning | runnerPanics => exact ⟨fresh, begun, shown.consistent⟩
  | notesBootstrapped at' | notesPreparing at' | notesStarting at' =>
    have late := bootstraps.not_spawned (by rw [at']; rfl)
    rw [at'] at shown
    exact ⟨fun at'' => absurd at'' late, nofun, rfl, shown.2⟩
  | publishes rpcHandler at' =>
    rw [at'] at shown
    exact ⟨fresh, begun, shown.1, rfl⟩
  | specCreated at' | configured at' | prepared at' =>
    rw [at'] at shown
    exact ⟨fresh, begun, shown⟩
  | signal task => cases task <;> exact ⟨fresh, begun, shown⟩
  | dropNext _ task => cases task <;> exact ⟨fresh, begun, shown⟩
  | startDomainEnded | close | joined | joinPanics | received | abandon =>
    exact ⟨fresh, begun, shown⟩

/-- Progress moves forward by one stage at a time. -/
theorem Stages.forward (stages : Stages d) (step : Step d a after) :
    after.currentBuildingProgress = d.currentBuildingProgress ∨
      d.currentBuildingProgress.following = some after.currentBuildingProgress := by
  obtain ⟨fresh, -, shown⟩ := stages
  cases step with
  | startBootstrapping at' =>
    rw [fresh at']
    exact .inr rfl
  | notesBootstrapped at' | notesPreparing at' | notesStarting at' =>
    rw [at'] at shown
    rw [shown.1]
    exact .inr rfl
  | signal task => cases task <;> exact .inl rfl
  | dropNext _ task => cases task <;> exact .inl rfl
  | _ => exact .inl rfl

/-! ### After a stage failed or was cancelled -/

/-- The runner has received what the bootstrapping task found. -/
def Received (d : Domain Info RpcHandlers) : Prop :=
  pastBootstrap d.runner = true →
    ∃ info, d.bootstrappingResult.poll = some (.ok (.ok (.value info)))

theorem Step.polled_mono (step : Step d a after)
    {output : Except String (TaskOutput Info String)}
    (poll : d.bootstrappingResult.poll = some (.ok output)) :
    after.bootstrappingResult.poll = some (.ok output) := by
  cases step with
  | fetched | bootstrappingDropped => exact Oneshot.poll_send _ poll
  | bootstrapperPanics => exact Oneshot.poll_dropSender poll
  | signal task => cases task <;> exact poll
  | dropNext _ task => cases task <;> exact poll
  | _ => exact poll

theorem Received.step (received : Received d) (step : Step d a after) : Received after := by
  have mono : pastBootstrap d.runner = true →
      ∃ info, after.bootstrappingResult.poll = some (.ok (.ok (.value info))) := fun past =>
    (received past).imp fun _ poll => step.polled_mono poll
  cases step with
  | bootstrapReceived at' info poll => exact fun _ => ⟨info, poll⟩
  | bootstrapRefused | droppedWhileBootstrapping | specFailed | prepareFailed | domainJoined
  | droppedWhileRunning | runnerPanics => nofun
  | notesBootstrapped at' | notesPreparing at' | publishes _ at' | notesStarting at'
  | specCreated at' | configured at' | prepared at' => exact fun _ => mono (by rw [at']; rfl)
  | signal task => cases task <;> exact mono
  | dropNext _ task => cases task <;> exact mono
  | _ => exact mono

/-- A stage failed or was cancelled, or the last one is over: the runner ended or panicked, or the
bootstrapping task panicked, or it sent something else than what it was to find. -/
inductive Halted (d : Domain Info RpcHandlers) : Prop
  | runner (panicked : Bool) (isOver : d.joined .runner = some panicked)
  | panicked (isOver : d.joined .bootstrapper = some true)
  | refused (output : Except String (TaskOutput Info String))
      (poll : d.bootstrappingResult.poll = some (.ok output))
      (other : ∀ info, output ≠ .ok (.value info))

theorem Halted.step (halted : Halted d) (step : Step d a after) : Halted after := by
  cases halted with
  | runner panicked isOver => exact .runner panicked (step.joined_mono isOver)
  | panicked isOver => exact .panicked (step.joined_mono isOver)
  | refused output poll other => exact .refused output (step.polled_mono poll) other

/-- A halted domain has a runner that does not go on. -/
theorem Halted.not_past (halted : Halted d) (bootstraps : Bootstraps d) (received : Received d) :
    pastBootstrap d.runner = false := by
  refine Bool.eq_false_iff.mpr fun past => ?_
  cases halted with
  | runner panicked isOver =>
    cases phase : d.runner <;> simp [Domain.joined, phase] at isOver <;>
      simp [phase, pastBootstrap] at past
  | panicked isOver =>
    rw [bootstraps.ended past] at isOver
    cases isOver
  | refused output poll other =>
    obtain ⟨info, found⟩ := received past
    rw [found] at poll
    cases poll
    exact other info rfl

/-- Of the four writes only that of the bootstrapping task is left. -/
theorem Halted.stays (halted : Halted d) (bootstraps : Bootstraps d) (received : Received d)
    (step : Step d a after) :
    (after.currentBuildingProgress = d.currentBuildingProgress ∧
      (after.bootstrapper = .spawned → d.bootstrapper = .spawned)) ∨
    (d.bootstrapper = .spawned ∧ after.currentBuildingProgress = .buildingStarted ∧
      after.bootstrapper ≠ .spawned) := by
  have early := halted.not_past bootstraps received
  cases step with
  | startBootstrapping at' => exact .inr ⟨at', rfl, nofun⟩
  | notesBootstrapped at' | notesPreparing at' | notesStarting at' =>
    rw [at'] at early
    cases early
  | fetched | bootstrappingDropped | bootstrapperPanics => exact .inl ⟨rfl, nofun⟩
  | signal task => cases task <;> exact .inl ⟨rfl, id⟩
  | dropNext _ task => cases task <;> exact .inl ⟨rfl, id⟩
  | _ => exact .inl ⟨rfl, id⟩

/-- What holds of the tasks and of the progress in every run. -/
structure Published (d : Domain Info RpcHandlers) : Prop where
  protocol : Protocol d
  stages : Stages d
  received : Received d

theorem Published.step (published : Published d) (step : Step d a after) : Published after where
  protocol := published.protocol.step step
  stages := published.stages.step published.protocol.bootstrapperSends
    published.protocol.bootstraps step
  received := published.received.step step

theorem run_published {domainId : Nat}
    (run : (system Info RpcHandlers).Run { domainId := domainId } as d) : Published d := by
  refine run.invariant (I := fun _ d => Published d) ?_ ?_
  · have begun : (system Info RpcHandlers).Run { domainId := domainId } [] _ := .start
    exact ⟨run_protocol begun, ⟨fun _ => rfl, by simp, .inl rfl, rfl⟩, nofun⟩
  · intro _ t a u published _ hnext
    exact published.step (step_of_next hnext)

/-- Once a stage failed or was cancelled, the progress stays, except that the bootstrapping task may
still write the first stage where it did not before. -/
theorem run_halted {bs : List (Action Info RpcHandlers)} (published : Published d)
    (halted : Halted d) (run : (system Info RpcHandlers).Run d bs after) :
    after.currentBuildingProgress = d.currentBuildingProgress ∨
      (d.bootstrapper = .spawned ∧ after.currentBuildingProgress = .buildingStarted) := by
  have all := run.invariant (I := fun _ t => Published t ∧ Halted t ∧
    ((t.currentBuildingProgress = d.currentBuildingProgress ∧
      (t.bootstrapper = .spawned → d.bootstrapper = .spawned)) ∨
    (d.bootstrapper = .spawned ∧ t.currentBuildingProgress = .buildingStarted ∧
      t.bootstrapper ≠ .spawned))) ⟨published, halted, .inl ⟨rfl, id⟩⟩ ?_
  · obtain ⟨-, -, ⟨same, -⟩ | ⟨at', started, -⟩⟩ := all
    · exact .inl same
    · exact .inr ⟨at', started⟩
  rintro _ t a u ⟨published, halted, sofar⟩ _ hnext
  have step := step_of_next hnext
  refine ⟨published.step step, halted.step step, ?_⟩
  have stays := halted.stays published.protocol.bootstraps published.received step
  rcases sofar with ⟨same, spawned⟩ | ⟨at', started, late⟩
  · rcases stays with ⟨same', spawned'⟩ | ⟨at', started, late⟩
    · exact .inl ⟨same'.trans same, fun h => spawned (spawned' h)⟩
    · exact .inr ⟨spawned at', started, late⟩
  · rcases stays with ⟨same', spawned'⟩ | ⟨at'', _, _⟩
    · exact .inr ⟨at', same'.trans started, fun h => late (spawned' h)⟩
    · exact absurd at'' late

/-- In every run the two locks are consistent, each step leaves the progress or moves it to the next
stage, and after a failed or cancelled stage it stays, up to the first stage of a bootstrapping task
that had not begun. -/
theorem progress_consistent {domainId : Nat}
    (run : (system Info RpcHandlers).Run { domainId := domainId } as d) :
    Consistent d.currentBuildingProgress d.rpcHandlers.isSome ∧
    (∀ a after, d.next a = some after →
      after.currentBuildingProgress = d.currentBuildingProgress ∨
        d.currentBuildingProgress.following = some after.currentBuildingProgress) ∧
    (Halted d → ∀ bs after, (system Info RpcHandlers).Run d bs after →
      after.currentBuildingProgress = d.currentBuildingProgress ∨
        (d.bootstrapper = .spawned ∧ d.currentBuildingProgress = .default ∧
          after.currentBuildingProgress = .buildingStarted)) := by
  have published := run_published run
  refine ⟨published.stages.shown.consistent, fun a after hnext => ?_,
    fun halted bs after later => ?_⟩
  · exact published.stages.forward (step_of_next hnext)
  · rcases run_halted published halted later with same | ⟨at', started⟩
    · exact .inl same
    · exact .inr ⟨at', published.stages.fresh at', started⟩

/-- A domain that is built, and whose handlers are published before its last stage. -/
theorem progress_consistent_starting :
    ∃ d : Domain Unit Unit, (system Unit Unit).Run { domainId := 3 } [.startBootstrapping,
        .fetched (.ok ()), .bootstrapReceived, .lockAcquired, .specCreated (.ok ()), .configured,
        .lockAcquired, .prepared (.ok ()), .lockAcquired] d ∧
      d.rpcHandlers = some () ∧ Consistent d.currentBuildingProgress d.rpcHandlers.isSome := by
  obtain ⟨d, done, handlers⟩ : ∃ d : Domain Unit Unit, (system Unit Unit).exec (fun _ _ _ => True)
      [] { domainId := 3 } [.startBootstrapping, .fetched (.ok ()), .bootstrapReceived,
        .lockAcquired, .specCreated (.ok ()), .configured, .lockAcquired, .prepared (.ok ()),
        .lockAcquired] = some d ∧ d.rpcHandlers = some () := ⟨_, rfl, rfl⟩
  have run := System.RunIf.of_exec done
  exact ⟨d, run, handlers, (progress_consistent run).1⟩

/-- The domain is closed before its bootstrapping task began: the runner is cancelled while the
progress is at its default, and then that task writes its stage. -/
theorem progress_moves_after_cancellation : ¬∀ as bs (d after : Domain Unit Unit),
    (system Unit Unit).Run { domainId := 3 } as d → Halted d →
    (system Unit Unit).Run d bs after →
    after.currentBuildingProgress = d.currentBuildingProgress := by
  intro stays
  obtain ⟨d, done, isOver, progress⟩ : ∃ d : Domain Unit Unit,
      (system Unit Unit).exec (fun _ _ _ => True) [] { domainId := 3 }
        [.close, .signal, .droppedWhileBootstrapping] = some d ∧
      d.joined .runner = some false ∧ d.currentBuildingProgress = .default := ⟨_, rfl, rfl, rfl⟩
  obtain ⟨after, later, started⟩ : ∃ after : Domain Unit Unit,
      (system Unit Unit).exec (fun _ _ _ => True) [] d [.startBootstrapping] = some after ∧
      after.currentBuildingProgress = .buildingStarted := by
    cases done
    exact ⟨_, rfl, rfl⟩
  have same := stays _ _ d after (System.RunIf.of_exec done) (.runner false isOver)
    (System.RunIf.of_exec later)
  rw [progress, started] at same
  cases same

end Domain

end SubspaceSdk
