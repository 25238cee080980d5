import SubspaceSdk.Node.DomainTasks

/-! What `Domain::close` leaves running.  It joins the runner and the bootstrapping task, and the
task that drives the domain has ended where the runner saw it end.  A runner that takes the drop
signal of its last `select` drops the join handle of that task, which goes on. -/

namespace SubspaceSdk

open ProofKit

namespace Domain

variable {Info RpcHandlers : Type} {d after : Domain Info RpcHandlers} {domainId : Nat}
variable {a : Action Info RpcHandlers} {as : List (Action Info RpcHandlers)}
variable {ok : List (Action Info RpcHandlers) → Domain Info RpcHandlers →
  Action Info RpcHandlers → Prop}

/-- Where `close` has returned, all tasks of the domain have ended. -/
def LeavesNothing (d : Domain Info RpcHandlers) : Prop :=
  ∀ result, d.owner = .returned result →
    (∀ task, d.joined task = some false) ∧ d.startDomain ≠ .running

def DomainOwner.isDropping : DomainOwner → Bool
  | .dropping _ _ => true
  | _ => false

/-- The runner does not take the drop signal while the start task runs, unless the domain is dropped
and not closed. -/
def KeepsStart (_ : List (Action Info RpcHandlers)) (d : Domain Info RpcHandlers)
    (a : Action Info RpcHandlers) : Prop :=
  a = .droppedWhileRunning → d.startDomain = .running → DomainOwner.isDropping d.owner = true

/-- The start task is in the runner's hands, or no `close` will return. -/
def StartHeld (d : Domain Info RpcHandlers) : Prop :=
  d.startDomain = .running → holdsStart d.runner = true ∨ d.runner = .panicked ∨
    DomainOwner.isDropping d.owner = true

theorem StartHeld.step (held : StartHeld d) (keeps : KeepsStart as d a) (step : Step d a after) :
    StartHeld after := by
  unfold StartHeld at held ⊢
  cases step with
  | startDomainEnded => nofun
  | prepared => exact fun _ => .inl rfl
  | runnerPanics => exact fun _ => .inr (.inl rfl)
  | bootstrapReceived at' | bootstrapRefused at' | droppedWhileBootstrapping at'
  | notesBootstrapped at' | notesPreparing at' | specCreated at' | specFailed at' | configured at'
  | prepareFailed at' =>
    intro running
    simpa [at', holdsStart, Domain.exit] using held running
  | publishes _ at' | notesStarting at' => exact fun _ => .inl rfl
  | domainJoined at' wrapped ended =>
    intro running
    rw [show d.startDomain = .running from running] at ended
    cases ended
  | droppedWhileRunning => exact fun running => .inr (.inr (keeps rfl running))
  | close at' | joined _ _ at' | received at' =>
    intro running
    have before : holdsStart d.runner = true ∨ d.runner = .panicked := by
      simpa [at', DomainOwner.isDropping] using held running
    exact before.imp_right .inl
  | signal task _ at' =>
    have before : d.startDomain = .running → holdsStart d.runner = true ∨ d.runner = .panicked :=
      fun running => by simpa [at', DomainOwner.isDropping] using held running
    cases task <;> exact fun running => (before running).imp_right .inl
  | joinPanics | abandon | dropNext => exact fun _ => .inr (.inr rfl)
  | _ => exact held

theorem run_leavesNothing
    (run : (system Info RpcHandlers).RunIf KeepsStart { domainId := domainId } as d) :
    LeavesNothing d := by
  have held : StartHeld d := by
    refine run.invariant (I := fun _ d => StartHeld d) nofun ?_
    intro as t a u held keeps hnext
    exact held.step keeps (step_of_next hnext)
  intro result returned
  have owner := (run_protocol run).owner
  rw [returned] at owner
  cases owner with
  | returned isOver exit ended =>
    refine ⟨fun task => isOver task (by cases task <;> decide), fun running => ?_⟩
    simpa [ended, returned, holdsStart, DomainOwner.isDropping] using held running

/-- A `close` that waits for an ended runner returns, whatever the start task does. -/
theorem run_to_returned {exit : RunnerExit} (sends : RunnerSends d)
    (ended : d.runner = .ended exit) (isOver : d.joined .bootstrapper = some false)
    (owner : d.owner = .closing [.runner, .bootstrapper] true) :
    ∃ bs last result, (system Info RpcHandlers).Run d bs last ∧ last.owner = .returned result ∧
      last.startDomain = d.startDomain := by
  have runner : d.joined .runner = some false := joined_runner_ended.mpr ⟨exit, ended⟩
  let second : Domain Info RpcHandlers := { d with owner := .closing [.bootstrapper] false }
  let third : Domain Info RpcHandlers :=
    { second.sendSignal .bootstrapper with owner := .closing [.bootstrapper] true }
  let fourth : Domain Info RpcHandlers := { third with owner := .receiving }
  have first_join : (system Info RpcHandlers).next d .join = some second := by
    simp [system, next, owner, runner, proceed, second]
  have second_signal : (system Info RpcHandlers).next second .signal = some third := rfl
  have third_join : (system Info RpcHandlers).next third .join = some fourth := by
    have : third.joined .bootstrapper = some false := isOver
    simp [system, next, this, proceed, third, fourth]
  have fourth_receive : (system Info RpcHandlers).next fourth .receive =
      some { fourth with owner := .returned (verdict (.ok (exit.message d.domainId))) } := by
    have : fourth.domainRunnerResult.poll = some (.ok (exit.message d.domainId)) :=
      Oneshot.poll_of_sent (sends.one ended)
    simp [system, next, this, fourth]
  exact ⟨_, _, _, .cons first_join (.cons second_signal (.cons third_join
    (.cons fourth_receive .start))), rfl, rfl⟩

/-- The owner of a runner that has the drop signal, and that it did not drop, waits for it. -/
theorem owner_of_signalled (protocol : Protocol d) (running : d.runner = .running)
    (arrived : d.signalled .runner = true) (live : DomainOwner.isDropping d.owner = false) :
    ∃ signalled, d.owner = .closing [.runner, .bootstrapper] signalled := by
  have stands := protocol.owner
  have waits : d.joined .runner = none := by simp [joined, running]
  generalize d.owner = owner at stands live
  cases stands with
  | held silent => simp [arrived] at silent
  | closing done task rest signalled order isOver =>
    cases done with
    | nil =>
      cases order
      exact ⟨signalled, rfl⟩
    | cons first done =>
      obtain ⟨rfl, _⟩ := List.cons.inj order
      simp [waits] at isOver
  | receiving isOver | returned isOver =>
    have := isOver .runner (by decide)
    simp [waits] at this
  | panicked | dropping => cases live

/-- Where the runner takes the drop signal that `close` sent while the start task runs, `close` may
return with the start task still running. -/
theorem run_to_left (protocol : Protocol d) (lost : ¬ KeepsStart as d a)
    (hnext : d.next a = some after) :
    ∃ bs last, (system Info RpcHandlers).Run after bs last ∧ ¬ LeavesNothing last := by
  simp only [KeepsStart, Classical.not_imp, Bool.not_eq_true] at lost
  obtain ⟨rfl, runs, live⟩ := lost
  have stepped := protocol.step (step_of_next hnext)
  cases step_of_next hnext with
  | droppedWhileRunning at' arrived =>
    have isOver : d.joined .bootstrapper = some false :=
      protocol.bootstraps.ended (by rw [at']; rfl)
    have finish : ∀ e : Domain Info RpcHandlers, RunnerSends e →
        e.runner = .ended .droppedWhileRunning → e.joined .bootstrapper = some false →
        e.startDomain = .running → e.owner = .closing [.runner, .bootstrapper] true →
        ∃ bs last, (system Info RpcHandlers).Run e bs last ∧ ¬ LeavesNothing last := by
      intro e sends ended isOver runs owner
      obtain ⟨bs, last, result, run, returned, same⟩ := run_to_returned sends ended isOver owner
      exact ⟨bs, last, run, fun leaves => (leaves result returned).2 (same.trans runs)⟩
    obtain ⟨signalled, owner⟩ := owner_of_signalled protocol at' arrived live
    cases signalled with
    | true => exact finish _ stepped.runnerSends rfl isOver runs owner
    | false =>
      let signalling : Domain Info RpcHandlers :=
        { (d.exit .droppedWhileRunning).sendSignal .runner with
          owner := .closing [.runner, .bootstrapper] true }
      have signals : (system Info RpcHandlers).next (d.exit .droppedWhileRunning) .signal =
          some signalling := by
        have : (d.exit .droppedWhileRunning).owner = .closing [.runner, .bootstrapper] false :=
          owner
        simp [system, next, this, signalling]
      obtain ⟨bs, last, run, left⟩ := finish signalling stepped.runnerSends rfl isOver runs rfl
      exact ⟨_, last, .cons signals run, left⟩

/-- Closing a domain leaves no task of it running in any run whose runner never takes the drop
signal while the start task runs; and a step that takes it then can be followed by a `close` that
returns and leaves that task running. -/
theorem leavesNothing_of_keepsStart :
    (∀ as d, (system Info RpcHandlers).RunIf KeepsStart { domainId := domainId } as d →
      LeavesNothing d) ∧
    (∀ as d a after, (system Info RpcHandlers).Run { domainId := domainId } as d →
      d.next a = some after → ¬ KeepsStart as d a →
      ∃ bs last, (system Info RpcHandlers).Run after bs last ∧ ¬ LeavesNothing last) := by
  refine ⟨fun as d run => run_leavesNothing run, ?_⟩
  intro as d a after run hnext lost
  exact run_to_left (run_protocol run) lost hnext

theorem leavesNothing_of_keepsStart_bootstrapping : ∃ d,
    (system Unit Unit).Run { domainId := 0 } [.startBootstrapping, .close, .signal,
      .droppedWhileBootstrapping, .join, .signal, .bootstrappingDropped, .join, .receive] d ∧
    d.owner = .returned (.ok ()) ∧ LeavesNothing d := by
  obtain ⟨d, done, returned⟩ : ∃ d, (system Unit Unit).exec (fun _ _ _ => True) []
      { domainId := 0 } [.startBootstrapping, .close, .signal, .droppedWhileBootstrapping, .join,
        .signal, .bootstrappingDropped, .join, .receive] = some d ∧ d.owner = .returned (.ok ()) :=
    ⟨_, rfl, rfl⟩
  have run := System.RunIf.of_exec done
  have kept : (system Unit Unit).RunIf KeepsStart { domainId := 0 } _ d :=
    (run.and_of_forall (p := (· ≠ .droppedWhileRunning)) (by simp)).mono
      fun _ _ _ kept same => absurd same kept.2
  exact ⟨d, run, returned, leavesNothing_of_keepsStart.1 _ d kept⟩

/-- A domain that is closed while it runs: its start task goes on after `close` has returned. -/
theorem closed_while_running : ∃ as d,
    (system Unit Unit).Run { domainId := 0 } as d ∧ d.owner = .returned (.ok ()) ∧
      d.startDomain = .running := by
  obtain ⟨d, done, facts⟩ : ∃ d, (system Unit Unit).exec (fun _ _ _ => True) [] { domainId := 0 }
      [.startBootstrapping, .fetched (.ok ()), .bootstrapReceived, .lockAcquired,
        .specCreated (.ok ()), .configured, .lockAcquired, .prepared (.ok ()), .lockAcquired,
        .lockAcquired, .close, .signal, .droppedWhileRunning, .join, .signal, .join, .receive] =
      some d ∧ d.owner = .returned (.ok ()) ∧ d.startDomain = .running := ⟨_, rfl, rfl, rfl⟩
  exact ⟨_, d, System.RunIf.of_exec done, facts⟩

end Domain

end SubspaceSdk
