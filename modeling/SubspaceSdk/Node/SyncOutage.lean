import SubspaceSdk.Node.Sync

/-! What an outage does to `Node::sync`.  At start-up a query that fails, or that finds the node
offline, is remembered as the error of the retry, but only until the next query.  The background
loop sends a failed query on the stream, where `sync` drops it, and does not see that the node is
offline. -/

namespace SubspaceSdk

open ProofKit

namespace Query

/-- The service has nothing to sync, and the node is online. -/
def idleOnline (query : Query) : Bool :=
  (query.status = .ok .idle || query.status = .ok .pending) && !query.isOffline

/-- The service cannot be reached, or the node is offline. -/
def outage (query : Query) : Bool := query.status = .error () || query.isOffline

theorem outage_of_idleOnline {query : Query} (idle : query.idleOnline = true) :
    query.outage = false := by
  obtain ⟨status, isOffline⟩ := query
  rcases status with _ | (_ | _ | target | target) <;> cases isOffline <;>
    simp_all [idleOnline, outage]

end Query

theorem startUpQuery_eq_none {query : Query} (again : startUpQuery query = .error none) :
    query.idleOnline = true := by
  obtain ⟨status, isOffline⟩ := query
  rcases status with _ | (_ | _ | target | target) <;> cases isOffline <;>
    simp_all [startUpQuery, Query.idleOnline]

theorem backgroundQuery_again {query : Query} (again : backgroundQuery query = .error ())
    (online : query.isOffline = false) : query.idleOnline = true := by
  obtain ⟨status, isOffline⟩ := query
  rcases status with _ | (_ | _ | target | target) <;>
    simp_all [backgroundQuery, Query.idleOnline]

/-- `sync` has not come to an end yet. -/
def SyncPhase.isRunning : SyncPhase → Bool
  | .ended | .returned _ => false
  | _ => true

namespace Syncing

variable {s t u : Syncing} {a : Action} {as : List Action}

/-- `sync` tells of an outage: it is content only with a stream without errors that ended after a
window of idle queries of an online node, and it fails after a window that was all outage. -/
structure ReportsOutage (s : Syncing) : Prop where
  ok_only : s.phase = .returned (.ok ()) → (∀ error, .error error ∉ s.forwarded) ∧
    s.finalWindow ≠ [] ∧ ∀ query ∈ s.finalWindow, query.idleOnline = true
  fails : s.finalWindow ≠ [] → (∀ query ∈ s.finalWindow, query.outage = true) →
    ∃ error, s.phase = .returned (.error error)

/-- No query of the background loop fails, no window of it is over in which the node was offline,
and the window of the start-up is not over after an idle query that follows an outage. -/
def Steady (_ : List Action) (s : Syncing) (a : Action) : Prop :=
  match a, s.phase with
  | .query query, .background _ => query.status ≠ .error ()
  | .windowOver, .background window => ∀ query ∈ window, query.isOffline = false
  | .windowOver, .startUp window =>
    window.getLast?.any Query.idleOnline = true → ∀ query ∈ window, query.idleOnline = true
  | _, _ => True

/-- What is so after steady steps. -/
structure Quiet (s : Syncing) : Prop where
  noErrors : ∀ error, .error error ∉ s.forwarded
  alive : s.stream.receiverAlive = true
  noWindow : s.phase.isRunning = true → s.finalWindow = []
  again : ∀ window, s.phase = .background window →
    ∀ query ∈ window, backgroundQuery query = .error ()
  fine : ∀ item, s.phase = .forwarding item → ∃ progress, item = .ok progress
  idle : s.phase = .ended ∨ s.phase = .returned (.ok ()) → s.finalWindow ≠ [] ∧
    ∀ query ∈ s.finalWindow, query.idleOnline = true

theorem not_mem_append {forwarded : List (Except String SyncingProgress)}
    (noErrors : ∀ error, .error error ∉ forwarded) (progress : SyncingProgress) (error : String) :
    .error error ∉ forwarded ++ [.ok progress] := by
  simpa using noErrors error

/-- A query of the background loop that does not fail is a progress, or is made again. -/
theorem backgroundQuery_fine {query : Query} {item : Except String SyncingProgress}
    (answered : query.status ≠ .error ()) (found : backgroundQuery query = .ok item) :
    ∃ progress, item = .ok progress := by
  obtain ⟨status, isOffline⟩ := query
  rcases status with _ | (_ | _ | target | target)
  · exact absurd rfl answered
  · cases found
  · cases found
  · cases found
    exact ⟨_, rfl⟩
  · cases found
    exact ⟨_, rfl⟩

theorem Quiet.step (quiet : Quiet s) (steady : Steady as s a) (step : Step s a u) : Quiet u := by
  obtain ⟨noErrors, alive, noWindow, again, fine, idle⟩ := quiet
  have still (at' : s.phase.isRunning = true) (_ : u.phase.isRunning = true) :
      s.finalWindow = [] := noWindow at'
  cases step with
  | offline at' | online at' =>
    exact ⟨noErrors, alive, still (by rw [at']; rfl), nofun, nofun, by simp⟩
  | @startUpFound window query progress stream at' found sent =>
    exact ⟨not_mem_append noErrors progress, (Queue.trySend_ok sent).2.1.trans alive,
      still (by rw [at']; rfl), by rintro _ ⟨⟩; nofun, nofun, by simp⟩
  | startUpAgain at' =>
    exact ⟨noErrors, alive, still (by rw [at']; rfl), nofun, nofun, by simp⟩
  | backgroundFound at' found =>
    refine ⟨noErrors, alive, still (by rw [at']; rfl), nofun, ?_, by simp⟩
    rintro _ ⟨⟩
    simp only [Steady, at'] at steady
    exact backgroundQuery_fine steady found
  | @backgroundAgain window query at' again' =>
    refine ⟨noErrors, alive, still (by rw [at']; rfl), ?_, nofun, by simp⟩
    rintro _ ⟨⟩ query' mem
    rcases List.mem_append.mp mem with earlier | now
    · exact again window at' query' earlier
    · rw [List.mem_singleton.mp now, again']
  | connectingOver | startUpFailed => exact ⟨noErrors, alive, nofun, nofun, nofun, by simp⟩
  | startUpIdle at' last =>
    refine ⟨noErrors, alive, nofun, nofun, nofun, fun _ => ⟨ne_nil_of_lastError last, ?_⟩⟩
    obtain ⟨query, isLast, again'⟩ := lastError_eq_some last
    simp only [Steady, at'] at steady
    exact steady (by rw [isLast]; exact startUpQuery_eq_none again')
  | backgroundIdle at' last =>
    refine ⟨noErrors, alive, nofun, nofun, nofun, fun _ => ⟨ne_nil_of_lastError last, ?_⟩⟩
    simp only [Steady, at'] at steady
    exact fun query mem => backgroundQuery_again (again _ at' query mem) (steady query mem)
  | sent at' sent =>
    obtain ⟨progress, rfl⟩ := fine _ at'
    exact ⟨not_mem_append noErrors progress, (Queue.trySend_ok sent).2.1.trans alive,
      still (by rw [at']; rfl), by rintro _ ⟨⟩; nofun, nofun, by simp⟩
  | received => exact ⟨noErrors, alive, noWindow, again, fine, idle⟩
  | streamOver at' =>
    exact ⟨noErrors, alive, nofun, nofun, nofun, fun _ => idle (.inl at')⟩

theorem run_quiet (run : system.RunIf Steady {} as s) : Quiet s := by
  refine run.invariant (I := fun _ s => Quiet s)
    ⟨nofun, rfl, fun _ => rfl, nofun, nofun, by simp⟩ ?_
  intro as t a u quiet steady hnext
  exact quiet.step steady (step_of_next hnext)

theorem Quiet.reportsOutage (quiet : Quiet s) : ReportsOutage s := by
  refine ⟨fun returned => ⟨quiet.noErrors, quiet.idle (.inr returned)⟩, fun some outage => ?_⟩
  have notIdle : ¬(s.phase = .ended ∨ s.phase = .returned (.ok ())) := by
    intro isOver
    obtain ⟨query, mem⟩ := List.exists_mem_of_ne_nil _ some
    have online := Query.outage_of_idleOnline ((quiet.idle isOver).2 query mem)
    rw [outage query mem] at online
    cases online
  cases at' : s.phase with
  | connecting | startUp | background | forwarding =>
    exact absurd (quiet.noWindow (by rw [at']; rfl)) some
  | ended => exact absurd (.inl at') notIdle
  | returned result =>
    rcases result with error | _
    · exact ⟨error, rfl⟩
    · exact absurd (.inr at') notIdle

/-! ### A step that is not steady -/

/-- `sync` may take all that waits on the stream. -/
theorem run_drained (s : Syncing) : ∃ as t, system.Run s as t ∧ t.phase = s.phase ∧
    t.forwarded = s.forwarded ∧ t.finalWindow = s.finalWindow ∧ t.stream.buffer = [] ∧
    t.stream.receiverAlive = s.stream.receiverAlive := by
  induction waiting : s.stream.buffer generalizing s with
  | nil => exact ⟨[], s, .start, rfl, rfl, rfl, waiting, rfl⟩
  | cons item items ih =>
    have step : system.next s .receive = some { s with stream := s.stream.pop } := by
      simp only [system, next, waiting]
    have rest : s.stream.pop.buffer = items := congrArg List.tail waiting
    obtain ⟨as, t, run, kept⟩ := ih { s with stream := s.stream.pop } rest
    exact ⟨.receive :: as, t, .cons step run, kept⟩

theorem run_to_ok (at' : s.phase = .ended) : ∃ as t, system.Run s as t ∧
    t.phase = .returned (.ok ()) ∧ t.forwarded = s.forwarded ∧ t.finalWindow = s.finalWindow := by
  obtain ⟨as, t, run, phase, forwarded, window, empty, -⟩ := run_drained s
  have step : system.next t .streamOver = some { t with phase := .returned (.ok ()) } := by
    simp only [system, next, phase, at', empty]
  exact ⟨as ++ [.streamOver], { t with phase := .returned (.ok ()) }, run.next step, rfl,
    forwarded, window⟩

/-- After an error that is to be forwarded, `sync` may come to its end without one. -/
theorem run_forgets {error : String} (at' : s.phase = .forwarding (.error error))
    (alive : s.stream.receiverAlive = true) : ∃ as t, system.Run s as t ∧
    t.phase = .returned (.ok ()) ∧ .error error ∈ t.forwarded := by
  obtain ⟨as, t, run, phase, -, -, empty, alive'⟩ := run_drained s
  obtain ⟨stream, sent⟩ := Queue.trySend_of_room (Except.error error) (alive'.trans alive)
    (by rw [empty]; decide)
  let idle : Query := ⟨.ok .idle, false⟩
  let sending : Syncing := { t with
    phase := .background []
    stream := stream
    forwarded := t.forwarded ++ [.error error] }
  have first : system.next t .send = some sending := by
    simp only [system, next, phase, at', sent, sending]
  have second : system.next sending (.query idle) =
      some { sending with phase := .background [idle] } := rfl
  have third : system.next { sending with phase := .background [idle] } .windowOver =
      some { sending with phase := .ended, finalWindow := [idle] } := rfl
  obtain ⟨bs, u, last, returned, forwarded, -⟩ :=
    run_to_ok (s := { sending with phase := .ended, finalWindow := [idle] }) rfl
  refine ⟨_, u, (((run.next first).next second).next third).append last, returned, ?_⟩
  rw [forwarded]
  exact List.mem_append_right _ (List.mem_singleton_self _)

theorem run_forgets_window (at' : s.phase = .ended)
    (disturbed : ∃ query ∈ s.finalWindow, query.idleOnline = false) :
    ∃ as t, system.Run s as t ∧ ¬ReportsOutage t := by
  obtain ⟨as, t, run, returned, -, window⟩ := run_to_ok at'
  refine ⟨as, t, run, fun reports => ?_⟩
  obtain ⟨query, mem, notIdle⟩ := disturbed
  have idle := (reports.ok_only returned).2.2 query (window ▸ mem)
  rw [notIdle] at idle
  cases idle

theorem run_forgets_of_not_steady (alive : s.stream.receiverAlive = true)
    (unsteady : ¬Steady as s a) (step : Step s a u) :
    ∃ bs t, system.Run u bs t ∧ ¬ReportsOutage t := by
  cases step with
  | @backgroundFound window query item at' found =>
    simp only [Steady, at', ne_eq, not_not] at unsteady
    obtain ⟨status, isOffline⟩ := query
    cases unsteady
    cases found
    obtain ⟨bs, t, run, returned, mem⟩ := run_forgets
      (s := { s with phase := .forwarding (.error "Failed to fetch networking status") }) rfl alive
    exact ⟨bs, t, run, fun reports => (reports.ok_only returned).1 _ mem⟩
  | @backgroundAgain window query at' again =>
    simp only [Steady, at', ne_eq, not_not] at unsteady
    rw [backgroundQuery, unsteady] at again
    cases again
  | @startUpIdle window at' last =>
    simp only [Steady, at', not_forall, Bool.not_eq_true] at unsteady
    obtain ⟨-, query, mem, notIdle⟩ := unsteady
    exact run_forgets_window rfl ⟨query, mem, notIdle⟩
  | @startUpFailed window error at' last =>
    simp only [Steady, at', not_forall] at unsteady
    obtain ⟨isIdle, -⟩ := unsteady
    obtain ⟨query, isLast, failed⟩ := lastError_eq_some last
    rw [isLast] at isIdle
    have idle : query.idleOnline = true := isIdle
    obtain ⟨status, isOffline⟩ := query
    rcases status with _ | (_ | _ | target | target) <;> cases isOffline <;>
      simp_all [startUpQuery, Query.idleOnline]
  | @backgroundIdle window at' last =>
    simp only [Steady, at', not_forall, Bool.not_eq_false] at unsteady
    obtain ⟨query, mem, offline⟩ := unsteady
    refine run_forgets_window rfl ⟨query, mem, ?_⟩
    rw [Query.idleOnline, offline, Bool.not_true, Bool.and_false]
  | startUpFound at' | startUpAgain at' | connectingOver at' =>
    simp only [Steady, at', not_true_eq_false] at unsteady
  | offline | online | sent | received | streamOver =>
    simp only [Steady, not_true_eq_false] at unsteady

/-- Over steady steps `sync` tells of every outage, and after any other step it may come to an end
that tells of none. -/
theorem reportsOutage_of_steady (run : system.RunIf Steady {} as s) :
    ReportsOutage s ∧ ∀ a u, system.next s a = some u → ¬Steady as s a →
      ∃ bs t, system.Run u bs t ∧ ¬ReportsOutage t := by
  refine ⟨(run_quiet run).reportsOutage, fun a u hnext unsteady => ?_⟩
  exact run_forgets_of_not_steady (run_quiet run).alive unsteady (step_of_next hnext)

/-- A node that is idle once it has imported and downloaded blocks. -/
theorem reportsOutage_of_steady_synced :
    ReportsOutage { phase := .returned (.ok ()), finalWindow := [⟨.ok .idle, false⟩],
                    forwarded := [.ok ⟨7, .importing⟩, .ok ⟨9, .downloading⟩] } := by
  have online : system.RunIf Steady {} [.checkOffline false] { phase := .startUp [] } :=
    .step .start trivial rfl
  have importing := online.step (a := .query ⟨.ok (.importing 7), false⟩) (by trivial) rfl
  have downloading := importing.step (a := .query ⟨.ok (.downloading 9), false⟩)
    (by simp [Steady]) rfl
  have sent := downloading.step (a := .send) (by trivial) rfl
  have idle := sent.step (a := .query ⟨.ok .idle, false⟩) (by simp [Steady]) rfl
  have isOver := idle.step (a := .windowOver) (by simp [Steady]) rfl
  have first := isOver.step (a := .receive) (by trivial) rfl
  have second := first.step (a := .receive) (by trivial) rfl
  have returned := second.step (a := .streamOver) (by trivial) rfl
  exact (reportsOutage_of_steady returned).1

/-- A query of the background loop fails, and then the node is idle until the window is over. -/
theorem sync_ok_after_failed_query : ¬∀ as s, system.Run {} as s → ReportsOutage s := by
  intro reports
  have run : system.Run {}
      [.checkOffline false, .query ⟨.ok (.importing 7), false⟩, .query ⟨.error (), false⟩, .send,
        .query ⟨.ok .idle, false⟩, .windowOver, .receive, .receive, .streamOver]
      { phase := .returned (.ok ())
        forwarded := [.ok ⟨7, .importing⟩, .error "Failed to fetch networking status"]
        finalWindow := [⟨.ok .idle, false⟩] } :=
    System.RunIf.of_exec rfl
  exact ((reports _ _ run).ok_only rfl).1 _ (List.mem_cons_of_mem _ (List.mem_singleton_self _))

/-- While the service cannot be reached, the background loop goes on and on, and `sync` does not
return. -/
theorem run_unavailable (at' : s.phase = .background [])
    (run : system.RunIf (fun _ _ a => ∀ query, a = .query query → query.status = .error ())
      s as t) :
    t.phase = .background [] ∨ ∃ error, t.phase = .forwarding (.error error) := by
  refine run.invariant (I := fun _ t => t.phase = .background [] ∨
    ∃ error, t.phase = .forwarding (.error error)) (.inl at') ?_
  intro as t a u phase unavailable hnext
  cases step_of_next hnext with
  | @backgroundFound window query item here found =>
    have failed := unavailable query rfl
    rw [backgroundQuery, failed] at found
    cases found
    exact .inr ⟨_, rfl⟩
  | @backgroundAgain window query here again =>
    have failed := unavailable query rfl
    rw [backgroundQuery, failed] at again
    cases again
  | @backgroundIdle window here last =>
    rcases phase with idle | ⟨error, forwarding⟩
    · rw [here] at idle
      cases idle
      cases last
    · rw [here] at forwarding
      cases forwarding
  | sent => exact .inl rfl
  | received => exact phase
  | offline here | online here | startUpFound here | startUpAgain here | connectingOver here
  | startUpFailed here | startUpIdle here | streamOver here => simp [here] at phase

end Syncing

end SubspaceSdk
