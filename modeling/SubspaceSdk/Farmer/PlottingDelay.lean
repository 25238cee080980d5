import SubspaceSdk.Farmer.Build
import SubspaceSdk.ProofKit.Channel
import SubspaceSdk.ProofKit.Transition

/-! When the farms of a farmer may plot.  Each farm waits for its plotting delay.  A task sends to
all of them once the worker of the piece cache has acknowledged the farms' caches; it ends without
sending where the acknowledgement is lost or its drop signal comes first.  The destructors of the
farmer signal and join this task, and the worker after it. -/

namespace SubspaceSdk

open ProofKit

/-- The farmer, as far as these two tasks notice. -/
inductive PlottingDelayOwner where
  | holding
  /-- The destructors of these tasks are left to `close`; the first task may have its signal. -/
  | closing (todo : List FarmerTask) (signalled : Bool)
  | closed
  /-- The destructors are dropped, and the signals with them. -/
  | dropping (todo : List FarmerTask)
  | dropped
  deriving Repr, DecidableEq

structure PlottingDelay where
  cacheAcknowledgement : Oneshot Unit := {}
  /-- The plotting delay of each farm. -/
  plottingDelays : List (Oneshot Unit)
  dropSignal : FarmerTask → Oneshot Unit := fun _ => {}
  done : FarmerTask → Bool := fun _ => false
  owner : PlottingDelayOwner := .holding

namespace PlottingDelay

/-- The tasks around the piece cache. -/
def cacheTask? : FarmerDestructor → Option FarmerTask
  | .async .farmDriver => none
  | .async task => some task
  | _ => none

/-- The tasks that are torn down, the first one first. -/
def tasks : List FarmerTask := [.plottingDelay, .pieceCacheWorker]

theorem tasks_eq (farms : Nat) :
    (farmerDestructors farms).reverse.filterMap cacheTask? = tasks := by
  have items : ((List.range farms).map (.item : Nat → FarmerDestructor)).reverse.filterMap
      cacheTask? = [] := by
    refine List.filterMap_eq_nil_iff.mpr fun destructor mem => ?_
    obtain ⟨i, -, rfl⟩ := List.mem_map.mp (List.mem_reverse.mp mem)
    rfl
  rw [farmerDestructors_reverse, List.filterMap_append, List.filterMap_append, items]
  rfl

inductive Action where
  /-- The worker acknowledges the caches. -/
  | acknowledge
  /-- The worker drops the acknowledgement. -/
  | loseAcknowledgement
  /-- The task of the worker is polled; the worker may have run to its end. -/
  | pollWorker (ranOut : Bool)
  | pollPlottingDelay
  | close
  /-- The farmer is dropped, or the future of its `close`. -/
  | drop
  /-- The owner takes the next step of its teardown. -/
  | tearDown
  deriving Repr, DecidableEq

def setDone (s : PlottingDelay) (task : FarmerTask) : PlottingDelay :=
  { s with done := fun other => if other = task then true else s.done other }

def setSignal (s : PlottingDelay) (task : FarmerTask) (signal : Oneshot Unit) : PlottingDelay :=
  { s with dropSignal := fun other => if other = task then signal else s.dropSignal other }

/-- The select of the plotting delay task, which looks at the acknowledgement first. -/
def pollPlottingDelay (s : PlottingDelay) : Option PlottingDelay :=
  match s.cacheAcknowledgement.poll with
  | some (.ok ()) => some ({ s with
      plottingDelays := s.plottingDelays.map (Oneshot.send · ()) }.setDone .plottingDelay)
  | some (.error ()) => some ({ s with
      plottingDelays := s.plottingDelays.map Oneshot.dropSender }.setDone .plottingDelay)
  | none =>
    if (s.dropSignal .plottingDelay).arrived then
      some ({ s with
        plottingDelays := s.plottingDelays.map Oneshot.dropSender }.setDone .plottingDelay)
    else none

/-- The destructors that `close` has not polled. -/
def unpolled (todo : List FarmerTask) (signalled : Bool) : List FarmerTask :=
  if signalled then todo.tail else todo

/-- The farmer is dropped, or the drain of its destructors, which drops what is left forwards. -/
def drop (s : PlottingDelay) : Option PlottingDelay :=
  match s.owner with
  | .holding => some { s with owner := .dropping tasks }
  | .closing todo signalled => some { s with owner := .dropping (unpolled todo signalled).reverse }
  | _ => none

def tearDown (s : PlottingDelay) : Option PlottingDelay :=
  match s.owner with
  | .closing [] _ => some { s with owner := .closed }
  | .closing (task :: todo) false =>
    some { s.setSignal task ((s.dropSignal task).send ()) with
      owner := .closing (task :: todo) true }
  | .closing (task :: todo) true =>
    if s.done task then some { s with owner := .closing todo false } else none
  | .dropping [] => some { s with owner := .dropped }
  | .dropping (task :: todo) =>
    some { s.setSignal task (s.dropSignal task).dropSender with owner := .dropping todo }
  | _ => none

def next (s : PlottingDelay) : Action → Option PlottingDelay
  | .acknowledge =>
    if s.done .pieceCacheWorker || s.cacheAcknowledgement.arrived then none
    else some { s with cacheAcknowledgement := s.cacheAcknowledgement.send () }
  | .loseAcknowledgement =>
    if s.done .pieceCacheWorker || s.cacheAcknowledgement.arrived then none
    else some { s with cacheAcknowledgement := s.cacheAcknowledgement.dropSender }
  | .pollWorker ranOut =>
    if !s.done .pieceCacheWorker && (ranOut || (s.dropSignal .pieceCacheWorker).arrived) then
      some ({ s with
        cacheAcknowledgement := s.cacheAcknowledgement.dropSender }.setDone .pieceCacheWorker)
    else none
  | .pollPlottingDelay => if s.done .plottingDelay then none else s.pollPlottingDelay
  | .close => if s.owner = .holding then some { s with owner := .closing tasks false } else none
  | .drop => s.drop
  | .tearDown => s.tearDown

def system : System PlottingDelay Action := ⟨next⟩

/-- A farmer whose farms wait. -/
def start (farms : Nat) : PlottingDelay := { plottingDelays := List.replicate farms {} }

variable {s t : PlottingDelay} {a : Action} {as : List Action}

/-! ### What a step can do -/

variable (s) in
inductive Step : Action → PlottingDelay → Prop
  | acknowledge (alive : s.done .pieceCacheWorker = false)
      (open' : s.cacheAcknowledgement.poll = none) :
      Step .acknowledge { s with cacheAcknowledgement := s.cacheAcknowledgement.send () }
  | loseAcknowledgement (open' : s.cacheAcknowledgement.poll = none) :
      Step .loseAcknowledgement
        { s with cacheAcknowledgement := s.cacheAcknowledgement.dropSender }
  | workerEnds (ranOut : Bool) :
      Step (.pollWorker ranOut) ({ s with
        cacheAcknowledgement := s.cacheAcknowledgement.dropSender }.setDone .pieceCacheWorker)
  | sends (waits : s.done .plottingDelay = false)
      (acknowledged : s.cacheAcknowledgement.poll = some (.ok ())) :
      Step .pollPlottingDelay ({ s with
        plottingDelays := s.plottingDelays.map (Oneshot.send · ()) }.setDone .plottingDelay)
  | cancels (waits : s.done .plottingDelay = false)
      (why : s.cacheAcknowledgement.poll = some (.error ()) ∨
        (s.dropSignal .plottingDelay).arrived = true) :
      Step .pollPlottingDelay ({ s with
        plottingDelays := s.plottingDelays.map Oneshot.dropSender }.setDone .plottingDelay)
  | close (at' : s.owner = .holding) : Step .close { s with owner := .closing tasks false }
  | drop (at' : s.owner = .holding) : Step .drop { s with owner := .dropping tasks }
  | dropClose {todo : List FarmerTask} {signalled : Bool}
      (at' : s.owner = .closing todo signalled) :
      Step .drop { s with owner := .dropping (unpolled todo signalled).reverse }
  | signal {task : FarmerTask} {todo : List FarmerTask}
      (at' : s.owner = .closing (task :: todo) false) :
      Step .tearDown { s.setSignal task ((s.dropSignal task).send ()) with
        owner := .closing (task :: todo) true }
  | joined {task : FarmerTask} {todo : List FarmerTask}
      (at' : s.owner = .closing (task :: todo) true) (ended : s.done task = true) :
      Step .tearDown { s with owner := .closing todo false }
  | closed {signalled : Bool} (at' : s.owner = .closing [] signalled) :
      Step .tearDown { s with owner := .closed }
  | dropSignal {task : FarmerTask} {todo : List FarmerTask}
      (at' : s.owner = .dropping (task :: todo)) :
      Step .tearDown { s.setSignal task (s.dropSignal task).dropSender with
        owner := .dropping todo }
  | dropped (at' : s.owner = .dropping []) : Step .tearDown { s with owner := .dropped }

theorem step_of_tearDown (h : s.tearDown = some t) : Step s .tearDown t := by
  unfold tearDown at h
  split at h
  · next at' =>
    cases h
    exact .closed at'
  · next at' =>
    cases h
    exact .signal at'
  · next at' =>
    split at h
    · next ended =>
      cases h
      exact .joined at' ended
    · cases h
  · next at' =>
    cases h
    exact .dropped at'
  · next at' =>
    cases h
    exact .dropSignal at'
  · cases h

theorem step_of_pollPlottingDelay (waits : s.done .plottingDelay = false)
    (h : s.pollPlottingDelay = some t) : Step s .pollPlottingDelay t := by
  unfold pollPlottingDelay at h
  split at h
  · next acknowledged =>
    cases h
    exact .sends waits acknowledged
  · next lost =>
    cases h
    exact .cancels waits (.inl lost)
  · split at h
    · next signalled =>
      cases h
      exact .cancels waits (.inr signalled)
    · cases h

theorem poll_eq_none {c : Oneshot Unit} (h : c.arrived = false) : c.poll = none := by
  simpa [Oneshot.arrived] using h

theorem step_of_next (h : system.next s a = some t) : Step s a t := by
  cases a with
  | acknowledge =>
    simp only [system, next] at h
    split at h
    · cases h
    · next able =>
      rw [Bool.or_eq_true, not_or, Bool.not_eq_true, Bool.not_eq_true] at able
      cases h
      exact .acknowledge able.1 (poll_eq_none able.2)
  | loseAcknowledgement =>
    simp only [system, next] at h
    split at h
    · cases h
    · next able =>
      rw [Bool.or_eq_true, not_or, Bool.not_eq_true, Bool.not_eq_true] at able
      cases h
      exact .loseAcknowledgement (poll_eq_none able.2)
  | pollWorker ranOut =>
    simp only [system, next] at h
    split at h
    · cases h
      exact .workerEnds ranOut
    · cases h
  | pollPlottingDelay =>
    simp only [system, next] at h
    split at h
    · cases h
    · next waits => exact step_of_pollPlottingDelay (by simpa using waits) h
  | close =>
    simp only [system, next] at h
    split at h
    · next at' =>
      cases h
      exact .close at'
    · cases h
  | drop =>
    simp only [system, next, PlottingDelay.drop] at h
    split at h
    · next at' =>
      cases h
      exact .drop at'
    · next at' =>
      cases h
      exact .dropClose at'
    · cases h
  | tearDown => exact step_of_tearDown h

/-! ### The farms -/

/-- All farms are told the same: nothing so far, to go on, or that nobody will tell them. -/
inductive Told (s : PlottingDelay) : Prop
  | waiting (waits : s.done .plottingDelay = false) (none : ∀ d ∈ s.plottingDelays, d.poll = none)
  | started (ended : s.done .plottingDelay = true)
      (all : ∀ d ∈ s.plottingDelays, d.poll = some (.ok ()))
      (acknowledged : s.cacheAcknowledgement.poll = some (.ok ()))
  | cancelled (ended : s.done .plottingDelay = true)
      (all : ∀ d ∈ s.plottingDelays, d.poll = some (.error ()))
      (why : s.cacheAcknowledgement.poll = some (.error ()) ∨
        (s.dropSignal .plottingDelay).arrived = true)

theorem poll_dropSender_error {c : Oneshot Unit} (h : c.poll = some (.error ())) :
    c.dropSender.poll = some (.error ()) := by
  unfold Oneshot.poll at h ⊢
  split at h
  · cases h
  · next empty =>
    simp [Oneshot.dropSender, empty]

theorem sent_of_poll {c : Oneshot Unit} (h : c.poll = none) :
    c.sent = [] ∧ c.senderDropped = false := by
  unfold Oneshot.poll at h
  split at h
  · cases h
  · next empty =>
    split at h
    · cases h
    · next alive => exact ⟨empty, by simpa using alive⟩

theorem poll_send_of_none {c : Oneshot Unit} (h : c.poll = none) :
    (c.send ()).poll = some (.ok ()) :=
  Oneshot.poll_of_sent (by rw [Oneshot.sent_send, (sent_of_poll h).1]; rfl)

theorem poll_dropSender_of_none {c : Oneshot Unit} (h : c.poll = none) :
    c.dropSender.poll = some (.error ()) := by
  simp [Oneshot.poll, Oneshot.dropSender, (sent_of_poll h).1]

/-- A step that leaves the farms alone and what was acknowledged or signalled. -/
theorem Told.mono (told : Told s) (done : t.done .plottingDelay = s.done .plottingDelay)
    (delays : t.plottingDelays = s.plottingDelays)
    (acknowledgement : ∀ answer, s.cacheAcknowledgement.poll = some answer →
      t.cacheAcknowledgement.poll = some answer)
    (signal : (s.dropSignal .plottingDelay).arrived = true →
      (t.dropSignal .plottingDelay).arrived = true) : Told t := by
  cases told with
  | waiting waits none => exact .waiting (done.trans waits) (by rwa [delays])
  | started ended all acknowledged =>
    exact .started (done.trans ended) (by rwa [delays]) (acknowledgement _ acknowledged)
  | cancelled ended all why =>
    exact .cancelled (done.trans ended) (by rwa [delays]) (why.imp (acknowledgement _) signal)

theorem Told.waits (told : Told s) (waits : s.done .plottingDelay = false) :
    ∀ d ∈ s.plottingDelays, d.poll = none := by
  cases told with
  | waiting _ none => exact none
  | started ended | cancelled ended => exact absurd (waits.symm.trans ended) Bool.false_ne_true

theorem poll_dropSender_stays {c : Oneshot Unit} (answer : Except Unit Unit)
    (h : c.poll = some answer) : c.dropSender.poll = some answer := by
  cases answer with
  | ok => exact Oneshot.poll_dropSender h
  | error => exact poll_dropSender_error h

theorem arrived_setSignal {task : FarmerTask} {signal : Oneshot Unit}
    (arrived : signal.arrived = true) (other : FarmerTask)
    (h : (s.dropSignal other).arrived = true) :
    ((s.setSignal task signal).dropSignal other).arrived = true := by
  by_cases same : other = task
  · simp [setSignal, same, arrived]
  · simpa [setSignal, same] using h

theorem Told.step (told : Told s) (step : Step s a t) : Told t := by
  cases step with
  | acknowledge _ open' =>
    exact told.mono rfl rfl (fun _ h => (Option.some_ne_none _ (h.symm.trans open')).elim) id
  | loseAcknowledgement | workerEnds =>
    exact told.mono rfl rfl (fun _ h => poll_dropSender_stays _ h) id
  | sends waits acknowledged =>
    refine .started rfl (fun d mem => ?_) acknowledged
    obtain ⟨c, there, rfl⟩ := List.mem_map.mp mem
    exact poll_send_of_none (told.waits waits c there)
  | cancels waits why =>
    refine .cancelled rfl (fun d mem => ?_) why
    obtain ⟨c, there, rfl⟩ := List.mem_map.mp mem
    exact poll_dropSender_of_none (told.waits waits c there)
  | signal =>
    exact told.mono rfl rfl (fun _ => id) (arrived_setSignal (Oneshot.arrived_send _ _) _)
  | dropSignal =>
    exact told.mono rfl rfl (fun _ => id) (arrived_setSignal (Oneshot.arrived_dropSender _) _)
  | close | drop | dropClose | joined | closed | dropped => exact told.mono rfl rfl (fun _ => id) id

/-! ### The teardown -/

/-- A task has its signal: what `close` sent, or that its sender is dropped. -/
def signalled (s : PlottingDelay) (task : FarmerTask) : Bool := (s.dropSignal task).arrived

/-- What is known of the tasks by how far the owner has come. -/
inductive OwnerAt (s : PlottingDelay) : PlottingDelayOwner → Prop
  | holding (silent : ∀ task, s.signalled task = false) : OwnerAt s .holding
  | closing (past todo : List FarmerTask) (signalled : Bool) (order : past ++ todo = tasks)
      (ended : ∀ task ∈ past, s.done task = true)
      (first : signalled = true → ∀ task ∈ todo.head?, s.signalled task = true) :
      OwnerAt s (.closing todo signalled)
  | closed (ended : ∀ task ∈ tasks, s.done task = true) : OwnerAt s .closed
  | dropping (todo : List FarmerTask)
      (rest : ∀ task ∈ tasks, task ∈ todo ∨ s.signalled task = true ∨ s.done task = true) :
      OwnerAt s (.dropping todo)
  | dropped (all : ∀ task ∈ tasks, s.signalled task = true ∨ s.done task = true) :
      OwnerAt s .dropped

theorem OwnerAt.mono {owner : PlottingDelayOwner} (at' : OwnerAt s owner)
    (done : ∀ task, s.done task = true → t.done task = true)
    (signals : t.dropSignal = s.dropSignal) : OwnerAt t owner := by
  have same : ∀ task, t.signalled task = s.signalled task := fun task => by
    rw [signalled, signals, signalled]
  cases at' with
  | holding silent => exact .holding fun task => (same task).trans (silent task)
  | closing past todo signalled order ended first =>
    exact .closing past todo signalled order (fun task mem => done task (ended task mem))
      fun is task mem => (same task).trans (first is task mem)
  | closed ended => exact .closed fun task mem => done task (ended task mem)
  | dropping todo rest =>
    exact .dropping todo fun task mem => (rest task mem).imp_right
      (Or.imp (same task).trans (done task))
  | dropped all =>
    exact .dropped fun task mem => (all task mem).imp (same task).trans (done task)

theorem unpolled_or {past todo : List FarmerTask} {signalled : Bool} {task : FarmerTask}
    (ended : ∀ task ∈ past, s.done task = true)
    (first : signalled = true → ∀ task ∈ todo.head?, s.signalled task = true)
    (mem : task ∈ past ∨ task ∈ todo) :
    task ∈ unpolled todo signalled ∨ s.signalled task = true ∨ s.done task = true := by
  rcases mem with before | later
  · exact .inr (.inr (ended task before))
  · cases signalled with
    | false => exact .inl later
    | true =>
      rcases todo with _ | ⟨next, todo⟩
      · cases later
      · rcases List.mem_cons.mp later with rfl | after
        · exact .inr (.inl (first rfl task rfl))
        · exact .inl after

theorem setDone_done (task other : FarmerTask) (h : s.done other = true) :
    (s.setDone task).done other = true := by
  by_cases same : other = task
  · simp [setDone, same]
  · simpa [setDone, same] using h

theorem OwnerAt.step (at' : OwnerAt s s.owner) (step : Step s a t) : OwnerAt t t.owner := by
  cases step with
  | acknowledge | loseAcknowledgement => exact at'.mono (fun _ => id) rfl
  | workerEnds | sends | cancels => exact at'.mono (setDone_done _) rfl
  | close => exact .closing [] tasks false rfl (List.forall_mem_nil _) fun is => by cases is
  | drop => exact .dropping tasks fun task mem => .inl mem
  | @dropClose todo signalled owner =>
    rw [owner] at at'
    cases at' with
    | closing past _ _ order ended first =>
      refine .dropping _ fun task mem => ?_
      rw [List.mem_reverse]
      rw [← order, List.mem_append] at mem
      exact unpolled_or ended first mem
  | @signal task todo owner =>
    rw [owner] at at'
    cases at' with
    | closing past _ _ order ended first =>
      refine .closing past _ true order ended fun _ other mem => ?_
      cases mem
      simp [signalled, setSignal]
  | @joined task todo owner done =>
    rw [owner] at at'
    cases at' with
    | closing past _ _ order ended first =>
      refine .closing (past ++ [task]) todo false (by simpa using order) (fun other mem => ?_)
        fun is => by cases is
      rcases List.mem_append.mp mem with before | last
      · exact ended other before
      · exact List.mem_singleton.mp last ▸ done
  | closed owner =>
    rw [owner] at at'
    cases at' with
    | closing past _ _ order ended first =>
      rw [List.append_nil] at order
      exact .closed (order ▸ ended)
  | @dropSignal task todo owner =>
    rw [owner] at at'
    cases at' with
    | dropping _ rest =>
      refine .dropping todo fun other mem => ?_
      rcases rest other mem with left | arrived | ended
      · rcases List.mem_cons.mp left with rfl | later
        · exact .inr (.inl (by simp [PlottingDelay.signalled, setSignal]))
        · exact .inl later
      · exact .inr (.inl (arrived_setSignal (Oneshot.arrived_dropSender _) other arrived))
      · exact .inr (.inr ended)
  | dropped owner =>
    rw [owner] at at'
    cases at' with
    | dropping _ rest =>
      exact .dropped fun task mem => (rest task mem).resolve_left List.not_mem_nil

structure Known (s : PlottingDelay) : Prop where
  told : Told s
  owner : OwnerAt s s.owner

theorem start_known (farms : Nat) : Known (start farms) := by
  refine ⟨.waiting rfl fun d mem => ?_, .holding fun _ => rfl⟩
  rw [List.eq_of_mem_replicate mem]
  rfl

theorem Known.run (known : Known s) (run : system.Run s as t) : Known t :=
  run.invariant (I := fun _ t => Known t) known fun _ _ _ _ known _ hnext =>
    have step := step_of_next hnext
    ⟨known.told.step step, known.owner.step step⟩

theorem Step.plottingDelays (step : Step s a t) :
    t.plottingDelays.length = s.plottingDelays.length ∧
      (s.done .plottingDelay = true →
        t.done .plottingDelay = true ∧ t.plottingDelays = s.plottingDelays) := by
  cases step with
  | sends waits | cancels waits =>
    refine ⟨List.length_map _, fun done => absurd (waits.symm.trans done) Bool.false_ne_true⟩
  | workerEnds => exact ⟨rfl, fun done => ⟨setDone_done _ _ done, rfl⟩⟩
  | _ => exact ⟨rfl, fun done => ⟨done, rfl⟩⟩

theorem run_plottingDelays (run : system.Run s as t) :
    t.plottingDelays.length = s.plottingDelays.length ∧
      (s.done .plottingDelay = true →
        t.done .plottingDelay = true ∧ t.plottingDelays = s.plottingDelays) := by
  refine run.invariant (I := fun _ t => t.plottingDelays.length = s.plottingDelays.length ∧
    (s.done .plottingDelay = true →
      t.done .plottingDelay = true ∧ t.plottingDelays = s.plottingDelays))
    ⟨rfl, fun done => ⟨done, rfl⟩⟩ ?_
  rintro as t a u ⟨length, same⟩ _ hnext
  obtain ⟨length', same'⟩ := (step_of_next hnext).plottingDelays
  refine ⟨length'.trans length, fun done => ?_⟩
  obtain ⟨done', before⟩ := same done
  obtain ⟨done'', after⟩ := same' done'
  exact ⟨done'', after.trans before⟩

/-- In every run: the farms wait all, or are told all the same and for good, to go on only where the
piece cache was acknowledged.  While the farmer is open they are told nothing before the worker has
acknowledged the caches or given up, and once the farmer is closed no farm waits. -/
theorem run_told {farms : Nat} (run : system.Run (start farms) as t) :
    t.plottingDelays.length = farms ∧
    ((∀ d ∈ t.plottingDelays, d.poll = none) ∨
      (∀ d ∈ t.plottingDelays, d.poll = some (.ok ())) ∧
        t.cacheAcknowledgement.poll = some (.ok ()) ∨
      (∀ d ∈ t.plottingDelays, d.poll = some (.error ())) ∧
        (t.cacheAcknowledgement.poll = some (.error ()) ∨
          (t.dropSignal .plottingDelay).arrived = true)) ∧
    (∀ d ∈ t.plottingDelays, d.poll ≠ none → ∀ bs u, system.Run t bs u →
      u.plottingDelays = t.plottingDelays) ∧
    (t.owner = .holding → t.cacheAcknowledgement.poll = none →
      ∀ d ∈ t.plottingDelays, d.poll = none) ∧
    (t.owner = .closed → ∀ d ∈ t.plottingDelays, d.poll ≠ none) := by
  obtain ⟨told, owner⟩ := (start_known farms).run run
  have ended : ∀ d ∈ t.plottingDelays, d.poll ≠ none → t.done .plottingDelay = true := by
    intro d mem told'
    cases done : t.done .plottingDelay with
    | true => rfl
    | false => exact absurd (told.waits done d mem) told'
  refine ⟨(run_plottingDelays run).1.trans List.length_replicate, ?_, ?_, ?_, ?_⟩
  · cases told with
    | waiting _ none => exact .inl none
    | started _ all acknowledged => exact .inr (.inl ⟨all, acknowledged⟩)
    | cancelled _ all why => exact .inr (.inr ⟨all, why⟩)
  · intro d mem told' bs u rest
    exact ((run_plottingDelays rest).2 (ended d mem told')).2
  · intro at' none
    rw [at'] at owner
    cases owner with
    | holding silent =>
      cases told with
      | waiting _ waits => exact waits
      | started _ _ acknowledged => exact absurd (none.symm.trans acknowledged) (by simp)
      | cancelled _ _ why =>
        rcases why with lost | signal
        · exact absurd (none.symm.trans lost) (by simp)
        · exact absurd ((silent .plottingDelay).symm.trans signal) Bool.false_ne_true
  · intro at' d mem none
    rw [at'] at owner
    cases owner with
    | closed all =>
      cases told with
      | waiting waits =>
        exact Bool.false_ne_true (waits.symm.trans (all _ List.mem_cons_self))
      | started _ started => exact Option.some_ne_none _ ((started d mem).symm.trans none)
      | cancelled _ cancelled => exact Option.some_ne_none _ ((cancelled d mem).symm.trans none)

/-- Two farms are told to go on; what comes after does not reach them any more. -/
theorem run_told_acknowledged :
    ∃ t u, system.Run (start 2) [.acknowledge, .pollPlottingDelay] t ∧
      system.Run t [.drop, .tearDown, .tearDown, .pollWorker false] u ∧
      t.plottingDelays.length = 2 ∧ u.plottingDelays = t.plottingDelays := by
  obtain ⟨t, u, done, done', told⟩ : ∃ t u,
      system.exec (fun _ _ _ => True) [] (start 2) [.acknowledge, .pollPlottingDelay] = some t ∧
        system.exec (fun _ _ _ => True) [] t [.drop, .tearDown, .tearDown, .pollWorker false] =
          some u ∧ ∃ d ∈ t.plottingDelays, d.poll ≠ none :=
    ⟨_, _, rfl, rfl, _, List.mem_cons_self, by decide⟩
  obtain ⟨d, mem, told⟩ := told
  have run := System.RunIf.of_exec done
  have rest := System.RunIf.of_exec done'
  obtain ⟨length, -, same, -⟩ := run_told run
  exact ⟨t, u, run, rest, length, same d mem told _ u rest⟩

/-! ### The end of a farmer -/

/-- The actions of the farmer and of its two tasks, without anything of the worker's own. -/
def Action.isOwn : Action → Bool
  | .pollWorker false | .pollPlottingDelay | .close | .drop | .tearDown => true
  | _ => false

variable (s t) in
/-- The farmer and its two tasks can get from here to there. -/
def Gets : Prop := ∃ bs, (∀ a ∈ bs, a.isOwn = true) ∧ system.Run s bs t

theorem Gets.refl (s : PlottingDelay) : Gets s s := ⟨[], List.forall_mem_nil _, .start⟩

theorem Gets.step {u : PlottingDelay} (own : a.isOwn = true) (h : system.next s a = some t)
    (rest : Gets t u) : Gets s u := by
  obtain ⟨bs, all, run⟩ := rest
  refine ⟨a :: bs, fun b mem => ?_, .cons h run⟩
  rcases List.mem_cons.mp mem with rfl | later
  · exact own
  · exact all b later

theorem Known.gets (known : Known s) (gets : Gets s t) : Known t := by
  obtain ⟨bs, -, run⟩ := gets
  exact known.run run

/-- A task that has its signal ends when it is polled. -/
theorem ends_of_signalled {task : FarmerTask} (mem : task ∈ tasks)
    (signal : s.signalled task = true) (waits : s.done task = false) :
    ∃ a t, a.isOwn = true ∧ system.next s a = some t ∧ t.done task = true ∧
      t.owner = s.owner ∧ ∀ other, s.done other = true → t.done other = true := by
  rw [tasks, List.mem_cons, List.mem_singleton] at mem
  rcases mem with rfl | rfl
  · have poll : ∃ t, s.pollPlottingDelay = some t ∧ t.done .plottingDelay = true ∧
        t.owner = s.owner ∧ ∀ other, s.done other = true → t.done other = true := by
      unfold pollPlottingDelay
      split
      · exact ⟨_, rfl, rfl, rfl, setDone_done _⟩
      · exact ⟨_, rfl, rfl, rfl, setDone_done _⟩
      · have arrived : (s.dropSignal .plottingDelay).arrived = true := signal
        rw [if_pos arrived]
        exact ⟨_, rfl, rfl, rfl, setDone_done _⟩
    obtain ⟨t, polled, rest⟩ := poll
    refine ⟨.pollPlottingDelay, t, rfl, ?_, rest⟩
    simp only [system, next, waits, Bool.false_eq_true, if_false, polled]
  · let t : PlottingDelay := { s with
      cacheAcknowledgement := s.cacheAcknowledgement.dropSender }.setDone .pieceCacheWorker
    refine ⟨.pollWorker false, t, rfl, ?_, rfl, rfl, setDone_done _⟩
    have arrived : (s.dropSignal .pieceCacheWorker).arrived = true := signal
    simp [system, next, waits, arrived, t]

theorem gets_joined {task : FarmerTask} {todo : List FarmerTask} (mem : task ∈ tasks)
    (at' : s.owner = .closing (task :: todo) true) (signal : s.signalled task = true) :
    ∃ t, Gets s t ∧ t.owner = .closing todo false := by
  have join : ∀ {u : PlottingDelay}, u.owner = .closing (task :: todo) true →
      u.done task = true →
        system.next u .tearDown = some { u with owner := .closing todo false } := by
    intro u owner done
    simp [system, next, tearDown, owner, done]
  cases done : s.done task with
  | true => exact ⟨_, .step (a := .tearDown) rfl (join at' done) (.refl _), rfl⟩
  | false =>
    obtain ⟨a, u, own, hnext, ended, owner, -⟩ := ends_of_signalled mem signal done
    have joined := join (owner.trans at') ended
    exact ⟨_, .step own hnext (.step (a := .tearDown) rfl joined (.refl _)), rfl⟩

theorem Gets.trans {u : PlottingDelay} (first : Gets s t) (second : Gets t u) : Gets s u := by
  obtain ⟨bs, all, run⟩ := first
  obtain ⟨cs, all', run'⟩ := second
  refine ⟨bs ++ cs, fun a mem => ?_, run.append run'⟩
  rcases List.mem_append.mp mem with before | after
  · exact all a before
  · exact all' a after

theorem gets_closed {todo : List FarmerTask} (all : ∀ task ∈ todo, task ∈ tasks)
    (at' : s.owner = .closing todo false) : ∃ t, Gets s t ∧ t.owner = .closed := by
  induction todo generalizing s with
  | nil =>
    refine ⟨{ s with owner := .closed }, .step (a := .tearDown) rfl ?_ (.refl _), rfl⟩
    simp [system, next, tearDown, at']
  | cons task todo ih =>
    let u : PlottingDelay := { s.setSignal task ((s.dropSignal task).send ()) with
      owner := .closing (task :: todo) true }
    have hnext : system.next s .tearDown = some u := by simp [system, next, tearDown, at', u]
    have signal : u.signalled task = true := by simp [signalled, setSignal, u]
    obtain ⟨v, joined, owner⟩ := gets_joined (all task List.mem_cons_self) rfl signal
    obtain ⟨t, rest, closed⟩ := ih (fun other mem => all other (List.mem_cons_of_mem _ mem)) owner
    exact ⟨t, .step (a := .tearDown) rfl hnext (joined.trans rest), closed⟩

theorem Known.gets_closed (known : Known s) {todo : List FarmerTask} {signalled : Bool}
    (at' : s.owner = .closing todo signalled) : ∃ t, Gets s t ∧ t.owner = .closed := by
  have owner := known.owner
  rw [at'] at owner
  cases owner with
  | closing past _ _ order ended first =>
    have all : ∀ task ∈ todo, task ∈ tasks := fun task mem => order ▸ List.mem_append_right _ mem
    cases signalled with
    | false => exact PlottingDelay.gets_closed all at'
    | true =>
      cases todo with
      | nil =>
        refine ⟨{ s with owner := .closed }, .step (a := .tearDown) rfl ?_ (.refl _), rfl⟩
        simp [system, next, PlottingDelay.tearDown, at']
      | cons task todo =>
        obtain ⟨t, joined, owner⟩ :=
          gets_joined (all task List.mem_cons_self) at' (first rfl task rfl)
        obtain ⟨u, rest, closed⟩ :=
          PlottingDelay.gets_closed (fun other mem => all other (List.mem_cons_of_mem _ mem)) owner
        exact ⟨u, joined.trans rest, closed⟩

theorem gets_dropped {todo : List FarmerTask} (at' : s.owner = .dropping todo) :
    ∃ t, Gets s t ∧ t.owner = .dropped := by
  induction todo generalizing s with
  | nil =>
    refine ⟨{ s with owner := .dropped }, .step (a := .tearDown) rfl ?_ (.refl _), rfl⟩
    simp [system, next, tearDown, at']
  | cons task todo ih =>
    obtain ⟨t, rest, dropped⟩ := ih (s := { s.setSignal task (s.dropSignal task).dropSender with
      owner := .dropping todo }) rfl
    refine ⟨t, .step (a := .tearDown) rfl ?_ rest, dropped⟩
    simp [system, next, tearDown, at']

/-- Once the destructors are dropped, a task ends when it is polled. -/
theorem Known.gets_ended (known : Known s) (at' : s.owner = .dropped) {task : FarmerTask}
    (mem : task ∈ tasks) :
    ∃ t, Gets s t ∧ t.owner = .dropped ∧ t.done task = true ∧
      ∀ other, s.done other = true → t.done other = true := by
  cases done : s.done task with
  | true => exact ⟨s, .refl s, at', done, fun _ => id⟩
  | false =>
    have owner := known.owner
    rw [at'] at owner
    cases owner with
    | dropped all =>
      have signal : s.signalled task = true :=
        (all task mem).resolve_right fun ended => Bool.false_ne_true (done.symm.trans ended)
      obtain ⟨a, t, own, hnext, ended, owner, keeps⟩ := ends_of_signalled mem signal done
      exact ⟨t, .step own hnext (.refl t), owner.trans at', ended, keeps⟩

theorem Known.gets_allEnded (known : Known s) (at' : s.owner = .dropped) :
    ∃ t, Gets s t ∧ t.owner = .dropped ∧ ∀ task ∈ tasks, t.done task = true := by
  obtain ⟨t, first, at', done, -⟩ := known.gets_ended at' List.mem_cons_self
  obtain ⟨u, second, at', done', keeps⟩ :=
    (known.gets first).gets_ended at' (List.mem_cons_of_mem _ List.mem_cons_self)
  refine ⟨u, first.trans second, at', fun task mem => ?_⟩
  rw [tasks, List.mem_cons, List.mem_singleton] at mem
  rcases mem with rfl | rfl
  · exact keeps _ done
  · exact done'

theorem Known.told_of_ended (known : Known s) (ended : ∀ task ∈ tasks, s.done task = true) :
    ∀ d ∈ s.plottingDelays, d.poll ≠ none := by
  intro d mem none
  cases known.told with
  | waiting waits => exact Bool.false_ne_true (waits.symm.trans (ended _ List.mem_cons_self))
  | started _ all => exact Option.some_ne_none _ ((all d mem).symm.trans none)
  | cancelled _ all => exact Option.some_ne_none _ ((all d mem).symm.trans none)

/-- From every state of a run the farmer and its two tasks alone can bring `close` to its end, even
if the worker never answers; and where the farmer or its `close` is dropped, they can still end both
tasks.  No farm is left waiting. -/
theorem run_closes {farms : Nat} (run : system.Run (start farms) as t) :
    (t.owner = .holding ∨ (∃ todo signalled, t.owner = .closing todo signalled) →
      ∃ u, Gets t u ∧ u.owner = .closed ∧ (∀ task ∈ tasks, u.done task = true) ∧
        ∀ d ∈ u.plottingDelays, d.poll ≠ none) ∧
    (t.owner = .dropped ∨ (∃ todo, t.owner = .dropping todo) →
      ∃ u, Gets t u ∧ u.owner = .dropped ∧ (∀ task ∈ tasks, u.done task = true) ∧
        ∀ d ∈ u.plottingDelays, d.poll ≠ none) := by
  have known := (start_known farms).run run
  refine ⟨fun open' => ?_, fun gone => ?_⟩
  · have closes : ∃ u, Gets t u ∧ u.owner = .closed := by
      rcases open' with at' | ⟨todo, signalled, at'⟩
      · obtain ⟨u, rest, closed⟩ := gets_closed (s := { t with owner := .closing tasks false })
          (fun _ => id) rfl
        exact ⟨u, .step (a := .close) rfl (by simp [system, next, at']) rest, closed⟩
      · exact known.gets_closed at'
    obtain ⟨u, rest, closed⟩ := closes
    have owner := (known.gets rest).owner
    rw [closed] at owner
    cases owner with
    | closed ended => exact ⟨u, rest, closed, ended, (known.gets rest).told_of_ended ended⟩
  · have drops : ∃ u, Gets t u ∧ u.owner = .dropped := by
      rcases gone with at' | ⟨todo, at'⟩
      · exact ⟨t, .refl t, at'⟩
      · exact gets_dropped at'
    obtain ⟨u, first, at'⟩ := drops
    obtain ⟨v, second, at', ended⟩ := (known.gets first).gets_allEnded at'
    have rest := first.trans second
    exact ⟨v, rest, at', ended, (known.gets rest).told_of_ended ended⟩

/-- The signal is sent, and the caches are never acknowledged. -/
theorem run_closes_silent :
    ∃ t u, system.Run (start 2) [.close, .tearDown] t ∧ t.cacheAcknowledgement.poll = none ∧
      Gets t u ∧ u.owner = .closed ∧ ∀ d ∈ u.plottingDelays, d.poll ≠ none := by
  obtain ⟨t, done, silent, at'⟩ : ∃ t,
      system.exec (fun _ _ _ => True) [] (start 2) [.close, .tearDown] = some t ∧
        t.cacheAcknowledgement.poll = none ∧ t.owner = .closing tasks true := ⟨_, rfl, rfl, rfl⟩
  have run := System.RunIf.of_exec done
  obtain ⟨u, gets, closed, -, told⟩ := (run_closes run).1 (.inr ⟨tasks, true, at'⟩)
  exact ⟨t, u, run, silent, gets, closed, told⟩

end PlottingDelay

end SubspaceSdk
