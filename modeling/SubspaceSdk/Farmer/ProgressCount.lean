import SubspaceSdk.Farmer.Progress

/-! What a progress stream counts.  A watch channel keeps only its latest value, so a stream sees as
many items as there are plotted sectors, and the initial value, exactly where it observed each value
before the next sector was plotted.  A stream that falls behind never catches up, and waits for an
item that no plotted sector will bring. -/

namespace SubspaceSdk

open ProofKit

/-- The items that the watch stream under a stream gave so far. -/
def InitialPlottingProgressStreamInner.observed (stream : InitialPlottingProgressStreamInner) :
    Nat :=
  stream.received.length +
    match stream.phase with
    | .handling | .ended .finished => 1
    | .idle | .ended .senderDropped => 0

theorem InitialPlottingProgressStreamInner.observed_idle
    {stream : InitialPlottingProgressStreamInner} (idle : stream.phase = .idle) :
    stream.observed = stream.received.length := by
  rw [observed, idle]
  rfl

theorem InitialPlottingProgressStreamInner.observed_finished
    {stream : InitialPlottingProgressStreamInner} (finished : stream.phase = .ended .finished) :
    stream.observed = stream.received.length + 1 := by
  rw [observed, finished]

namespace Farm

variable {Sector : Type} {startingSector totalSectors i : Nat} {as : List (Action Sector)}
variable {a : Action Sector} {farm after : Farm Sector}
variable {ok : List (Action Sector) → Farm Sector → Action Sector → Prop}

/-! ### The history of a farm -/

namespace Action

def isPlot : Action Sector → Bool
  | .sectorPlotted _ _ => true
  | _ => false

/-- A sector is plotted that replaces none. -/
def isFirstPlot : Action Sector → Bool
  | .sectorPlotted _ none => true
  | _ => false

def isHandle : Action Sector → Bool
  | .handle _ => true
  | _ => false

/-- The subscription that an action belongs to. -/
def stream? : Action Sector → Option Nat
  | .sectorPlotted _ _ | .dropSender => none
  | .subscribe i | .subscribed i | .poll i | .handle i | .dropStream i => some i

end Action

/-- The number of callbacks so far. -/
def plots (as : List (Action Sector)) : Nat := as.countP Action.isPlot

/-- The number of sectors that were plotted for the first time so far. -/
def firstPlots (as : List (Action Sector)) : Nat := as.countP Action.isFirstPlot

/-- The number of items that all streams together counted so far. -/
def handled (as : List (Action Sector)) : Nat := as.countP Action.isHandle

theorem plots_append (as : List (Action Sector)) (a : Action Sector) :
    plots (as ++ [a]) = plots as + if a.isPlot then 1 else 0 := by
  simp [plots, List.countP_append, List.countP_singleton]

theorem handled_append (as : List (Action Sector)) (a : Action Sector) :
    handled (as ++ [a]) = handled as + if a.isHandle then 1 else 0 := by
  simp [handled, List.countP_append, List.countP_singleton]

theorem Step.current (step : Step farm a after) :
    after.initialPlottingProgress.currentSector =
      farm.initialPlottingProgress.currentSector + if a.isHandle then 1 else 0 := by
  cases step <;> rfl

/-- The counter and the watch channel, by the history of the farm. -/
structure Counts (startingSector totalSectors : Nat) (as : List (Action Sector))
    (farm : Farm Sector) : Prop where
  starting : farm.initialPlottingProgress.startingSector = startingSector
  current : farm.initialPlottingProgress.currentSector = startingSector + handled as
  total : farm.initialPlottingProgress.totalSectors = totalSectors
  version : farm.progress.version = plots as

theorem Counts.step (counts : Counts startingSector totalSectors as farm)
    (step : Step farm a after) : Counts startingSector totalSectors (as ++ [a]) after := by
  obtain ⟨starting, current, total, version⟩ := counts
  constructor
  · rw [← starting]
    cases step <;> rfl
  · rw [handled_append, ← Nat.add_assoc, ← current]
    exact step.current
  · rw [← total]
    cases step <;> rfl
  · rw [plots_append, ← version]
    cases step <;> rfl

theorem run_counts
    (run : (system Sector).RunIf ok (new startingSector totalSectors) as farm) :
    Counts startingSector totalSectors as farm := by
  refine run.invariant (I := Counts startingSector totalSectors) ⟨rfl, rfl, rfl, rfl⟩ ?_
  intro as t a u counts _ hnext
  exact counts.step (step_of_next hnext)

/-! ### One stream -/

/-- All that an action can do to stream `i`, which is the first before it and the second after. -/
inductive StreamStep (farm : Farm Sector) (i : Nat) : Action Sector →
    Option InitialPlottingProgressStream → Option InitialPlottingProgressStream → Prop
  | same {a : Action Sector} (stream : Option InitialPlottingProgressStream)
      (uncounted : a ≠ .handle i) : StreamStep farm i a stream stream
  | noneLeft (full : farm.initialPlottingProgress.currentSector =
      farm.initialPlottingProgress.totalSectors) :
      StreamStep farm i (.subscribe i) none (some .empty)
  | subscribing : StreamStep farm i (.subscribe i) none (some .subscribing)
  | subscribed : StreamStep farm i (.subscribed i) (some .subscribing) (some (.inner
      { watch := {}
        phase := .idle
        lastInitialPlottingProgress := farm.initialPlottingProgress
        received := [] }))
  | observed (stream : InitialPlottingProgressStreamInner) (free : stream.phase = .idle)
      (fresh : stream.watch.seen ≠ some farm.progress.version) :
      StreamStep farm i (.poll i) (some (.inner stream)) (some (.inner
        { stream with watch := ⟨some farm.progress.version⟩, phase := .handling }))
  | endedBySender (stream : InitialPlottingProgressStreamInner) (free : stream.phase = .idle)
      (dead : farm.progress.senderAlive = false) :
      StreamStep farm i (.poll i) (some (.inner stream)) (some (.inner
        { stream with phase := .ended .senderDropped }))
  | emitted (stream : InitialPlottingProgressStreamInner) (busy : stream.phase = .handling)
      (below : farm.initialPlottingProgress.currentSector <
        farm.initialPlottingProgress.totalSectors) :
      StreamStep farm i (.handle i) (some (.inner stream)) (some (.inner { stream with
        phase := .idle
        lastInitialPlottingProgress := farm.initialPlottingProgress
        received := stream.received ++ [farm.initialPlottingProgress] }))
  | finished (stream : InitialPlottingProgressStreamInner) (busy : stream.phase = .handling)
      (reached : farm.initialPlottingProgress.totalSectors ≤
        farm.initialPlottingProgress.currentSector) :
      StreamStep farm i (.handle i) (some (.inner stream)) (some (.inner
        { stream with phase := .ended .finished }))
  | dropped (stream : Option InitialPlottingProgressStream) :
      StreamStep farm i (.dropStream i) stream (some .dropped)

/-- The frame of a step: the streams of other subscriptions stay as they are. -/
theorem Step.stream_other (step : Step farm a after) (ne : a.stream? ≠ some i) :
    after.streams i = farm.streams i := by
  have other : ∀ {j : Nat}, some j ≠ some i → i ≠ j := fun ne same => ne (by rw [same])
  cases step with
  | plotted | senderDropped | idle => rfl
  | noneLeft | subscribing | subscribed | observed | endedBySender | streamDropped =>
    exact setStream_other _ _ (other ne)
  | emitted | finished => exact setStream_other farm.counted _ (other ne)

theorem Step.stream (step : Step farm a after) (i : Nat) :
    StreamStep farm i a (farm.streams i) (after.streams i) := by
  by_cases own : a.stream? = some i
  · cases step with
    | plotted | senderDropped => cases own
    | idle => exact .same _ (by simp)
    | noneLeft j absent full =>
      cases own
      rw [absent, setStream_same]
      exact .noneLeft full
    | subscribing j absent =>
      cases own
      rw [absent, setStream_same]
      exact .subscribing
    | subscribed j was =>
      cases own
      rw [was, Farm.subscribed, setStream_same]
      exact .subscribed
    | observed j stream was free fresh =>
      cases own
      rw [was, setStream_same]
      exact .observed stream free fresh
    | endedBySender j stream was free dead =>
      cases own
      rw [was, setStream_same]
      exact .endedBySender stream free dead
    | emitted j stream was busy below =>
      cases own
      rw [was, setStream_same]
      exact .emitted stream busy below
    | finished j stream was busy reached =>
      cases own
      rw [was, setStream_same]
      exact .finished stream busy reached
    | streamDropped =>
      cases own
      rw [setStream_same]
      exact .dropped _
  · rw [step.stream_other own]
    exact .same _ fun same => own (by rw [same]; rfl)

/-- A plotted sector changes the watch channel and no stream, and nothing else changes the watch
channel's value. -/
theorem Step.plots_or_quiet (step : Step farm a after) :
    (a.isPlot ∧ after.progress.version = farm.progress.version + 1 ∧
      after.streams = farm.streams) ∨
    (a.isPlot = false ∧ after.progress.version = farm.progress.version) := by
  cases step with
  | plotted => exact .inl ⟨rfl, rfl, rfl⟩
  | _ => exact .inr ⟨rfl, rfl⟩

/-- The items that a stream will have observed after one more poll of its watch stream. -/
def observable (version : Nat) : Option InitialPlottingProgressStream → Nat
  | none | some .subscribing => 1
  | some (.inner stream) =>
    stream.observed + if stream.watch.seen = some version then 0 else 1
  | some .empty | some .dropped => 0

theorem observable_inner (version : Nat) (stream : InitialPlottingProgressStreamInner) :
    observable version (some (.inner stream)) =
      stream.observed + if stream.watch.seen = some version then 0 else 1 := rfl

/-- Only the watch channel can give a stream more to observe. -/
theorem StreamStep.observable_le {before after : Option InitialPlottingProgressStream}
    (step : StreamStep farm i a before after) :
    observable farm.progress.version after ≤ observable farm.progress.version before := by
  cases step with
  | same => exact Nat.le_refl _
  | noneLeft | dropped => exact Nat.zero_le _
  | subscribing => exact Nat.le_refl _
  | subscribed =>
    simp [observable, InitialPlottingProgressStreamInner.observed]
  | observed stream free fresh =>
    simp [observable_inner, InitialPlottingProgressStreamInner.observed, free, fresh]
  | endedBySender stream free =>
    simp [observable_inner, InitialPlottingProgressStreamInner.observed, free]
  | emitted stream busy =>
    simp [observable_inner, InitialPlottingProgressStreamInner.observed, busy]
  | finished stream busy =>
    simp [observable_inner, InitialPlottingProgressStreamInner.observed, busy]

/-! ### Streams that keep up -/

/-- Stream `i` has nothing left to observe. -/
def CaughtUp (farm : Farm Sector) (i : Nat) : Prop :=
  match farm.streams i with
  | some .empty => True
  | some (.inner stream) =>
    (∃ cause, stream.phase = .ended cause) ∨ stream.watch.seen = some farm.progress.version
  | _ => False

/-- Every sector is plotted only after stream `i` observed the one before. -/
def PlotsCaughtUp (i : Nat) (_ : List (Action Sector)) (farm : Farm Sector) (a : Action Sector) :
    Prop :=
  a.isPlot → farm.CaughtUp i

/-- A value that is sent to a stream with an item still to observe replaces that item. -/
theorem observable_behind {stream : Option InitialPlottingProgressStream}
    (same : farm.streams i = stream) (behind : ¬ farm.CaughtUp i) :
    observable (farm.progress.version + 1) stream ≤ observable farm.progress.version stream := by
  unfold CaughtUp at behind
  rw [same] at behind
  match stream, behind with
  | none, _ | some .subscribing, _ | some .dropped, _ => exact Nat.le_refl _
  | some .empty, behind => exact absurd trivial behind
  | some (.inner stream), behind =>
    have unseen : stream.watch.seen ≠ some farm.progress.version := fun seen => behind (.inr seen)
    rw [observable_inner, observable_inner, if_neg unseen]
    split <;> omega

theorem observable_le_succ (version : Nat) (stream : Option InitialPlottingProgressStream) :
    observable (version + 1) stream ≤ observable version stream + 1 := by
  match stream with
  | none | some .subscribing | some .empty | some .dropped => exact Nat.le_succ _
  | some (.inner stream) =>
    simp only [observable_inner]
    split <;> split <;> omega

theorem observable_bound
    (run : (system Sector).RunIf ok (new startingSector totalSectors) as farm) (i : Nat) :
    observable farm.progress.version (farm.streams i) ≤ farm.progress.version + 1 := by
  refine run.invariant (I := fun _ farm =>
    observable farm.progress.version (farm.streams i) ≤ farm.progress.version + 1) ?_ ?_
  · exact Nat.le_refl _
  · intro _ t a u bound _ hnext
    have step := step_of_next hnext
    rcases step.plots_or_quiet with ⟨_, version, streams⟩ | ⟨_, version⟩
    · rw [version, streams]
      have := observable_le_succ t.progress.version (t.streams i)
      omega
    · rw [version]
      exact Nat.le_trans (step.stream i).observable_le bound

/-- A stream behind which one sector was plotted stays behind. -/
theorem caughtUp_or_behind
    (run : (system Sector).RunIf ok (new startingSector totalSectors) as farm) (i : Nat) :
    (system Sector).RunIf (PlotsCaughtUp i) (new startingSector totalSectors) as farm ∨
      observable farm.progress.version (farm.streams i) ≤ farm.progress.version := by
  have both := run.invariant (I := fun as farm =>
    (system Sector).Run (new startingSector totalSectors) as farm ∧
      ((system Sector).RunIf (PlotsCaughtUp i) (new startingSector totalSectors) as farm ∨
        observable farm.progress.version (farm.streams i) ≤ farm.progress.version))
    ⟨.start, .inl .start⟩ ?_
  · exact both.2
  rintro as t a u ⟨before, ih⟩ _ hnext
  refine ⟨before.next hnext, ?_⟩
  have step := step_of_next hnext
  rcases step.plots_or_quiet with ⟨plot, version, streams⟩ | ⟨quiet, version⟩
  · rw [version, streams]
    rcases ih with paced | behind
    · by_cases caughtUp : t.CaughtUp i
      · exact .inl (paced.step (fun _ => caughtUp) hnext)
      · exact .inr (Nat.le_trans (observable_behind rfl caughtUp) (observable_bound before i))
    · exact .inr (Nat.le_trans (observable_le_succ _ _) (Nat.succ_le_succ behind))
  · rw [version]
    rcases ih with paced | behind
    · exact .inl (paced.step (fun plot => by simp [quiet] at plot) hnext)
    · exact .inr (Nat.le_trans (step.stream i).observable_le behind)

/-- A stream that observed every value in time. -/
def OnTime (version : Nat) : Option InitialPlottingProgressStream → Prop
  | none | some .subscribing => version = 0
  | some (.inner stream) =>
    (∃ cause, stream.phase = .ended cause) ∨
      observable version (some (.inner stream)) = version + 1
  | some .empty | some .dropped => True

theorem StreamStep.onTime {before after : Option InitialPlottingProgressStream}
    (step : StreamStep farm i a before after) (onTime : OnTime farm.progress.version before) :
    OnTime farm.progress.version after := by
  cases step with
  | same => exact onTime
  | noneLeft | dropped => trivial
  | subscribing => exact onTime
  | subscribed =>
    right
    rw [show farm.progress.version = 0 from onTime]
    rfl
  | observed stream free fresh =>
    rcases onTime with ⟨cause, ended⟩ | inTime
    · rw [free] at ended
      cases ended
    · refine .inr (Eq.trans ?_ inTime)
      simp [observable_inner, InitialPlottingProgressStreamInner.observed, free, fresh]
  | endedBySender => exact .inl ⟨_, rfl⟩
  | emitted stream busy =>
    rcases onTime with ⟨cause, ended⟩ | inTime
    · rw [busy] at ended
      cases ended
    · refine .inr (Eq.trans ?_ inTime)
      simp [observable_inner, InitialPlottingProgressStreamInner.observed, busy]
  | finished => exact .inl ⟨_, rfl⟩

theorem OnTime.plotted {stream : Option InitialPlottingProgressStream}
    (same : farm.streams i = stream) (caughtUp : farm.CaughtUp i)
    (onTime : OnTime farm.progress.version stream) : OnTime (farm.progress.version + 1) stream := by
  unfold CaughtUp at caughtUp
  rw [same] at caughtUp
  match stream, caughtUp with
  | some .empty, _ => trivial
  | some (.inner stream), caughtUp =>
    rcases caughtUp with ended | seen
    · exact .inl ended
    · rcases onTime with ended | inTime
      · exact .inl ended
      · right
        rw [observable_inner, if_pos seen] at inTime
        rw [observable_inner, seen, if_neg (by simp)]
        omega

theorem run_onTime
    (run : (system Sector).RunIf (PlotsCaughtUp i) (new startingSector totalSectors) as farm) :
    OnTime farm.progress.version (farm.streams i) := by
  refine run.invariant (I := fun _ farm => OnTime farm.progress.version (farm.streams i)) ?_ ?_
  · exact Eq.refl 0
  intro _ t a u onTime caughtUp hnext
  have step := step_of_next hnext
  rcases step.plots_or_quiet with ⟨plot, version, streams⟩ | ⟨_, version⟩
  · rw [version, streams]
    exact OnTime.plotted rfl (caughtUp plot) onTime
  · rw [version]
    exact (step.stream i).onTime onTime

/-! ### What the subscriber received -/

/-- The items that a stream gave to its subscriber. -/
def received : Option InitialPlottingProgressStream → Nat
  | some (.inner stream) => stream.received.length
  | _ => 0

theorem StreamStep.received_cases {before after : Option InitialPlottingProgressStream}
    (step : StreamStep farm i a before after) :
    received after ≤ received before ∨
      (a = .handle i ∧ received after = received before + 1 ∧
        farm.initialPlottingProgress.currentSector <
          farm.initialPlottingProgress.totalSectors) := by
  cases step with
  | same => exact .inl (Nat.le_refl _)
  | noneLeft | subscribing | subscribed | dropped => exact .inl (Nat.zero_le _)
  | observed | endedBySender | finished => exact .inl (Nat.le_refl _)
  | emitted stream busy below =>
    exact .inr ⟨rfl, by simp [received], below⟩

/-- A stream emits only below the total, and counts each item that it emits. -/
theorem run_received (below : startingSector ≤ totalSectors)
    (run : (system Sector).RunIf ok (new startingSector totalSectors) as farm) (i : Nat) :
    startingSector + received (farm.streams i) ≤ totalSectors := by
  have both := run.invariant (I := fun as farm =>
    Counts startingSector totalSectors as farm ∧
      startingSector + received (farm.streams i) ≤ farm.initialPlottingProgress.currentSector ∧
      startingSector + received (farm.streams i) ≤ totalSectors)
    ⟨⟨rfl, rfl, rfl, rfl⟩, Nat.le_refl _, below⟩ ?_
  · exact both.2.2
  rintro as t a u ⟨counts, counted, bound⟩ _ hnext
  have step := step_of_next hnext
  refine ⟨counts.step step, ?_⟩
  rw [step.current]
  rcases (step.stream i).received_cases with fewer | ⟨rfl, more, room⟩
  · omega
  · have total := counts.total
    simp only [Action.isHandle, if_true]
    omega

/-- Every action on a stream is one of stream `i`. -/
def Sole (i : Nat) (as : List (Action Sector)) : Prop :=
  ∀ a ∈ as, ∀ j, a.stream? = some j → j = i

/-- The counter by the one stream that counts. -/
def SoleCount (startingSector currentSector : Nat) : Option InitialPlottingProgressStream → Prop
  | none | some .subscribing => currentSector = startingSector
  | some (.inner stream) =>
    currentSector = startingSector + stream.received.length +
      if stream.phase = .ended .finished then 1 else 0
  | some .empty => False
  | some .dropped => True

theorem StreamStep.soleCount {before after : Option InitialPlottingProgressStream}
    {currentSector : Nat} (step : StreamStep farm i a before after)
    (room : startingSector < farm.initialPlottingProgress.totalSectors)
    (own : ∀ j, a.stream? = some j → j = i)
    (current : currentSector =
      farm.initialPlottingProgress.currentSector + if a.isHandle then 1 else 0)
    (count : SoleCount startingSector farm.initialPlottingProgress.currentSector before) :
    SoleCount startingSector currentSector after := by
  cases step with
  | same _ uncounted =>
    have quiet : a.isHandle = false := by
      cases a with
      | handle j => exact absurd (congrArg Action.handle (own j rfl)) uncounted
      | _ => rfl
    rw [current, quiet]
    exact count
  | noneLeft full =>
    have count : farm.initialPlottingProgress.currentSector = startingSector := count
    omega
  | subscribing => exact current.trans count
  | subscribed => exact current.trans count
  | observed stream free =>
    rw [SoleCount, free] at count
    exact current.trans count
  | endedBySender stream free =>
    rw [SoleCount, free] at count
    exact current.trans count
  | emitted stream busy =>
    rw [SoleCount, busy] at count
    rw [SoleCount, current, count]
    simp only [Action.isHandle, List.length_append, List.length_singleton]
    simp only [reduceCtorEq, if_true, if_false]
    omega
  | finished stream busy =>
    rw [SoleCount, busy] at count
    rw [SoleCount, current, count]
    rfl
  | dropped => trivial

theorem run_soleCount (below : startingSector < totalSectors)
    (run : (system Sector).Run (new startingSector totalSectors) as farm) (sole : Sole i as) :
    SoleCount startingSector farm.initialPlottingProgress.currentSector (farm.streams i) := by
  have both := (run.and_of_forall sole).invariant (I := fun as farm =>
    Counts startingSector totalSectors as farm ∧
      SoleCount startingSector farm.initialPlottingProgress.currentSector (farm.streams i))
    ⟨⟨rfl, rfl, rfl, rfl⟩, rfl⟩ ?_
  · exact both.2
  rintro as t a u ⟨counts, count⟩ ⟨_, own⟩ hnext
  have step := step_of_next hnext
  exact ⟨counts.step step,
    (step.stream i).soleCount (counts.total.symm ▸ below) own step.current count⟩

/-- A stream finishes only once the counter reached the total, and counts one more item then. -/
theorem run_finished (run : (system Sector).RunIf ok (new startingSector totalSectors) as farm)
    {stream : InitialPlottingProgressStreamInner} (is : farm.streams i = some (.inner stream))
    (finished : stream.phase = .ended .finished) :
    totalSectors < farm.initialPlottingProgress.currentSector := by
  have both := run.invariant (I := fun as farm =>
    Counts startingSector totalSectors as farm ∧
      ∀ stream, farm.streams i = some (.inner stream) → stream.phase = .ended .finished →
        totalSectors < farm.initialPlottingProgress.currentSector)
    ⟨⟨rfl, rfl, rfl, rfl⟩, fun _ absent => by cases absent⟩ ?_
  · exact both.2 stream is finished
  rintro as t a u ⟨counts, isOver⟩ _ hnext
  have step := step_of_next hnext
  refine ⟨counts.step step, fun stream now finished => ?_⟩
  have own := step.stream i
  generalize before : t.streams i = was at own
  rw [now] at own
  rw [step.current]
  cases own with
  | same => exact Nat.lt_add_right _ (isOver stream before finished)
  | finished _ _ reached =>
    rw [← counts.total]
    exact Nat.lt_succ_of_le reached
  | _ => cases finished

/-- While the callback is alive, no stream ends for want of it. -/
theorem run_senderAlive
    (run : (system Sector).Run (new startingSector totalSectors) as farm)
    (kept : Action.dropSender ∉ as) (i : Nat) :
    farm.progress.senderAlive = true ∧
      ∀ stream, farm.streams i = some (.inner stream) →
        stream.phase ≠ .ended .senderDropped := by
  have each : ∀ a ∈ as, a ≠ .dropSender := fun a mem same => kept (same ▸ mem)
  refine (run.and_of_forall each).invariant (I := fun _ farm =>
    farm.progress.senderAlive = true ∧
      ∀ stream, farm.streams i = some (.inner stream) →
        stream.phase ≠ .ended .senderDropped) ⟨rfl, fun _ absent => by cases absent⟩ ?_
  rintro as t a u ⟨alive, streams⟩ ⟨_, kept⟩ hnext
  have step := step_of_next hnext
  constructor
  · rw [← alive]
    cases step with
    | senderDropped => exact absurd rfl kept
    | _ => rfl
  · intro stream now
    have own := step.stream i
    generalize before : t.streams i = was at own
    rw [now] at own
    cases own with
    | same => exact streams stream before
    | endedBySender _ _ dead => simp [alive] at dead
    | _ => simp

/-! ### The end of the stream -/

/-- The subscriber of stream `i` polled until its stream was pending or had ended. -/
def Settled (farm : Farm Sector) (i : Nat) : Prop :=
  match farm.streams i with
  | some .empty => True
  | some (.inner stream) =>
    (∃ cause, stream.phase = .ended cause) ∨
      (stream.phase = .idle ∧ stream.watch.poll farm.progress = .pending)
  | _ => False

def Ended (farm : Farm Sector) (i : Nat) : Prop :=
  match farm.streams i with
  | some .empty => True
  | some (.inner stream) => ∃ cause, stream.phase = .ended cause
  | _ => False

/-- The callbacks of a run plot the sectors that are left, each for the first time. -/
structure PlotsRemaining (startingSector totalSectors : Nat) (as : List (Action Sector)) :
    Prop where
  all : firstPlots as = totalSectors - startingSector
  only : plots as = firstPlots as
  senderKept : Action.dropSender ∉ as

/-- The subscription was over before the first callback. -/
def SubscribedFirst (i : Nat) (as : List (Action Sector)) : Prop :=
  ∃ before rest, as = before ++ .subscribed i :: rest ∧ plots before = 0

/-- The stream has ended, and has given each sector to a subscriber that was there in time. -/
structure LosesNoSector (startingSector totalSectors i : Nat) (as : List (Action Sector))
    (farm : Farm Sector) : Prop where
  ended : farm.Ended i
  received : SubscribedFirst i as → received (farm.streams i) = totalSectors - startingSector

theorem ended_of_caughtUp (below : startingSector < totalSectors)
    (run : (system Sector).RunIf (PlotsCaughtUp i) (new startingSector totalSectors) as farm)
    (plotted : PlotsRemaining startingSector totalSectors as) (settled : farm.Settled i) :
    farm.Ended i := by
  have onTime := run_onTime run
  have version : farm.progress.version = totalSectors - startingSector :=
    (run_counts run).version.trans (plotted.only.trans plotted.all)
  have bound := run_received (Nat.le_of_lt below) run i
  unfold Settled at settled
  unfold Ended
  split at settled
  · trivial
  · rename_i stream is
    rw [is] at onTime bound
    rcases settled with ended | ⟨idle, pending⟩
    · exact ended
    rcases onTime with ended | inTime
    · exact ended
    -- The stream has observed one item more than it may emit.
    have seen : stream.watch.seen = some farm.progress.version := by
      by_contra fresh
      rw [WatchStream.poll_fresh fresh] at pending
      cases pending
    rw [observable_inner, if_pos seen, stream.observed_idle idle] at inTime
    have emitted : received (some (.inner stream)) = stream.received.length := rfl
    omega
  · exact settled.elim

theorem Ended.received_eq (ended : farm.Ended i) (below : startingSector < totalSectors)
    (run : (system Sector).Run (new startingSector totalSectors) as farm)
    (kept : Action.dropSender ∉ as) (sole : Sole i as) :
    received (farm.streams i) = totalSectors - startingSector ∧
      totalSectors - startingSector < observable farm.progress.version (farm.streams i) := by
  have count := run_soleCount below run sole
  have alive := (run_senderAlive run kept i).2
  have bound := run_received (Nat.le_of_lt below) run i
  unfold Ended at ended
  split at ended
  · rename_i is
    rw [is] at count
    exact count.elim
  · rename_i stream is
    obtain ⟨cause, ended⟩ := ended
    cases cause with
    | senderDropped => exact absurd ended (alive stream is)
    | finished =>
      have isOver := run_finished run is ended
      rw [is] at count bound ⊢
      rw [SoleCount, if_pos ended] at count
      rw [observable_inner, stream.observed_finished ended]
      have emitted : received (some (.inner stream)) = stream.received.length := rfl
      omega
  · exact ended.elim

/-- The initial plotting progress loses no sector where each value of the watch channel was observed
before the next sector was plotted, however many streams there are, and for one stream only
there. -/
theorem losesNoSector_iff (below : startingSector < totalSectors)
    (run : (system Sector).Run (new startingSector totalSectors) as farm)
    (plotted : PlotsRemaining startingSector totalSectors as) (settled : farm.Settled i) :
    ((system Sector).RunIf (PlotsCaughtUp i) (new startingSector totalSectors) as farm →
      farm.Ended i) ∧
    (Sole i as → (LosesNoSector startingSector totalSectors i as farm ↔
      (system Sector).RunIf (PlotsCaughtUp i) (new startingSector totalSectors) as farm)) := by
  refine ⟨fun paced => ended_of_caughtUp below paced plotted settled, fun sole => ⟨?_, ?_⟩⟩
  · intro ⟨ended, _⟩
    have version : farm.progress.version = totalSectors - startingSector :=
      (run_counts run).version.trans (plotted.only.trans plotted.all)
    have ⟨_, more⟩ := ended.received_eq below run plotted.senderKept sole
    rcases caughtUp_or_behind run i with paced | behind
    · exact paced
    · omega
  · intro paced
    have ended := ended_of_caughtUp below paced plotted settled
    exact ⟨ended, fun _ => (ended.received_eq below run plotted.senderKept sole).1⟩

theorem losesNoSector_iff_one_sector :
    ∃ farm, (system Nat).Run (new 0 1) [.subscribe 0, .subscribed 0, .poll 0, .handle 0,
        .sectorPlotted 7 none, .poll 0, .handle 0] farm ∧
      (LosesNoSector 0 1 0 [.subscribe 0, .subscribed 0, .poll 0, .handle 0,
          .sectorPlotted 7 none, .poll 0, .handle 0] farm ↔
        (system Nat).RunIf (PlotsCaughtUp 0) (new 0 1) [.subscribe 0, .subscribed 0, .poll 0,
          .handle 0, .sectorPlotted 7 none, .poll 0, .handle 0] farm) := by
  obtain ⟨farm, done, stream, is, phase⟩ : ∃ farm,
      (system Nat).exec (fun _ _ _ => True) [] (new 0 1) [.subscribe 0, .subscribed 0, .poll 0,
        .handle 0, .sectorPlotted 7 none, .poll 0, .handle 0] = some farm ∧
      ∃ stream, farm.streams 0 = some (.inner stream) ∧ stream.phase = .ended .finished :=
    ⟨_, rfl, _, rfl, rfl⟩
  have run := System.RunIf.of_exec done
  have settled : farm.Settled 0 := by
    rw [Settled, is]
    exact .inl ⟨_, phase⟩
  refine ⟨farm, run, (losesNoSector_iff (by decide) run ⟨rfl, rfl, by decide⟩ settled).2 ?_⟩
  simp [Sole, Action.stream?]

/-- Two sectors are plotted between two polls of the only subscriber, which subscribed before: its
stream saw both as one item, and waits forever for another. -/
theorem two_plots_between_polls :
    ∃ as farm, (system Nat).Run (new 0 2) as farm ∧ PlotsRemaining 0 2 as ∧ Sole 0 as ∧
      SubscribedFirst 0 as ∧ farm.Settled 0 ∧ ¬ farm.Ended 0 := by
  obtain ⟨farm, done, stream, is, phase, polled⟩ : ∃ farm,
      (system Nat).exec (fun _ _ _ => True) [] (new 0 2) [.subscribe 0, .subscribed 0, .poll 0,
        .handle 0, .sectorPlotted 7 none, .sectorPlotted 8 none, .poll 0, .handle 0] = some farm ∧
      ∃ stream, farm.streams 0 = some (.inner stream) ∧ stream.phase = .idle ∧
        stream.watch.poll farm.progress = .pending :=
    ⟨_, rfl, _, rfl, rfl, rfl⟩
  refine ⟨_, farm, System.RunIf.of_exec done, ⟨rfl, rfl, by decide⟩, ?_, ?_, ?_, ?_⟩
  · simp [Sole, Action.stream?]
  · exact ⟨[.subscribe 0], _, rfl, rfl⟩
  · rw [Settled, is]
    exact .inr ⟨phase, polled⟩
  · rw [Ended, is]
    rintro ⟨cause, ended⟩
    rw [phase] at ended
    cases ended

end Farm

end SubspaceSdk
