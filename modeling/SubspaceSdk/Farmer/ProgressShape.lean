import SubspaceSdk.Farmer.ProgressPace

/-! The shape of a progress stream.  The counter that all streams share only goes up, so what one
stream reports goes up too, however many sectors the others count between two of its items; and a
counter that reached the total once leaves nothing to report to whoever subscribes later. -/

namespace SubspaceSdk

open ProofKit

/-- Reports of one plotting: the sectors that it started from and those on disk are fixed, and the
current ones go up, from the first and below the last. -/
structure WellFormedReports (startingSector totalSectors : Nat)
    (reports : List InitialPlottingProgress) : Prop where
  ascending : reports.Pairwise fun p q => p.currentSector < q.currentSector
  starting : ∀ p ∈ reports, p.startingSector = startingSector
  total : ∀ p ∈ reports, p.totalSectors = totalSectors
  inRange : ∀ p ∈ reports, startingSector ≤ p.currentSector ∧ p.currentSector < totalSectors

namespace WellFormedReports

variable {startingSector totalSectors : Nat} {reports : List InitialPlottingProgress}

theorem nil : WellFormedReports startingSector totalSectors [] :=
  ⟨.nil, nofun, nofun, nofun⟩

theorem append {p : InitialPlottingProgress}
    (wellFormed : WellFormedReports startingSector totalSectors reports)
    (later : ∀ q ∈ reports, q.currentSector < p.currentSector)
    (starting : p.startingSector = startingSector) (total : p.totalSectors = totalSectors)
    (low : startingSector ≤ p.currentSector) (high : p.currentSector < totalSectors) :
    WellFormedReports startingSector totalSectors (reports ++ [p]) := by
  constructor
  · rw [List.pairwise_append]
    refine ⟨wellFormed.ascending, List.pairwise_singleton _ _, fun q mem r last => ?_⟩
    rw [List.mem_singleton.mp last]
    exact later q mem
  · exact List.forall_mem_append.mpr ⟨wellFormed.starting, List.forall_mem_singleton.mpr starting⟩
  · exact List.forall_mem_append.mpr ⟨wellFormed.total, List.forall_mem_singleton.mpr total⟩
  · exact List.forall_mem_append.mpr
      ⟨wellFormed.inRange, List.forall_mem_singleton.mpr ⟨low, high⟩⟩

/-- The reports go up from the first sector, so the first of them leaves room for the others. -/
theorem length_le (wellFormed : WellFormedReports startingSector totalSectors reports) :
    reports.length ≤ totalSectors - startingSector := by
  have bound : ∀ low, (∀ p ∈ reports, low ≤ p.currentSector) →
      reports.length ≤ totalSectors - low := by
    obtain ⟨ascending, -, -, inRange⟩ := wellFormed
    induction reports with
    | nil => exact fun _ _ => Nat.zero_le _
    | cons p rest ih =>
      intro low above
      obtain ⟨first, ascending⟩ := List.pairwise_cons.mp ascending
      obtain ⟨here, inRange⟩ := List.forall_mem_cons.mp inRange
      have room := ih ascending inRange (p.currentSector + 1) first
      have low := above p List.mem_cons_self
      rw [List.length_cons]
      omega
  exact bound startingSector fun p mem => (wellFormed.inRange p mem).1

end WellFormedReports

namespace Farm

variable {Sector : Type} {startingSector totalSectors i : Nat} {as bs : List (Action Sector)}
variable {a : Action Sector} {farm after : Farm Sector}

/-- The items that the subscriber of a stream received from it. -/
def reports : Option InitialPlottingProgressStream → List InitialPlottingProgress
  | some (.inner stream) => stream.received
  | _ => []

/-! ### Items that go up -/

/-- What an action adds to the items of stream `i`: nothing, or the counter before it. -/
theorem StreamStep.reports_cases {before now : Option InitialPlottingProgressStream}
    (step : StreamStep farm i a before now) :
    reports now = reports before ∨ reports now = [] ∨
      (reports now = reports before ++ [farm.initialPlottingProgress] ∧ a.isHandle = true ∧
        farm.initialPlottingProgress.currentSector <
          farm.initialPlottingProgress.totalSectors) := by
  cases step with
  | same | observed | endedBySender | finished => exact .inl rfl
  | noneLeft | subscribing | subscribed | dropped => exact .inr (.inl rfl)
  | emitted stream busy below => exact .inr (.inr ⟨rfl, rfl, below⟩)

theorem Step.current_le (step : Step farm a after) :
    farm.initialPlottingProgress.currentSector ≤ after.initialPlottingProgress.currentSector := by
  rw [step.current]
  omega

theorem run_current_le (run : (system Sector).Run farm bs after) :
    farm.initialPlottingProgress.currentSector ≤ after.initialPlottingProgress.currentSector := by
  refine run.invariant (I := fun _ after => farm.initialPlottingProgress.currentSector ≤
    after.initialPlottingProgress.currentSector) (Nat.le_refl _) ?_
  intro _ t a u low _ hnext
  exact Nat.le_trans low (step_of_next hnext).current_le

/-- The items of stream `i` are well formed, and the counter is past each of them. -/
structure Reported (startingSector totalSectors i : Nat) (as : List (Action Sector))
    (farm : Farm Sector) : Prop where
  counts : Counts startingSector totalSectors as farm
  wellFormed : WellFormedReports startingSector totalSectors (reports (farm.streams i))
  counted : ∀ p ∈ reports (farm.streams i),
    p.currentSector < farm.initialPlottingProgress.currentSector

theorem Reported.step (reported : Reported startingSector totalSectors i as farm)
    (step : Step farm a after) : Reported startingSector totalSectors i (as ++ [a]) after := by
  obtain ⟨counts, wellFormed, counted⟩ := reported
  have ⟨starting, current, total, _⟩ := counts
  refine ⟨counts.step step, ?_, ?_⟩
  · rcases (step.stream i).reports_cases with same | none | ⟨more, -, below⟩
    · rw [same]
      exact wellFormed
    · rw [none]
      exact .nil
    · rw [more]
      exact wellFormed.append counted starting total (by omega) (by omega)
  · have up := step.current_le
    rcases (step.stream i).reports_cases with same | none | ⟨more, handle, below⟩
    · rw [same]
      exact fun p mem => Nat.lt_of_lt_of_le (counted p mem) up
    · rw [none]
      exact nofun
    · have next := step.current
      rw [if_pos handle] at next
      rw [more]
      refine List.forall_mem_append.mpr ⟨fun p mem => ?_, List.forall_mem_singleton.mpr (by omega)⟩
      exact Nat.lt_of_lt_of_le (counted p mem) up

theorem run_reported (run : (system Sector).Run (new startingSector totalSectors) as farm)
    (i : Nat) : Reported startingSector totalSectors i as farm := by
  refine run.invariant (I := Reported startingSector totalSectors i)
    ⟨⟨rfl, rfl, rfl, rfl⟩, .nil, nofun⟩ ?_
  intro as t a u reported _ hnext
  exact reported.step (step_of_next hnext)

/-- Every stream of a farm reports as one plotting does, and the counter under them only goes up. -/
theorem streams_wellFormed (run : (system Sector).Run (new startingSector totalSectors) as farm) :
    (∀ i, WellFormedReports startingSector totalSectors (reports (farm.streams i)) ∧
      (reports (farm.streams i)).length ≤ totalSectors - startingSector) ∧
    (∀ bs after, (system Sector).Run farm bs after →
      farm.initialPlottingProgress.currentSector ≤
        after.initialPlottingProgress.currentSector) := by
  refine ⟨fun i => ?_, fun bs after later => run_current_le later⟩
  have wellFormed := (run_reported run i).wellFormed
  exact ⟨wellFormed, wellFormed.length_le⟩

/-- Two streams share the count of three sectors. -/
theorem streams_wellFormed_two_streams :
    ∃ farm, (system Nat).Run (new 0 3) [.subscribe 0, .subscribed 0, .subscribe 1, .subscribed 1,
        .poll 0, .handle 0, .poll 1, .handle 1, .sectorPlotted 7 none, .poll 0, .handle 0] farm ∧
      reports (farm.streams 0) = [⟨0, 0, 3⟩, ⟨0, 2, 3⟩] ∧
      WellFormedReports 0 3 (reports (farm.streams 0)) := by
  obtain ⟨farm, done, same⟩ : ∃ farm, (system Nat).exec (fun _ _ _ => True) [] (new 0 3)
      [.subscribe 0, .subscribed 0, .subscribe 1, .subscribed 1, .poll 0, .handle 0, .poll 1,
        .handle 1, .sectorPlotted 7 none, .poll 0, .handle 0] = some farm ∧
      reports (farm.streams 0) = [⟨0, 0, 3⟩, ⟨0, 2, 3⟩] := ⟨_, rfl, rfl⟩
  have run := System.RunIf.of_exec done
  exact ⟨farm, run, same, ((streams_wellFormed run).1 0).1⟩

/-! ### After the total was reached -/

/-- The counter is at the total or past it. -/
def Full (farm : Farm Sector) : Prop :=
  farm.initialPlottingProgress.totalSectors ≤ farm.initialPlottingProgress.currentSector

theorem Step.full (step : Step farm a after) (full : farm.Full) : after.Full := by
  have up := step.current_le
  have total : after.initialPlottingProgress.totalSectors =
      farm.initialPlottingProgress.totalSectors := by
    cases step <;> rfl
  unfold Full at full ⊢
  omega

/-- What becomes of a stream that is subscribed over a full counter: it has no items, its first
poll reaches the closure, and its closure ends it. -/
def Barren : Option InitialPlottingProgressStream → Prop
  | some (.inner stream) => stream.received = [] ∧
    match stream.phase with
    | .idle => stream.watch.seen = none
    | .handling => True
    | .ended cause => cause = .finished
  | _ => True

/-- A stream whose watch stream has something to give is not ended by the loss of its sender. -/
theorem next_poll_fresh {stream : InitialPlottingProgressStreamInner}
    (was : farm.streams i = some (.inner stream)) (free : stream.phase = .idle)
    (fresh : stream.watch.seen ≠ some farm.progress.version) :
    farm.next (.poll i) = some (farm.setStream i (.inner
      { stream with watch := ⟨some farm.progress.version⟩, phase := .handling })) := by
  simp only [next, was, free, pollWatch, WatchStream.poll_fresh fresh]

theorem next_handle_full {stream : InitialPlottingProgressStreamInner} (full : farm.Full)
    (was : farm.streams i = some (.inner stream)) (busy : stream.phase = .handling) :
    farm.next (.handle i) = some (farm.counted.setStream i (.inner
      { stream with phase := .ended .finished })) := by
  simp only [next, was, busy, handle, if_neg (Nat.not_lt.mpr full)]
  rfl

theorem barren_of_next (hnext : farm.next a = some after) (full : farm.Full)
    (barren : Barren (farm.streams i)) : Barren (after.streams i) := by
  have step := (step_of_next hnext).stream i
  generalize before : farm.streams i = was at step barren
  generalize later : after.streams i = now at step
  cases step with
  | same => exact barren
  | noneLeft | subscribing | dropped => trivial
  | subscribed => exact ⟨rfl, rfl⟩
  | observed => exact ⟨barren.1, trivial⟩
  | endedBySender stream free =>
    obtain ⟨-, unseen⟩ := barren
    rw [free] at unseen
    have fresh := next_poll_fresh before free (by simp [show stream.watch.seen = none from unseen])
    rw [fresh] at hnext
    cases hnext
    simp at later
  | emitted stream busy below => exact absurd below (Nat.not_lt.mpr full)
  | finished => exact ⟨barren.1, rfl⟩

theorem run_barren (run : (system Sector).Run farm bs after) (full : farm.Full)
    (barren : Barren (farm.streams i)) : after.Full ∧ Barren (after.streams i) := by
  refine run.invariant (I := fun _ after => after.Full ∧ Barren (after.streams i))
    ⟨full, barren⟩ ?_
  rintro _ t a u ⟨full, barren⟩ _ hnext
  exact ⟨(step_of_next hnext).full full, barren_of_next hnext full barren⟩

/-- The stream of a subscription was returned to its subscriber, who holds it. -/
def Held (farm : Farm Sector) (i : Nat) : Prop :=
  farm.streams i = some .empty ∨ ∃ stream, farm.streams i = some (.inner stream)

/-- The polls of stream `i` alone, with no sector plotted, bring it to its end without an item. -/
def EndsWhenPolled (farm : Farm Sector) (i : Nat) : Prop :=
  ∃ polls after, (∀ a ∈ polls, a = .poll i ∨ a = .handle i) ∧
    (system Sector).Run farm polls after ∧ after.EndedByCount i ∧ reports (after.streams i) = []

theorem endsWhenPolled_of_handling (full : farm.Full) {stream : InitialPlottingProgressStreamInner}
    (is : farm.streams i = some (.inner stream)) (busy : stream.phase = .handling)
    (none : stream.received = []) : farm.EndsWhenPolled i := by
  refine ⟨[.handle i], _, by simp, .next .start (next_handle_full full is busy), ?_, ?_⟩
  · rw [EndedByCount, setStream_same]
  · rw [setStream_same]
    exact none

theorem EndsWhenPolled.of_poll (hnext : farm.next (.poll i) = some after)
    (ends : after.EndsWhenPolled i) : farm.EndsWhenPolled i := by
  obtain ⟨polls, last, own, run, isOver, none⟩ := ends
  refine ⟨.poll i :: polls, last, ?_, .cons hnext run, isOver, none⟩
  exact List.forall_mem_cons.mpr ⟨.inl rfl, own⟩

theorem endsWhenPolled_of_barren (full : farm.Full) (barren : Barren (farm.streams i))
    (held : farm.Held i) : farm.EndsWhenPolled i := by
  rcases held with empty | ⟨stream, is⟩
  · refine ⟨[], farm, nofun, .start, ?_, ?_⟩
    · rw [EndedByCount, empty]
      trivial
    · rw [empty]
      rfl
  rw [is] at barren
  obtain ⟨none, phase⟩ := barren
  cases at' : stream.phase with
  | idle =>
    rw [at'] at phase
    have fresh : stream.watch.seen ≠ some farm.progress.version := by
      simp [show stream.watch.seen = Option.none from phase]
    refine .of_poll (next_poll_fresh is at' fresh) ?_
    exact endsWhenPolled_of_handling full (setStream_same _ _ _) rfl none
  | handling => exact endsWhenPolled_of_handling full is at' none
  | ended cause =>
    rw [at'] at phase
    refine ⟨[], farm, nofun, .start, ?_, ?_⟩
    · rw [EndedByCount, is]
      exact at'.trans (congrArg StreamPhase.ended phase)
    · rw [is]
      exact none

/-- Whoever subscribes after the counter reached the total, as it did where the condition of a
stream ended it, gets a stream that ends when it is polled, without an item and without waiting for
a sector to be plotted. -/
theorem ends_when_subscribed_after (run : (system Sector).Run (new startingSector totalSectors)
      as farm)
    (reached : farm.Full ∨ ∃ j stream, farm.streams j = some (.inner stream) ∧
      stream.phase = .ended .finished)
    (absent : farm.streams i = none) (later : (system Sector).Run farm bs after) :
    reports (after.streams i) = [] ∧ (after.Held i → after.EndsWhenPolled i) := by
  have full : farm.Full := by
    rcases reached with full | ⟨j, stream, is, finished⟩
    · exact full
    · have past := run_finished run is finished
      have total := (run_counts run).total
      unfold Full
      omega
  obtain ⟨full, barren⟩ := run_barren (i := i) later full (by rw [absent]; trivial)
  refine ⟨?_, endsWhenPolled_of_barren full barren⟩
  match is : after.streams i with
  | none | some .subscribing | some .empty | some .dropped => rfl
  | some (.inner stream) =>
    rw [is] at barren
    exact barren.1

/-- The farm has one sector, which the first stream counts before it ends.  The counter is past the
total then, so a later subscription does not take the short way out. -/
theorem ends_when_subscribed_after_one_sector :
    ∃ after, (system Nat).Run (new 0 1) ([.subscribe 0, .subscribed 0, .poll 0, .handle 0,
        .sectorPlotted 7 none, .poll 0, .handle 0] ++ [.subscribe 1, .subscribed 1]) after ∧
      after.Held 1 ∧ after.EndsWhenPolled 1 := by
  obtain ⟨farm, stream, done, is, finished, absent⟩ : ∃ farm stream,
      (system Nat).exec (fun _ _ _ => True) [] (new 0 1) [.subscribe 0, .subscribed 0, .poll 0,
        .handle 0, .sectorPlotted 7 none, .poll 0, .handle 0] = some farm ∧
      farm.streams 0 = some (.inner stream) ∧ stream.phase = .ended .finished ∧
      farm.streams 1 = none := ⟨_, _, rfl, rfl, rfl, rfl⟩
  obtain ⟨after, more, late, held⟩ : ∃ after,
      (system Nat).exec (fun _ _ _ => True) [] (new 0 1) ([.subscribe 0, .subscribed 0, .poll 0,
        .handle 0, .sectorPlotted 7 none, .poll 0, .handle 0] ++
        [.subscribe 1, .subscribed 1]) = some after ∧
      (system Nat).exec (fun _ _ _ => True) [] farm [.subscribe 1, .subscribed 1] = some after ∧
      after.Held 1 := by
    cases done
    exact ⟨_, rfl, rfl, .inr ⟨_, rfl⟩⟩
  refine ⟨after, System.RunIf.of_exec more, held, ?_⟩
  exact (ends_when_subscribed_after (System.RunIf.of_exec done) (.inr ⟨0, stream, is, finished⟩)
    absent (System.RunIf.of_exec late)).2 held

end Farm

end SubspaceSdk
