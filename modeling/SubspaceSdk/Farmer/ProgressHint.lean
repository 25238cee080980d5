import SubspaceSdk.Farmer.ProgressShape
import SubspaceSdk.ProofKit.Checked

/-! The size hint of a progress stream.  It takes the counter that the stream remembers from the
total, as if the remembered item were still to come and as if no other stream counted; and a stream
may remember a counter that is past the total. -/

namespace SubspaceSdk

open ProofKit

/-- `size_hint`: the subtraction of what the stream remembers, which underflows past the total. -/
def InitialPlottingProgressStreamInner.sizeHint (stream : InitialPlottingProgressStreamInner) :
    Except Fault (Nat × Option Nat) :=
  let last := stream.lastInitialPlottingProgress
  if last.currentSector ≤ last.totalSectors then
    let left := last.totalSectors - last.currentSector
    .ok (left, some left)
  else .error .subOverflow

/-- `size_hint` of a stream that a subscriber holds. -/
def InitialPlottingProgressStream.sizeHint :
    InitialPlottingProgressStream → Option (Except Fault (Nat × Option Nat))
  | .empty => some (.ok (0, some 0))
  | .inner stream => some stream.sizeHint
  | .subscribing | .dropped => none

namespace Farm

variable {Sector : Type} {startingSector totalSectors i j : Nat} {as bs : List (Action Sector)}
variable {a : Action Sector} {farm after : Farm Sector}
variable {stream : InitialPlottingProgressStreamInner}

/-- The bounds of a hint hold of the items that stream `i` still gives, however it comes to its
end. -/
def Bounds (farm : Farm Sector) (i : Nat) (hint : Nat × Option Nat) : Prop :=
  (system Sector).Bounds (fun after => after.Ended i)
    (fun after => (reports (after.streams i)).length) farm hint

/-- The hint of stream `i`, where somebody holds it, does not underflow, and its bounds hold. -/
def HintValid (farm : Farm Sector) (i : Nat) : Prop :=
  ∀ hint ∈ (farm.streams i).bind InitialPlottingProgressStream.sizeHint,
    ∃ bounds, hint = .ok bounds ∧ farm.Bounds i bounds

/-! ### What a stream remembers -/

/-- Stream `i` remembers a value that the counter had. -/
def Remembers (totalSectors i : Nat) (farm : Farm Sector) : Prop :=
  ∀ stream, farm.streams i = some (.inner stream) →
    stream.lastInitialPlottingProgress.totalSectors = totalSectors ∧
    stream.lastInitialPlottingProgress.currentSector ≤
      farm.initialPlottingProgress.currentSector

theorem Remembers.step (counts : Counts startingSector totalSectors as farm)
    (remembers : Remembers totalSectors i farm) (step : Step farm a after) :
    Remembers totalSectors i after := by
  intro stream is
  have up := step.current_le
  have own := step.stream i
  rw [is] at own
  generalize before : farm.streams i = was at own
  cases own with
  | same | observed | endedBySender | finished =>
    have ⟨total, low⟩ := remembers _ before
    exact ⟨total, Nat.le_trans low up⟩
  | subscribed | emitted => exact ⟨counts.total, up⟩

theorem run_remembers (run : (system Sector).Run (new startingSector totalSectors) as farm)
    (i : Nat) : Remembers totalSectors i farm := by
  have both := run.invariant (I := fun as farm =>
    Counts startingSector totalSectors as farm ∧ Remembers totalSectors i farm)
    ⟨⟨rfl, rfl, rfl, rfl⟩, nofun⟩ ?_
  · exact both.2
  rintro as t a u ⟨counts, remembers⟩ _ hnext
  have step := step_of_next hnext
  exact ⟨counts.step step, remembers.step counts step⟩

/-- Past the total no stream gives an item any more. -/
theorem run_reports_le (run : (system Sector).Run farm bs after) (full : farm.Full) (i : Nat) :
    (reports (after.streams i)).length ≤ (reports (farm.streams i)).length := by
  have both := run.invariant (I := fun _ after => after.Full ∧
    (reports (after.streams i)).length ≤ (reports (farm.streams i)).length)
    ⟨full, Nat.le_refl _⟩ ?_
  · exact both.2
  rintro _ t a u ⟨full, fewer⟩ _ hnext
  have step := step_of_next hnext
  refine ⟨step.full full, ?_⟩
  rcases (step.stream i).reports_cases with same | none | ⟨-, -, below⟩
  · rw [same]
    exact fewer
  · rw [none]
    exact Nat.zero_le _
  · exact absurd below (Nat.not_lt.mpr full)

/-! ### Other subscribers -/

/-- A run subscribes finitely many streams. -/
theorem run_absent (run : (system Sector).Run (new startingSector totalSectors) as farm) :
    ∃ bound, ∀ j, bound ≤ j → farm.streams j = none := by
  refine run.invariant (I := fun _ farm => ∃ bound, ∀ j, bound ≤ j → farm.streams j = none)
    ⟨0, fun _ _ => rfl⟩ ?_
  rintro _ t a u ⟨bound, absent⟩ _ hnext
  have step := step_of_next hnext
  cases own : a.stream? with
  | none =>
    refine ⟨bound, fun j high => ?_⟩
    rw [step.stream_other (by simp [own])]
    exact absent j high
  | some k =>
    refine ⟨max bound (k + 1), fun j high => ?_⟩
    rw [step.stream_other (by rw [own, ne_eq, Option.some.injEq]; omega)]
    exact absent j (by omega)

/-- A new subscriber takes the first value of its own watch stream, and counts it. -/
theorem run_counted (absent : farm.streams j = none) (below : ¬farm.Full) :
    ∃ as after, (system Sector).Run farm as after ∧
      after.initialPlottingProgress = farm.counted.initialPlottingProgress ∧
      ∀ k, k ≠ j → after.streams k = farm.streams k := by
  have room : farm.initialPlottingProgress.currentSector <
      farm.initialPlottingProgress.totalSectors := Nat.lt_of_not_le below
  have notFull : farm.initialPlottingProgress.currentSector ≠
      farm.initialPlottingProgress.totalSectors := Nat.ne_of_lt room
  let asking := farm.setStream j .subscribing
  let held := asking.subscribed j
  have first : (system Sector).next farm (.subscribe j) = some asking := by
    simp only [system, next, absent, subscribe, if_neg notFull, asking]
  have second : (system Sector).next asking (.subscribed j) = some held := by
    simp only [system, next, asking, setStream_same, held]
  obtain ⟨busy, stream, third, is, handling, same, others⟩ : ∃ busy stream,
      (system Sector).next held (.poll j) = some busy ∧ busy.streams j = some (.inner stream) ∧
      stream.phase = .handling ∧ busy.initialPlottingProgress = farm.initialPlottingProgress ∧
      ∀ k, k ≠ j → busy.streams k = farm.streams k := by
    refine ⟨_, _, next_poll_fresh (setStream_same _ _ _) rfl (Option.some_ne_none _).symm,
      setStream_same _ _ _, rfl, rfl, fun k ne => ?_⟩
    simp only [held, asking, subscribed, setStream_other _ _ ne]
  have last : (system Sector).next busy (.handle j) = some (busy.handle j stream) := by
    simp only [system, next, is, handling]
  have run := (((System.Run.next .start first).next second).next third).next last
  refine ⟨_, _, run, ?_, fun k ne => ?_⟩
  · simp only [handle, same, if_pos room]
    rfl
  · simp only [handle, same, if_pos room]
    exact (setStream_other _ _ ne).trans (others k ne)

/-- New subscribers may bring the counter to the total while stream `i` waits. -/
theorem run_filled {bound : Nat} (absent : ∀ j, bound ≤ j → farm.streams j = none)
    (present : farm.streams i ≠ none) :
    ∃ as after, (system Sector).Run farm as after ∧ after.Full ∧
      after.streams i = farm.streams i := by
  generalize left : farm.initialPlottingProgress.totalSectors -
    farm.initialPlottingProgress.currentSector = n
  induction n generalizing farm bound with
  | zero => exact ⟨[], farm, .start, Nat.le_of_sub_eq_zero left, rfl⟩
  | succ n ih =>
    have ne : i ≠ bound := fun same => present (same ▸ absent bound (Nat.le_refl _))
    obtain ⟨as, middle, run, counted, others⟩ :=
      run_counted (absent bound (Nat.le_refl _)) (by unfold Full; omega)
    have absent' : ∀ j, bound + 1 ≤ j → middle.streams j = none := fun j high =>
      (others j (by omega)).trans (absent j (by omega))
    have left' : middle.initialPlottingProgress.totalSectors -
        middle.initialPlottingProgress.currentSector = n := by
      rw [counted]
      simp only [Farm.counted]
      omega
    obtain ⟨bs, after, more, full, same⟩ :=
      ih absent' (by rw [others i ne]; exact present) left'
    exact ⟨as ++ bs, after, run.append more, full, same.trans (others i ne)⟩

/-- Stream `i` may come to its end without another item. -/
def MayEndNow (farm : Farm Sector) (i : Nat) : Prop :=
  ∃ as after, (system Sector).Run farm as after ∧ after.Ended i ∧
    (reports (after.streams i)).length = (reports (farm.streams i)).length

theorem mayEndNow_of_handling {bound : Nat} (absent : ∀ j, bound ≤ j → farm.streams j = none)
    (is : farm.streams i = some (.inner stream)) (busy : stream.phase = .handling) :
    farm.MayEndNow i := by
  obtain ⟨as, after, run, full, same⟩ := run_filled absent (by rw [is]; nofun)
  have last : (system Sector).next after (.handle i) = _ :=
    next_handle_full full (same.trans is) busy
  refine ⟨_, _, run.next last, ?_, ?_⟩
  · rw [Ended, setStream_same]
    exact ⟨_, rfl⟩
  · rw [setStream_same, is]
    rfl

theorem mayEndNow {bound : Nat} (absent : ∀ j, bound ≤ j → farm.streams j = none)
    (is : farm.streams i = some (.inner stream)) : farm.MayEndNow i := by
  cases at' : stream.phase with
  | handling => exact mayEndNow_of_handling absent is at'
  | ended cause =>
    refine ⟨[], farm, .start, ?_, rfl⟩
    rw [Ended, is]
    exact ⟨cause, at'⟩
  | idle =>
    by_cases seen : stream.watch.seen = some farm.progress.version
    · -- The stream saw all there is, and the loss of the sender ends it.
      have first : (system Sector).next farm .dropSender =
          some { farm with progress := farm.progress.dropSender } := rfl
      have second : (system Sector).next { farm with progress := farm.progress.dropSender }
          (.poll i) = some (Farm.setStream { farm with progress := farm.progress.dropSender } i
            (.inner { stream with phase := .ended .senderDropped })) := by
        simp only [system, next, is, at', pollWatch]
        rw [WatchStream.poll_seen (w := farm.progress.dropSender) seen]
        rfl
      refine ⟨_, _, (System.Run.next .start first).next second, ?_, ?_⟩
      · rw [Ended, setStream_same]
        exact ⟨_, rfl⟩
      · rw [setStream_same, is]
        rfl
    · have first : (system Sector).next farm (.poll i) = _ := next_poll_fresh is at' seen
      have absent' : ∀ j, bound ≤ j → (farm.setStream i (.inner { stream with
          watch := ⟨some farm.progress.version⟩, phase := .handling })).streams j = none := by
        intro j high
        have ne : j ≠ i := fun same => by simp [same ▸ absent j high] at is
        rw [setStream_other _ _ ne]
        exact absent j high
      obtain ⟨as, after, run, ended, same⟩ :=
        mayEndNow_of_handling absent' (setStream_same _ _ _) rfl
      refine ⟨_, after, .cons first run, ended, ?_⟩
      rw [same, setStream_same, is]
      rfl

/-! ### Where hints are valid -/

/-- The hint of a stream is right exactly where the stream remembers the total: nothing is to come
then.  Below the total the stream may end at once, and past it the subtraction underflows. -/
theorem hintValid_iff (run : (system Sector).Run (new startingSector totalSectors) as farm)
    (is : farm.streams i = some (.inner stream)) :
    farm.HintValid i ↔ stream.lastInitialPlottingProgress.currentSector = totalSectors := by
  obtain ⟨total, low⟩ := run_remembers run i stream is
  constructor
  · intro valid
    obtain ⟨bounds, hint, bounded⟩ := valid stream.sizeHint (by rw [is]; rfl)
    unfold InitialPlottingProgressStreamInner.sizeHint at hint
    dsimp only at hint
    split at hint
    · next fits =>
      cases hint
      obtain ⟨bound, absent⟩ := run_absent run
      obtain ⟨as, after, later, ended, same⟩ := mayEndNow absent is
      have none := bounded.lower_eq_zero later ended same
      dsimp only at none
      omega
    · cases hint
  · intro remembers hint mem
    rw [is] at mem
    cases mem
    refine ⟨(0, some 0), ?_, System.bounds_zero fun bs after later _ => ?_⟩
    · simp [InitialPlottingProgressStreamInner.sizeHint, remembers, total]
    · have full : farm.Full := by
        have total := (run_counts run).total
        unfold Full
        omega
      exact run_reports_le later full i

/-- A stream without items stays without items. -/
theorem run_empty (run : (system Sector).Run farm bs after) (empty : farm.streams i = some .empty) :
    after.streams i = some .empty ∨ after.streams i = some .dropped := by
  refine run.invariant (I := fun _ after =>
    after.streams i = some .empty ∨ after.streams i = some .dropped) (.inl empty) ?_
  intro _ t a u before _ hnext
  have step := (step_of_next hnext).stream i
  generalize t.streams i = was at step before
  generalize u.streams i = now at step
  cases step with
  | same => exact before
  | dropped => exact .inr rfl
  | _ => simp at before

theorem hintValid_of_not_inner (other : ∀ stream, farm.streams i ≠ some (.inner stream)) :
    farm.HintValid i := by
  intro hint mem
  cases is : farm.streams i with
  | none => simp [is] at mem
  | some held =>
    rw [is] at mem
    cases held with
    | subscribing | dropped => simp [InitialPlottingProgressStream.sizeHint] at mem
    | inner stream => exact absurd is (other stream)
    | empty =>
      cases mem
      refine ⟨(0, some 0), rfl, System.bounds_zero fun as after run _ => ?_⟩
      rcases run_empty run is with same | same
      · rw [same]
        exact Nat.zero_le _
      · rw [same]
        exact Nat.zero_le _

/-- The step leads to a state in which every hint is valid. -/
def KeepsHints (_ : List (Action Sector)) (farm : Farm Sector) (a : Action Sector) : Prop :=
  ∀ after, farm.next a = some after → ∀ i, after.HintValid i

/-- A subscription that did not read the total at first reads it the second time. -/
def SubscribedAtTotal (_ : List (Action Sector)) (farm : Farm Sector) (a : Action Sector) : Prop :=
  ∀ i, a = .subscribed i → farm.initialPlottingProgress.currentSector =
    farm.initialPlottingProgress.totalSectors

/-- Every stream under the counter remembers the total. -/
def AtTotal (totalSectors : Nat) (farm : Farm Sector) : Prop :=
  ∀ i stream, farm.streams i = some (.inner stream) →
    stream.lastInitialPlottingProgress.currentSector = totalSectors

theorem AtTotal.step (run : (system Sector).Run (new startingSector totalSectors) as farm)
    (atTotal : AtTotal totalSectors farm) (ok : SubscribedAtTotal as farm a)
    (step : Step farm a after) : AtTotal totalSectors after := by
  intro i stream is
  have ⟨_, _, total, _⟩ := run_counts run
  have own := step.stream i
  rw [is] at own
  generalize before : farm.streams i = was at own
  cases own with
  | same => exact atTotal i stream before
  | observed was | endedBySender was | finished was => exact atTotal i was before
  | subscribed => exact (ok i rfl).trans total
  | emitted stream busy below =>
    have low := (run_remembers run i stream before).2
    rw [atTotal i stream before] at low
    omega

theorem keepsHints_iff :
    (system Sector).RunIf KeepsHints (new startingSector totalSectors) as farm ↔
      (system Sector).RunIf SubscribedAtTotal (new startingSector totalSectors) as farm := by
  constructor
  · intro keeps
    refine keeps.imp_of_invariant (I := (system Sector).Run (new startingSector totalSectors))
      .start ?_
    intro as t a u before keeps hnext
    refine ⟨?_, before.next hnext⟩
    rintro i rfl
    have valid := keeps u hnext i
    have step : Step t (.subscribed i) u := step_of_next hnext
    cases step with
    | subscribed =>
      have remembers := (hintValid_iff (before.next hnext) (setStream_same _ _ _)).mp valid
      exact remembers.trans (run_counts before).total.symm
  · intro ok
    refine ok.imp_of_invariant (I := fun as farm =>
      (system Sector).Run (new startingSector totalSectors) as farm ∧ AtTotal totalSectors farm)
      ⟨.start, nofun⟩ ?_
    rintro as t a u ⟨before, atTotal⟩ ok hnext
    have atTotal' := atTotal.step before ok (step_of_next hnext)
    refine ⟨fun u' hnext' i => ?_, before.next hnext, atTotal'⟩
    rw [show t.next a = some u from hnext] at hnext'
    cases hnext'
    by_cases inner : ∃ stream, u.streams i = some (.inner stream)
    · obtain ⟨stream, is⟩ := inner
      exact (hintValid_iff (before.next hnext) is).mpr (atTotal' i stream is)
    · exact hintValid_of_not_inner fun stream is => inner ⟨stream, is⟩

/-- In every reached state a hint is valid exactly where its stream remembers the total, and over a
run all hints are valid exactly where every subscription that builds a stream finds the total at its
second read of the counter. -/
theorem hints_valid_iff (run : (system Sector).Run (new startingSector totalSectors) as farm) :
    (∀ i stream, farm.streams i = some (.inner stream) →
      (farm.HintValid i ↔ stream.lastInitialPlottingProgress.currentSector = totalSectors)) ∧
    ((system Sector).RunIf KeepsHints (new startingSector totalSectors) as farm ↔
      (system Sector).RunIf SubscribedAtTotal (new startingSector totalSectors) as farm) :=
  ⟨fun _ _ is => hintValid_iff run is, keepsHints_iff⟩

/-- The last sector is counted between the two reads of another subscription. -/
theorem hints_valid_iff_race :
    ∃ farm stream, (system Nat).Run (new 0 1) [.subscribe 0, .subscribed 0, .poll 0, .subscribe 1,
        .handle 0, .subscribed 1] farm ∧
      farm.streams 1 = some (.inner stream) ∧ farm.HintValid 1 := by
  obtain ⟨farm, stream, done, is, total⟩ : ∃ farm stream,
      (system Nat).exec (fun _ _ _ => True) [] (new 0 1) [.subscribe 0, .subscribed 0, .poll 0,
        .subscribe 1, .handle 0, .subscribed 1] = some farm ∧
      farm.streams 1 = some (.inner stream) ∧
      stream.lastInitialPlottingProgress.currentSector = 1 := ⟨_, _, rfl, rfl, rfl⟩
  have run := System.RunIf.of_exec done
  exact ⟨farm, stream, run, is, ((hints_valid_iff run).1 1 stream is).mpr total⟩

/-- A stream that counted the one sector of a farm ended, and left the counter at two: a stream that
is subscribed now takes two from one. -/
theorem hint_underflows : ¬∀ as (farm : Farm Nat) i, (system Nat).Run (new 0 1) as farm →
    farm.HintValid i := by
  intro valid
  obtain ⟨farm, stream, done, is, hint⟩ : ∃ farm stream,
      (system Nat).exec (fun _ _ _ => True) [] (new 0 1) [.subscribe 0, .subscribed 0, .poll 0,
        .handle 0, .sectorPlotted 7 none, .poll 0, .handle 0, .subscribe 1, .subscribed 1] =
        some farm ∧
      farm.streams 1 = some (.inner stream) ∧ stream.sizeHint = .error .subOverflow :=
    ⟨_, _, rfl, rfl, rfl⟩
  obtain ⟨bounds, same, -⟩ := valid _ farm 1 (System.RunIf.of_exec done) stream.sizeHint
    (by rw [is]; rfl)
  rw [hint] at same
  cases same

end Farm

end SubspaceSdk
