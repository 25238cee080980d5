import Mathlib.Data.List.Induction
import SubspaceSdk.Farmer.ProgressCount

/-! Progress that runs ahead of the plotting.  Every stream adds each item that it sees to the one
counter that all streams report: the first value of its own watch stream, which no plotted sector
sent, replotted sectors, and sectors that another stream counted before.  A ledger of the events
tells these items from the ones that sectors plotted for the first time have earned, and the reports
are right as long as the sectors that no stream has counted make up for them. -/

namespace SubspaceSdk

open ProofKit

namespace Farm

variable {Sector : Type} {startingSector totalSectors i : Nat} {as : List (Action Sector)}
variable {a : Action Sector} {farm after : Farm Sector}

/-- Stream `i` ended, or was made without items, because the counter reached the total. -/
def EndedByCount (farm : Farm Sector) (i : Nat) : Prop :=
  match farm.streams i with
  | some .empty => True
  | some (.inner stream) => stream.phase = .ended .finished
  | _ => False

/-- What the streams counted, by the events of the farm.  The values of the watch channel are
numbered by the callbacks that sent them, from the initial value, which is number zero. -/
structure Ledger where
  /-- The value in the watch channel. -/
  latest : Nat := 0
  /-- By stream, the value that its last poll found. -/
  taken : Nat → Nat := fun _ => 0
  /-- The sectors plotted for the first time that no stream counted. -/
  uncounted : List Nat := []
  replots : List Nat := []
  initialItems : Nat := 0
  replotItems : Nat := 0
  /-- The items for sectors that were counted before. -/
  repeatedItems : Nat := 0

/-- One more item: the initial value, a replot, a sector plotted for the first time, or one that was
counted before. -/
def Ledger.count (ledger : Ledger) (value : Nat) : Ledger :=
  if value = 0 then { ledger with initialItems := ledger.initialItems + 1 }
  else if value ∈ ledger.replots then { ledger with replotItems := ledger.replotItems + 1 }
  else if value ∈ ledger.uncounted then
    { ledger with uncounted := ledger.uncounted.erase value }
  else { ledger with repeatedItems := ledger.repeatedItems + 1 }

def Ledger.enter (ledger : Ledger) : Action Sector → Ledger
  | .sectorPlotted _ none => { ledger with
      latest := ledger.latest + 1
      uncounted := ledger.uncounted ++ [ledger.latest + 1] }
  | .sectorPlotted _ (some _) => { ledger with
      latest := ledger.latest + 1
      replots := ledger.replots ++ [ledger.latest + 1] }
  | .poll i => { ledger with taken := fun j => if j = i then ledger.latest else ledger.taken j }
  | .handle i => ledger.count (ledger.taken i)
  | .dropSender | .subscribe _ | .subscribed _ | .dropStream _ => ledger

def ledger (as : List (Action Sector)) : Ledger := as.foldl Ledger.enter {}

theorem ledger_append (as : List (Action Sector)) (a : Action Sector) :
    ledger (as ++ [a]) = (ledger as).enter a := by
  simp [ledger]

theorem Ledger.count_frame (ledger : Ledger) (value : Nat) :
    (ledger.count value).taken = ledger.taken ∧ (ledger.count value).latest = ledger.latest := by
  unfold count
  split_ifs <;> exact ⟨rfl, rfl⟩

theorem Ledger.enter_taken (ledger : Ledger) {a : Action Sector} (other : a ≠ .poll i) :
    (ledger.enter a).taken i = ledger.taken i := by
  cases a with
  | sectorPlotted sector old => cases old <;> rfl
  | poll j => exact if_neg fun same => other (by rw [same])
  | handle j => exact congrFun (ledger.count_frame (ledger.taken j)).1 i
  | dropSender | subscribe | subscribed | dropStream => rfl

theorem Ledger.enter_latest (ledger : Ledger) (a : Action Sector) :
    (ledger.enter a).latest = ledger.latest + if a.isPlot then 1 else 0 := by
  cases a with
  | sectorPlotted sector old => cases old <;> rfl
  | handle j => exact (ledger.count_frame (ledger.taken j)).2
  | dropSender | subscribe | subscribed | poll | dropStream => rfl

theorem ledger_latest (as : List (Action Sector)) : (ledger as).latest = plots as := by
  induction as using List.reverseRecOn with
  | nil => rfl
  | append_singleton as a ih => rw [ledger_append, plots_append, Ledger.enter_latest, ih]

/-- The ledger has the value that a stream is about to count. -/
theorem run_taken (run : (system Sector).Run (new startingSector totalSectors) as farm)
    {stream : InitialPlottingProgressStreamInner} (is : farm.streams i = some (.inner stream))
    (busy : stream.phase = .handling) : stream.watch.seen = some ((ledger as).taken i) := by
  have both := run.invariant (I := fun as farm =>
    Counts startingSector totalSectors as farm ∧
      ∀ stream, farm.streams i = some (.inner stream) → stream.phase = .handling →
        stream.watch.seen = some ((ledger as).taken i))
    ⟨⟨rfl, rfl, rfl, rfl⟩, fun _ absent => by cases absent⟩ ?_
  · exact both.2 stream is busy
  rintro as t a u ⟨counts, taken⟩ _ hnext
  have step := step_of_next hnext
  refine ⟨counts.step step, fun stream now busy => ?_⟩
  have own := step.stream i
  generalize before : t.streams i = was at own
  rw [now] at own
  rw [ledger_append]
  cases own with
  | same =>
    -- a stream that waits for the counter is not polled
    have other : a ≠ .poll i := by
      rintro rfl
      simp [system, next, before, busy] at hnext
    rw [Ledger.enter_taken _ other]
    exact taken stream before busy
  | observed =>
    have latest : (ledger as).latest = t.progress.version :=
      (ledger_latest as).trans counts.version.symm
    simp [Ledger.enter, latest]
  | subscribed | endedBySender | emitted | finished => cases busy

end Farm

end SubspaceSdk
