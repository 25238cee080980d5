import SubspaceSdk.ProofKit.Channel
import SubspaceSdk.ProofKit.Transition

/-! The initial plotting progress of a farm: the callback that a farm runs for each plotted sector
sends to a watch channel, and every progress stream counts the values that it sees there in one
shared counter.  The steps of the callback, of the subscriptions and of the polls interleave
freely; a poll takes two steps, as another task may run between the watch stream's item and the
lock that the stream's closure waits for. -/

namespace SubspaceSdk

open ProofKit

/-- Initial plotting progress. -/
structure InitialPlottingProgress where
  /-- Number of sectors from which we started plotting. -/
  startingSector : Nat
  /-- Current number of sectors. -/
  currentSector : Nat
  /-- Total number of sectors on disk. -/
  totalSectors : Nat
  deriving Repr, DecidableEq

/-- Progress data received from sender: a plotted sector, and the one that it replaces. -/
abbrev ProgressData (Sector : Type) := Option (Sector × Option Sector)

/-- Why a stream ended: its `take_while` condition failed, or the watch sender was dropped. -/
inductive StreamEnd where
  | finished
  | senderDropped
  deriving Repr, DecidableEq

inductive StreamPhase where
  /-- The next poll reaches the watch stream. -/
  | idle
  /-- The closure of `filter_map` got an item and waits for the lock of the counter. -/
  | handling
  | ended (cause : StreamEnd)
  deriving Repr, DecidableEq

/-- The stream that a subscription builds over a watch stream. -/
structure InitialPlottingProgressStreamInner where
  watch : WatchStream
  phase : StreamPhase
  lastInitialPlottingProgress : InitialPlottingProgress
  /-- The items that the subscriber received. -/
  received : List InitialPlottingProgress
  deriving Repr, DecidableEq

inductive InitialPlottingProgressStream where
  /-- `subscribe_initial_plotting_progress` is between its two reads of the counter. -/
  | subscribing
  /-- `futures::stream::iter(None)`. -/
  | empty
  | inner (stream : InitialPlottingProgressStreamInner)
  | dropped
  deriving Repr, DecidableEq

/-- What a farm, its callback and its progress streams share, with the streams by subscription. -/
structure Farm (Sector : Type) where
  progress : Watch (ProgressData Sector)
  initialPlottingProgress : InitialPlottingProgress
  streams : Nat → Option InitialPlottingProgressStream

namespace Farm

variable {Sector : Type}

/-- The farm of `Farm::new`, by the number of plotted sectors that it reads and the target sector
count that it computes. -/
def new (plottedSectorsCount targetSectorCount : Nat) : Farm Sector where
  progress := { value := none }
  initialPlottingProgress :=
    { startingSector := plottedSectorsCount
      currentSector := plottedSectorsCount
      totalSectors := targetSectorCount }
  streams := fun _ => none

inductive Action (Sector : Type) where
  /-- `on_sector_plotted` with the plotted sector and the sector that it replaces, if any. -/
  | sectorPlotted (sector : Sector) (old : Option Sector)
  /-- The callback, which owns the watch sender, is dropped. -/
  | dropSender
  /-- The subscription up to its first read of the counter. -/
  | subscribe (i : Nat)
  /-- The rest of the subscription. -/
  | subscribed (i : Nat)
  /-- A poll of the watch stream under stream `i`. -/
  | poll (i : Nat)
  /-- The closure of stream `i` gets the lock of the counter. -/
  | handle (i : Nat)
  | dropStream (i : Nat)
  deriving Repr, DecidableEq

def setStream (farm : Farm Sector) (i : Nat) (stream : InitialPlottingProgressStream) :
    Farm Sector :=
  { farm with streams := fun j => if j = i then some stream else farm.streams j }

/-- `subscribe_initial_plotting_progress`: a stream without items where the plotting is over. -/
def subscribe (farm : Farm Sector) (i : Nat) : Farm Sector :=
  let initial := farm.initialPlottingProgress
  farm.setStream i (if initial.currentSector = initial.totalSectors then .empty else .subscribing)

def subscribed (farm : Farm Sector) (i : Nat) : Farm Sector :=
  farm.setStream i (.inner
    { watch := {}
      phase := .idle
      lastInitialPlottingProgress := farm.initialPlottingProgress
      received := [] })

/-- A poll of the watch stream under an idle stream. -/
def pollWatch (farm : Farm Sector) (i : Nat) (stream : InitialPlottingProgressStreamInner) :
    Farm Sector :=
  match stream.watch.poll farm.progress with
  | .ready => farm.setStream i (.inner
      { stream with watch := ⟨some farm.progress.version⟩, phase := .handling })
  | .ended => farm.setStream i (.inner { stream with phase := .ended .senderDropped })
  | .pending => farm

/-- The closure of `filter_map` under the lock, and the condition of `take_while` on its item. -/
def handle (farm : Farm Sector) (i : Nat) (stream : InitialPlottingProgressStreamInner) :
    Farm Sector :=
  let plottingProgress := farm.initialPlottingProgress
  let farm := { farm with initialPlottingProgress :=
    { plottingProgress with currentSector := plottingProgress.currentSector + 1 } }
  if plottingProgress.currentSector < plottingProgress.totalSectors then
    farm.setStream i (.inner { stream with
      phase := .idle
      lastInitialPlottingProgress := plottingProgress
      received := stream.received ++ [plottingProgress] })
  else
    farm.setStream i (.inner { stream with phase := .ended .finished })

def next (farm : Farm Sector) : Action Sector → Option (Farm Sector)
  | .sectorPlotted sector old =>
    if farm.progress.senderAlive then
      some { farm with progress := farm.progress.send (some (sector, old)) }
    else none
  | .dropSender => some { farm with progress := farm.progress.dropSender }
  | .subscribe i =>
    match farm.streams i with
    | none => some (farm.subscribe i)
    | some _ => none
  | .subscribed i =>
    match farm.streams i with
    | some .subscribing => some (farm.subscribed i)
    | _ => none
  | .poll i =>
    match farm.streams i with
    | some .empty => some farm
    | some (.inner stream) =>
      match stream.phase with
      | .idle => some (farm.pollWatch i stream)
      | .handling => none
      | .ended _ => some farm
    | _ => none
  | .handle i =>
    match farm.streams i with
    | some (.inner stream) =>
      match stream.phase with
      | .handling => some (farm.handle i stream)
      | _ => none
    | _ => none
  | .dropStream i =>
    match farm.streams i with
    | some .dropped => none
    | none => none
    | some _ => some (farm.setStream i .dropped)

variable (Sector) in
/-- A farm with its callback and its subscribers. -/
def system : System (Farm Sector) (Action Sector) := ⟨next⟩

@[simp] theorem setStream_same (farm : Farm Sector) (i : Nat)
    (stream : InitialPlottingProgressStream) :
    (farm.setStream i stream).streams i = some stream := by
  simp [setStream]

theorem setStream_other (farm : Farm Sector) {i j : Nat} (stream : InitialPlottingProgressStream)
    (ne : j ≠ i) : (farm.setStream i stream).streams j = farm.streams j := by
  simp [setStream, ne]

/-- The farm after one more item was counted. -/
def counted (farm : Farm Sector) : Farm Sector :=
  { farm with initialPlottingProgress := { farm.initialPlottingProgress with
    currentSector := farm.initialPlottingProgress.currentSector + 1 } }

/-- All that an action can do to a farm. -/
inductive Step (farm : Farm Sector) : Action Sector → Farm Sector → Prop
  | plotted (sector : Sector) (old : Option Sector) :
      Step farm (.sectorPlotted sector old)
        { farm with progress := farm.progress.send (some (sector, old)) }
  | senderDropped : Step farm .dropSender { farm with progress := farm.progress.dropSender }
  | noneLeft (i : Nat) (absent : farm.streams i = none)
      (full : farm.initialPlottingProgress.currentSector =
        farm.initialPlottingProgress.totalSectors) :
      Step farm (.subscribe i) (farm.setStream i .empty)
  | subscribing (i : Nat) (absent : farm.streams i = none)
      (notFull : farm.initialPlottingProgress.currentSector ≠
        farm.initialPlottingProgress.totalSectors) :
      Step farm (.subscribe i) (farm.setStream i .subscribing)
  | subscribed (i : Nat) (was : farm.streams i = some .subscribing) :
      Step farm (.subscribed i) (farm.subscribed i)
  | idle (i : Nat) : Step farm (.poll i) farm
  | observed (i : Nat) (stream : InitialPlottingProgressStreamInner)
      (was : farm.streams i = some (.inner stream)) (free : stream.phase = .idle)
      (fresh : stream.watch.seen ≠ some farm.progress.version) :
      Step farm (.poll i) (farm.setStream i (.inner
        { stream with watch := ⟨some farm.progress.version⟩, phase := .handling }))
  | endedBySender (i : Nat) (stream : InitialPlottingProgressStreamInner)
      (was : farm.streams i = some (.inner stream)) (free : stream.phase = .idle)
      (dead : farm.progress.senderAlive = false) :
      Step farm (.poll i) (farm.setStream i (.inner
        { stream with phase := .ended .senderDropped }))
  | emitted (i : Nat) (stream : InitialPlottingProgressStreamInner)
      (was : farm.streams i = some (.inner stream)) (busy : stream.phase = .handling)
      (below : farm.initialPlottingProgress.currentSector <
        farm.initialPlottingProgress.totalSectors) :
      Step farm (.handle i) (farm.counted.setStream i (.inner { stream with
        phase := .idle
        lastInitialPlottingProgress := farm.initialPlottingProgress
        received := stream.received ++ [farm.initialPlottingProgress] }))
  | finished (i : Nat) (stream : InitialPlottingProgressStreamInner)
      (was : farm.streams i = some (.inner stream)) (busy : stream.phase = .handling)
      (reached : farm.initialPlottingProgress.totalSectors ≤
        farm.initialPlottingProgress.currentSector) :
      Step farm (.handle i) (farm.counted.setStream i (.inner
        { stream with phase := .ended .finished }))
  | streamDropped (i : Nat) : Step farm (.dropStream i) (farm.setStream i .dropped)

theorem handle_step {farm : Farm Sector} {i : Nat} {stream : InitialPlottingProgressStreamInner}
    (was : farm.streams i = some (.inner stream)) (busy : stream.phase = .handling) :
    Step farm (.handle i) (farm.handle i stream) := by
  unfold handle
  dsimp only
  split
  · rename_i below
    exact .emitted i stream was busy below
  · rename_i reached
    exact .finished i stream was busy (Nat.le_of_not_lt reached)

theorem pollWatch_step {farm : Farm Sector} {i : Nat} {stream : InitialPlottingProgressStreamInner}
    (was : farm.streams i = some (.inner stream)) (free : stream.phase = .idle) :
    Step farm (.poll i) (farm.pollWatch i stream) := by
  unfold pollWatch
  by_cases seen : stream.watch.seen = some farm.progress.version
  · rw [WatchStream.poll_seen seen]
    cases alive : farm.progress.senderAlive with
    | true => exact .idle i
    | false => exact .endedBySender i stream was free alive
  · rw [WatchStream.poll_fresh seen]
    exact .observed i stream was free seen

theorem step_of_next {farm after : Farm Sector} {a : Action Sector}
    (h : farm.next a = some after) : Step farm a after := by
  cases a with
  | sectorPlotted sector old =>
    simp only [next] at h
    split_ifs at h
    cases h
    exact .plotted sector old
  | dropSender =>
    cases h
    exact .senderDropped
  | subscribe i =>
    simp only [next] at h
    split at h
    · rename_i absent
      cases h
      unfold subscribe
      dsimp only
      split
      · rename_i full
        exact .noneLeft i absent full
      · rename_i notFull
        exact .subscribing i absent notFull
    · cases h
  | subscribed i =>
    simp only [next] at h
    split at h
    · rename_i was
      cases h
      exact .subscribed i was
    · cases h
  | poll i =>
    simp only [next] at h
    split at h
    · cases h
      exact .idle i
    · rename_i stream was
      cases phase : stream.phase with
      | idle =>
        simp only [phase] at h
        cases h
        exact pollWatch_step was phase
      | handling => simp [phase] at h
      | ended cause =>
        simp only [phase] at h
        cases h
        exact .idle i
    · cases h
  | handle i =>
    simp only [next] at h
    split at h
    · rename_i stream was
      cases phase : stream.phase with
      | handling =>
        simp only [phase] at h
        cases h
        exact handle_step was phase
      | idle => simp [phase] at h
      | ended cause => simp [phase] at h
    · cases h
  | dropStream i =>
    simp only [next] at h
    split at h
    · cases h
    · cases h
    · cases h
      exact .streamDropped i

end Farm

end SubspaceSdk
