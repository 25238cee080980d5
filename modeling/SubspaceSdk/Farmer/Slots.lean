import SubspaceSdk.Farmer.Build
import SubspaceSdk.ProofKit.Transition

/-! The two slots of a node that its farmers share, with any number of farmers that are built,
called back by their farms, closed and dropped in any order.  A slot is kept with the farmer that
filled it, which the code does not record. -/

namespace SubspaceSdk

open ProofKit

/-- Why a farmer is torn down. -/
inductive Ending where
  | failed (error : BuildError)
  | closed
  | dropped
  deriving Repr, DecidableEq

inductive FarmerPhase where
  /-- `Config::build` is about to take the first of these steps. -/
  | building (todo : List BuildStep)
  | built
  /-- These destructors are left to tear down, the next one first. -/
  | tearingDown (how : Ending) (todo : List FarmerDestructor)
  | gone (how : Ending)
  deriving Repr, DecidableEq

structure Farmer (Reader Sector : Type) where
  singleDiskFarms : List (SingleDiskFarm Reader Sector)
  phase : FarmerPhase
  /-- The destructors that `build` has registered, the oldest first. -/
  destructors : List FarmerDestructor := []
  /-- The farms whose callbacks are registered. -/
  handlers : List Nat := []

/-- The slots of `DsnShared`, each with the index of the farmer that filled it. -/
structure Slots (Reader Sector R : Type) where
  farmerPieceCache : Option Nat := none
  farmerReadersAndPieces : Option (Nat × R) := none
  farmers : List (Farmer Reader Sector) := []
  /-- The messages of the callbacks that panicked. -/
  panics : List String := []

namespace Farmer

variable {Reader Sector : Type}

def new (singleDiskFarms : List (SingleDiskFarm Reader Sector)) : Farmer Reader Sector where
  singleDiskFarms := singleDiskFarms
  phase := .building (buildSteps singleDiskFarms.length)

/-- The destructors that are left to tear down, the next one first. -/
def pending (f : Farmer Reader Sector) : List FarmerDestructor :=
  match f.phase with
  | .building _ | .built => f.destructors.reverse
  | .tearingDown _ todo => todo
  | .gone _ => []

def isGone (f : Farmer Reader Sector) : Bool :=
  match f.phase with
  | .gone _ => true
  | _ => false

def isBuilt (f : Farmer Reader Sector) : Bool :=
  match f.phase with
  | .built => true
  | _ => false

/-- The farmer after a step of its build. -/
def advance (f : Farmer Reader Sector) (step : BuildStep) (todo : List BuildStep) :
    Farmer Reader Sector :=
  { f with
    phase := .building todo
    destructors := f.destructors ++ step.destructor?.toList
    handlers := f.handlers ++ step.handler?.toList }

/-- The set of destructors is dropped, or awaited by `close`: the newest destructor is the first. -/
def end' (f : Farmer Reader Sector) (how : Ending) : Farmer Reader Sector :=
  { f with phase := .tearingDown how f.destructors.reverse }

/-- The farmer without its next destructor. -/
def tornDown (f : Farmer Reader Sector) (how : Ending) (destructor : FarmerDestructor)
    (rest : List FarmerDestructor) : Farmer Reader Sector :=
  { f with
    phase := .tearingDown how rest
    handlers := match destructor with
      | .item diskFarmIndex => f.handlers.filter (· ≠ diskFarmIndex)
      | _ => f.handlers }

end Farmer

namespace Slots

variable {Reader Sector R : Type}

inductive Action (Reader Sector : Type) where
  /-- `Config::build` is called with farms that open to these. -/
  | build (singleDiskFarms : List (SingleDiskFarm Reader Sector))
  /-- The next step of a build, with the text of the error of a step that fails outside. -/
  | buildStep (farmer : Nat) (outcome : Except String Unit)
  | sectorPlotted (farmer diskFarmIndex : Nat) (plottedSector : Sector)
      (maybeOldPlottedSector : Option Sector)
  | close (farmer : Nat)
  | drop (farmer : Nat)
  | tearDown (farmer : Nat)

/-- The farmer that an action belongs to, where it is there before. -/
def Action.farmer? : Action Reader Sector → Option Nat
  | .build _ => none
  | .buildStep farmer _ | .sectorPlotted farmer _ _ _ | .close farmer | .drop farmer
  | .tearDown farmer => some farmer

def setFarmer (s : Slots Reader Sector R) (farmer : Nat) (f : Farmer Reader Sector) :
    Slots Reader Sector R :=
  { s with farmers := s.farmers.set farmer f }

/-- One step of `Config::build`; an error drops the destructors that are registered by then. -/
def buildStep (api : ReadersAndPieces Reader Sector R) (s : Slots Reader Sector R) (farmer : Nat)
    (f : Farmer Reader Sector) (step : BuildStep) (todo : List BuildStep)
    (outcome : Except String Unit) : Slots Reader Sector R :=
  match step, outcome with
  | .checkFarms, _ =>
    if f.singleDiskFarms.isEmpty then s.setFarmer farmer (f.end' (.failed .noFarmsSupplied))
    else s.setFarmer farmer (f.advance step todo)
  | .erasureCoding, .error error =>
    s.setFarmer farmer (f.end' (.failed
      (.other s!"Failed to create erasure coding for farm: {error}")))
  | .threadPools, .error error => s.setFarmer farmer (f.end' (.failed (.threadPoolError error)))
  | .openFarm _, .error error =>
    s.setFarmer farmer (f.end' (.failed (.singleDiskFarmCreate error)))
  | .installPieceCache, _ =>
    { s.setFarmer farmer (f.advance step todo) with farmerPieceCache := some farmer }
  | .installReaders, _ =>
    match createReadersAndPieces api f.singleDiskFarms with
    | .ok readersAndPieces => { s.setFarmer farmer (f.advance step todo) with
        farmerReadersAndPieces := some (farmer, readersAndPieces) }
    | .error error => s.setFarmer farmer (f.end' (.failed (.other error)))
  | step, _ => s.setFarmer farmer (f.advance step todo)

/-- A callback of a farm, on whatever the slot holds. -/
def sectorPlotted (api : ReadersAndPieces Reader Sector R) (s : Slots Reader Sector R)
    (diskFarmIndex : Nat) (plottedSector : Sector) (maybeOldPlottedSector : Option Sector) :
    Slots Reader Sector R :=
  match handlerOnSectorPlotted api plottedSector maybeOldPlottedSector diskFarmIndex
    (s.farmerReadersAndPieces.map (·.2)) with
  | .ok readersAndPieces => { s with farmerReadersAndPieces :=
      (s.farmerReadersAndPieces.map (·.1)).bind fun owner => readersAndPieces.map (owner, ·) }
  | .error message => { s with panics := s.panics ++ [message] }

/-- What a destructor does to the slots. -/
def clear (s : Slots Reader Sector R) : FarmerDestructor → Slots Reader Sector R
  | .sync .farmerPieceCache => { s with farmerPieceCache := none }
  | .sync .farmerReadersAndPieces => { s with farmerReadersAndPieces := none }
  | _ => s

def next (api : ReadersAndPieces Reader Sector R) (s : Slots Reader Sector R) :
    Action Reader Sector → Option (Slots Reader Sector R)
  | .build singleDiskFarms => some { s with farmers := s.farmers ++ [.new singleDiskFarms] }
  | .buildStep farmer outcome =>
    match s.farmers[farmer]? with
    | none => none
    | some f =>
      match f.phase with
      | .building (step :: todo) => some (s.buildStep api farmer f step todo outcome)
      | .building [] => some (s.setFarmer farmer { f with phase := .built })
      | _ => none
  | .sectorPlotted farmer diskFarmIndex plottedSector maybeOldPlottedSector =>
    match s.farmers[farmer]? with
    | none => none
    | some f =>
      if diskFarmIndex ∈ f.handlers then
        some (s.sectorPlotted api diskFarmIndex plottedSector maybeOldPlottedSector)
      else none
  | .close farmer =>
    match s.farmers[farmer]? with
    | none => none
    | some f => if f.isBuilt then some (s.setFarmer farmer (f.end' .closed)) else none
  | .drop farmer =>
    match s.farmers[farmer]? with
    | none => none
    | some f => if f.isBuilt then some (s.setFarmer farmer (f.end' .dropped)) else none
  | .tearDown farmer =>
    match s.farmers[farmer]? with
    | none => none
    | some f =>
      match f.phase with
      | .tearingDown how (destructor :: rest) =>
        some ((s.setFarmer farmer (f.tornDown how destructor rest)).clear destructor)
      | .tearingDown how [] => some (s.setFarmer farmer { f with phase := .gone how })
      | _ => none

def system (api : ReadersAndPieces Reader Sector R) :
    System (Slots Reader Sector R) (Action Reader Sector) := ⟨next api⟩

end Slots

/-- Whatever destructors a farmer has registered, its set tears them down from the newest to the
oldest, in `async_drop` and in its drop. -/
theorem Farmer.destructors_teardown (destructors : List FarmerDestructor) :
    (∀ polls, DestructorSet.completes (DestructorSet.awaits destructors) polls = true →
      ((DestructorSet.new "farmer-destructors").registerAll destructors).2.asyncDrop polls =
        .ok (destructors.reverse.map Registration.onAsyncDrop, .returned (.ok ()))) ∧
    ((DestructorSet.new "farmer-destructors").registerAll destructors).2.drop =
      .ok (destructors.reverse.map Registration.onDrop) :=
  ⟨fun _ all => DestructorSet.registerAll_asyncDrop _ destructors all,
    DestructorSet.registerAll_drop _ destructors⟩

end SubspaceSdk
