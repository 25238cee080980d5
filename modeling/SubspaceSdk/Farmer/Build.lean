import Mathlib.Data.List.Nodup
import SubspaceSdk.Farmer.Readers
import SubspaceSdk.Utils.Teardown

/-! The build of a farmer as the list of its steps, with the destructor that each of them registers.
The order is what makes the teardown safe: the handlers are registered after the piece index, and
their ids are the newest destructors. -/

namespace SubspaceSdk

/-- The shared slots of the node that a farmer fills. -/
inductive SharedSlot where
  | farmerPieceCache
  | farmerReadersAndPieces
  deriving Repr, DecidableEq

/-- The tasks that the destructors of a farmer signal and join. -/
inductive FarmerTask where
  | pieceCacheWorker
  | plottingDelay
  | farmDriver
  deriving Repr, DecidableEq

/-- A destructor of a farmer: it clears a slot, joins a task, or drops the handler id of a farm. -/
abbrev FarmerDestructor := Registration SharedSlot FarmerTask Nat

inductive BuildError where
  | singleDiskFarmCreate (error : String)
  | noFarmsSupplied
  | threadPoolError (error : String)
  | other (error : String)
  deriving Repr, DecidableEq

/-- The steps of `Config::build` that may fail, register a destructor or touch a shared slot. -/
inductive BuildStep where
  | checkFarms
  | erasureCoding
  | cacheWorker
  | threadPools
  | openFarm (diskFarmIdx : Nat)
  | installPieceCache
  | plottingDelay
  | installReaders
  /-- The callback of a farm is registered. -/
  | handler (diskFarmIndex : Nat)
  | farmDriver
  /-- The id of a callback goes to the destructors. -/
  | handlerId (diskFarmIndex : Nat)
  deriving Repr, DecidableEq

/-- The steps before the piece index is installed. -/
def stepsBefore (farms : Nat) : List BuildStep :=
  [.checkFarms, .erasureCoding, .cacheWorker, .threadPools] ++
    (List.range farms).map .openFarm ++ [.installPieceCache, .plottingDelay]

/-- The steps after the piece index is installed. -/
def stepsAfter (farms : Nat) : List BuildStep :=
  (List.range farms).map .handler ++ [.farmDriver] ++ (List.range farms).map .handlerId

def buildSteps (farms : Nat) : List BuildStep :=
  stepsBefore farms ++ .installReaders :: stepsAfter farms

namespace BuildStep

def destructor? : BuildStep → Option FarmerDestructor
  | .cacheWorker => some (.async .pieceCacheWorker)
  | .installPieceCache => some (.sync .farmerPieceCache)
  | .plottingDelay => some (.async .plottingDelay)
  | .installReaders => some (.sync .farmerReadersAndPieces)
  | .farmDriver => some (.async .farmDriver)
  | .handlerId diskFarmIndex => some (.item diskFarmIndex)
  | _ => none

def handler? : BuildStep → Option Nat
  | .handler diskFarmIndex => some diskFarmIndex
  | _ => none

end BuildStep

/-- The destructors that `Config::build` registers for `farms` farms. -/
def farmerDestructors (farms : Nat) : List FarmerDestructor :=
  [.async .pieceCacheWorker, .sync .farmerPieceCache, .async .plottingDelay,
    .sync .farmerReadersAndPieces, .async .farmDriver] ++ (List.range farms).map .item

theorem filterMap_map_none {β : Type} {g : BuildStep → Option β} {f : Nat → BuildStep}
    (none : ∀ i, g (f i) = none) (is : List Nat) : (is.map f).filterMap g = [] := by
  rw [List.filterMap_map]
  exact List.filterMap_eq_nil_iff.mpr fun i _ => none i

theorem filterMap_map_some {β : Type} {g : BuildStep → Option β} {f : Nat → BuildStep} {h : Nat → β}
    (some : ∀ i, g (f i) = some (h i)) (is : List Nat) : (is.map f).filterMap g = is.map h := by
  induction is with
  | nil => rfl
  | cons i is ih => rw [List.map_cons, List.filterMap_cons, some i, ih, List.map_cons]

theorem destructors_buildSteps (farms : Nat) :
    (buildSteps farms).filterMap BuildStep.destructor? = farmerDestructors farms := by
  have opened := filterMap_map_none (g := BuildStep.destructor?) (f := .openFarm)
    (fun _ => rfl) (List.range farms)
  have handled := filterMap_map_none (g := BuildStep.destructor?) (f := .handler)
    (fun _ => rfl) (List.range farms)
  have ids := filterMap_map_some (g := BuildStep.destructor?) (f := .handlerId) (h := .item)
    (fun _ => rfl) (List.range farms)
  simp only [buildSteps, stepsBefore, stepsAfter, List.filterMap_append, opened, handled, ids,
    List.filterMap_cons]
  rfl

theorem handlers_stepsBefore (farms : Nat) :
    (stepsBefore farms).filterMap BuildStep.handler? = [] := by
  have opened := filterMap_map_none (g := BuildStep.handler?) (f := .openFarm)
    (fun _ => rfl) (List.range farms)
  simp only [stepsBefore, List.filterMap_append, opened]
  rfl

theorem handlers_stepsAfter (farms : Nat) :
    (stepsAfter farms).filterMap BuildStep.handler? = List.range farms := by
  have handled := filterMap_map_some (g := BuildStep.handler?) (f := .handler) (h := id)
    (fun _ => rfl) (List.range farms)
  have ids := filterMap_map_none (g := BuildStep.handler?) (f := .handlerId)
    (fun _ => rfl) (List.range farms)
  simp only [stepsAfter, List.filterMap_append, handled, ids, List.map_id, List.append_nil]
  exact List.append_nil _

theorem handlers_buildSteps (farms : Nat) :
    (buildSteps farms).filterMap BuildStep.handler? = List.range farms := by
  simp only [buildSteps, List.filterMap_append, List.filterMap_cons, handlers_stepsBefore,
    handlers_stepsAfter]
  rfl

theorem farmerDestructors_nodup (farms : Nat) : (farmerDestructors farms).Nodup := by
  have items : ((List.range farms).map (.item : Nat → FarmerDestructor)).Nodup :=
    List.Nodup.map (fun _ _ same => Registration.item.inj same) List.nodup_range
  refine List.nodup_append.mpr ⟨by decide, items, ?_⟩
  intro first mem item mem' same
  obtain ⟨i, _, rfl⟩ := List.mem_map.mp mem'
  subst same
  simp at mem

/-! ### A build that has come so far -/

/-- The destructors of a build are the oldest of those of a farmer. -/
theorem destructors_suffix {farms : Nat} {done todo : List BuildStep}
    (steps : done ++ todo = buildSteps farms) :
    (done.filterMap BuildStep.destructor?).reverse <:+ (farmerDestructors farms).reverse := by
  refine ⟨(todo.filterMap BuildStep.destructor?).reverse, ?_⟩
  rw [← List.reverse_append, ← List.filterMap_append, steps, destructors_buildSteps]

/-- A callback is registered only after the piece index is installed. -/
theorem installed_of_handler {farms : Nat} {done todo : List BuildStep} {i : Nat}
    (steps : done ++ todo = buildSteps farms) (mem : i ∈ done.filterMap BuildStep.handler?) :
    .sync .farmerReadersAndPieces ∈ done.filterMap BuildStep.destructor? := by
  have none := handlers_stepsBefore farms
  rcases List.append_eq_append_iff.mp steps with ⟨rest, before, _⟩ | ⟨more, rfl, after⟩
  · rw [before, List.filterMap_append] at none
    rw [(List.append_eq_nil_iff.mp none).1] at mem
    cases mem
  · cases more with
    | nil =>
      rw [List.append_nil, none] at mem
      cases mem
    | cons step more =>
      obtain ⟨rfl, _⟩ := List.cons.inj after
      refine List.mem_filterMap.mpr ⟨.installReaders, ?_, rfl⟩
      exact List.mem_append_right _ List.mem_cons_self

/-- What is left of a farmer's destructors after the handler ids and the driver. -/
theorem farmerDestructors_reverse (farms : Nat) : (farmerDestructors farms).reverse =
    ((List.range farms).map .item).reverse ++ [.async .farmDriver] ++
      [.sync .farmerReadersAndPieces, .async .plottingDelay, .sync .farmerPieceCache,
        .async .pieceCacheWorker] := by
  simp [farmerDestructors]

/-- The id of a callback is dropped before the piece index is cleared. -/
theorem readers_of_item {farms : Nat} {todo : List FarmerDestructor} {i : Nat}
    (left : todo <:+ (farmerDestructors farms).reverse) (mem : .item i ∈ todo) :
    .sync .farmerReadersAndPieces ∈ todo := by
  obtain ⟨torn, order⟩ := left
  rw [farmerDestructors_reverse] at order
  rcases List.append_eq_append_iff.mp order with ⟨rest, _, rfl⟩ | ⟨more, _, after⟩
  · exact List.mem_append_right _ List.mem_cons_self
  · have : (.item i : FarmerDestructor) ∈ more ++ todo := List.mem_append_right _ mem
    rw [← after] at this
    simp at this

/-- The piece index is cleared before the piece cache. -/
theorem cache_of_readers {farms : Nat} {todo : List FarmerDestructor}
    (left : todo <:+ (farmerDestructors farms).reverse)
    (mem : .sync .farmerReadersAndPieces ∈ todo) : .sync .farmerPieceCache ∈ todo := by
  obtain ⟨torn, order⟩ := left
  have split := farmerDestructors_reverse farms
  rw [show ∀ front : List FarmerDestructor, front ++ [.sync .farmerReadersAndPieces,
    .async .plottingDelay, .sync .farmerPieceCache, .async .pieceCacheWorker] =
    (front ++ [.sync .farmerReadersAndPieces, .async .plottingDelay]) ++
      [.sync .farmerPieceCache, .async .pieceCacheWorker] by simp] at split
  rw [split] at order
  rcases List.append_eq_append_iff.mp order with ⟨rest, _, rfl⟩ | ⟨more, _, after⟩
  · exact List.mem_append_right _ List.mem_cons_self
  · have : (.sync .farmerReadersAndPieces : FarmerDestructor) ∈ more ++ todo :=
      List.mem_append_right _ mem
    rw [← after] at this
    simp at this

theorem lt_of_item {farms : Nat} {todo : List FarmerDestructor} {i : Nat}
    (left : todo <:+ (farmerDestructors farms).reverse) (mem : .item i ∈ todo) : i < farms := by
  have := List.mem_reverse.mp (left.mem mem)
  simpa [farmerDestructors] using this

/-- The steps that may return an error. -/
def BuildStep.fallible : BuildStep → Bool
  | .checkFarms | .erasureCoding | .threadPools | .openFarm _ | .installReaders => true
  | _ => false

/-- No callback is registered where a build may still fail. -/
theorem no_handlers_of_fallible {farms : Nat} {done todo : List BuildStep} {step : BuildStep}
    (steps : done ++ step :: todo = buildSteps farms) (fallible : step.fallible = true) :
    done.filterMap BuildStep.handler? = [] := by
  have none := handlers_stepsBefore farms
  rcases List.append_eq_append_iff.mp steps with ⟨rest, before, _⟩ | ⟨more, rfl, after⟩
  · rw [before, List.filterMap_append] at none
    exact (List.append_eq_nil_iff.mp none).1
  · cases more with
    | nil => rwa [List.append_nil]
    | cons first more =>
      obtain ⟨rfl, rest⟩ := List.cons.inj after
      have : step ∈ stepsAfter farms := by
        rw [rest]
        exact List.mem_append_right _ List.mem_cons_self
      simp only [stepsAfter, List.mem_append, List.mem_map, List.mem_singleton] at this
      rcases this with (⟨i, _, rfl⟩ | rfl) | ⟨i, _, rfl⟩ <;> cases fallible

/-- A step registers a destructor that no step before it has registered. -/
theorem destructor_fresh {farms : Nat} {done todo : List BuildStep} {step : BuildStep}
    {destructor : FarmerDestructor} (steps : done ++ step :: todo = buildSteps farms)
    (registers : step.destructor? = some destructor) :
    destructor ∉ done.filterMap BuildStep.destructor? := by
  have nodup := farmerDestructors_nodup farms
  rw [← destructors_buildSteps, ← steps, List.filterMap_append, List.filterMap_cons_some registers]
    at nodup
  exact fun mem => (List.nodup_append.mp nodup).2.2 _ mem _ List.mem_cons_self rfl

end SubspaceSdk
