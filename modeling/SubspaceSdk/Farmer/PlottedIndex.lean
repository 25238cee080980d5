import SubspaceSdk.Farmer.PieceIndex
import SubspaceSdk.Farmer.SlotAlone

/-! What the shared slot of the piece index holds while farmers come and go, one at a time: the
index of what the farmer that filled it has plotted, from its start-up and by all its callbacks
since. -/

namespace SubspaceSdk

open ProofKit ProofKit.Keyed

variable {Reader R : Type}

/-- A piece index that can be asked for the read of a piece.  It finds one for each piece that it
lists, as long as each of its entries has a reader. -/
structure PieceLookup (Reader R : Type) extends PieceMultimap Reader R where
  readPiece : R → Nat → Option PieceEntry
  /-- The number of the readers. -/
  readers : R → Nat
  readers_new : ∀ pieceReaders, readers (new pieceReaders) = pieceReaders.length
  readers_addSector : ∀ r diskFarmIndex sector,
    readers (addSector r diskFarmIndex sector) = readers r
  readers_deleteSector : ∀ r diskFarmIndex sector,
    readers (deleteSector r diskFarmIndex sector) = readers r
  readPiece_mem : ∀ r pieceIndex entry, readPiece r pieceIndex = some entry →
    entry ∈ contents r ∧ entry.pieceIndex = pieceIndex
  readPiece_isSome : ∀ r, (∀ entry ∈ contents r, entry.diskFarmIndex.toNat < readers r) →
    ∀ entry ∈ contents r, (readPiece r entry.pieceIndex).isSome = true

/-- A lookup in the list of the entries, with the number of the readers. -/
def entryLookup : PieceLookup Unit (Nat × List PieceEntry) where
  new pieceReaders := (pieceReaders.length, [])
  addSector r diskFarmIndex sector :=
    (r.1, Replotting.entryList.addSector r.2 diskFarmIndex sector)
  deleteSector r diskFarmIndex sector :=
    (r.1, Replotting.entryList.deleteSector r.2 diskFarmIndex sector)
  contents r := ↑r.2
  contents_new _ := rfl
  contents_addSector _ _ _ := rfl
  contents_deleteSector _ _ _ := rfl
  readPiece r pieceIndex := r.2.find? (·.pieceIndex == pieceIndex)
  readers r := r.1
  readers_new _ := rfl
  readers_addSector _ _ _ := rfl
  readers_deleteSector _ _ _ := rfl
  readPiece_mem r pieceIndex entry found :=
    ⟨List.mem_of_find?_eq_some found, by simpa using List.find?_some found⟩
  readPiece_isSome r _ entry mem := by
    rw [List.find?_isSome]
    exact ⟨entry, mem, by simp⟩

/-! ### The readers -/

theorem readers_addPlotted (index : PieceLookup Reader R) (diskFarmIndex : UInt8) (r : R)
    (sectors : List (Except String PlottedSector)) :
    index.readers (addPlotted index.toReadersAndPieces diskFarmIndex r sectors) =
      index.readers r := by
  induction sectors generalizing r with
  | nil => rfl
  | cons sector sectors ih =>
    rw [addPlotted, List.foldl_cons]
    apply (ih _).trans
    split
    · exact index.readers_addSector _ _ _
    · rfl

theorem readers_addFarms (index : PieceLookup Reader R) {start : Nat}
    (farms : List (SingleDiskFarm Reader PlottedSector)) {r out : R}
    (added : addFarms index.toReadersAndPieces start farms r = .ok out) :
    index.readers out = index.readers r := by
  induction farms generalizing start r with
  | nil =>
    cases added
    rfl
  | cons farm farms ih =>
    rw [addFarms] at added
    split at added
    · cases added
    · rw [ih added, readers_addPlotted]

theorem readers_createReadersAndPieces (index : PieceLookup Reader R)
    {farms : List (SingleDiskFarm Reader PlottedSector)} {out : R}
    (created : createReadersAndPieces index.toReadersAndPieces farms = .ok out) :
    index.readers out = farms.length := by
  rw [readers_addFarms index farms created, index.readers_new, List.length_map]

theorem readers_handlerOnSectorPlotted (index : PieceLookup Reader R) {sector : PlottedSector}
    {old : Option PlottedSector} {diskFarmIndex : Nat} {r after : R}
    (handled : handlerOnSectorPlotted index.toReadersAndPieces sector old diskFarmIndex (some r) =
      .ok (some after)) : index.readers after = index.readers r := by
  unfold handlerOnSectorPlotted at handled
  split at handled
  · cases handled
  · simp only [Except.ok.injEq, Option.some.injEq] at handled
    rw [← handled, index.readers_addSector]
    cases old with
    | none => rfl
    | some replaced => exact index.readers_deleteSector _ _ _

/-! ### What the farms of a farmer have plotted -/

/-- The plotted sectors are read in the order of their indexes. -/
def SingleDiskFarm.InOrder (farm : SingleDiskFarm Reader PlottedSector) : Prop :=
  ∀ k (sector : PlottedSector), farm.plottedSectors[k]? = some (.ok sector) →
    sector.sectorIndex = k

instance (farm : SingleDiskFarm Reader PlottedSector) : Decidable farm.InOrder :=
  decidable_of_iff (∀ read ∈ farm.plottedSectors.zipIdx, ∀ sector ∈ read.1.toOption,
      sector.sectorIndex = read.2) <| by
    refine ⟨fun all k sector there => ?_, fun inOrder (read, k) mem sector is => ?_⟩
    · exact all (.ok sector, k) (List.mem_zipIdx_iff_getElem?.mpr there) sector rfl
    · refine inOrder k sector ((List.mem_zipIdx_iff_getElem?.mp mem).trans ?_)
      cases read with
      | ok => cases is; rfl
      | error => cases is

theorem exists_plottedFarms (farms : List (SingleDiskFarm Reader PlottedSector))
    (inOrder : ∀ farm ∈ farms, farm.InOrder) :
    ∃ plotted : List (PlottedFarm Reader), plotted.map (·.toSingleDiskFarm) = farms := by
  induction farms with
  | nil => exact ⟨[], rfl⟩
  | cons farm farms ih =>
    obtain ⟨plotted, same⟩ := ih fun other mem => inOrder other (List.mem_cons_of_mem _ mem)
    refine ⟨⟨farm, inOrder farm List.mem_cons_self⟩ :: plotted, ?_⟩
    rw [List.map_cons, same]

/-- What the farms give to be read at start-up. -/
def farmPlots (farms : List (SingleDiskFarm Reader PlottedSector)) : Plots := fun i k =>
  match farms[i]? with
  | some farm => .ofRead farm.plottedSectors[k]?
  | none => .empty

instance (before : PlottedAt) (sector : PlottedSector) (old : Option PlottedSector) :
    Decidable (before.PassesOld sector old) :=
  match before with
  | .empty => inferInstanceAs (Decidable (old = none))
  | .plotted replaced => inferInstanceAs (Decidable (old = some replaced))
  | .unreadable => inferInstanceAs (Decidable (∀ replaced ∈ old, _))

theorem readPlots_eq_farmPlots (farms : List (PlottedFarm Reader)) :
    readPlots farms = farmPlots (farms.map (·.toSingleDiskFarm)) := by
  funext i k
  rw [readPlots, farmPlots, List.getElem?_map]
  cases farms[i]? <;> rfl

theorem farmPlots_inPlace {farms : List (SingleDiskFarm Reader PlottedSector)}
    (inOrder : ∀ farm ∈ farms, farm.InOrder) : (farmPlots farms).InPlace := by
  obtain ⟨plotted, rfl⟩ := exists_plottedFarms farms inOrder
  rw [← readPlots_eq_farmPlots]
  exact readPlots_inPlace plotted

theorem farmPlots_within (farms : List (SingleDiskFarm Reader PlottedSector)) {i k : Nat}
    (beyond : farms.length ≤ i) : farmPlots farms i k = .empty := by
  rw [farmPlots, List.getElem?_eq_none beyond]

theorem Plots.plotAll_append (plots : Plots) (sectors : List (Nat × PlottedSector)) (i : Nat)
    (sector : PlottedSector) :
    plots.plotAll (sectors ++ [(i, sector)]) = (plots.plotAll sectors).plot i sector := by
  rw [Plots.plotAll, Plots.plotAll, List.foldl_append]
  rfl

theorem Plots.InPlace.plotAll {plots : Plots} (inPlace : plots.InPlace)
    (sectors : List (Nat × PlottedSector)) : (plots.plotAll sectors).InPlace := by
  induction sectors generalizing plots with
  | nil => exact inPlace
  | cons sector sectors ih => exact ih (inPlace.plot _ _)

theorem Plots.plotAll_within {plots : Plots} {farms : Nat}
    (within : ∀ i k, farms ≤ i → plots i k = .empty) (sectors : List (Nat × PlottedSector))
    (known : ∀ sector ∈ sectors, sector.1 < farms) {i k : Nat} (beyond : farms ≤ i) :
    plots.plotAll sectors i k = .empty := by
  induction sectors generalizing plots with
  | nil => exact within i k beyond
  | cons sector sectors ih =>
    refine ih (fun j l beyond => ?_) fun other mem => known other (List.mem_cons_of_mem _ mem)
    have inside := known sector List.mem_cons_self
    show (plots.plot sector.1 sector.2) j l = .empty
    rw [Plots.plot, if_neg (by omega)]
    exact within j l beyond

namespace Slots

variable {index : PieceLookup Reader R} {s t : Slots Reader PlottedSector R}
variable {a : Action Reader PlottedSector} {as : List (Action Reader PlottedSector)}

/-- The sector that a callback of this farmer reports. -/
def Action.plotted? (id : Nat) : Action Reader PlottedSector → Option (Nat × PlottedSector)
  | .sectorPlotted farmer diskFarmIndex plottedSector _ =>
    if farmer = id then some (diskFarmIndex, plottedSector) else none
  | _ => none

/-- The sectors that a farmer has reported, oldest first. -/
def reported (id : Nat) (as : List (Action Reader PlottedSector)) : List (Nat × PlottedSector) :=
  as.filterMap (Action.plotted? id)

/-- What a farmer has plotted: what was read from its farms and what they have reported since. -/
def plotsOf (f : Farmer Reader PlottedSector) (id : Nat)
    (as : List (Action Reader PlottedSector)) : Plots :=
  (farmPlots f.singleDiskFarms).plotAll (reported id as)

theorem reported_other (id : Nat) (as : List (Action Reader PlottedSector))
    (other : a.plotted? id = none) : reported id (as ++ [a]) = reported id as := by
  simp [reported, other]

theorem reported_own (id i : Nat) (as : List (Action Reader PlottedSector))
    (sector : PlottedSector) (old : Option PlottedSector) :
    reported id (as ++ [.sectorPlotted id i sector old]) = reported id as ++ [(i, sector)] := by
  simp [reported, Action.plotted?]

/-- One farmer at a time, whose farms are in order and report the sector that they replace. -/
def FarmsReport (as : List (Action Reader PlottedSector)) (s : Slots Reader PlottedSector R)
    (a : Action Reader PlottedSector) : Prop :=
  Alone as s a ∧
    match a with
    | .build singleDiskFarms => ∀ farm ∈ singleDiskFarms, farm.InOrder
    | .sectorPlotted id diskFarmIndex sector old => ∀ f ∈ s.farmers[id]?,
        (plotsOf f id as diskFarmIndex sector.sectorIndex).PassesOld sector old
    | _ => True

instance (as : List (Action Reader PlottedSector)) (s : Slots Reader PlottedSector R)
    (a : Action Reader PlottedSector) : Decidable (FarmsReport as s a) :=
  match a with
  | .build singleDiskFarms => inferInstanceAs (Decidable (_ ∧ ∀ farm ∈ singleDiskFarms, _))
  | .sectorPlotted id _ _ _ => inferInstanceAs (Decidable (_ ∧ ∀ f ∈ s.farmers[id]?, _))
  | .buildStep _ _ | .close _ | .drop _ | .tearDown _ => inferInstanceAs (Decidable (_ ∧ True))

/-! ### Steps -/

/-- What a step makes of a farmer: its farms stay, and it may go on with its build. -/
structure Grew (f f' : Farmer Reader PlottedSector) : Prop where
  farms : f'.singleDiskFarms = f.singleDiskFarms
  building : ∀ todo, f'.phase = .building todo → ∃ done, f.phase = .building (done ++ todo)

theorem Grew.of_ended {f f' : Farmer Reader PlottedSector}
    (farms : f'.singleDiskFarms = f.singleDiskFarms)
    (ended : ∀ todo, f'.phase ≠ .building todo) : Grew f f' :=
  ⟨farms, fun todo at' => absurd at' (ended todo)⟩

theorem Grew.refl (f : Farmer Reader PlottedSector) : Grew f f :=
  ⟨rfl, fun _ at' => ⟨[], at'⟩⟩

theorem Grew.advance {f : Farmer Reader PlottedSector} {step : BuildStep} {todo : List BuildStep}
    (at' : f.phase = .building (step :: todo)) : Grew f (f.advance step todo) := by
  refine ⟨rfl, fun todo' at'' => ?_⟩
  have same : FarmerPhase.building todo = .building todo' := at''
  cases same
  exact ⟨[step], at'⟩

theorem Grew.ended (f : Farmer Reader PlottedSector) (how : Ending) : Grew f (f.end' how) :=
  .of_ended rfl fun _ at' => FarmerPhase.noConfusion at'

theorem Grew.getElem? {id other : Nat} {f g g' : Farmer Reader PlottedSector} (grew : Grew f g)
    (here : s.farmers[id]? = some f) (there : (s.farmers.set id g)[other]? = some g') :
    ∃ f', s.farmers[other]? = some f' ∧ Grew f' g' := by
  by_cases same : id = other
  · subst same
    rw [List.getElem?_set_self (List.getElem?_eq_some_iff.mp here).1] at there
    cases there
    exact ⟨f, here, grew⟩
  · rw [List.getElem?_set_ne same] at there
    exact ⟨g', there, Grew.refl g'⟩

/-- Each farmer after a step was there before it, or is new. -/
theorem Step.grew (step : Step index.toReadersAndPieces s a t) {id : Nat}
    {g : Farmer Reader PlottedSector} (there : t.farmers[id]? = some g) :
    (∃ f, s.farmers[id]? = some f ∧ Grew f g) ∨
      ∃ farms, a = .build farms ∧ id = s.farmers.length ∧ g = .new farms := by
  cases step with
  | build farms =>
    have grown : (s.farmers ++ [.new farms])[id]? = some g := there
    rcases Nat.lt_trichotomy id s.farmers.length with before | rfl | after
    · rw [List.getElem?_append_left before] at grown
      exact .inl ⟨g, grown, Grew.refl g⟩
    · rw [List.getElem?_concat_length, Option.some.injEq] at grown
      exact .inr ⟨farms, rfl, rfl, grown.symm⟩
    · rw [List.getElem?_eq_none (by simp; omega)] at grown
      cases grown
  | called here mem =>
    rw [sectorPlotted_farmers] at there
    exact .inl ⟨g, there, Grew.refl g⟩
  | advanced here at' => exact .inl ((Grew.advance at').getElem? here there)
  | installedPieceCache here at' => exact .inl ((Grew.advance at').getElem? here there)
  | installedReaders here at' => exact .inl ((Grew.advance at').getElem? here there)
  | @failed other f step todo outcome error here =>
    exact .inl ((Grew.ended f (.failed error)).getElem? here there)
  | @closed other f here => exact .inl ((Grew.ended f .closed).getElem? here there)
  | @dropped other f here => exact .inl ((Grew.ended f .dropped).getElem? here there)
  | @finished other f outcome here =>
    have built : Grew f { f with phase := .built } :=
      .of_ended rfl fun _ at' => FarmerPhase.noConfusion at'
    exact .inl (built.getElem? here there)
  | @left other f how here =>
    have gone : Grew f { f with phase := .gone how } :=
      .of_ended rfl fun _ at' => FarmerPhase.noConfusion at'
    exact .inl (gone.getElem? here there)
  | @tornDown other f how destructor rest here =>
    have torn : Grew f (f.tornDown how destructor rest) :=
      .of_ended rfl fun _ at' => FarmerPhase.noConfusion at'
    rw [clear_farmers] at there
    exact .inl (torn.getElem? here there)

/-- Each farmer before a step is there after it. -/
theorem Step.kept (step : Step index.toReadersAndPieces s a t) {id : Nat}
    {f : Farmer Reader PlottedSector} (here : s.farmers[id]? = some f) :
    ∃ g, t.farmers[id]? = some g ∧ g.singleDiskFarms = f.singleDiskFarms := by
  have inside : id < t.farmers.length := by
    have before := (List.getElem?_eq_some_iff.mp here).1
    cases own : a.farmer? with
    | none =>
      cases step with
      | build farms =>
        show id < (s.farmers ++ _).length
        rw [List.length_append]
        omega
      | _ => cases own
    | some other =>
      rcases step.farmers own with same | ⟨_, _, _, _, set⟩
      · rw [same]
        exact before
      · rw [set, List.length_set]
        exact before
  refine ⟨t.farmers[id], List.getElem?_eq_getElem inside, ?_⟩
  rcases step.grew (List.getElem?_eq_getElem inside) with ⟨f', here', grew⟩ | ⟨_, _, rfl, _⟩
  · rw [here, Option.some.injEq] at here'
    rw [grew.farms, ← here']
  · exact absurd (List.getElem?_eq_some_iff.mp here).1 (Nat.lt_irrefl _)

/-- A callback is registered only once the index is installed. -/
theorem not_installReaders_of_handler {f : Farmer Reader PlottedSector}
    (registered : f.Registered f.phase) {i : Nat} (mem : i ∈ f.handlers) {todo : List BuildStep}
    (at' : f.phase = .building todo) : .installReaders ∉ todo := by
  intro later
  rw [at'] at registered
  cases registered with
  | building done _ steps destructors handlers =>
    rw [handlers] at mem
    obtain ⟨before, after, rfl⟩ := List.append_of_mem later
    have installed := installed_of_handler steps mem
    rw [← List.append_assoc] at steps
    apply destructor_fresh steps rfl
    rw [List.filterMap_append]
    exact List.mem_append_left _ installed

variable (index) in
/-- The slot holds the index of what its owner has plotted. -/
structure Plotted (as : List (Action Reader PlottedSector)) (s : Slots Reader PlottedSector R) :
    Prop where
  inOrder : ∀ (id : Nat) (f : Farmer Reader PlottedSector), s.farmers[id]? = some f →
    ∀ farm ∈ f.singleDiskFarms, farm.InOrder
  unbuilt : ∀ id, s.farmers.length ≤ id → reported id as = []
  building : ∀ (id : Nat) (f : Farmer Reader PlottedSector) todo, s.farmers[id]? = some f →
    f.phase = .building todo → .installReaders ∈ todo → reported id as = []
  within : ∀ (id : Nat) (f : Farmer Reader PlottedSector), s.farmers[id]? = some f →
    ∀ sector ∈ reported id as, sector.1 < f.farms
  holds : ∀ id r, s.farmerReadersAndPieces = some (id, r) →
    ∃ f : Farmer Reader PlottedSector, s.farmers[id]? = some f ∧
      Indexes index.toPieceMultimap r (plotsOf f id as) ∧ index.readers r = f.farms

theorem Plotted.start : Plotted index [] {} :=
  ⟨by simp, fun _ _ => rfl, by simp, by simp, by simp⟩

theorem plotsOf_inPlace {f : Farmer Reader PlottedSector} {id : Nat}
    (inOrder : ∀ farm ∈ f.singleDiskFarms, farm.InOrder) : (plotsOf f id as).InPlace :=
  (farmPlots_inPlace inOrder).plotAll _

/-- A step other than a callback, which may install or clear the index. -/
theorem Plotted.step_other (plotted : Plotted index as s)
    (step : Step index.toReadersAndPieces s a t)
    (inOrder : ∀ farms, a = .build farms → ∀ farm ∈ farms, farm.InOrder)
    (none : ∀ id, a.plotted? id = none)
    (slot : ∀ id r, t.farmerReadersAndPieces = some (id, r) →
      s.farmerReadersAndPieces = some (id, r) ∨
      ∃ f : Farmer Reader PlottedSector, s.farmers[id]? = some f ∧ reported id as = [] ∧
        createReadersAndPieces index.toReadersAndPieces f.singleDiskFarms = .ok r) :
    Plotted index (as ++ [a]) t := by
  refine ⟨?_, ?_, ?_, ?_, ?_⟩
  · intro id g there
    rcases step.grew there with ⟨f, here, grew⟩ | ⟨farms, rfl, rfl, rfl⟩
    · rw [grew.farms]
      exact plotted.inOrder id f here
    · exact inOrder farms rfl
  · intro id beyond
    rw [reported_other id as (none id)]
    apply plotted.unbuilt
    by_contra inside
    obtain ⟨g, there, -⟩ := step.kept (List.getElem?_eq_getElem (Nat.lt_of_not_le inside))
    have := (List.getElem?_eq_some_iff.mp there).1
    omega
  · intro id g todo there at' mem
    rw [reported_other id as (none id)]
    rcases step.grew there with ⟨f, here, grew⟩ | ⟨farms, rfl, rfl, rfl⟩
    · obtain ⟨done, before⟩ := grew.building todo at'
      exact plotted.building id f _ here before (List.mem_append_right _ mem)
    · exact plotted.unbuilt _ (Nat.le_refl _)
  · intro id g there sector mem
    rw [reported_other id as (none id)] at mem
    rcases step.grew there with ⟨f, here, grew⟩ | ⟨farms, rfl, rfl, rfl⟩
    · rw [Farmer.farms, grew.farms]
      exact plotted.within id f here sector mem
    · rw [plotted.unbuilt _ (Nat.le_refl _)] at mem
      cases mem
  · intro id r filled
    rcases slot id r filled with before | ⟨f, here, silent, created⟩
    · obtain ⟨f, here, indexes, readers⟩ := plotted.holds id r before
      obtain ⟨g, there, farms⟩ := step.kept here
      refine ⟨g, there, ?_, by rw [readers, Farmer.farms, Farmer.farms, farms]⟩
      rwa [plotsOf, reported_other id as (none id), farms]
    · obtain ⟨g, there, farms⟩ := step.kept here
      refine ⟨g, there, ?_, ?_⟩
      · obtain ⟨plots, same⟩ := exists_plottedFarms f.singleDiskFarms (plotted.inOrder id f here)
        rw [← same] at created
        rw [plotsOf, reported_other id as (none id), silent, farms, ← same,
          ← readPlots_eq_farmPlots]
        exact createReadersAndPieces_indexes created
      · rw [readers_createReadersAndPieces index created, Farmer.farms, farms]

/-- A callback, which records its sector in the index of its own farmer. -/
theorem Plotted.step_called (plotted : Plotted index as s) (owned : Owned s) {id i : Nat}
    {f : Farmer Reader PlottedSector} {sector : PlottedSector} {old : Option PlottedSector}
    (here : s.farmers[id]? = some f) (mem : i ∈ f.handlers)
    (passes : (plotsOf f id as i sector.sectorIndex).PassesOld sector old) :
    Plotted index (as ++ [.sectorPlotted id i sector old])
      (s.sectorPlotted index.toReadersAndPieces i sector old) := by
  obtain ⟨small, r, readers⟩ := owned.callback here mem
  obtain ⟨f', here', indexes, count⟩ := plotted.holds id r readers
  rw [here, Option.some.injEq] at here'
  subst here'
  obtain ⟨after, handled, indexes'⟩ :=
    indexes.callback (plotsOf_inPlace (plotted.inOrder id f here)) small passes
  have slot : (s.sectorPlotted index.toReadersAndPieces i sector old).farmerReadersAndPieces =
      some (id, after) := by
    simp [Slots.sectorPlotted, readers, handled]
  have others : ∀ other, other ≠ id →
      reported other (as ++ [.sectorPlotted id i sector old]) = reported other as :=
    fun other ne => reported_other other as (if_neg (Ne.symm ne))
  refine ⟨?_, ?_, ?_, ?_, ?_⟩
  · rw [sectorPlotted_farmers]
    exact plotted.inOrder
  · intro other beyond
    rw [sectorPlotted_farmers] at beyond
    have inside := (List.getElem?_eq_some_iff.mp here).1
    rw [others other (by omega)]
    exact plotted.unbuilt other beyond
  · intro other g todo there at' later
    rw [sectorPlotted_farmers] at there
    by_cases same : other = id
    · subst same
      rw [here, Option.some.injEq] at there
      subst there
      exact absurd later (not_installReaders_of_handler (owned.registered other f here) mem at')
    · rw [others other same]
      exact plotted.building other g todo there at' later
  · intro other g there reportedSector known
    rw [sectorPlotted_farmers] at there
    by_cases same : other = id
    · subst same
      rw [here, Option.some.injEq] at there
      subst there
      rw [reported_own, List.mem_append, List.mem_singleton] at known
      rcases known with known | rfl
      · exact plotted.within other f here _ known
      · exact ((owned.registered other f here).handler mem).1
    · rw [others other same] at known
      exact plotted.within other g there _ known
  · intro other r' filled
    rw [slot, Option.some.injEq, Prod.mk.injEq] at filled
    obtain ⟨rfl, rfl⟩ := filled
    rw [sectorPlotted_farmers]
    refine ⟨f, here, ?_, ?_⟩
    · rw [plotsOf, reported_own, Plots.plotAll_append]
      exact indexes'
    · rw [readers_handlerOnSectorPlotted index handled, count]

theorem Plotted.step (plotted : Plotted index as s) (owned : Owned s)
    (report : FarmsReport as s a) (step : Step index.toReadersAndPieces s a t) :
    Plotted index (as ++ [a]) t := by
  have inOrder : ∀ farms, a = .build farms → ∀ farm ∈ farms, farm.InOrder := by
    rintro farms rfl
    exact report.2
  cases step with
  | called here mem => exact plotted.step_called owned here mem (report.2 _ here)
  | @installedReaders id f todo outcome r here at' created =>
    refine plotted.step_other (.installedReaders here at' created) inOrder (fun _ => rfl) ?_
    intro other r' filled
    have same : some (id, r) = some (other, r') := filled
    cases same
    exact .inr ⟨f, here, plotted.building id f _ here at' List.mem_cons_self, created⟩
  | @tornDown id f how destructor rest here at' =>
    refine plotted.step_other (.tornDown here at') inOrder (fun _ => rfl) fun other r filled => ?_
    rcases destructor with (_ | _) | task | i
    · exact .inl filled
    · cases filled
    · exact .inl filled
    · exact .inl filled
  | build farms =>
    exact plotted.step_other (.build farms) inOrder (fun _ => rfl) fun _ _ filled => .inl filled
  | advanced here at' other =>
    exact plotted.step_other (.advanced here at' other) inOrder (fun _ => rfl)
      fun _ _ filled => .inl filled
  | failed here at' fallible =>
    exact plotted.step_other (.failed here at' fallible) inOrder (fun _ => rfl)
      fun _ _ filled => .inl filled
  | installedPieceCache here at' =>
    exact plotted.step_other (.installedPieceCache here at') inOrder (fun _ => rfl)
      fun _ _ filled => .inl filled
  | finished here at' =>
    exact plotted.step_other (.finished here at') inOrder (fun _ => rfl)
      fun _ _ filled => .inl filled
  | closed here at' =>
    exact plotted.step_other (.closed here at') inOrder (fun _ => rfl)
      fun _ _ filled => .inl filled
  | dropped here at' =>
    exact plotted.step_other (.dropped here at') inOrder (fun _ => rfl)
      fun _ _ filled => .inl filled
  | left here at' =>
    exact plotted.step_other (.left here at') inOrder (fun _ => rfl)
      fun _ _ filled => .inl filled

/-- In every run of farms that report what they replace, one farmer at a time, the slot holds the
index of what its owner has plotted. -/
theorem run_plotted
    (run : (system index.toReadersAndPieces).RunIf FarmsReport {} as s) :
    Plotted index as s ∧ Owned s := by
  have both : Plotted index as s ∧ OnlyNewest s ∧ Owned s := by
    refine run.invariant (I := fun as s => Plotted index as s ∧ OnlyNewest s ∧ Owned s)
      ⟨.start, by simp [OnlyNewest], owned_start⟩ ?_
    rintro as t a u ⟨plotted, newest, owned⟩ report hnext
    have step := step_of_next hnext
    have empty : FindsEmpty as t a := findsEmpty_of_onlyNewest newest owned
    exact ⟨plotted.step owned report step, newest.step report.1 step, owned.step empty step⟩
  exact ⟨both.1, both.2.2⟩

/-! ### What can be read -/

/-- A piece is in the sector that is plotted at the place of an entry, at its offset. -/
def PlottedAs (plots : Plots) (entry : PieceEntry) : Prop :=
  ∃ sector, plots entry.diskFarmIndex.toNat entry.sectorIndex = .plotted sector ∧
    sector.pieceIndexes[entry.pieceOffset]? = some entry.pieceIndex

theorem mem_sectorEntries {diskFarmIndex : UInt8} {sector : PlottedSector} {entry : PieceEntry} :
    entry ∈ sectorEntries diskFarmIndex sector ↔
      entry.place = (diskFarmIndex, sector.sectorIndex) ∧
        sector.pieceIndexes[entry.pieceOffset]? = some entry.pieceIndex := by
  rw [sectorEntries, Multiset.mem_coe, List.mem_map]
  constructor
  · rintro ⟨⟨pieceIndex, pieceOffset⟩, mem, rfl⟩
    exact ⟨rfl, List.mem_zipIdx_iff_getElem?.mp mem⟩
  · rintro ⟨place, there⟩
    refine ⟨(entry.pieceIndex, entry.pieceOffset), List.mem_zipIdx_iff_getElem?.mpr there, ?_⟩
    obtain ⟨pieceIndex, f, k, offset⟩ := entry
    cases place
    rfl

/-- The entries of an index are the pieces that are plotted. -/
theorem mem_contents_iff {r : R} {plots : Plots} (indexes : Indexes index.toPieceMultimap r plots)
    (inPlace : plots.InPlace) (entry : PieceEntry) :
    entry ∈ index.contents r ↔ PlottedAs plots entry := by
  have here : entry ∈ index.contents r ↔
      entry ∈ (plots entry.diskFarmIndex.toNat entry.sectorIndex).entries entry.diskFarmIndex := by
    rw [← indexes entry.diskFarmIndex entry.sectorIndex, ← Multiset.one_le_count_iff_mem,
      ← Multiset.one_le_count_iff_mem]
    show _ ↔ 1 ≤ (atKey PieceEntry.place entry.place (index.contents r)).count entry
    rw [count_atKey]
  rw [here, PlottedAs]
  cases there : plots entry.diskFarmIndex.toNat entry.sectorIndex with
  | plotted sector =>
    have place : entry.place = (entry.diskFarmIndex, sector.sectorIndex) := by
      rw [inPlace _ _ _ there]
      rfl
    simp [PlottedAt.entries, mem_sectorEntries, place]
  | empty | unreadable => simp [PlottedAt.entries]

/-- The index gives a read for exactly the pieces that are plotted, and one of a place where the
piece is plotted. -/
theorem readPiece_of_plotted {r : R} {id : Nat} (plotted : Plotted index as s) (owned : Owned s)
    (filled : s.farmerReadersAndPieces = some (id, r)) :
    ∃ f : Farmer Reader PlottedSector, s.farmers[id]? = some f ∧
      (∀ pieceIndex entry, index.readPiece r pieceIndex = some entry →
        PlottedAs (plotsOf f id as) entry ∧ entry.pieceIndex = pieceIndex) ∧
      ∀ (pieceIndex i k offset : Nat) (sector : PlottedSector),
        plotsOf f id as i k = .plotted sector →
        sector.pieceIndexes[offset]? = some pieceIndex →
        (index.readPiece r pieceIndex).isSome = true := by
  obtain ⟨f, here, indexes, readers⟩ := plotted.holds id r filled
  have inPlace : (plotsOf f id as).InPlace := plotsOf_inPlace (plotted.inOrder id f here)
  have listed := mem_contents_iff indexes inPlace
  have inside : ∀ i k, f.farms ≤ i → plotsOf f id as i k = .empty := fun i k beyond =>
    Plots.plotAll_within (fun i k beyond => farmPlots_within f.singleDiskFarms beyond) _
      (plotted.within id f here) beyond
  have known : ∀ entry ∈ index.contents r, entry.diskFarmIndex.toNat < index.readers r := by
    intro entry mem
    obtain ⟨sector, there, -⟩ := (listed entry).mp mem
    by_contra beyond
    rw [inside _ _ (by omega)] at there
    cases there
  have few : f.farms ≤ 256 := by
    refine owned.fits id f here ((owned.pending here).mp ?_)
    rw [Slots.owner, filled]
    rfl
  refine ⟨f, here, fun pieceIndex entry found => ?_,
    fun pieceIndex i k offset sector there piece => ?_⟩
  · obtain ⟨mem, same⟩ := index.readPiece_mem r pieceIndex entry found
    exact ⟨(listed entry).mp mem, same⟩
  · have small : i < 256 := by
      by_contra large
      rw [inside i k (by omega)] at there
      cases there
    have number : (UInt8.ofNat i).toNat = i := by simp; omega
    refine index.readPiece_isSome r known ⟨pieceIndex, UInt8.ofNat i, k, offset⟩ ?_
    rw [listed]
    refine ⟨sector, ?_, piece⟩
    rw [number]
    exact there

end Slots

end SubspaceSdk
