import Mathlib.Data.List.Induction
import SubspaceSdk.Farmer.Readers
import SubspaceSdk.ProofKit.Keyed
import SubspaceSdk.ProofKit.Transition

/-! What the piece index of a farmer holds.  It is filled once from all farms and then kept up to
date by the callbacks of the farms, each of which takes out the old sector and puts in the new one.
The entries of a sector are found under its farm and its index. -/

namespace SubspaceSdk

open ProofKit ProofKit.Keyed

/-- A sector as the farmer library reports it: the piece at each offset. -/
structure PlottedSector where
  sectorIndex : Nat
  pieceIndexes : List Nat
  deriving Repr, DecidableEq

/-- Where a piece is stored. -/
structure PieceEntry where
  pieceIndex : Nat
  diskFarmIndex : UInt8
  sectorIndex : Nat
  pieceOffset : Nat
  deriving DecidableEq

namespace PieceEntry

def place (entry : PieceEntry) : UInt8 × Nat := (entry.diskFarmIndex, entry.sectorIndex)

end PieceEntry

/-- The entries of a sector of a farm. -/
def sectorEntries (diskFarmIndex : UInt8) (sector : PlottedSector) : Multiset PieceEntry :=
  ↑(sector.pieceIndexes.zipIdx.map fun (pieceIndex, pieceOffset) =>
    (⟨pieceIndex, diskFarmIndex, sector.sectorIndex, pieceOffset⟩ : PieceEntry))

/-- A `ReadersAndPieces` as a multimap of entries. -/
structure PieceMultimap (Reader R : Type) extends ReadersAndPieces Reader PlottedSector R where
  contents : R → Multiset PieceEntry
  contents_new : ∀ readers, contents (new readers) = 0
  contents_addSector : ∀ r diskFarmIndex sector,
    contents (addSector r diskFarmIndex sector) = contents r + sectorEntries diskFarmIndex sector
  contents_deleteSector : ∀ r diskFarmIndex sector,
    contents (deleteSector r diskFarmIndex sector) =
      contents r - sectorEntries diskFarmIndex sector

/-- A farm whose plotted sectors are read in the order of their indexes. -/
structure PlottedFarm (Reader : Type) extends SingleDiskFarm Reader PlottedSector where
  inOrder : ∀ k (sector : PlottedSector),
    plottedSectors[k]? = some (.ok sector) → sector.sectorIndex = k

/-- What is plotted at a place. -/
inductive PlottedAt where
  | empty
  | plotted (sector : PlottedSector)
  /-- A sector that could not be read at start-up. -/
  | unreadable
  deriving Repr, DecidableEq

namespace PlottedAt

/-- What reading a plotted sector gives. -/
def ofRead : Option (Except String PlottedSector) → PlottedAt
  | none => .empty
  | some (.ok sector) => .plotted sector
  | some (.error _) => .unreadable

/-- The entries of the sector at a place, where it is known. -/
def entries (diskFarmIndex : UInt8) : PlottedAt → Multiset PieceEntry
  | .plotted sector => sectorEntries diskFarmIndex sector
  | _ => 0

/-- The farm passes the sector that it replaces.  For one that was not readable at start-up it may
pass what it can. -/
def PassesOld (before : PlottedAt) (sector : PlottedSector) (old : Option PlottedSector) : Prop :=
  match before with
  | .empty => old = none
  | .plotted replaced => old = some replaced
  | .unreadable => ∀ replaced, old = some replaced → replaced.sectorIndex = sector.sectorIndex

end PlottedAt

/-- What is plotted on each farm under each sector index. -/
abbrev Plots := Nat → Nat → PlottedAt

/-- The plots as the farms give them to be read. -/
def readPlots {Reader : Type} (farms : List (PlottedFarm Reader)) : Plots := fun diskFarmIndex k =>
  match farms[diskFarmIndex]? with
  | some farm => .ofRead farm.plottedSectors[k]?
  | none => .empty

def Plots.plot (plots : Plots) (diskFarmIndex : Nat) (sector : PlottedSector) : Plots := fun i k =>
  if i = diskFarmIndex ∧ k = sector.sectorIndex then .plotted sector else plots i k

/-- What is plotted once the farms have plotted `sectors`, oldest first. -/
def Plots.plotAll (plots : Plots) (sectors : List (Nat × PlottedSector)) : Plots :=
  sectors.foldl (fun plots (diskFarmIndex, sector) => plots.plot diskFarmIndex sector) plots

/-- Each sector is plotted under its index. -/
def Plots.InPlace (plots : Plots) : Prop :=
  ∀ i k sector, plots i k = .plotted sector → sector.sectorIndex = k

variable {Reader R : Type} {index : PieceMultimap Reader R} {r : R} {plots : Plots}

variable (index) in
/-- The index holds, for each farm and each sector index, the entries of the sector that is plotted
there. -/
def Indexes (r : R) (plots : Plots) : Prop :=
  ∀ diskFarmIndex k, atKey PieceEntry.place (diskFarmIndex, k) (index.contents r) =
    (plots diskFarmIndex.toNat k).entries diskFarmIndex

theorem place_of_mem {diskFarmIndex : UInt8} {sector : PlottedSector} :
    ∀ entry ∈ sectorEntries diskFarmIndex sector,
      entry.place = (diskFarmIndex, sector.sectorIndex) := by
  intro entry mem
  obtain ⟨⟨pieceIndex, pieceOffset⟩, -, rfl⟩ := List.mem_map.mp (Multiset.mem_coe.mp mem)
  rfl

/-- The entries of a sector that is plotted under its index are found there and nowhere else. -/
theorem atKey_entries (diskFarmIndex : UInt8) {plotted : PlottedAt} {k : Nat}
    (inPlace : ∀ sector, plotted = .plotted sector → sector.sectorIndex = k)
    (place : UInt8 × Nat) :
    atKey PieceEntry.place place (plotted.entries diskFarmIndex) =
      if place = (diskFarmIndex, k) then plotted.entries diskFarmIndex else 0 := by
  cases plotted with
  | empty | unreadable => simp [PlottedAt.entries]
  | plotted sector =>
    rw [← inPlace sector rfl]
    by_cases here : place = (diskFarmIndex, sector.sectorIndex)
    · rw [if_pos here, here, PlottedAt.entries, atKey_of_all place_of_mem]
    · rw [if_neg here, PlottedAt.entries, atKey_of_other place_of_mem (Ne.symm here)]

/-! ### The index at start-up -/

theorem addPlotted_append (index : PieceMultimap Reader R) (diskFarmIndex : UInt8) (r : R)
    (sectors : List (Except String PlottedSector)) (last : Except String PlottedSector) :
    index.contents (addPlotted index.toReadersAndPieces diskFarmIndex r (sectors ++ [last])) =
      index.contents (addPlotted index.toReadersAndPieces diskFarmIndex r sectors) +
        (PlottedAt.ofRead (some last)).entries diskFarmIndex := by
  rw [addPlotted, List.foldl_append]
  cases last with
  | ok sector => exact index.contents_addSector _ _ _
  | error => exact (Multiset.add_zero _).symm

/-- Reading a farm adds, under each index, the sector that is read there. -/
theorem atKey_addPlotted (index : PieceMultimap Reader R) (diskFarmIndex : UInt8) (r : R)
    (sectors : List (Except String PlottedSector))
    (inOrder : ∀ k (sector : PlottedSector),
      sectors[k]? = some (.ok sector) → sector.sectorIndex = k)
    (place : UInt8 × Nat) :
    atKey PieceEntry.place place
        (index.contents (addPlotted index.toReadersAndPieces diskFarmIndex r sectors)) =
      atKey PieceEntry.place place (index.contents r) +
        if place.1 = diskFarmIndex then
          (PlottedAt.ofRead sectors[place.2]?).entries diskFarmIndex
        else 0 := by
  induction sectors using List.reverseRecOn with
  | nil => simp [addPlotted, PlottedAt.ofRead, PlottedAt.entries]
  | append_singleton sectors last ih =>
    have before : ∀ k (sector : PlottedSector),
        sectors[k]? = some (.ok sector) → sector.sectorIndex = k := by
      intro k sector there
      refine inOrder k sector ?_
      rw [List.getElem?_append_left (List.getElem?_eq_some_iff.mp there).1, there]
    have here : ∀ sector, PlottedAt.ofRead (some last) = .plotted sector →
        sector.sectorIndex = sectors.length := by
      intro sector read
      refine inOrder _ sector ?_
      rw [List.getElem?_concat_length]
      cases last with
      | ok => cases read; rfl
      | error => cases read
    rw [addPlotted_append, atKey_add, ih before, Multiset.add_assoc,
      atKey_entries diskFarmIndex here]
    congr 1
    obtain ⟨f, k⟩ := place
    by_cases same : f = diskFarmIndex
    · subst same
      rcases Nat.lt_trichotomy k sectors.length with inside | rfl | beyond
      · simp [List.getElem?_append_left inside, Nat.ne_of_lt inside]
      · simp [PlottedAt.ofRead, PlottedAt.entries]
      · have out : sectors[k]? = none := List.getElem?_eq_none (Nat.le_of_lt beyond)
        have past : (sectors ++ [last])[k]? = none := by
          rw [List.getElem?_append_right (Nat.le_of_lt beyond)]
          exact List.getElem?_eq_none (by simp; omega)
        simp [out, past, Nat.ne_of_gt beyond]
    · simp [same]

theorem readPlots_cons_zero (farm : PlottedFarm Reader) (farms : List (PlottedFarm Reader))
    (k : Nat) : readPlots (farm :: farms) 0 k = .ofRead farm.plottedSectors[k]? := rfl

theorem readPlots_cons_succ (farm : PlottedFarm Reader) (farms : List (PlottedFarm Reader))
    (i k : Nat) : readPlots (farm :: farms) (i + 1) k = readPlots farms i k := rfl

theorem readPlots_inPlace (farms : List (PlottedFarm Reader)) : (readPlots farms).InPlace := by
  intro i k sector read
  rw [readPlots] at read
  split at read
  · next farm _ =>
    refine farm.inOrder k sector ?_
    cases there : farm.plottedSectors[k]? with
    | none => rw [there] at read; cases read
    | some sector =>
      rw [there] at read
      cases sector with
      | ok => cases read; rfl
      | error => cases read
  · cases read

/-- The farms from `start` on add, under each place, the sector that is read there. -/
theorem atKey_addFarms (index : PieceMultimap Reader R) {start : Nat}
    (farms : List (PlottedFarm Reader)) {r out : R}
    (added : addFarms index.toReadersAndPieces start (farms.map (·.toSingleDiskFarm)) r = .ok out)
    (place : UInt8 × Nat) :
    atKey PieceEntry.place place (index.contents out) =
      atKey PieceEntry.place place (index.contents r) +
        if start ≤ place.1.toNat then
          (readPlots farms (place.1.toNat - start) place.2).entries place.1
        else 0 := by
  induction farms generalizing start r with
  | nil =>
    cases added
    simp [readPlots, PlottedAt.entries]
  | cons farm farms ih =>
    rw [List.map_cons, addFarms] at added
    rcases Nat.lt_or_ge start 256 with small | large
    · rw [tryIntoU8_of_lt small] at added
      rw [ih added, atKey_addPlotted index _ r _ farm.inOrder, Multiset.add_assoc]
      congr 1
      obtain ⟨f, k⟩ := place
      have number : (UInt8.ofNat start).toNat = start := by simp; omega
      show _ + (if start + 1 ≤ f.toNat then _ else _) = if start ≤ f.toNat then _ else _
      rcases Nat.lt_trichotomy f.toNat start with before | rfl | after
      · have other : f ≠ UInt8.ofNat start := fun same => by rw [same, number] at before; omega
        rw [if_neg other, if_neg (by omega), if_neg (by omega), Multiset.add_zero]
      · have same : f = UInt8.ofNat f.toNat := UInt8.toNat_inj.mp number.symm
        rw [if_pos same, if_neg (by omega), if_pos (Nat.le_refl _), Nat.sub_self,
          readPlots_cons_zero, ← same, Multiset.add_zero]
      · have other : f ≠ UInt8.ofNat start := fun same => by rw [same, number] at after; omega
        have next : f.toNat - start = f.toNat - (start + 1) + 1 := by omega
        rw [if_neg other, if_pos (by omega), if_pos (by omega), next, readPlots_cons_succ,
          Multiset.zero_add]
    · rw [tryIntoU8_of_le large] at added
      cases added

/-- The index that is built from the farms holds what is read from them. -/
theorem createReadersAndPieces_indexes {farms : List (PlottedFarm Reader)} {out : R}
    (built : createReadersAndPieces index.toReadersAndPieces (farms.map (·.toSingleDiskFarm)) =
      .ok out) :
    Indexes index out (readPlots farms) := by
  intro f k
  rw [createReadersAndPieces] at built
  rw [atKey_addFarms index farms built (f, k), index.contents_new, atKey_zero,
    Multiset.zero_add, if_pos (Nat.zero_le _), Nat.sub_zero]

/-! ### The callbacks -/

theorem Plots.InPlace.plot (inPlace : plots.InPlace) (diskFarmIndex : Nat)
    (sector : PlottedSector) : (plots.plot diskFarmIndex sector).InPlace := by
  intro i k found there
  rw [Plots.plot] at there
  split at there
  · next here =>
    cases there
    exact here.2.symm
  · exact inPlace i k found there

/-- What the replaced sector leaves of the entries at its place. -/
theorem entries_sub_old {plotted : PlottedAt} {sector : PlottedSector}
    {old : Option PlottedSector} (passes : plotted.PassesOld sector old) (diskFarmIndex : UInt8) :
    plotted.entries diskFarmIndex -
      (old.elim 0 (sectorEntries diskFarmIndex) : Multiset PieceEntry) = 0 := by
  cases plotted with
  | empty | unreadable => exact Multiset.zero_sub _
  | plotted replaced =>
    have same : old = some replaced := passes
    rw [same]
    show sectorEntries diskFarmIndex replaced - sectorEntries diskFarmIndex replaced = 0
    refine Multiset.ext.mpr fun entry => ?_
    rw [Multiset.count_sub, Nat.sub_self, Multiset.count_zero]

theorem old_inPlace {plotted : PlottedAt} {sector replaced : PlottedSector}
    {old : Option PlottedSector} (passes : plotted.PassesOld sector old)
    (inPlace : ∀ found, plotted = .plotted found → found.sectorIndex = sector.sectorIndex)
    (passed : old = some replaced) : replaced.sectorIndex = sector.sectorIndex := by
  cases plotted with
  | empty =>
    have : old = none := passes
    rw [this] at passed
    cases passed
  | unreadable => exact passes replaced passed
  | plotted found =>
    have same : old = some found := passes
    rw [same] at passed
    cases passed
    exact inPlace _ rfl

/-- The callback of a farm takes the old sector out of the index and puts the new one in. -/
theorem handlerOnSectorPlotted_contents (index : PieceMultimap Reader R) (sector : PlottedSector)
    (old : Option PlottedSector) {diskFarmIndex : Nat} (small : diskFarmIndex < 256) (r : R) :
    ∃ after, handlerOnSectorPlotted index.toReadersAndPieces sector old diskFarmIndex (some r) =
        .ok (some after) ∧
      index.contents after = index.contents r -
        old.elim 0 (sectorEntries (UInt8.ofNat diskFarmIndex)) +
        sectorEntries (UInt8.ofNat diskFarmIndex) sector := by
  rw [handlerOnSectorPlotted, tryIntoU8_of_lt small]
  cases old with
  | none => exact ⟨_, rfl, by rw [index.contents_addSector]; simp⟩
  | some replaced =>
    exact ⟨_, rfl, by rw [index.contents_addSector, index.contents_deleteSector]; rfl⟩

/-- The callback of a farm keeps the index what it is to be, and touches no other place. -/
theorem Indexes.callback (indexes : Indexes index r plots) (inPlace : plots.InPlace)
    {diskFarmIndex : Nat} (small : diskFarmIndex < 256) {sector : PlottedSector}
    {old : Option PlottedSector}
    (passes : (plots diskFarmIndex sector.sectorIndex).PassesOld sector old) :
    ∃ after, handlerOnSectorPlotted index.toReadersAndPieces sector old diskFarmIndex (some r) =
        .ok (some after) ∧
      Indexes index after (plots.plot diskFarmIndex sector) := by
  obtain ⟨after, handled, contents⟩ :=
    handlerOnSectorPlotted_contents index sector old small r
  refine ⟨after, handled, fun f k => ?_⟩
  have number : (UInt8.ofNat diskFarmIndex).toNat = diskFarmIndex := by simp; omega
  have olds : ∀ entry ∈ (old.elim 0 (sectorEntries (UInt8.ofNat diskFarmIndex)) :
      Multiset PieceEntry), entry.place = (UInt8.ofNat diskFarmIndex, sector.sectorIndex) := by
    intro entry mem
    cases passed : old with
    | none => simp [passed] at mem
    | some replaced =>
      rw [passed] at mem
      rw [place_of_mem entry mem, old_inPlace passes (inPlace _ _) passed]
  rw [contents, atKey_replace olds place_of_mem]
  by_cases here : f.toNat = diskFarmIndex ∧ k = sector.sectorIndex
  · obtain ⟨farm, rfl⟩ := here
    have same : f = UInt8.ofNat diskFarmIndex := UInt8.toNat_inj.mp (farm.trans number.symm)
    rw [if_pos (by rw [same]), indexes, Plots.plot, if_pos ⟨farm, rfl⟩, farm, same,
      entries_sub_old passes, Multiset.zero_add]
    rfl
  · have other : (f, k) ≠ (UInt8.ofNat diskFarmIndex, sector.sectorIndex) := by
      intro same
      cases same
      exact here ⟨number, rfl⟩
    rw [if_neg other, indexes, Plots.plot, if_neg here]

/-! ### Runs of callbacks -/

/-- The shared slot of the index, and what the farms have plotted. -/
structure Replotting (R : Type) where
  slot : Option R
  plots : Plots

namespace Replotting

/-- The callback of a farm that plotted a sector, with the sector that it replaces. -/
structure Callback where
  diskFarmIndex : Nat
  sector : PlottedSector
  old : Option PlottedSector

def Callback.plotted (callback : Callback) : Nat × PlottedSector :=
  (callback.diskFarmIndex, callback.sector)

variable (index) in
def system : System (Replotting R) Callback where
  next s callback :=
    match handlerOnSectorPlotted index.toReadersAndPieces callback.sector callback.old
        callback.diskFarmIndex s.slot with
    | .ok slot => some ⟨slot, s.plots.plot callback.diskFarmIndex callback.sector⟩
    | .error _ => none

/-- The callback is one of the farms', and passes the sector that it replaces. -/
def FromFarms (farms : Nat) (_ : List Callback) (s : Replotting R) (callback : Callback) : Prop :=
  callback.diskFarmIndex < farms ∧
    (s.plots callback.diskFarmIndex callback.sector.sectorIndex).PassesOld callback.sector
      callback.old

variable (index) in
/-- The slot holds the index of what is plotted. -/
structure Holds (s : Replotting R) (r : R) : Prop where
  filled : s.slot = some r
  indexes : Indexes index r s.plots
  inPlace : s.plots.InPlace

theorem Holds.callback {s : Replotting R} {farms : Nat} (few : farms ≤ 256)
    (holds : Holds index s r) {as : List Callback} {callback : Callback}
    (fromFarm : FromFarms farms as s callback) :
    ∃ after u, (system index).next s callback = some u ∧ Holds index u after ∧
      u.plots = s.plots.plot callback.diskFarmIndex callback.sector := by
  obtain ⟨after, handled, indexes⟩ := holds.indexes.callback holds.inPlace
    (Nat.lt_of_lt_of_le fromFarm.1 few) fromFarm.2
  refine ⟨after, ⟨some after, s.plots.plot callback.diskFarmIndex callback.sector⟩, ?_,
    ⟨rfl, indexes, holds.inPlace.plot _ _⟩, rfl⟩
  simp only [system, holds.filled, handled]

theorem run_plots {ok : List Callback → Replotting R → Callback → Prop} {s t : Replotting R}
    {as : List Callback} (run : (system index).RunIf ok s as t) :
    t.plots = s.plots.plotAll (as.map Callback.plotted) := by
  refine run.invariant
    (I := fun as t => t.plots = s.plots.plotAll (as.map Callback.plotted))
    rfl ?_
  intro as t callback u plots _ hnext
  simp only [system] at hnext
  split at hnext
  · cases hnext
    rw [plots, Plots.plotAll, Plots.plotAll, List.map_append, List.foldl_append]
    rfl
  · cases hnext

theorem run_holds {farms : Nat} (few : farms ≤ 256) {s t : Replotting R} {as : List Callback}
    (holds : Holds index s r) (run : (system index).RunIf (FromFarms farms) s as t) :
    ∃ now, Holds index t now := by
  refine run.invariant (I := fun _ t => ∃ now, Holds index t now) ⟨r, holds⟩ ?_
  rintro as t callback u ⟨now, holds⟩ fromFarm hnext
  obtain ⟨after, u', same, holds', -⟩ := holds.callback few fromFarm
  rw [hnext, Option.some.injEq] at same
  exact ⟨after, same ▸ holds'⟩

/-- Two indexes of the same sectors have the same entries. -/
theorem Indexes.contents_eq {r' : R} {plots' : Plots} (indexes : Indexes index r plots)
    (indexes' : Indexes index r' plots')
    (same : ∀ i k sector, plots' i k = .plotted sector ↔ plots i k = .plotted sector) :
    index.contents r' = index.contents r := by
  refine eq_of_atKey PieceEntry.place fun ⟨f, k⟩ => ?_
  rw [indexes, indexes']
  cases there : plots f.toNat k with
  | plotted sector => rw [(same _ _ _).mpr there]
  | empty | unreadable =>
    cases rebuilt : plots' f.toNat k with
    | plotted sector =>
      rw [(same _ _ _).mp rebuilt] at there
      cases there
    | empty | unreadable => rfl

/-- After every callback the index holds exactly the entries of the sectors that are plotted then,
as a rebuild from the farms would, and the next callback runs through and touches no entry of
another farm. -/
theorem index_is_rebuild (index : PieceMultimap Reader R) (farms : List (PlottedFarm Reader))
    (few : farms.length ≤ 256) :
    ∃ r, createReadersAndPieces index.toReadersAndPieces (farms.map (·.toSingleDiskFarm)) =
        .ok r ∧
      ∀ as t, (system index).RunIf (FromFarms farms.length) ⟨some r, readPlots farms⟩ as t →
        t.plots = (readPlots farms).plotAll (as.map Callback.plotted) ∧
        ∃ now, t.slot = some now ∧ Indexes index now t.plots ∧
          (∀ farmsNow : List (PlottedFarm Reader), farmsNow.length ≤ 256 →
            (∀ i k sector,
              readPlots farmsNow i k = .plotted sector ↔ t.plots i k = .plotted sector) →
            ∃ rebuilt, createReadersAndPieces index.toReadersAndPieces
                (farmsNow.map (·.toSingleDiskFarm)) = .ok rebuilt ∧
              index.contents rebuilt = index.contents now) ∧
          ∀ callback, FromFarms farms.length as t callback →
            ∃ u after, (system index).next t callback = some u ∧ u.slot = some after ∧
              u.plots = t.plots.plot callback.diskFarmIndex callback.sector ∧
              ∀ entry, entry.diskFarmIndex.toNat ≠ callback.diskFarmIndex →
                (index.contents after).count entry = (index.contents now).count entry := by
  have build (farms : List (PlottedFarm Reader)) (few : farms.length ≤ 256) :
      ∃ r, createReadersAndPieces index.toReadersAndPieces (farms.map (·.toSingleDiskFarm)) =
        .ok r :=
    (createReadersAndPieces_ok_iff _ _).mpr (by rwa [List.length_map])
  obtain ⟨r, built⟩ := build farms few
  refine ⟨r, built, fun as t run => ?_⟩
  have start : Holds index ⟨some r, readPlots farms⟩ r :=
    ⟨rfl, createReadersAndPieces_indexes built, readPlots_inPlace farms⟩
  obtain ⟨now, holds⟩ := run_holds few start run
  refine ⟨run_plots run, now, holds.filled, holds.indexes, fun farmsNow few' same => ?_,
    fun callback fromFarm => ?_⟩
  · obtain ⟨rebuilt, built'⟩ := build farmsNow few'
    exact ⟨rebuilt, built',
      Indexes.contents_eq holds.indexes (createReadersAndPieces_indexes built') same⟩
  · obtain ⟨after, u, hnext, holds', plotted⟩ := holds.callback few fromFarm
    refine ⟨u, after, hnext, holds'.filled, plotted, fun entry other => ?_⟩
    have untouched : u.plots entry.diskFarmIndex.toNat entry.sectorIndex =
        t.plots entry.diskFarmIndex.toNat entry.sectorIndex := by
      rw [plotted, Plots.plot, if_neg fun here => other here.1]
    rw [← count_atKey PieceEntry.place entry (index.contents after),
      ← count_atKey PieceEntry.place entry (index.contents now), PieceEntry.place,
      holds'.indexes, holds.indexes, untouched]

/-- An index that lists its entries. -/
def entryList : PieceMultimap Unit (List PieceEntry) where
  new _ := []
  addSector entries diskFarmIndex sector :=
    entries ++ sector.pieceIndexes.zipIdx.map fun (pieceIndex, pieceOffset) =>
      ⟨pieceIndex, diskFarmIndex, sector.sectorIndex, pieceOffset⟩
  deleteSector entries diskFarmIndex sector :=
    entries.diff (sector.pieceIndexes.zipIdx.map fun (pieceIndex, pieceOffset) =>
      ⟨pieceIndex, diskFarmIndex, sector.sectorIndex, pieceOffset⟩)
  contents entries := ↑entries
  contents_new _ := rfl
  contents_addSector _ _ _ := rfl
  contents_deleteSector _ _ _ := rfl

/-- A farm with a sector that can be read and one that cannot. -/
def damagedFarm : PlottedFarm Unit where
  pieceReader := ()
  plottedSectors := [.ok ⟨0, [5, 6]⟩, .error "checksum"]
  inOrder k sector there := by
    rcases k with _ | _ | k
    · cases there; rfl
    · cases there
    · cases there

/-- The first sector of the farm is replotted with a piece that it had before, and the damaged one
is plotted anew. -/
theorem index_is_rebuild_damagedFarm :
    ∃ t : Replotting (List PieceEntry),
      (system entryList).Run ⟨some [⟨5, 0, 0, 0⟩, ⟨6, 0, 0, 1⟩], readPlots [damagedFarm]⟩
        [⟨0, ⟨0, [6, 7]⟩, some ⟨0, [5, 6]⟩⟩, ⟨0, ⟨1, [5]⟩, none⟩] t ∧
      ∃ now, t.slot = some now ∧ Indexes entryList now t.plots := by
  obtain ⟨r, built, holds⟩ := index_is_rebuild entryList [damagedFarm] (by decide)
  cases built
  have first : (system entryList).RunIf (FromFarms 1)
      ⟨some [⟨5, 0, 0, 0⟩, ⟨6, 0, 0, 1⟩], readPlots [damagedFarm]⟩
      [⟨0, ⟨0, [6, 7]⟩, some ⟨0, [5, 6]⟩⟩] _ := .step .start ⟨by decide, rfl⟩ rfl
  have second := first.step (a := ⟨0, ⟨1, [5]⟩, none⟩)
    ⟨by decide, by intro _ passed; cases passed⟩ rfl
  obtain ⟨-, now, filled, indexes, -⟩ := holds _ _ second
  exact ⟨_, second.run, now, filled, indexes⟩

end Replotting

end SubspaceSdk
