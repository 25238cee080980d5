import Mathlib.Data.List.Basic

/-! The piece index of a farmer: `create_readers_and_pieces`, which fills it from the sectors that
the farms have plotted before, and `handler_on_sector_plotted`, which keeps it up to date.  Both
number the farms by `u8`. -/

namespace SubspaceSdk

variable {Reader Sector R : Type}

/-- What this code uses of the `ReadersAndPieces` of the farmer library. -/
structure ReadersAndPieces (Reader Sector R : Type) where
  new : List Reader → R
  addSector : R → UInt8 → Sector → R
  deleteSector : R → UInt8 → Sector → R

/-- A piece index that lists each sector with its farm. -/
def sectorList : ReadersAndPieces Unit Nat (List (UInt8 × Nat)) where
  new _ := []
  addSector sectors diskFarmIndex sector := (diskFarmIndex, sector) :: sectors
  deleteSector sectors diskFarmIndex sector := sectors.erase (diskFarmIndex, sector)

/-- A farm that was opened: its piece reader, and what reading each of its plotted sectors gives. -/
structure SingleDiskFarm (Reader Sector : Type) where
  pieceReader : Reader
  plottedSectors : List (Except String Sector)

/-- The conversion of an index to `u8`. -/
def tryIntoU8 (index : Nat) : Option UInt8 :=
  if index < 256 then some (UInt8.ofNat index) else none

theorem tryIntoU8_of_lt {index : Nat} (h : index < 256) :
    tryIntoU8 index = some (UInt8.ofNat index) := if_pos h

theorem tryIntoU8_of_le {index : Nat} (h : 256 ≤ index) : tryIntoU8 index = none :=
  if_neg (Nat.not_lt.mpr h)

def tooManyFarms : String :=
  "More than 256 farms are not supported, consider running multiple farmer instances"

/-- The sectors of one farm, those that cannot be read left out. -/
def addPlotted (api : ReadersAndPieces Reader Sector R) (diskFarmIndex : UInt8)
    (readersAndPieces : R) (plottedSectors : List (Except String Sector)) : R :=
  plottedSectors.foldl (fun readersAndPieces plottedSector =>
    match plottedSector with
    | .ok plottedSector => api.addSector readersAndPieces diskFarmIndex plottedSector
    | .error _ => readersAndPieces) readersAndPieces

/-- The farms from index `diskFarmIndex` on. -/
def addFarms (api : ReadersAndPieces Reader Sector R) :
    Nat → List (SingleDiskFarm Reader Sector) → R → Except String R
  | _, [], readersAndPieces => .ok readersAndPieces
  | diskFarmIndex, farm :: farms, readersAndPieces =>
    match tryIntoU8 diskFarmIndex with
    | none => .error tooManyFarms
    | some index =>
      addFarms api (diskFarmIndex + 1) farms
        (addPlotted api index readersAndPieces farm.plottedSectors)

def createReadersAndPieces (api : ReadersAndPieces Reader Sector R)
    (singleDiskFarms : List (SingleDiskFarm Reader Sector)) : Except String R :=
  addFarms api 0 singleDiskFarms (api.new (singleDiskFarms.map (·.pieceReader)))

/-- `handler_on_sector_plotted` on the shared slot: the slot after it, or the message of the
`expect` that failed. -/
def handlerOnSectorPlotted (api : ReadersAndPieces Reader Sector R) (plottedSector : Sector)
    (maybeOldPlottedSector : Option Sector) (diskFarmIndex : Nat) (readersAndPieces : Option R) :
    Except String (Option R) :=
  match tryIntoU8 diskFarmIndex with
  | none => .error "More than 256 farms are not supported, this is checked above already; qed"
  | some index =>
    match readersAndPieces with
    | none => .error "Initial value was populated before; qed"
    | some readersAndPieces =>
      let readersAndPieces :=
        match maybeOldPlottedSector with
        | some oldPlottedSector => api.deleteSector readersAndPieces index oldPlottedSector
        | none => readersAndPieces
      .ok (some (api.addSector readersAndPieces index plottedSector))

theorem addFarms_ok_iff (api : ReadersAndPieces Reader Sector R) (index : Nat)
    (farms : List (SingleDiskFarm Reader Sector)) (readersAndPieces : R) :
    (∃ out, addFarms api index farms readersAndPieces = .ok out) ↔
      farms = [] ∨ index + farms.length ≤ 256 := by
  induction farms generalizing index readersAndPieces with
  | nil => simp [addFarms]
  | cons farm farms ih =>
    rcases Nat.lt_or_ge index 256 with small | large
    · simp only [addFarms, tryIntoU8_of_lt small, ih, List.length_cons, reduceCtorEq, false_or]
      cases farms with
      | nil => simp; omega
      | cons => simp; omega
    · simp only [addFarms, tryIntoU8_of_le large, List.length_cons, reduceCtorEq, false_or]
      simp; omega

/-- The index is built for exactly the farms that `u8` can number. -/
theorem createReadersAndPieces_ok_iff (api : ReadersAndPieces Reader Sector R)
    (farms : List (SingleDiskFarm Reader Sector)) :
    (∃ out, createReadersAndPieces api farms = .ok out) ↔ farms.length ≤ 256 := by
  rw [createReadersAndPieces, addFarms_ok_iff, Nat.zero_add]
  constructor
  · rintro (rfl | fits)
    · exact Nat.zero_le _
    · exact fits
  · exact .inr

/-- The handler of a farm that `u8` can number runs through where the slot is filled. -/
theorem handlerOnSectorPlotted_of_lt (api : ReadersAndPieces Reader Sector R)
    (plottedSector : Sector) (old : Option Sector) {index : Nat} (small : index < 256) (r : R) :
    ∃ after, handlerOnSectorPlotted api plottedSector old index (some r) = .ok (some after) := by
  simp [handlerOnSectorPlotted, tryIntoU8_of_lt small]

end SubspaceSdk
