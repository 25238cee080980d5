import SubspaceSdk.ProofKit.Checked

/-! How many sectors a farm may plot: `target_sector_count` of `Farm::new`, which becomes the
`total_sectors` of the initial plotting.  The percentage of the cache comes from the caller of
`build` as a `NonZeroU8`, and nothing between that call and the subtraction from 100 looks at it. -/

namespace SubspaceSdk

open ProofKit ProofKit.Checked ProofKit.Truncation

/-- A `NonZeroU8`. -/
structure NonZeroU8 where
  get : BitVec 8
  nonzero : get ≠ 0

/-- The sizes that the farmer library gives.  Each sum that the count takes of them fits in a
`u64`. -/
structure FarmerSizes where
  identityFileSize : BitVec 64
  knownPeersFileSize : BitVec 64
  sectorSize : BitVec 16 → BitVec 64
  encodedMetadataSize : BitVec 64
  filesFit : 2 * 1024 * 1024 + identityFileSize.toNat + knownPeersFileSize.toNat < 2 ^ 64
  sectorFits : ∀ maxPiecesInSector,
    (sectorSize maxPiecesInSector).toNat + encodedMetadataSize.toNat < 2 ^ 64
  metadataPositive : 0 < encodedMetadataSize.toNat

namespace FarmerSizes

/-- The bytes of a sector together with its metadata. -/
def perSector (sizes : FarmerSizes) (maxPiecesInSector : BitVec 16) : Nat :=
  (sizes.sectorSize maxPiecesInSector).toNat + sizes.encodedMetadataSize.toNat

theorem perSector_pos (sizes : FarmerSizes) (maxPiecesInSector : BitVec 16) :
    0 < sizes.perSector maxPiecesInSector :=
  Nat.add_pos_right _ sizes.metadataPositive

end FarmerSizes

def fixedSpaceUsage (sizes : FarmerSizes) : Except Fault (BitVec 64) := do
  let files ← add (2 * 1024 * 1024) sizes.identityFileSize
  add files sizes.knownPeersFileSize

def targetSectorCount (sizes : FarmerSizes) (fixedSpaceUsage allocatedSpace : BitVec 64)
    (cachePercentage : NonZeroU8) (maxPiecesInSector : BitVec 16) : Except Fault (BitVec 64) := do
  let hundredth ← div (saturatingSub allocatedSpace fixedSpaceUsage) 100
  let percents ← sub 100 (cachePercentage.get.setWidth 64)
  let potentiallyPlottableSpace ← mul hundredth percents
  let perSector ← add (sizes.sectorSize maxPiecesInSector) sizes.encodedMetadataSize
  div potentiallyPlottableSpace perSector

/-- The `total_sectors` that `Farm::new` computes. -/
def totalSectors (sizes : FarmerSizes) (allocatedSpace : BitVec 64)
    (cachePercentage : NonZeroU8) (maxPiecesInSector : BitVec 16) : Except Fault (BitVec 64) := do
  let fixedSpaceUsage ← fixedSpaceUsage sizes
  targetSectorCount sizes fixedSpaceUsage allocatedSpace cachePercentage maxPiecesInSector

variable {sizes : FarmerSizes} {fixed allocatedSpace count : BitVec 64}
  {cachePercentage : NonZeroU8} {maxPiecesInSector : BitVec 16}

theorem fixedSpaceUsage_ok (sizes : FarmerSizes) : ∃ fixed, fixedSpaceUsage sizes = .ok fixed := by
  have fits := sizes.filesFit
  obtain ⟨files, filesEq⟩ := (exists_toNat_eq (w := 64)
    (n := 2 * 1024 * 1024 + sizes.identityFileSize.toNat)).mpr (by omega)
  obtain ⟨all, allEq⟩ := (exists_toNat_eq (w := 64)
    (n := files.toNat + sizes.knownPeersFileSize.toNat)).mpr (by omega)
  refine ⟨all, bind_eq_ok.mpr ⟨files, add_eq_ok.mpr filesEq, add_eq_ok.mpr allEq⟩⟩

/-- The count exists where the percentage is one, and is then the number of sectors that fit in the
share of the space that is left to them. -/
theorem targetSectorCount_eq_ok :
    targetSectorCount sizes fixed allocatedSpace cachePercentage maxPiecesInSector = .ok count ↔
      cachePercentage.get.toNat ≤ 100 ∧
        count.toNat = units (allocatedSpace.toNat - fixed.toNat) 100
          (100 - cachePercentage.get.toNat) (sizes.perSector maxPiecesInSector) := by
  have narrow : (cachePercentage.get.setWidth 64).toNat = cachePercentage.get.toNat := by
    have := cachePercentage.get.isLt
    rw [BitVec.toNat_setWidth, Nat.mod_eq_of_lt (by omega)]
  have hundred : (100 : BitVec 64).toNat = 100 := rfl
  simp only [targetSectorCount, bind_eq_ok, div_eq_ok, sub_eq_ok, mul_eq_ok, add_eq_ok,
    toNat_saturatingSub, narrow, hundred]
  constructor
  · rintro ⟨hundredth, ⟨-, hundredthEq⟩, percents, percentsEq, space, spaceEq, perSector,
      perSectorEq, -, countEq⟩
    have left : percents.toNat = 100 - cachePercentage.get.toNat := by omega
    refine ⟨by omega, ?_⟩
    rw [countEq, spaceEq, hundredthEq, left, perSectorEq]
    rfl
  · rintro ⟨percent, countEq⟩
    have whole := allocatedSpace.isLt
    have sector := sizes.sectorFits maxPiecesInSector
    -- A hundredth times at most a hundred is no more than what was divided.
    have product : (allocatedSpace.toNat - fixed.toNat) / 100 *
        (100 - cachePercentage.get.toNat) < 2 ^ 64 :=
      (parts_le _ (Nat.sub_le _ _)).trans_lt (by omega)
    obtain ⟨hundredth, hundredthEq⟩ := (exists_toNat_eq (w := 64)
      (n := (allocatedSpace.toNat - fixed.toNat) / 100)).mpr (by omega)
    obtain ⟨percents, percentsEq⟩ := (exists_toNat_eq (w := 64)
      (n := 100 - cachePercentage.get.toNat)).mpr (by omega)
    obtain ⟨space, spaceEq⟩ := exists_toNat_eq.mpr product
    obtain ⟨perSector, perSectorEq⟩ := exists_toNat_eq.mpr sector
    have positive := sizes.perSector_pos maxPiecesInSector
    refine ⟨hundredth, ⟨by omega, hundredthEq⟩, percents, by omega, space,
      by rw [spaceEq, hundredthEq, percentsEq], perSector, perSectorEq,
      by rw [perSectorEq]; exact positive, ?_⟩
    rw [countEq, spaceEq, perSectorEq]
    rfl

theorem targetSectorCount_ok (sizes : FarmerSizes) (fixed allocatedSpace : BitVec 64)
    (cachePercentage : NonZeroU8) (maxPiecesInSector : BitVec 16)
    (percent : cachePercentage.get.toNat ≤ 100) :
    ∃ count, targetSectorCount sizes fixed allocatedSpace cachePercentage maxPiecesInSector =
      .ok count := by
  have small : units (allocatedSpace.toNat - fixed.toNat) 100 (100 - cachePercentage.get.toNat)
      (sizes.perSector maxPiecesInSector) < 2 ^ 64 := by
    have whole := allocatedSpace.isLt
    calc _ ≤ (allocatedSpace.toNat - fixed.toNat) / 100 * (100 - cachePercentage.get.toNat) :=
          Nat.div_le_self _ _
      _ ≤ allocatedSpace.toNat - fixed.toNat := parts_le _ (Nat.sub_le _ _)
      _ < 2 ^ 64 := by omega
  obtain ⟨count, countEq⟩ := exists_toNat_eq.mpr small
  exact ⟨count, targetSectorCount_eq_ok.mpr ⟨percent, countEq⟩⟩

/-- The count is computed without a fault and its sectors fit in the pledged space exactly for the
percentages up to 100. -/
theorem totalSectors_safe_iff (sizes : FarmerSizes) (allocatedSpace : BitVec 64)
    (cachePercentage : NonZeroU8) (maxPiecesInSector : BitVec 16) :
    (∃ count, totalSectors sizes allocatedSpace cachePercentage maxPiecesInSector = .ok count ∧
      count.toNat * sizes.perSector maxPiecesInSector ≤ allocatedSpace.toNat) ↔
      cachePercentage.get.toNat ≤ 100 := by
  obtain ⟨fixed, fixedOk⟩ := fixedSpaceUsage_ok sizes
  have same : totalSectors sizes allocatedSpace cachePercentage maxPiecesInSector =
      targetSectorCount sizes fixed allocatedSpace cachePercentage maxPiecesInSector := by
    rw [totalSectors, fixedOk]
    rfl
  rw [same]
  constructor
  · rintro ⟨count, ok, -⟩
    exact (targetSectorCount_eq_ok.mp ok).1
  · intro percent
    obtain ⟨count, ok⟩ := targetSectorCount_ok sizes fixed allocatedSpace cachePercentage
      maxPiecesInSector percent
    refine ⟨count, ok, ?_⟩
    rw [(targetSectorCount_eq_ok.mp ok).2]
    calc _ ≤ (allocatedSpace.toNat - fixed.toNat) / 100 * (100 - cachePercentage.get.toNat) :=
          units_mul_le _ _ _ _
      _ ≤ allocatedSpace.toNat - fixed.toNat := parts_le _ (Nat.sub_le _ _)
      _ ≤ allocatedSpace.toNat := Nat.sub_le _ _

/-- Sizes of the order of the real ones: a record of a sector takes a mebibyte. -/
def mebibyteRecords : FarmerSizes where
  identityFileSize := 66
  knownPeersFileSize := 8200
  sectorSize maxPiecesInSector := .ofNat 64 (maxPiecesInSector.toNat * 1048576 + 64)
  encodedMetadataSize := 80
  filesFit := by decide
  sectorFits maxPiecesInSector := by
    have := maxPiecesInSector.isLt
    rw [BitVec.toNat_ofNat, Nat.mod_eq_of_lt (by omega)]
    exact Nat.lt_of_lt_of_le (Nat.add_lt_add_right (by omega) _)
      (by decide : 65536 * 1048576 + 64 + 80 ≤ 2 ^ 64)
  metadataPositive := by decide

/-- A cache of 101 percent, which a `NonZeroU8` admits. -/
theorem totalSectors_cache101_unsafe :
    ¬∃ count, totalSectors mebibyteRecords 100000000000 ⟨101, by decide⟩ 1000 = .ok count ∧
      count.toNat * mebibyteRecords.perSector 1000 ≤ (100000000000 : BitVec 64).toNat := by
  have faults : totalSectors mebibyteRecords 100000000000 ⟨101, by decide⟩ 1000 =
    .error .subOverflow := rfl
  rintro ⟨count, ok, -⟩
  rw [faults] at ok
  cases ok

/-! ### The pledged space is accounted for -/

/-- What `count` sectors of `perSector` bytes leave of the pledged space, in exact arithmetic, with
`percents` of the space for the cache and `fixed` bytes for the other files. -/
structure Accounts (allocatedSpace fixed percents perSector count : Nat) : Prop where
  withinShare : (count * perSector : ℚ) ≤
    ((allocatedSpace - fixed : ℕ) : ℚ) * (100 - percents) / 100
  wastesLittle : ((allocatedSpace - fixed : ℕ) : ℚ) * (100 - percents) / 100 -
    count * perSector < perSector + (100 - percents)
  allFits : fixed ≤ allocatedSpace →
    (count * perSector : ℚ) + ((allocatedSpace - fixed : ℕ) : ℚ) * percents / 100 + fixed ≤
      allocatedSpace
  zeroIff : count = 0 ↔ (allocatedSpace - fixed) / 100 * (100 - percents) < perSector

theorem accounts_of_targetSectorCount
    (ok : targetSectorCount sizes fixed allocatedSpace cachePercentage maxPiecesInSector =
      .ok count) :
    Accounts allocatedSpace.toNat fixed.toNat cachePercentage.get.toNat
      (sizes.perSector maxPiecesInSector) count.toNat := by
  obtain ⟨percent, countEq⟩ := targetSectorCount_eq_ok.mp ok
  have positive := sizes.perSector_pos maxPiecesInSector
  have cast : ((100 - cachePercentage.get.toNat : ℕ) : ℚ) = 100 - cachePercentage.get.toNat := by
    rw [Nat.cast_sub percent]
    norm_num
  have share := units_mul_le_share (n := 100) (allocatedSpace.toNat - fixed.toNat)
    (100 - cachePercentage.get.toNat) (sizes.perSector maxPiecesInSector) (by decide)
  have waste := share_sub_lt (n := 100) (allocatedSpace.toNat - fixed.toNat)
    (100 - cachePercentage.get.toNat) (by decide) positive
  rw [← countEq, cast, Nat.cast_ofNat] at share waste
  refine ⟨share, waste, fun fits => ?_, ?_⟩
  · -- The shares of the sectors and of the cache are together the whole.
    have whole : ((allocatedSpace.toNat - fixed.toNat : ℕ) : ℚ) =
        allocatedSpace.toNat - fixed.toNat := Nat.cast_sub fits
    rw [whole] at share ⊢
    linarith
  · rw [countEq]
    exact units_eq_zero_iff positive

theorem targetSectorCount_mono {sizes' : FarmerSizes} {allocatedSpace' count' : BitVec 64}
    {cachePercentage' : NonZeroU8} {maxPiecesInSector' : BitVec 16}
    (ok : targetSectorCount sizes fixed allocatedSpace cachePercentage maxPiecesInSector =
      .ok count)
    (ok' : targetSectorCount sizes' fixed allocatedSpace' cachePercentage' maxPiecesInSector' =
      .ok count')
    (space : allocatedSpace.toNat ≤ allocatedSpace'.toNat)
    (percents : cachePercentage'.get.toNat ≤ cachePercentage.get.toNat)
    (size : sizes'.perSector maxPiecesInSector' ≤ sizes.perSector maxPiecesInSector) :
    count.toNat ≤ count'.toNat := by
  rw [(targetSectorCount_eq_ok.mp ok).2, (targetSectorCount_eq_ok.mp ok').2]
  exact units_mono (Nat.sub_le_sub_right space _) (Nat.sub_le_sub_left percents _)
    (sizes'.perSector_pos maxPiecesInSector') size

/-- The count that `Farm::new` computes accounts for the pledged space, and grows with the space
and shrinks with the percentage and with the size of a sector. -/
theorem targetSectorCount_accounts (sizes : FarmerSizes) (fixed allocatedSpace : BitVec 64)
    (cachePercentage : NonZeroU8) (maxPiecesInSector : BitVec 16)
    (percent : cachePercentage.get.toNat ≤ 100) :
    ∃ count,
      targetSectorCount sizes fixed allocatedSpace cachePercentage maxPiecesInSector = .ok count ∧
      Accounts allocatedSpace.toNat fixed.toNat cachePercentage.get.toNat
        (sizes.perSector maxPiecesInSector) count.toNat ∧
      ∀ (sizes' : FarmerSizes) (allocatedSpace' : BitVec 64) (cachePercentage' : NonZeroU8)
        (maxPiecesInSector' : BitVec 16),
        allocatedSpace.toNat ≤ allocatedSpace'.toNat →
        cachePercentage'.get.toNat ≤ cachePercentage.get.toNat →
        sizes'.perSector maxPiecesInSector' ≤ sizes.perSector maxPiecesInSector →
        ∃ count', targetSectorCount sizes' fixed allocatedSpace' cachePercentage'
          maxPiecesInSector' = .ok count' ∧ count.toNat ≤ count'.toNat := by
  obtain ⟨count, ok⟩ := targetSectorCount_ok sizes fixed allocatedSpace cachePercentage
    maxPiecesInSector percent
  refine ⟨count, ok, accounts_of_targetSectorCount ok, ?_⟩
  intro sizes' allocatedSpace' cachePercentage' maxPiecesInSector' space percents size
  obtain ⟨count', ok'⟩ := targetSectorCount_ok sizes' fixed allocatedSpace' cachePercentage'
    maxPiecesInSector' (percents.trans percent)
  exact ⟨count', ok', targetSectorCount_mono ok ok' space percents size⟩

theorem targetSectorCount_accounts_cache20 :
    ∃ count, targetSectorCount mebibyteRecords 2105418 100000000000 ⟨20, by decide⟩ 1000 =
        .ok count ∧
      Accounts 100000000000 2105418 20 (mebibyteRecords.perSector 1000) count.toNat := by
  obtain ⟨count, ok, accounts, -⟩ := targetSectorCount_accounts mebibyteRecords 2105418
    100000000000 ⟨20, by decide⟩ 1000 (by decide)
  exact ⟨count, ok, accounts⟩

end SubspaceSdk
