import SubspaceSdk.Substrate.Types

/-! Sizes in saved configurations: the description of a farm, the storage monitor, and which sizes
are the same when they are read back. -/

namespace SubspaceSdk

open ProofKit Codec

/-- Description of the farm. -/
structure FarmDescription where
  directory : PathBuf
  spacePledged : ByteSize
  deriving DecidableEq

namespace FarmDescription

def record (lib : Bytesize) : Record FarmDescription FarmDescription :=
  (Record.build FarmDescription.mk)
    |>.field "directory" directory PathBuf.codec .required
    |>.field "space_pledged" spacePledged (ByteSize.codec lib) .required

def codec (lib : Bytesize) : Codec FarmDescription := (record lib).codec

theorem restores_iff (lib : Bytesize) (farm : FarmDescription) :
    (codec lib).Restores farm
      ↔ farm.directory.IsUtf8 ∧ lib.Exact farm.spacePledged.inner := by
  rw [← PathBuf.restores_iff, ← ByteSize.codec_restores_iff]
  exact Record.pair_restores_iff (fun _ _ => rfl) (fun _ _ => rfl) (fun _ => rfl) (by decide)

/-- A farm that can be written is read back with the size that its size is read as. -/
theorem saved_eq (lib : Bytesize) {farm : FarmDescription} (utf8 : farm.directory.IsUtf8) :
    (codec lib).saved farm = (lib.fromStr (lib.display farm.spacePledged.inner)).map fun size =>
      { farm with spacePledged := ⟨size⟩ } := by
  have directory : PathBuf.codec.saved farm.directory = some farm.directory :=
    restores_iff_saved.mp ((PathBuf.restores_iff _).mpr utf8)
  have fields : (codec lib).saved farm = (PathBuf.codec.saved farm.directory).bind fun directory =>
      ((ByteSize.codec lib).saved farm.spacePledged).map (FarmDescription.mk directory) :=
    Record.pair_saved (by decide)
  rw [fields, directory, Option.bind_some, ByteSize.codec_saved, Option.map_map]
  rfl

end FarmDescription

theorem StorageMonitor.restores_iff (lib : Bytesize) (monitor : StorageMonitor) :
    (codec lib).Restores monitor ↔ lib.Exact monitor.threshold.inner := by
  have fields : (codec lib).Restores monitor ↔ (ByteSize.codec lib).Restores monitor.threshold ∧
      Duration.codec.Restores monitor.pollingPeriod :=
    Record.pair_restores_iff (fun _ _ => rfl) (fun _ _ => rfl) (fun _ => rfl) (by decide)
  rw [fields, ByteSize.codec_restores_iff, and_iff_left monitor.pollingPeriod.restores]

/-- A size is the same after it is written and read, as text, in its serde form, in a description
of a farm whose path can be written, and in a storage monitor, if and only if it is exact in the
text of the bytesize crate, as whole numbers of its units are. -/
theorem sizes_restored_iff (lib : Bytesize) (size : ByteSize) :
    (ByteSize.fromStr lib (size.display lib) = some size ↔ lib.Exact size.inner) ∧
    ((ByteSize.codec lib).Restores size ↔ lib.Exact size.inner) ∧
    (∀ directory : PathBuf, (FarmDescription.codec lib).Restores ⟨directory, size⟩
      ↔ directory.IsUtf8 ∧ lib.Exact size.inner) ∧
    (∀ pollingPeriod : Duration, (StorageMonitor.codec lib).Restores ⟨size, pollingPeriod⟩
      ↔ lib.Exact size.inner) ∧
    ∀ j, lib.unit size.inner ≠ .eb → size.inner.toNat = j * (lib.unit size.inner).bytes →
      size.inner.toNat < 2 ^ 53 → lib.Exact size.inner :=
  ⟨ByteSize.fromStr_display_iff lib size, ByteSize.codec_restores_iff lib size,
    fun directory => FarmDescription.restores_iff lib ⟨directory, size⟩,
    fun pollingPeriod => StorageMonitor.restores_iff lib ⟨size, pollingPeriod⟩,
    fun _ => lib.exact_of_whole⟩

/-! ### A size that is not -/

/-- The largest unit that is not larger than the size. -/
def largestUnit (n : BitVec 64) : SizeUnit :=
  if n.toNat < 10 ^ 6 then .kb
  else if n.toNat < 10 ^ 9 then .mb
  else if n.toNat < 10 ^ 12 then .gb
  else if n.toNat < 10 ^ 15 then .tb
  else if n.toNat < 10 ^ 18 then .pb
  else .eb

/-- The unit that ends a text, if it is larger than a byte. -/
def unitNamed : List Char → Option (Option SizeUnit)
  | [' ', 'B'] => some none
  | [' ', 'K', 'B'] => some (some .kb)
  | [' ', 'M', 'B'] => some (some .mb)
  | [' ', 'G', 'B'] => some (some .gb)
  | [' ', 'T', 'B'] => some (some .tb)
  | [' ', 'P', 'B'] => some (some .pb)
  | [' ', 'E', 'B'] => some (some .eb)
  | _ => none

/-- A number with at most one digit after the point, in tenths, and what follows it. -/
def readTenths (text : List Char) : Nat × List Char :=
  let whole := Nat.ofDigitChars 10 (text.takeWhile Char.isDigit) 0
  match text.dropWhile Char.isDigit with
  | '.' :: digit :: rest => (10 * whole + (digit.toNat - 48), rest)
  | rest => (10 * whole, rest)

def readSize (text : String) : Option (BitVec 64) :=
  let (tenths, rest) := readTenths text.toList
  (unitNamed rest).bind fun
    | some unit => unit.read tenths
    | none => some (.ofNat 64 (tenths / 10))

theorem digits_split (n : Nat) (c : Char) (rest : List Char) (stop : c.isDigit = false) :
    (Nat.toDigits 10 n ++ c :: rest).takeWhile Char.isDigit = Nat.toDigits 10 n ∧
    (Nat.toDigits 10 n ++ c :: rest).dropWhile Char.isDigit = c :: rest := by
  have digits : ∀ c ∈ Nat.toDigits 10 n, c.isDigit = true :=
    fun c mem => Nat.isDigit_of_mem_toDigits (by decide) (by decide) mem
  rw [List.takeWhile_append_of_pos digits, List.dropWhile_append_of_pos digits]
  simp [stop]

theorem tenthsText_toList (k : Nat) (unit : SizeUnit) :
    (tenthsText k unit).toList =
      Nat.toDigits 10 (k / 10) ++ '.' :: (k % 10).digitChar :: ' ' :: unit.name.toList := by
  have digit : Nat.toDigits 10 (k % 10) = [(k % 10).digitChar] :=
    Nat.toDigits_of_lt_base (Nat.mod_lt k (by decide))
  simp [tenthsText, digit]

theorem readTenths_tenthsText (k : Nat) (unit : SizeUnit) :
    readTenths (tenthsText k unit).toList = (k, ' ' :: unit.name.toList) := by
  obtain ⟨whole, rest⟩ := digits_split (k / 10) '.'
    ((k % 10).digitChar :: ' ' :: unit.name.toList) (by decide)
  rw [tenthsText_toList, readTenths, whole, rest, Nat.ofDigitChars_ten_toDigits]
  simp only [Nat.toNat_digitChar_sub_48_of_lt_ten (Nat.mod_lt k (by decide)), Prod.mk.injEq,
    and_true]
  exact Nat.div_add_mod k 10

theorem readTenths_small (n : Nat) :
    readTenths (Nat.repr n ++ " B").toList = (10 * n, [' ', 'B']) := by
  obtain ⟨whole, rest⟩ := digits_split n ' ' ['B'] (by decide)
  have text : (Nat.repr n ++ " B").toList = Nat.toDigits 10 n ++ [' ', 'B'] := by simp
  rw [text, readTenths, whole, rest, Nat.ofDigitChars_ten_toDigits]
  rfl

theorem unitNamed_name (unit : SizeUnit) :
    unitNamed (' ' :: unit.name.toList) = some (some unit) := by
  cases unit <;> simp [SizeUnit.name, unitNamed]

theorem largestUnit_large (n : BitVec 64) : n.toNat < 2048 * (largestUnit n).bytes := by
  have bound := n.isLt
  unfold largestUnit
  split_ifs <;> simp only [SizeUnit.bytes] <;> omega

/-- The crate with exact decimals where it writes them. -/
def decimalBytesize : Bytesize where
  display n :=
    if n.toNat < 1000 then Nat.repr n.toNat ++ " B"
    else tenthsText (nearestTenths n (largestUnit n)) (largestUnit n)
  fromStr := readSize
  unit := largestUnit
  unit_large := largestUnit_large
  reads_small n small := by
    rw [if_pos small, readSize, readTenths_small]
    simp [unitNamed]
  writes_tenths n large :=
    ⟨nearestTenths n (largestUnit n), if_neg (by omega), nearestTenths_near n (largestUnit n)⟩
  reads_tenths k unit _ := by
    rw [readSize, readTenths_tenthsText]
    dsimp only
    rw [unitNamed_name, Option.bind_some]

/-- 1234567 bytes are `1.2 MB`, which is read as 1200000 bytes. -/
theorem size_changed :
    ByteSize.display decimalBytesize ⟨1234567⟩ = tenthsText 12 .mb ∧
    ByteSize.fromStr decimalBytesize (ByteSize.display decimalBytesize ⟨1234567⟩)
      = some ⟨1200000⟩ ∧
    ¬ (ByteSize.codec decimalBytesize).Restores ⟨1234567⟩ ∧
    ¬ (FarmDescription.codec decimalBytesize).Restores ⟨⟨"farm".toUTF8⟩, ⟨1234567⟩⟩ ∧
    ¬ (StorageMonitor.codec decimalBytesize).Restores ⟨⟨1234567⟩, ⟨10, ⟨0, by decide⟩⟩⟩ := by
  have inexact : ¬ decimalBytesize.Exact 1234567 := by
    rintro (small | exactly)
    · exact absurd small (by decide)
    · exact absurd exactly (by decide +kernel)
  have text : ByteSize.display decimalBytesize ⟨1234567⟩ = tenthsText 12 .mb := rfl
  have read : ByteSize.fromStr decimalBytesize (tenthsText 12 .mb) = some ⟨1200000⟩ := by
    rw [ByteSize.fromStr, decimalBytesize.reads_tenths 12 .mb (by decide)]
    decide +kernel
  exact ⟨text, text ▸ read,
    fun back => inexact ((ByteSize.codec_restores_iff _ _).mp back),
    fun back => inexact ((FarmDescription.restores_iff _ _).mp back).2,
    fun back => inexact ((StorageMonitor.restores_iff _ _).mp back)⟩

/-! ### Saved more than once -/

namespace FarmDescription

/-- A farm that was saved and read back pledges a size close to the one that it had, and cannot be
read only where its size is written in exabytes; from then on it stays as it is, so long as its new
size is written in the same unit. -/
theorem saved_settles (lib : Bytesize) (farm : FarmDescription) (utf8 : farm.directory.IsUtf8) :
    ((codec lib).saved farm = none ↔
      1000 ≤ farm.spacePledged.inner.toNat ∧ lib.unit farm.spacePledged.inner = .eb) ∧
    ∀ farm', (codec lib).saved farm = some farm' → farm'.directory = farm.directory ∧
      (farm.spacePledged.inner.toNat < 1000 → farm' = farm) ∧
      500 * farm'.spacePledged.inner.toNat < 500 * farm.spacePledged.inner.toNat +
        31 * (lib.unit farm.spacePledged.inner).bytes ∧
      500 * farm.spacePledged.inner.toNat < 500 * farm'.spacePledged.inner.toNat +
        31 * (lib.unit farm.spacePledged.inner).bytes ∧
      (lib.unit farm'.spacePledged.inner = lib.unit farm.spacePledged.inner →
        (codec lib).saved farm' = some farm') := by
  rw [saved_eq lib utf8]
  refine ⟨?_, fun farm' saved => ?_⟩
  · rw [Option.map_eq_none_iff, lib.fromStr_display_eq_none_iff]
  · obtain ⟨size, read, rfl⟩ := Option.map_eq_some_iff.mp saved
    have near := lib.read_near read
    refine ⟨rfl, fun small => ?_, near.1, near.2, fun same => ?_⟩
    · rw [lib.reads_small _ small, Option.some.injEq] at read
      rw [← read]
    · rw [← restores_iff_saved, restores_iff]
      exact ⟨utf8, lib.exact_of_read read same⟩

/-- The farm of 1234567 bytes pledges 1200000 bytes from the first time on. -/
theorem saved_settles_farm : ∃ farm', (codec decimalBytesize).saved
    ⟨⟨"farm".toUTF8⟩, ⟨1234567⟩⟩ = some farm' ∧ farm'.spacePledged.inner = 1200000 ∧
      (codec decimalBytesize).saved farm' = some farm' := by
  have utf8 : PathBuf.IsUtf8 ⟨"farm".toUTF8⟩ := "farm".isValidUTF8
  have saved : (codec decimalBytesize).saved ⟨⟨"farm".toUTF8⟩, ⟨1234567⟩⟩ =
      some ⟨⟨"farm".toUTF8⟩, ⟨1200000⟩⟩ := by
    rw [saved_eq decimalBytesize utf8]
    have read : decimalBytesize.fromStr (decimalBytesize.display 1234567) = some 1200000 :=
      (decimalBytesize.reads_tenths 12 .mb (by decide)).trans (by decide +kernel)
    rw [read]
    rfl
  exact ⟨_, saved, rfl,
    ((saved_settles decimalBytesize _ utf8).2 _ saved).2.2.2.2 (by decide)⟩

end FarmDescription

end SubspaceSdk
