import SubspaceSdk.ProofKit.Json
import SubspaceSdk.ProofKit.Rounding

/-! `ByteSize`, the container for a number of bytes.  Its text form, which is also its form in saved
configurations, is the one of the bytesize crate: it keeps one digit after the point, and is read in
double precision. -/

namespace SubspaceSdk

open ProofKit

inductive SizeUnit where
  | kb
  | mb
  | gb
  | tb
  | pb
  | eb
  deriving Repr, DecidableEq

def SizeUnit.bytes : SizeUnit → Nat
  | kb => 10 ^ 3
  | mb => 10 ^ 6
  | gb => 10 ^ 9
  | tb => 10 ^ 12
  | pb => 10 ^ 15
  | eb => 10 ^ 18

def SizeUnit.name : SizeUnit → String
  | kb => "KB"
  | mb => "MB"
  | gb => "GB"
  | tb => "TB"
  | pb => "PB"
  | eb => "EB"

/-- Tenths of a unit as text, such as `1.2 MB`. -/
def tenthsText (k : Nat) (unit : SizeUnit) : String :=
  Nat.repr (k / 10) ++ "." ++ Nat.repr (k % 10) ++ " " ++ unit.name

/-- How many of the units of `SizeUnit.parsed` are one. -/
def doubleUnits : Nat := 2 ^ 56

/-- The double nearest to `k` tenths times the bytes of the unit, as a double.  The doubles from one
sixteenth on are whole multiples of `2 ^ -56`, in which they are counted here. -/
def SizeUnit.parsed (k : Nat) (unit : SizeUnit) : Nat :=
  Rounding.toBits 52 (Rounding.toBits 52 (k * doubleUnits) 10 * unit.bytes) 1

/-- How the bytesize crate reads tenths of a unit: as the product of two doubles, cut to an integer.
It knows no exabytes. -/
def SizeUnit.read (k : Nat) : SizeUnit → Option (BitVec 64)
  | .eb => none
  | unit => some (.ofNat 64 (min (unit.parsed k / doubleUnits) (2 ^ 64 - 1)))

/-- 32.3 times 1000 is less than 32300 in double precision. -/
example : SizeUnit.read 323 .kb = some 32299 := by decide +kernel

/-- The tenths of a unit that are nearest to the size. -/
def nearestTenths (n : BitVec 64) (unit : SizeUnit) : Nat :=
  (10 * n.toNat + unit.bytes / 2) / unit.bytes

/-- The bytesize crate: the text of a size, the size of a text, and the unit of the text.  A size of
at least one unit is written as tenths of a unit, not much more than half a tenth away from it. -/
structure Bytesize where
  display : BitVec 64 → String
  fromStr : String → Option (BitVec 64)
  unit : BitVec 64 → SizeUnit
  unit_large : ∀ n : BitVec 64, n.toNat < 2048 * (unit n).bytes
  reads_small : ∀ n : BitVec 64, n.toNat < 1000 → fromStr (display n) = some n
  writes_tenths : ∀ n : BitVec 64, 1000 ≤ n.toNat → ∃ k, display n = tenthsText k (unit n) ∧
    5 * (k * (unit n).bytes) < 50 * n.toNat + 3 * (unit n).bytes ∧
    50 * n.toNat < 5 * (k * (unit n).bytes) + 3 * (unit n).bytes
  reads_tenths : ∀ k (unit : SizeUnit), k < 2 ^ 64 → fromStr (tenthsText k unit) = unit.read k

/-- The size is below one unit, or the double-precision product that stands for the nearest tenths
of its unit is the size, but for a fraction of a byte. -/
def Bytesize.Exact (lib : Bytesize) (n : BitVec 64) : Prop :=
  n.toNat < 1000 ∨ (lib.unit n).read (nearestTenths n (lib.unit n)) = some n

instance (lib : Bytesize) (n : BitVec 64) : Decidable (lib.Exact n) :=
  inferInstanceAs (Decidable (_ ∨ _))

structure ByteSize where
  inner : BitVec 64
  deriving DecidableEq

def ByteSize.display (lib : Bytesize) (size : ByteSize) : String := lib.display size.inner

def ByteSize.fromStr (lib : Bytesize) (s : String) : Option ByteSize :=
  (lib.fromStr s).map ByteSize.mk

/-- `bytesize_serde` in a human-readable format. -/
def bytesizeSerde (lib : Bytesize) : Codec (BitVec 64) := .text lib.display lib.fromStr

def ByteSize.codec (lib : Bytesize) : Codec ByteSize :=
  (bytesizeSerde lib).map ByteSize.mk ByteSize.inner

/-! ### What survives -/

variable {lib : Bytesize} {n : BitVec 64}

/-- The bounds of the two roundings, for few tenths. -/
theorem SizeUnit.parsed_near {k : Nat} (unit : SizeUnit) (few : k ≤ 20480) :
    2 ^ 36 * (k * unit.bytes * doubleUnits) ≤
        2 ^ 36 * (10 * unit.parsed k) + unit.bytes * doubleUnits ∧
      2 ^ 36 * (10 * unit.parsed k) ≤
        2 ^ 36 * (k * unit.bytes * doubleUnits) + unit.bytes * doubleUnits := by
  have number := Rounding.toBits_near 52 (k * doubleUnits) (q := 10) (by decide)
  unfold parsed
  generalize Rounding.toBits 52 (k * doubleUnits) 10 = d at number
  have product := Rounding.toBits_near 52 (d * unit.bytes) (q := 1) (by decide)
  generalize Rounding.toBits 52 (d * unit.bytes) 1 = p at product
  unfold doubleUnits at number ⊢
  cases unit <;> simp only [bytes] at product ⊢ <;> omega

/-- What is read is within a fiftieth of a tenth of what was written. -/
theorem SizeUnit.read_near {k : Nat} {unit : SizeUnit} (few : k ≤ 20480)
    (read : unit.read k = some n) :
    50 * (k * unit.bytes) < 500 * n.toNat + unit.bytes ∧
      500 * n.toNat < 50 * (k * unit.bytes) + unit.bytes := by
  have near := unit.parsed_near few
  have cut : n.toNat = min (unit.parsed k / doubleUnits) (2 ^ 64 - 1) ∧ unit ≠ .eb := by
    cases unit with
    | eb => cases read
    | kb | mb | gb | tb | pb =>
      cases read
      refine ⟨?_, nofun⟩
      rw [BitVec.toNat_ofNat]
      exact Nat.mod_eq_of_lt (Nat.lt_of_le_of_lt (Nat.min_le_right _ _) (by decide))
  obtain ⟨same, known⟩ := cut
  generalize unit.parsed k = p at near same
  unfold doubleUnits at near same
  cases unit <;> first | exact absurd rfl known | (simp only [bytes] at near ⊢; omega)

theorem SizeUnit.read_eq_none_iff {k : Nat} {unit : SizeUnit} :
    unit.read k = none ↔ unit = .eb := by
  cases unit <;> simp [read]

/-- Tenths that are less than half a tenth away from a size are its nearest ones. -/
theorem nearestTenths_eq {k : Nat} {unit : SizeUnit}
    (below : 2 * (k * unit.bytes) < 20 * n.toNat + unit.bytes)
    (above : 20 * n.toNat < 2 * (k * unit.bytes) + unit.bytes) : nearestTenths n unit = k := by
  unfold nearestTenths
  cases unit <;> simp only [SizeUnit.bytes] at below above ⊢ <;> omega

theorem nearestTenths_le {unit : SizeUnit} (large : n.toNat < 2048 * unit.bytes) :
    nearestTenths n unit ≤ 20480 := by
  unfold nearestTenths
  cases unit <;> simp only [SizeUnit.bytes] at large ⊢ <;> omega

/-- The nearest tenths are at most half a tenth away. -/
theorem nearestTenths_near (n : BitVec 64) (unit : SizeUnit) :
    5 * (nearestTenths n unit * unit.bytes) < 50 * n.toNat + 3 * unit.bytes ∧
      50 * n.toNat < 5 * (nearestTenths n unit * unit.bytes) + 3 * unit.bytes := by
  unfold nearestTenths
  cases unit <;> simp only [SizeUnit.bytes] <;> omega

/-- What is read of the text of a size: the tenths that were written. -/
theorem Bytesize.fromStr_display (lib : Bytesize) (large : 1000 ≤ n.toNat) : ∃ k ≤ 20480,
    lib.fromStr (lib.display n) = (lib.unit n).read k ∧
      5 * (k * (lib.unit n).bytes) < 50 * n.toNat + 3 * (lib.unit n).bytes ∧
      50 * n.toNat < 5 * (k * (lib.unit n).bytes) + 3 * (lib.unit n).bytes := by
  obtain ⟨k, text, below, above⟩ := lib.writes_tenths n large
  have few : k ≤ 20480 := by
    have bound := lib.unit_large n
    generalize lib.unit n = unit at below bound
    cases unit <;> simp only [SizeUnit.bytes] at below bound <;> omega
  exact ⟨k, few, by rw [text, lib.reads_tenths k _ (by omega)], below, above⟩

theorem Bytesize.reads_iff (lib : Bytesize) (n : BitVec 64) :
    lib.fromStr (lib.display n) = some n ↔ lib.Exact n := by
  by_cases small : n.toNat < 1000
  · exact iff_of_true (lib.reads_small n small) (.inl small)
  obtain ⟨k, few, text, below, above⟩ := lib.fromStr_display (Nat.le_of_not_lt small)
  have bound := lib.unit_large n
  rw [text, Exact, or_iff_right small]
  generalize lib.unit n = unit at below above bound
  constructor
  · intro read
    have ⟨low, high⟩ := SizeUnit.read_near few read
    rwa [nearestTenths_eq (k := k) (by omega) (by omega)]
  · intro read
    have ⟨low, high⟩ := SizeUnit.read_near (nearestTenths_le bound) read
    -- two tenths that are both near the size are the same
    have same : nearestTenths n unit = k := by
      generalize nearestTenths n unit = m at low high
      cases unit <;> simp only [SizeUnit.bytes] at low high below above <;> omega
    rwa [same] at read

theorem Bytesize.fromStr_display_eq_none_iff (lib : Bytesize) (n : BitVec 64) :
    lib.fromStr (lib.display n) = none ↔ 1000 ≤ n.toNat ∧ lib.unit n = .eb := by
  by_cases small : n.toNat < 1000
  · rw [lib.reads_small n small]
    exact iff_of_false nofun fun unread => by omega
  · obtain ⟨k, -, text, -⟩ := lib.fromStr_display (Nat.le_of_not_lt small)
    rw [text, SizeUnit.read_eq_none_iff, and_iff_right (Nat.le_of_not_lt small)]

/-- How far a size may be from the one that was written. -/
theorem Bytesize.read_near (lib : Bytesize) {m : BitVec 64}
    (read : lib.fromStr (lib.display n) = some m) :
    500 * m.toNat < 500 * n.toNat + 31 * (lib.unit n).bytes ∧
      500 * n.toNat < 500 * m.toNat + 31 * (lib.unit n).bytes := by
  by_cases small : n.toNat < 1000
  · rw [lib.reads_small n small, Option.some.injEq] at read
    subst read
    generalize lib.unit n = unit
    cases unit <;> simp only [SizeUnit.bytes] <;> omega
  · obtain ⟨k, few, text, below, above⟩ := lib.fromStr_display (Nat.le_of_not_lt small)
    rw [text] at read
    have ⟨low, high⟩ := SizeUnit.read_near few read
    omega

/-- A size that was read stays as it is, in a text with the same unit. -/
theorem Bytesize.exact_of_read (lib : Bytesize) {m : BitVec 64}
    (read : lib.fromStr (lib.display n) = some m) (same : lib.unit m = lib.unit n) :
    lib.Exact m := by
  by_cases small : n.toNat < 1000
  · rw [lib.reads_small n small, Option.some.injEq] at read
    exact .inl (read ▸ small)
  · obtain ⟨k, few, text, -⟩ := lib.fromStr_display (Nat.le_of_not_lt small)
    rw [text] at read
    have ⟨low, high⟩ := SizeUnit.read_near few read
    right
    rwa [same, nearestTenths_eq (k := k) (by omega) (by omega)]

/-- A whole number of units is read exactly, as far as doubles count in bytes. -/
theorem Bytesize.exact_of_whole (lib : Bytesize) {n : BitVec 64} {j : Nat}
    (known : lib.unit n ≠ .eb) (whole : n.toNat = j * (lib.unit n).bytes)
    (small : n.toNat < 2 ^ 53) : lib.Exact n := by
  right
  generalize lib.unit n = unit at known whole
  have tenths : nearestTenths n unit = 10 * j :=
    nearestTenths_eq (by cases unit <;> simp only [SizeUnit.bytes] at whole ⊢ <;> omega)
      (by cases unit <;> simp only [SizeUnit.bytes] at whole ⊢ <;> omega)
  have few : j < 2 ^ 53 := by
    cases unit <;> simp only [SizeUnit.bytes] at whole <;> omega
  have number : Rounding.toBits 52 (10 * j * doubleUnits) 10 = j * doubleUnits := by
    rw [Nat.mul_assoc, Nat.mul_comm 10]
    exact Rounding.toBits_exact (by decide) few
  have product : unit.parsed (10 * j) = n.toNat * doubleUnits := by
    have kept : Rounding.toBits 52 (n.toNat * doubleUnits * 1) 1 = n.toNat * doubleUnits :=
      Rounding.toBits_exact (by decide) small
    rw [SizeUnit.parsed, number, Nat.mul_right_comm, ← whole]
    rwa [Nat.mul_one] at kept
  have read : min (unit.parsed (10 * j) / doubleUnits) (2 ^ 64 - 1) = n.toNat := by
    rw [product, Nat.mul_div_cancel _ (by decide)]
    omega
  rw [tenths]
  cases unit with
  | eb => exact absurd rfl known
  | kb | mb | gb | tb | pb =>
    show some (BitVec.ofNat 64 (min _ _)) = _
    rw [read, BitVec.ofNat_toNat, BitVec.setWidth_eq]

theorem ByteSize.fromStr_display_iff (lib : Bytesize) (size : ByteSize) :
    ByteSize.fromStr lib (size.display lib) = some size ↔ lib.Exact size.inner := by
  rw [← lib.reads_iff]
  constructor
  · intro back
    obtain ⟨n, read, rfl⟩ := Option.map_eq_some_iff.mp back
    exact read
  · intro read
    exact Option.map_eq_some_iff.mpr ⟨size.inner, read, rfl⟩

theorem ByteSize.codec_saved (lib : Bytesize) (size : ByteSize) : (ByteSize.codec lib).saved size =
    (lib.fromStr (lib.display size.inner)).map ByteSize.mk := by
  rw [ByteSize.codec, Codec.map_saved, bytesizeSerde, Codec.text_saved]

theorem ByteSize.codec_restores_iff (lib : Bytesize) (size : ByteSize) :
    (ByteSize.codec lib).Restores size ↔ lib.Exact size.inner := by
  rw [ByteSize.codec, Codec.map_restores_iff (fun _ => rfl) rfl, bytesizeSerde,
    Codec.text_restores_iff, lib.reads_iff]

end SubspaceSdk
