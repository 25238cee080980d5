import Mathlib.Data.Nat.Cast.Order.Ring
import Mathlib.Data.Rat.Cast.Order
import Mathlib.Algebra.Order.Field.Rat
import Mathlib.Tactic.Linarith
import Mathlib.Tactic.Ring

/-! Unsigned words of any width, with arithmetic that faults where the exact result does not fit.
Each operation has one lemma, which says that it gives a word exactly when that word is the exact
result; a computation made of them is then read off as equations between natural numbers.  The last
part bounds what two truncating divisions around a product lose. -/

namespace ProofKit

variable {w : Nat} {α : Type}

/-- Why an operation on words or on a list has no result. -/
inductive Fault where
  | addOverflow
  | subOverflow
  | mulOverflow
  | divideByZero
  | shiftOverflow
  | indexOutOfBounds
  | sliceOutOfBounds
  deriving Repr, DecidableEq

namespace Checked

def add (x y : BitVec w) : Except Fault (BitVec w) :=
  if x.toNat + y.toNat < 2 ^ w then .ok (x + y) else .error .addOverflow

def sub (x y : BitVec w) : Except Fault (BitVec w) :=
  if y.toNat ≤ x.toNat then .ok (x - y) else .error .subOverflow

def mul (x y : BitVec w) : Except Fault (BitVec w) :=
  if x.toNat * y.toNat < 2 ^ w then .ok (x * y) else .error .mulOverflow

def div (x y : BitVec w) : Except Fault (BitVec w) :=
  if 0 < y.toNat then .ok (x / y) else .error .divideByZero

def shl (x : BitVec w) (n : Nat) : Except Fault (BitVec w) :=
  if n < w then .ok (x <<< n) else .error .shiftOverflow

def shr (x : BitVec w) (n : Nat) : Except Fault (BitVec w) :=
  if n < w then .ok (x >>> n) else .error .shiftOverflow

/-- The element of a list at an index. -/
def index (as : List α) (i : Nat) : Except Fault α :=
  match as[i]? with
  | some a => .ok a
  | none => .error .indexOutOfBounds

/-- The elements of a list from `i` on and before `j`. -/
def slice (as : List α) (i j : Nat) : Except Fault (List α) :=
  if i ≤ j ∧ j ≤ as.length then .ok ((as.take j).drop i) else .error .sliceOutOfBounds

/-- Subtraction that stops at zero. -/
def saturatingSub (x y : BitVec w) : BitVec w := if y.toNat ≤ x.toNat then x - y else 0

@[simp] theorem ok_bind {ε β : Type} (a : α) (f : α → Except ε β) : (.ok a >>= f) = f a := rfl

@[simp] theorem error_bind {ε β : Type} (e : ε) (f : α → Except ε β) :
    (.error e >>= f) = .error e := rfl

theorem bind_eq_ok {ε β : Type} {x : Except ε α} {f : α → Except ε β} {b : β} :
    x >>= f = .ok b ↔ ∃ a, x = .ok a ∧ f a = .ok b := by
  cases x with
  | error e => exact ⟨fun h => (nomatch h), fun ⟨_, h, _⟩ => (nomatch h)⟩
  | ok a => exact ⟨fun h => ⟨a, rfl, h⟩, fun ⟨_, same, h⟩ => by cases same; exact h⟩

/-- Every result of a list of computations is that of one of them. -/
theorem exists_of_mapM_eq_ok {ε β : Type} {f : α → Except ε β} {as : List α} {bs : List β}
    (computed : as.mapM f = .ok bs) : ∀ b ∈ bs, ∃ a ∈ as, f a = .ok b := by
  induction as generalizing bs with
  | nil =>
    cases computed
    exact nofun
  | cons a as ih =>
    simp only [List.mapM_cons, bind_eq_ok] at computed
    obtain ⟨b, first, rest, others, same⟩ := computed
    cases same
    intro b' mem
    rcases List.mem_cons.mp mem with rfl | mem
    · exact ⟨a, List.mem_cons_self, first⟩
    · obtain ⟨a', inside, found⟩ := ih others b' mem
      exact ⟨a', List.mem_cons_of_mem _ inside, found⟩

theorem add_eq_ok {x y z : BitVec w} : add x y = .ok z ↔ z.toNat = x.toNat + y.toNat := by
  have bound := z.isLt
  rw [add]
  split
  next fits =>
    rw [Except.ok.injEq, ← BitVec.toNat_inj, BitVec.toNat_add, Nat.mod_eq_of_lt fits]
    exact eq_comm
  next large => exact ⟨fun h => (nomatch h), fun h => by omega⟩

theorem sub_eq_ok {x y z : BitVec w} : sub x y = .ok z ↔ z.toNat + y.toNat = x.toNat := by
  rw [sub]
  split
  next fits =>
    rw [Except.ok.injEq, ← BitVec.toNat_inj, BitVec.toNat_sub_of_le fits]
    omega
  next small => exact ⟨fun h => (nomatch h), fun h => by omega⟩

theorem mul_eq_ok {x y z : BitVec w} : mul x y = .ok z ↔ z.toNat = x.toNat * y.toNat := by
  have bound := z.isLt
  rw [mul]
  split
  next fits =>
    rw [Except.ok.injEq, ← BitVec.toNat_inj, BitVec.toNat_mul, Nat.mod_eq_of_lt fits]
    exact eq_comm
  next large => exact ⟨fun h => (nomatch h), fun h => by omega⟩

theorem div_eq_ok {x y z : BitVec w} :
    div x y = .ok z ↔ 0 < y.toNat ∧ z.toNat = x.toNat / y.toNat := by
  rw [div]
  split
  next positive =>
    rw [Except.ok.injEq, ← BitVec.toNat_inj, BitVec.toNat_udiv, and_iff_right positive]
    exact eq_comm
  next zero => exact ⟨fun h => (nomatch h), fun h => absurd h.1 zero⟩

theorem slice_zero {as : List α} {j : Nat} (stop : j ≤ as.length) :
    slice as 0 j = .ok (as.take j) := if_pos ⟨Nat.zero_le j, stop⟩

theorem slice_length {as : List α} {i : Nat} (start : i ≤ as.length) :
    slice as i as.length = .ok (as.drop i) := by
  rw [slice, if_pos ⟨start, Nat.le_refl _⟩, List.take_length]

@[simp] theorem toNat_saturatingSub (x y : BitVec w) :
    (saturatingSub x y).toNat = x.toNat - y.toNat := by
  rw [saturatingSub]
  split
  next fits => exact BitVec.toNat_sub_of_le fits
  next small => simp; omega

theorem exists_toNat_eq {n : Nat} : (∃ z : BitVec w, z.toNat = n) ↔ n < 2 ^ w := by
  constructor
  · rintro ⟨z, rfl⟩
    exact z.isLt
  · intro small
    exact ⟨.ofNat w n, by rw [BitVec.toNat_ofNat, Nat.mod_eq_of_lt small]⟩

end Checked

/-! ### Truncating divisions around a product -/

namespace Truncation

/-- The units of size `u` that fit in `k` parts of every `n` of `s`, as integer arithmetic computes
it. -/
def units (s n k u : Nat) : Nat := s / n * k / u

variable {s s' n k k' u u' : Nat}

theorem parts_le (s : Nat) (parts : k ≤ n) : s / n * k ≤ s :=
  (Nat.mul_le_mul_left _ parts).trans (Nat.div_mul_le_self s n)

theorem units_mul_le (s n k u : Nat) : units s n k u * u ≤ s / n * k := Nat.div_mul_le_self _ _

theorem units_mul_le_share (s k u : Nat) (positive : 0 < n) :
    (units s n k u * u : ℚ) ≤ s * k / n := by
  have whole : n * (units s n k u * u) ≤ s * k :=
    calc n * (units s n k u * u) ≤ n * (s / n * k) := Nat.mul_le_mul_left n (units_mul_le s n k u)
      _ = s / n * n * k := by ring
      _ ≤ s * k := Nat.mul_le_mul_right k (Nat.div_mul_le_self s n)
  have scaled : (n * (units s n k u * u) : ℚ) ≤ s * k := by exact_mod_cast whole
  rw [le_div_iff₀ (by exact_mod_cast positive), mul_comm]
  exact scaled

/-- The first division loses less than one for each of the `k` parts, the second less than one
unit. -/
theorem share_sub_lt (s k : Nat) (positive : 0 < n) (unit : 0 < u) :
    (s * k / n : ℚ) - units s n k u * u < u + k := by
  have first : s * k ≤ n * (s / n * k) + n * k := by
    have split := Nat.div_add_mod s n
    have rest := Nat.mod_lt s positive
    calc s * k = (n * (s / n) + s % n) * k := by rw [split]
      _ ≤ (n * (s / n) + n) * k := Nat.mul_le_mul_right k (by omega)
      _ = n * (s / n * k) + n * k := by ring
  have second : s / n * k < units s n k u * u + u := by
    have split := Nat.div_add_mod (s / n * k) u
    have rest := Nat.mod_lt (s / n * k) unit
    rw [units, mul_comm (s / n * k / u) u]
    omega
  have whole : s * k < n * (units s n k u * u + u + k) := by
    have grows := Nat.mul_lt_mul_of_pos_left second positive
    calc s * k ≤ n * (s / n * k) + n * k := first
      _ < n * (units s n k u * u + u) + n * k := Nat.add_lt_add_right grows _
      _ = n * (units s n k u * u + u + k) := by ring
  have cast : (s * k : ℚ) < n * (units s n k u * u + u + k) := by exact_mod_cast whole
  rw [sub_lt_iff_lt_add, div_lt_iff₀ (by exact_mod_cast positive)]
  linarith

theorem units_mono (space : s ≤ s') (parts : k ≤ k') (unit : 0 < u') (size : u' ≤ u) :
    units s n k u ≤ units s' n k' u' :=
  calc units s n k u ≤ s' / n * k' / u :=
        Nat.div_le_div_right (Nat.mul_le_mul (Nat.div_le_div_right space) parts)
    _ ≤ units s' n k' u' := Nat.div_le_div_left size unit

theorem units_eq_zero_iff (unit : 0 < u) : units s n k u = 0 ↔ s / n * k < u := by
  rw [units, Nat.div_eq_zero_iff]
  omega

end Truncation

end ProofKit
