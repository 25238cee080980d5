import Mathlib.Tactic.Ring

/-! Rounding to nearest, ties to even, over natural numbers.  A number in binary floating point is
kept in units of a power of two so small that all the numbers of interest are multiples of it. -/

namespace ProofKit.Rounding

variable {p q m s : Nat}

/-- The whole number nearest to `p / q`, and the even one of two. -/
def nearest (p q : Nat) : Nat :=
  if 2 * (p % q) < q ∨ 2 * (p % q) = q ∧ p / q % 2 = 0 then p / q else p / q + 1

theorem nearest_near (p : Nat) (positive : 0 < q) :
    2 * p ≤ 2 * (nearest p q * q) + q ∧ 2 * (nearest p q * q) ≤ 2 * p + q := by
  have split := Nat.div_add_mod' p q
  have rest := Nat.mod_lt p positive
  unfold nearest
  split_ifs with low
  · omega
  · rw [Nat.add_mul, Nat.one_mul]
    omega

theorem nearest_mul (m : Nat) (positive : 0 < q) : nearest (m * q) q = m := by
  rw [nearest, Nat.mul_mod_left, Nat.mul_div_cancel m positive, if_pos (.inl positive)]

/-- The step between the numbers with `fraction` bits after the first one, at `p / q`. -/
def step (fraction p q : Nat) : Nat := 2 ^ ((p / q).log2 - fraction)

/-- The number with `fraction` bits after the first one that is nearest to `p / q`. -/
def toBits (fraction p q : Nat) : Nat :=
  nearest p (q * step fraction p q) * step fraction p q

theorem step_pos (fraction p q : Nat) : 0 < step fraction p q := Nat.two_pow_pos _

/-- The step is small against the number, unless it is one. -/
theorem step_le (fraction p q : Nat) :
    2 ^ fraction * (q * step fraction p q) ≤ p + 2 ^ fraction * q := by
  rcases Nat.lt_or_ge fraction (p / q).log2 with wide | narrow
  · have lead : 2 ^ fraction * step fraction p q = 2 ^ (p / q).log2 := by
      rw [step, ← Nat.pow_add, Nat.add_sub_cancel' wide.le]
    have some : p / q ≠ 0 := by
      intro none
      rw [none] at wide
      exact absurd wide (Nat.not_lt_zero _)
    calc 2 ^ fraction * (q * step fraction p q)
      _ = 2 ^ (p / q).log2 * q := by rw [← lead]; ring
      _ ≤ p / q * q := Nat.mul_le_mul_right q (Nat.log2_self_le some)
      _ ≤ p := Nat.div_mul_le_self p q
      _ ≤ p + 2 ^ fraction * q := Nat.le_add_right _ _
  · rw [step, Nat.sub_eq_zero_of_le narrow, Nat.pow_zero, Nat.mul_one]
    exact Nat.le_add_left _ _

/-- Rounding moves a number by at most half a step. -/
theorem toBits_near (fraction p : Nat) (positive : 0 < q) :
    2 ^ fraction * (2 * p) ≤ 2 ^ fraction * (2 * (toBits fraction p q * q)) +
        (p + 2 ^ fraction * q) ∧
      2 ^ fraction * (2 * (toBits fraction p q * q)) ≤ 2 ^ fraction * (2 * p) +
        (p + 2 ^ fraction * q) := by
  have ⟨below, above⟩ := nearest_near p (Nat.mul_pos positive (step_pos fraction p q))
  have small := step_le fraction p q
  have same : nearest p (q * step fraction p q) * (q * step fraction p q) =
      toBits fraction p q * q := by
    rw [toBits]
    ring
  rw [same] at below above
  have below := Nat.mul_le_mul_left (2 ^ fraction) below
  have above := Nat.mul_le_mul_left (2 ^ fraction) above
  rw [Nat.mul_add] at below above
  exact ⟨below.trans (Nat.add_le_add_left small _), above.trans (Nat.add_le_add_left small _)⟩

/-- A number that has no more bits stays as it is. -/
theorem toBits_exact {fraction : Nat} (positive : 0 < q) (few : m < 2 ^ (fraction + 1)) :
    toBits fraction (m * 2 ^ s * q) q = m * 2 ^ s := by
  have shift : (m * 2 ^ s).log2 - fraction ≤ s := by
    rcases Nat.eq_zero_or_pos m with rfl | some
    · simp
    · have fits : m * 2 ^ s < 2 ^ (fraction + 1 + s) := by
        rw [Nat.pow_add 2 (fraction + 1)]
        exact Nat.mul_lt_mul_of_pos_right few (Nat.two_pow_pos s)
      have bits := (Nat.log2_lt (Nat.mul_pos some (Nat.two_pow_pos s)).ne').mpr fits
      omega
  have whole : m * 2 ^ s * q / q = m * 2 ^ s := Nat.mul_div_cancel _ positive
  have split : 2 ^ s = 2 ^ (s - ((m * 2 ^ s).log2 - fraction)) *
      2 ^ ((m * 2 ^ s).log2 - fraction) := by
    rw [← Nat.pow_add, Nat.sub_add_cancel shift]
  rw [toBits, step, whole]
  generalize (m * 2 ^ s).log2 - fraction = t at split
  have multiple : m * 2 ^ s * q = m * 2 ^ (s - t) * (q * 2 ^ t) := by
    rw [split]
    ring
  rw [multiple, nearest_mul _ (Nat.mul_pos positive (Nat.two_pow_pos t)), Nat.mul_assoc, ← split]

end ProofKit.Rounding
