import Mathlib.Algebra.Ring.Nat

/-! Amounts that are paid in equal instalments: from a start on, one at the end of each of a number
of periods.  Times and amounts are natural numbers. -/

namespace ProofKit

structure Instalments where
  start : Nat
  period : Nat
  count : Nat
  each : Nat
  deriving Repr, DecidableEq

namespace Instalments

variable {s : Instalments} {t t' : Nat}

/-- The whole periods from the start to a time. -/
def periods (s : Instalments) (t : Nat) : Nat := (t - s.start) / s.period

/-- What is paid by a time. -/
def paid (s : Instalments) (t : Nat) : Nat := s.each * min s.count (s.periods t)

def total (s : Instalments) : Nat := s.each * s.count

/-- What is still to be paid at a time. -/
def due (s : Instalments) (t : Nat) : Nat := s.total - s.paid t

theorem paid_le_total (s : Instalments) (t : Nat) : s.paid t ≤ s.total :=
  Nat.mul_le_mul_left _ (Nat.min_le_left _ _)

theorem paid_add_due (s : Instalments) (t : Nat) : s.paid t + s.due t = s.total :=
  Nat.add_sub_cancel' (s.paid_le_total t)

theorem paid_mono (s : Instalments) (later : t ≤ t') : s.paid t ≤ s.paid t' := by
  have elapsed : s.periods t ≤ s.periods t' := Nat.div_le_div_right (by omega)
  exact Nat.mul_le_mul_left _ (by omega)

/-- Nothing is paid before the end of the first period. -/
theorem paid_eq_zero (early : t < s.start + s.period) : s.paid t = 0 := by
  have none : s.periods t = 0 := Nat.div_eq_zero_iff.mpr (by omega)
  rw [paid, none, Nat.min_zero, Nat.mul_zero]

/-- Everything is paid from the end of the last period on. -/
theorem paid_eq_total (positive : 0 < s.period) (late : s.start + s.count * s.period ≤ t) :
    s.paid t = s.total := by
  have all : s.count ≤ s.periods t := (Nat.le_div_iff_mul_le positive).mpr (by omega)
  rw [paid, total, Nat.min_eq_left all]

/-! ### Several series -/

def paidAll (series : List Instalments) (t : Nat) : Nat := (series.map (·.paid t)).sum

def dueAll (series : List Instalments) (t : Nat) : Nat := (series.map (·.due t)).sum

def totalAll (series : List Instalments) : Nat := (series.map total).sum

theorem paidAll_add_dueAll (series : List Instalments) (t : Nat) :
    paidAll series t + dueAll series t = totalAll series := by
  induction series with
  | nil => rfl
  | cons s rest ih =>
    have first := s.paid_add_due t
    simp only [paidAll, dueAll, totalAll, List.map_cons, List.sum_cons] at ih ⊢
    omega

theorem paidAll_mono (series : List Instalments) (later : t ≤ t') :
    paidAll series t ≤ paidAll series t' := by
  induction series with
  | nil => exact Nat.le_refl 0
  | cons s rest ih =>
    have first := s.paid_mono later
    simp only [paidAll, List.map_cons, List.sum_cons] at ih ⊢
    omega

end Instalments

end ProofKit
