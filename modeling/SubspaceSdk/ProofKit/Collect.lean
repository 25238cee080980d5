import Mathlib.Data.List.Forall2

/-! Lookups collected all or nothing: they are made in order, and the first that finds nothing ends
them. -/

namespace ProofKit

variable {α β : Type} {get : α → Option β} {as : List α} {bs : List β} {n : Nat}

/-- What `get` finds for all of a list, or nothing. -/
def collect (get : α → Option β) : List α → Option (List β)
  | [] => some []
  | a :: as =>
    match get a with
    | some b => (collect get as).map (b :: ·)
    | none => none

/-- The part of a list that is looked up. -/
def asked (get : α → Option β) : List α → List α
  | [] => []
  | a :: as => a :: if (get a).isSome then asked get as else []

theorem collect_cons_of_some {a : α} {b : β} (found : get a = some b) :
    collect get (a :: as) = (collect get as).map (b :: ·) := by
  simp only [collect, found]

theorem collect_cons_of_none {a : α} (missing : get a = none) :
    collect get (a :: as) = none := by
  simp only [collect, missing]

theorem collect_eq_some_iff :
    collect get as = some bs ↔ List.Forall₂ (fun a b => get a = some b) as bs := by
  induction as generalizing bs with
  | nil => simp [collect, eq_comm]
  | cons a as ih =>
    rw [List.forall₂_cons_left_iff]
    cases found : get a with
    | none => simp [collect_cons_of_none found]
    | some b =>
      rw [collect_cons_of_some found, Option.map_eq_some_iff]
      constructor
      · rintro ⟨rest, collected, rfl⟩
        exact ⟨b, rest, rfl, ih.mp collected, rfl⟩
      · rintro ⟨b', rest, same, all, rfl⟩
        cases same
        exact ⟨rest, ih.mpr all, rfl⟩

theorem collect_eq_none_iff : collect get as = none ↔ ∃ a ∈ as, get a = none := by
  induction as with
  | nil => simp [collect]
  | cons a as ih =>
    cases found : get a with
    | none => simp [collect_cons_of_none found, found]
    | some b => simp [collect_cons_of_some found, found, ih]

theorem length_eq_of_collect (collected : collect get as = some bs) : bs.length = as.length :=
  (collect_eq_some_iff.mp collected).length_eq.symm

theorem asked_eq_of_collect (collected : collect get as = some bs) : asked get as = as := by
  induction as generalizing bs with
  | nil => rfl
  | cons a as ih =>
    obtain ⟨b, rest, found, all, -⟩ :=
      List.forall₂_cons_left_iff.mp (collect_eq_some_iff.mp collected)
    rw [asked, found, Option.isSome_some, if_pos rfl, ih (collect_eq_some_iff.mpr all)]

/-- The lookups end with the first that finds nothing. -/
theorem asked_of_missing {a : α} (all : List.Forall₂ (fun a b => get a = some b) as bs)
    (missing : get a = none) (rest : List α) : asked get (as ++ a :: rest) = as ++ [a] := by
  induction all with
  | nil => simp [asked, missing]
  | cons found _ ih => simp [asked, found, ih]

/-- No more than `n` lookups are made where there are no more, or where one of the first `n` finds
nothing. -/
theorem asked_length_le_iff :
    (asked get as).length ≤ n ↔ as.length ≤ n ∨ ∃ a ∈ as.take n, get a = none := by
  induction as generalizing n with
  | nil => simp [asked]
  | cons a as ih =>
    cases n with
    | zero => simp [asked]
    | succ n =>
      rw [asked, List.take_succ_cons]
      cases found : get a with
      | none => simp [found]
      | some b => simp [found, ih]

end ProofKit
