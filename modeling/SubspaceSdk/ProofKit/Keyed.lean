import Mathlib.Data.Multiset.Filter
import Mathlib.Data.Multiset.AddSub

/-! Collections whose members have keys, read key by key.  A block of members with one key may be
taken out and another put in, and the members with other keys stay what they are. -/

namespace ProofKit.Keyed

variable {α κ : Type} [DecidableEq κ] {key : α → κ} {k k' : κ}
  {m m' old new : Multiset α}

/-- The members with the key `k`. -/
def atKey (key : α → κ) (k : κ) (m : Multiset α) : Multiset α := m.filter fun a => key a = k

@[simp] theorem atKey_zero (key : α → κ) (k : κ) : atKey key k (0 : Multiset α) = 0 :=
  Multiset.filter_zero _

@[simp] theorem atKey_add (key : α → κ) (k : κ) (m m' : Multiset α) :
    atKey key k (m + m') = atKey key k m + atKey key k m' := Multiset.filter_add _ _ _

theorem atKey_of_all (all : ∀ a ∈ m, key a = k) : atKey key k m = m :=
  Multiset.filter_eq_self.mpr all

theorem atKey_of_other (all : ∀ a ∈ m, key a = k') (other : k' ≠ k) : atKey key k m = 0 :=
  Multiset.filter_eq_nil.mpr fun a mem same => other ((all a mem).symm.trans same)

variable [DecidableEq α]

@[simp] theorem atKey_sub (key : α → κ) (k : κ) (m m' : Multiset α) :
    atKey key k (m - m') = atKey key k m - atKey key k m' := Multiset.filter_sub _ _ _

theorem count_atKey (key : α → κ) (a : α) (m : Multiset α) :
    (atKey key (key a) m).count a = m.count a := Multiset.count_filter_of_pos rfl

/-- What the members are under each key is what they are. -/
theorem eq_of_atKey (key : α → κ) (same : ∀ k, atKey key k m = atKey key k m') : m = m' := by
  refine Multiset.ext.mpr fun a => ?_
  rw [← count_atKey key a m, same, count_atKey]

/-- The block under `k'` is replaced, and the other members stay. -/
theorem atKey_replace (olds : ∀ a ∈ old, key a = k') (news : ∀ a ∈ new, key a = k') :
    atKey key k (m - old + new) = if k = k' then atKey key k m - old + new else atKey key k m := by
  rw [atKey_add, atKey_sub]
  by_cases here : k = k'
  · subst here
    rw [if_pos rfl, atKey_of_all olds, atKey_of_all news]
  · rw [if_neg here, atKey_of_other olds (Ne.symm here), atKey_of_other news (Ne.symm here),
      Multiset.sub_zero, Multiset.add_zero]

end ProofKit.Keyed
