import SubspaceSdk.ProofKit.Record

/-! Saved records that were edited: entries were taken out, others were added under keys that no
field has, and all were put in another order.  A field whose entry is gone is read as one that is
missing, and every other field as it was. -/

namespace ProofKit

/-- The entries after an edit, which leaves those whose keys it keeps. -/
def Edited (keys : List String) (keep : String → Bool) (entries edited : Entries) : Prop :=
  ∃ added : Entries, (∀ entry ∈ added, entry.1 ∉ keys) ∧
    edited.Perm ((entries.filter fun entry => keep entry.1) ++ added)

/-- What an edit leaves of slots. -/
def kept (keep : String → Bool) (slots : Slots) : Slots :=
  slots.map fun slot => (slot.1, if keep slot.1 then slot.2 else none)

section

variable {keys : List String} {keep : String → Bool} {entries edited : Entries} {slots more : Slots}

theorem kept_append : kept keep (slots ++ more) = kept keep slots ++ kept keep more :=
  List.map_append

theorem valuesAt_keep (key : String) :
    valuesAt key (entries.filter fun entry => keep entry.1) =
      if keep key then valuesAt key entries else [] := by
  rw [valuesAt, List.filter_filter]
  by_cases keeps : keep key
  · rw [if_pos keeps, valuesAt]
    congr 1
    refine List.filter_congr fun entry _ => ?_
    by_cases same : entry.1 = key
    · simp [same, keeps]
    · simp [same]
  · rw [if_neg keeps, List.map_eq_nil_iff, List.filter_eq_nil_iff]
    intro entry _ both
    rw [Bool.and_eq_true] at both
    exact keeps (of_decide_eq_true both.1 ▸ both.2)

theorem eq_toList_of_perm {js : List Json} {value : Option Json} (perm : js.Perm value.toList) :
    js = value.toList := by
  cases value with
  | none => exact perm.eq_nil
  | some j => exact perm.eq_singleton

/-- An edited object holds what the edit leaves. -/
theorem Holds.afterEdit (holds : Holds entries slots) (own : ∀ slot ∈ slots, slot.1 ∈ keys)
    (edit : Edited keys keep entries edited) : Holds edited (kept keep slots) := by
  obtain ⟨added, others, perm⟩ := edit
  intro left mem
  obtain ⟨slot, there, rfl⟩ := List.mem_map.mp mem
  have fresh : valuesAt slot.1 added = [] := valuesAt_eq_nil fun mem => by
    obtain ⟨entry, there', same⟩ := List.mem_map.mp mem
    exact others entry there' (same ▸ own slot there)
  have values : (valuesAt slot.1 edited).Perm
      (valuesAt slot.1 ((entries.filter fun entry => keep entry.1) ++ added)) :=
    (perm.filter _).map _
  rw [valuesAt_append, fresh, List.append_nil, valuesAt_keep, holds slot there] at values
  refine eq_toList_of_perm (values.trans (List.Perm.of_eq ?_))
  by_cases keeps : keep slot.1
  · simp only [keeps, if_true]
  · simp [keeps]

end

namespace Record

variable {σ τ α β : Type} {keep : String → Bool} {s : σ}

/-- What an edit leaves of the fields of `s` builds `x`. -/
def Keeps (r : Record σ α) (keep : String → Bool) (s : σ) (x : α) : Prop :=
  ∀ slots, r.slots s = some slots → ∀ own entries, (∀ key ∈ r.flat, key ∉ own) →
    Holds entries (kept keep slots) → r.read own entries = some x

theorem build_keeps (x : α) : (build x : Record σ α).Keeps keep s x :=
  fun _ _ _ _ _ _ => rfl

/-- A field whose entry is taken out is read as `absent`. -/
theorem Keeps.field {r : Record σ (α → β)} {f : α → β} {key : String} {get : σ → α}
    {c : Codec α} {o : Omission α} {absent : α} (before : r.Keeps keep s f)
    (inner : c.Restores (get s)) (faithful : o.Faithful (get s))
    (missing : o.missing = some absent) :
    (r.field key get c o).Keeps keep s (f (if keep key then get s else absent)) := by
  intro slots written own entries apart holds
  obtain ⟨slot, slotWritten, slotBack⟩ := Omission.slot_restores inner faithful
  simp only [Record.field, slotWritten, Option.bind_eq_bind, Option.bind_some,
    Option.bind_eq_some_iff, Option.some.injEq] at written
  obtain ⟨earlier, earlierWritten, rfl⟩ := written
  rw [kept_append] at holds
  have first := before earlier earlierWritten own entries apart
    fun slot mem => holds slot (List.mem_append_left _ mem)
  have here := holds (key, if keep key then slot else none)
    (List.mem_append_right _ List.mem_cons_self)
  have read : o.readField c key entries = some (if keep key then get s else absent) := by
    by_cases keeps : keep key
    · rw [if_pos keeps] at here ⊢
      exact slotBack key entries here
    · rw [if_neg keeps] at here ⊢
      rw [Omission.readField, here]
      exact missing
  simp only [Record.field, first, read, Option.bind_eq_bind, Option.bind_some]

theorem Keeps.flatten {r : Record σ (τ → β)} {f : τ → β} {get : σ → τ} {inner : Record τ τ}
    {skip : τ → Bool} {x : τ} (before : r.Keeps keep s f) (inside : inner.Keeps keep (get s) x)
    (restores : inner.Restores (get s) (get s)) (nodup : inner.keys.Nodup)
    (leftOut : skip (get s) = true → inner.slots (get s) = some (inner.keys.map (·, none))) :
    (r.flatten get inner skip).Keeps keep s (f x) := by
  intro slots written own entries apart holds
  obtain ⟨slots', written', keys', -⟩ := restores
  have same : inner.nested skip (get s) = some slots' := by
    rw [nested]
    by_cases skipped : skip (get s) = true
    · rw [if_pos skipped, ← leftOut skipped, written']
    · rw [if_neg skipped, written']
  simp only [Record.flatten, same, Option.bind_eq_bind, Option.bind_some,
    Option.bind_eq_some_iff, Option.some.injEq] at written
  obtain ⟨earlier, earlierWritten, rfl⟩ := written
  rw [kept_append] at holds
  have first := before earlier earlierWritten own entries
    (fun key mem => apart key (List.mem_append_left _ mem))
    fun slot mem => holds slot (List.mem_append_left _ mem)
  have others : ∀ slot ∈ kept keep slots', slot.1 ∉ own := by
    intro left mem
    obtain ⟨slot, there, rfl⟩ := List.mem_map.mp mem
    exact apart slot.1 (List.mem_append_right _ (keys'.subset (List.mem_map_of_mem there)))
  have rest := Holds.filter (fun slot mem => holds slot (List.mem_append_right _ mem)) others
  have second := inside slots' written' inner.own _ (flat_apart nodup) rest
  simp only [Record.flatten, first, second, Option.bind_eq_bind, Option.bind_some]

/-- A saved record is read back from every edit of it, the fields that the edit keeps as they
were. -/
theorem Keeps.edited {r : Record σ σ} {x : σ} {entries edited : Entries}
    (fields : r.Keeps keep s x) (restores : r.Restores s s) (nodup : r.keys.Nodup)
    (saved : r.codec.serialize s = some (.obj entries)) (edit : Edited r.keys keep entries edited) :
    r.codec.deserialize (.obj edited) = some x := by
  obtain ⟨slots, written, keys, -⟩ := restores
  have same : present slots = entries := by
    simpa [Record.codec, written] using saved
  subst same
  have holds := Holds.afterEdit (holds_present (keys.nodup_iff.mpr nodup))
    (fun slot mem => keys.subset (List.mem_map_of_mem mem)) edit
  exact fields slots written r.own edited (flat_apart nodup) holds

end Record

end ProofKit
