import SubspaceSdk.ProofKit.Json
import Mathlib.Data.List.Perm.Basic
import Mathlib.Data.List.Nodup

/-! Codecs of records, made field by field.  A field may be left out of the object that is written,
and a record inside another may be flattened, so that its fields are entries of the outer object.
What is written is read back if every field that is left out is read as the value it has, and no two
fields have one key. -/

namespace ProofKit

/-- Which values of a field are not written, and what the field is read as where its entry is
missing, which is an error if there is nothing. -/
structure Omission (α : Type) where
  skip : α → Bool
  missing : Option α

/-- The value is read as itself where it is not written. -/
def Omission.Faithful {α : Type} (o : Omission α) (x : α) : Prop :=
  o.skip x = true → o.missing = some x

/-- A field that is always written, and must be there. -/
def Omission.required {α : Type} : Omission α := ⟨fun _ => false, none⟩

theorem Omission.required_faithful {α : Type} (x : α) : required.Faithful x := nofun

/-- An optional field that is always written, and may be missing. -/
def Omission.optional {α : Type} : Omission (Option α) := ⟨fun _ => false, some none⟩

theorem Omission.optional_faithful {α : Type} (x : Option α) : optional.Faithful x := nofun

abbrev Entries := List (String × Json)

/-- What the fields of a record have under their keys, `none` for a field that is left out. -/
abbrev Slots := List (String × Option Json)

def present (slots : Slots) : Entries := slots.filterMap fun slot => slot.2.map (slot.1, ·)

def valuesAt (key : String) (entries : Entries) : List Json :=
  (entries.filter fun entry => entry.1 = key).map Prod.snd

/-- The entries that a record takes for its fields are those of the slots. -/
def Holds (entries : Entries) (slots : Slots) : Prop :=
  ∀ slot ∈ slots, valuesAt slot.1 entries = slot.2.toList

section Entries

variable {key : String} {entries more : Entries} {slots : Slots}

theorem valuesAt_append :
    valuesAt key (entries ++ more) = valuesAt key entries ++ valuesAt key more := by
  simp [valuesAt]

theorem valuesAt_eq_nil (absent : key ∉ entries.map Prod.fst) : valuesAt key entries = [] := by
  rw [valuesAt, List.map_eq_nil_iff, List.filter_eq_nil_iff]
  intro entry mem same
  exact absent (List.mem_map.mpr ⟨entry, mem, of_decide_eq_true same⟩)

theorem present_keys_sublist (slots : Slots) :
    ((present slots).map Prod.fst).Sublist (slots.map Prod.fst) := by
  induction slots with
  | nil => exact List.Sublist.slnil
  | cons slot slots ih =>
    obtain ⟨key, value⟩ := slot
    cases value with
    | none => exact ih.cons key
    | some j => exact ih.cons_cons key

/-- Entries with different keys hold what they were written from. -/
theorem holds_present (nodup : (slots.map Prod.fst).Nodup) : Holds (present slots) slots := by
  induction slots with
  | nil => intro slot mem; cases mem
  | cons head slots ih =>
    obtain ⟨key, value⟩ := head
    have split : present ((key, value) :: slots)
        = (value.toList.map fun j => (key, j)) ++ present slots := by
      cases value <;> rfl
    rw [List.map_cons, List.nodup_cons] at nodup
    have fresh : key ∉ (present slots).map Prod.fst :=
      fun mem => nodup.1 ((present_keys_sublist slots).subset mem)
    intro slot mem
    rw [split, valuesAt_append]
    rcases List.mem_cons.mp mem with rfl | later
    · rw [valuesAt_eq_nil fresh, List.append_nil]
      cases value <;> simp [valuesAt]
    · have other : key ≠ slot.1 :=
        fun same => nodup.1 (List.mem_map.mpr ⟨slot, later, same.symm⟩)
      rw [ih nodup.2 slot later, valuesAt_eq_nil (by simp [Ne.symm other]), List.nil_append]

/-- Entries that a record does not take leave what it takes as it is. -/
theorem Holds.filter {own : List String} (holds : Holds entries slots)
    (others : ∀ slot ∈ slots, slot.1 ∉ own) :
    Holds (entries.filter fun entry => entry.1 ∉ own) slots := by
  intro slot mem
  rw [← holds slot mem, valuesAt, valuesAt, List.filter_filter]
  congr 1
  refine List.filter_congr fun entry _ => ?_
  by_cases same : entry.1 = slot.1
  · simp [same, others slot mem]
  · simp [same]

end Entries

/-- A field's slot when a record is written. -/
def Omission.slot {α : Type} (o : Omission α) (c : Codec α) (x : α) : Option (Option Json) :=
  if o.skip x then some none else (c.serialize x).map some

/-- A field's value when a record is read.  A second entry with its key is an error. -/
def Omission.readField {α : Type} (o : Omission α) (c : Codec α) (key : String)
    (entries : Entries) : Option α :=
  match valuesAt key entries with
  | [] => o.missing
  | [j] => c.deserialize j
  | _ => none

theorem Omission.slot_restores {α : Type} {o : Omission α} {c : Codec α} {x : α}
    (inner : c.Restores x) (faithful : o.Faithful x) :
    ∃ slot, o.slot c x = some slot ∧ ∀ key entries,
      valuesAt key entries = slot.toList → o.readField c key entries = some x := by
  obtain ⟨j, written, back⟩ := inner
  by_cases skipped : o.skip x = true
  · refine ⟨none, if_pos skipped, fun key entries here => ?_⟩
    rw [readField, here]
    exact faithful skipped
  · refine ⟨some j, by rw [slot, if_neg skipped, written, Option.map_some], ?_⟩
    intro key entries here
    rw [readField, here]
    exact back

/-- The fields of `σ` from which an `α` is built: the keys that the record matches itself, the keys
of the records that it flattens, what is written, and how the entries are read once the keys that
the whole record matches itself are known. -/
structure Record (σ α : Type) where
  own : List String
  flat : List String
  slots : σ → Option Slots
  read : List String → Entries → Option α

namespace Record

variable {σ τ α β : Type}

def keys (r : Record σ α) : List String := r.own ++ r.flat

/-- A record without fields. -/
def build (x : α) : Record σ α := ⟨[], [], fun _ => some [], fun _ _ => some x⟩

def field (r : Record σ (α → β)) (key : String) (get : σ → α) (c : Codec α) (o : Omission α) :
    Record σ β where
  own := r.own ++ [key]
  flat := r.flat
  slots s := do
    let before ← r.slots s
    let slot ← o.slot c (get s)
    some (before ++ [(key, slot)])
  read own entries := do
    let f ← r.read own entries
    let x ← o.readField c key entries
    some (f x)

/-- What a record writes for itself inside another, unless it is left out. -/
def nested (inner : Record τ τ) (skip : τ → Bool) (x : τ) : Option Slots :=
  if skip x then some (inner.keys.map (·, none)) else inner.slots x

/-- The fields of a record inside are entries of the outer one.  It is read from the entries
that the outer record does not match itself. -/
def flatten (r : Record σ (τ → β)) (get : σ → τ) (inner : Record τ τ) (skip : τ → Bool) :
    Record σ β where
  own := r.own
  flat := r.flat ++ inner.keys
  slots s := do
    let before ← r.slots s
    let inside ← inner.nested skip (get s)
    some (before ++ inside)
  read own entries := do
    let f ← r.read own entries
    let x ← inner.read inner.own (entries.filter fun entry => entry.1 ∉ own)
    some (f x)

@[simp] theorem build_own (x : α) : (build x : Record σ α).own = [] := rfl

@[simp] theorem build_flat (x : α) : (build x : Record σ α).flat = [] := rfl

@[simp] theorem field_own (r : Record σ (α → β)) (key : String) (get : σ → α) (c : Codec α)
    (o : Omission α) : (r.field key get c o).own = r.own ++ [key] := rfl

@[simp] theorem field_flat (r : Record σ (α → β)) (key : String) (get : σ → α) (c : Codec α)
    (o : Omission α) : (r.field key get c o).flat = r.flat := rfl

@[simp] theorem flatten_own (r : Record σ (τ → β)) (get : σ → τ) (inner : Record τ τ)
    (skip : τ → Bool) : (r.flatten get inner skip).own = r.own := rfl

@[simp] theorem flatten_flat (r : Record σ (τ → β)) (get : σ → τ) (inner : Record τ τ)
    (skip : τ → Bool) : (r.flatten get inner skip).flat = r.flat ++ inner.keys := rfl

def codec (r : Record σ σ) : Codec σ where
  serialize s := (r.slots s).map fun slots => .obj (present slots)
  deserialize
    | .obj entries => r.read r.own entries
    | _ => none

/-- A codec that reads no entries but those of its fields. -/
def strictCodec (r : Record σ σ) : Codec σ where
  serialize := r.codec.serialize
  deserialize
    | .obj entries =>
      if entries.all fun entry => entry.1 ∈ r.keys then r.read r.own entries else none
    | _ => none

/-- The fields of `s` are written, and build `x` when they are read. -/
def Restores (r : Record σ α) (s : σ) (x : α) : Prop :=
  ∃ slots, r.slots s = some slots ∧ (slots.map Prod.fst).Perm r.keys ∧
    ∀ own entries, (∀ key ∈ r.flat, key ∉ own) → Holds entries slots →
      r.read own entries = some x

variable {s : σ}

/-- Different keys are no keys of both a record and one that it flattens. -/
theorem flat_apart {r : Record σ α} (nodup : r.keys.Nodup) : ∀ key ∈ r.flat, key ∉ r.own :=
  fun key mem here => (List.nodup_append.mp nodup).2.2 key here key mem rfl

theorem build_restores (x : α) : (build x : Record σ α).Restores s x :=
  ⟨[], rfl, List.Perm.refl _, fun _ _ _ _ => rfl⟩

theorem Restores.field {r : Record σ (α → β)} {f : α → β} {key : String} {get : σ → α}
    {c : Codec α} {o : Omission α} (before : r.Restores s f) (inner : c.Restores (get s))
    (faithful : o.Faithful (get s)) : (r.field key get c o).Restores s (f (get s)) := by
  obtain ⟨slots, written, keys, back⟩ := before
  obtain ⟨slot, slotWritten, slotBack⟩ := Omission.slot_restores inner faithful
  refine ⟨slots ++ [(key, slot)], by simp [Record.field, written, slotWritten], ?_, ?_⟩
  · have moved : (r.own ++ (r.flat ++ [key])).Perm (r.own ++ ([key] ++ r.flat)) :=
      List.perm_append_comm.append_left _
    rw [List.map_append]
    refine (keys.append_right _).trans ?_
    rwa [← List.append_assoc, ← List.append_assoc] at moved
  · intro own entries apart holds
    have here := slotBack key entries (holds _ (List.mem_append_right _ List.mem_cons_self))
    have earlier := back own entries apart fun slot mem => holds slot (List.mem_append_left _ mem)
    simp [Record.field, here, earlier]

/-- A flattened record may be left out where all its fields would be. -/
theorem Restores.flatten {r : Record σ (τ → β)} {f : τ → β} {get : σ → τ} {inner : Record τ τ}
    {skip : τ → Bool} (before : r.Restores s f) (inside : inner.Restores (get s) (get s))
    (nodup : inner.keys.Nodup)
    (leftOut : skip (get s) = true → inner.slots (get s) = some (inner.keys.map (·, none))) :
    (r.flatten get inner skip).Restores s (f (get s)) := by
  obtain ⟨slots, written, keys, back⟩ := before
  obtain ⟨slots', written', keys', back'⟩ := inside
  have same : inner.nested skip (get s) = some slots' := by
    rw [nested]
    by_cases skipped : skip (get s) = true
    · rw [if_pos skipped, ← leftOut skipped, written']
    · rw [if_neg skipped, written']
  refine ⟨slots ++ slots', by simp [Record.flatten, written, same], ?_, ?_⟩
  · rw [List.map_append, Record.keys]
    exact ((keys.append keys').trans (by rw [Record.keys, List.append_assoc]; rfl))
  · intro own entries apart holds
    have earlier := back own entries (fun key mem => apart key (List.mem_append_left _ mem))
      fun slot mem => holds slot (List.mem_append_left _ mem)
    have others : ∀ slot ∈ slots', slot.1 ∉ own := fun slot mem =>
      apart slot.1 (List.mem_append_right _ (keys'.subset (List.mem_map_of_mem mem)))
    have rest := Holds.filter (fun slot mem => holds slot (List.mem_append_right _ mem)) others
    simp only [Record.flatten, earlier, back' inner.own _ (flat_apart nodup) rest,
      Option.bind_eq_bind, Option.bind_some]

/-- A record whose fields build it again is written as an object in which no two entries have one
key, and read as itself, if no two of its keys are the same. -/
theorem Restores.entries {r : Record σ σ} (fields : r.Restores s s) (nodup : r.keys.Nodup) :
    ∃ entries, r.codec.serialize s = some (.obj entries) ∧ (entries.map Prod.fst).Nodup ∧
      r.codec.deserialize (.obj entries) = some s := by
  obtain ⟨slots, written, keys, back⟩ := fields
  have distinct : (slots.map Prod.fst).Nodup := keys.nodup_iff.mpr nodup
  exact ⟨present slots, by simp [Record.codec, written],
    distinct.sublist (present_keys_sublist slots),
    back r.own _ (flat_apart nodup) (holds_present distinct)⟩

theorem Restores.codec {r : Record σ σ} (fields : r.Restores s s) (nodup : r.keys.Nodup) :
    r.codec.Restores s :=
  have ⟨entries, written, _, back⟩ := fields.entries nodup
  ⟨.obj entries, written, back⟩

theorem Restores.strictCodec {r : Record σ σ} (fields : r.Restores s s) (nodup : r.keys.Nodup) :
    r.strictCodec.Restores s := by
  obtain ⟨slots, written, keys, back⟩ := fields
  have distinct : (slots.map Prod.fst).Nodup := keys.nodup_iff.mpr nodup
  refine ⟨.obj (present slots), by simp [Record.strictCodec, Record.codec, written], ?_⟩
  have known : (present slots).all fun entry => entry.1 ∈ r.keys := by
    rw [List.all_eq_true]
    intro entry mem
    have key := (present_keys_sublist slots).subset (List.mem_map_of_mem mem)
    exact decide_eq_true (keys.subset key)
  show (if _ then _ else _) = _
  rw [if_pos known]
  exact back r.own _ (flat_apart nodup) (holds_present distinct)

/-- A record of two required fields is read back field by field. -/
theorem pair_saved {c : Codec α} {d : Codec β} {make : α → β → σ} {fst : σ → α} {snd : σ → β}
    {key key' : String} (different : key ≠ key') :
    (((build make).field key fst c .required).field key' snd d .required).codec.saved s =
      (c.saved (fst s)).bind fun x => (d.saved (snd s)).map (make x) := by
  unfold Codec.saved
  cases first : c.serialize (fst s) with
  | none => simp [Record.codec, Record.field, build, Omission.slot, Omission.required, first]
  | some j =>
    cases second : d.serialize (snd s) with
    | none =>
      simp [Record.codec, Record.field, build, Omission.slot, Omission.required, first, second]
    | some k =>
      cases readFirst : c.deserialize j <;> cases readSecond : d.deserialize k <;>
        simp [Record.codec, Record.field, build, Omission.slot, Omission.required,
          Omission.readField, present, valuesAt, first, second, different, different.symm,
          readFirst, readSecond]

/-- A record of two required fields is restored only if both fields are. -/
theorem pair_restores_iff {c : Codec α} {d : Codec β} {make : α → β → σ} {fst : σ → α}
    {snd : σ → β} {key key' : String} (fst_make : ∀ x y, fst (make x y) = x)
    (snd_make : ∀ x y, snd (make x y) = y) (make_eta : ∀ s, make (fst s) (snd s) = s)
    (different : key ≠ key') :
    (((build make).field key fst c .required).field key' snd d .required).codec.Restores s
      ↔ c.Restores (fst s) ∧ d.Restores (snd s) := by
  simp only [Codec.restores_iff_saved, pair_saved different]
  constructor
  · intro back
    obtain ⟨x, first, rest⟩ := Option.bind_eq_some_iff.mp back
    obtain ⟨y, second, rfl⟩ := Option.map_eq_some_iff.mp rest
    rw [fst_make, snd_make] at *
    exact ⟨first, second⟩
  · rintro ⟨first, second⟩
    rw [first, second, Option.bind_some, Option.map_some, make_eta]

theorem codec_writesNoNull (r : Record σ σ) : r.codec.WritesNoNull := by
  simp [Codec.WritesNoNull, Record.codec]

end Record

end ProofKit
