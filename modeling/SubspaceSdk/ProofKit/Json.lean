import SubspaceSdk.ProofKit.Collect
import Mathlib.Algebra.Group.Nat.Defs
import Mathlib.Data.Finset.Basic

/-! JSON values, and codecs between them and the types of a program.  A codec restores a value if it
writes the value as JSON that it reads back as the value. -/

namespace ProofKit

inductive Json where
  | null
  | bool (b : Bool)
  | num (n : Nat)
  | str (s : String)
  | arr (elements : List Json)
  | obj (entries : List (String × Json))

/-- A value may have no JSON form, and JSON may be of no value. -/
structure Codec (α : Type) where
  serialize : α → Option Json
  deserialize : Json → Option α

namespace Codec

variable {α β : Type} {c : Codec α} {d : Codec β} {x : α} {y : β}

def Restores (c : Codec α) (x : α) : Prop :=
  ∃ j, c.serialize x = some j ∧ c.deserialize j = some x

/-- What is read back of a value that was written. -/
def saved (c : Codec α) (x : α) : Option α := (c.serialize x).bind c.deserialize

/-- Nothing is written as `null`, which stands for the absence of a value. -/
def WritesNoNull (c : Codec α) : Prop := ∀ x, c.serialize x ≠ some .null

theorem restores_iff_saved : c.Restores x ↔ c.saved x = some x := Option.bind_eq_some_iff.symm

theorem restores_iff_of_serialize {j : Json} (written : c.serialize x = some j) :
    c.Restores x ↔ c.deserialize j = some x := by
  simp [Restores, written]

/-! ### Values without parts -/

def bool : Codec Bool where
  serialize b := some (.bool b)
  deserialize
    | .bool b => some b
    | _ => none

theorem bool_restores (b : Bool) : bool.Restores b := ⟨.bool b, rfl, rfl⟩

/-- An unsigned integer of `w` bits. -/
def uint (w : Nat) : Codec (BitVec w) where
  serialize n := some (.num n.toNat)
  deserialize
    | .num n => if n < 2 ^ w then some (.ofNat w n) else none
    | _ => none

theorem uint_restores {w : Nat} (n : BitVec w) : (uint w).Restores n :=
  ⟨.num n.toNat, rfl, by simp [uint, n.isLt]⟩

def string : Codec String where
  serialize s := some (.str s)
  deserialize
    | .str s => some s
    | _ => none

theorem string_restores (s : String) : string.Restores s := ⟨.str s, rfl, rfl⟩

/-- A value in its text form. -/
def text (toText : α → String) (ofText : String → Option α) : Codec α where
  serialize x := some (.str (toText x))
  deserialize
    | .str s => ofText s
    | _ => none

theorem text_saved {toText : α → String} {ofText : String → Option α} :
    (text toText ofText).saved x = ofText (toText x) := rfl

theorem text_restores_iff {toText : α → String} {ofText : String → Option α} :
    (text toText ofText).Restores x ↔ ofText (toText x) = some x := by
  rw [restores_iff_of_serialize (j := .str (toText x)) rfl]
  rfl

/-- Bytes that are text, where they are valid UTF-8. -/
def utf8 : Codec ByteArray where
  serialize bytes := (String.fromUTF8? bytes).map .str
  deserialize
    | .str s => some s.toUTF8
    | _ => none

theorem utf8_serialize_of_valid {bytes : ByteArray} (valid : bytes.IsValidUTF8) :
    utf8.serialize bytes = some (.str (String.fromUTF8 bytes valid)) := by
  simp [utf8, String.fromUTF8?, valid]

theorem utf8_restores_iff {bytes : ByteArray} : utf8.Restores bytes ↔ bytes.IsValidUTF8 := by
  by_cases valid : bytes.IsValidUTF8
  · rw [restores_iff_of_serialize (utf8_serialize_of_valid valid)]
    exact iff_of_true rfl valid
  · refine iff_of_false (fun ⟨j, written, _⟩ => ?_) valid
    simp [utf8, String.fromUTF8?, valid] at written

theorem uint_writesNoNull (w : Nat) : (uint w).WritesNoNull := by
  simp [WritesNoNull, uint]

theorem string_writesNoNull : string.WritesNoNull := by
  simp [WritesNoNull, string]

theorem utf8_writesNoNull : utf8.WritesNoNull := by
  simp [WritesNoNull, utf8]

/-! ### Wrappers -/

/-- The form of a type whose values are made from those of another, where that succeeds. -/
def tryMap (c : Codec α) (wrap : α → Option β) (unwrap : β → α) : Codec β where
  serialize y := c.serialize (unwrap y)
  deserialize j := (c.deserialize j).bind wrap

theorem tryMap_restores {wrap : α → Option β} {unwrap : β → α} (inner : c.Restores (unwrap y))
    (wrapped : wrap (unwrap y) = some y) : (c.tryMap wrap unwrap).Restores y := by
  obtain ⟨j, written, back⟩ := inner
  exact ⟨j, written, by simp [tryMap, back, wrapped]⟩

/-- The form of a type that wraps another. -/
def map (c : Codec α) (wrap : α → β) (unwrap : β → α) : Codec β :=
  c.tryMap (fun x => some (wrap x)) unwrap

theorem map_saved {wrap : α → β} {unwrap : β → α} :
    (c.map wrap unwrap).saved y = (c.saved (unwrap y)).map wrap := by
  rw [saved, saved, Option.map_bind]
  refine congrArg _ (funext fun j => ?_)
  exact Option.map_eq_bind.symm

theorem map_restores {wrap : α → β} {unwrap : β → α} (inner : c.Restores (unwrap y))
    (wrapped : wrap (unwrap y) = y) : (c.map wrap unwrap).Restores y :=
  tryMap_restores inner (congrArg some wrapped)

/-- A wrapper is restored only if what it wraps is. -/
theorem map_restores_iff {wrap : α → β} {unwrap : β → α} (unwrapped : ∀ x, unwrap (wrap x) = x)
    (wrapped : wrap (unwrap y) = y) : (c.map wrap unwrap).Restores y ↔ c.Restores (unwrap y) := by
  refine ⟨?_, fun inner => map_restores inner wrapped⟩
  rintro ⟨j, written, back⟩
  obtain ⟨x, read, same⟩ := Option.bind_eq_some_iff.mp back
  refine ⟨j, written, ?_⟩
  rw [read, ← Option.some.inj same, unwrapped]

/-- The values that satisfy a condition, which is checked when they are read. -/
def restrict (c : Codec α) (p : α → Prop) [DecidablePred p] : Codec {x // p x} :=
  c.tryMap (fun x => if h : p x then some ⟨x, h⟩ else none) Subtype.val

theorem restrict_restores {p : α → Prop} [DecidablePred p] {x : {x // p x}}
    (inner : c.Restores x) : (c.restrict p).Restores x :=
  tryMap_restores inner (dif_pos x.property)

def option (c : Codec α) : Codec (Option α) where
  serialize
    | none => some .null
    | some x => c.serialize x
  deserialize
    | .null => some none
    | j => (c.deserialize j).map some

theorem option_restores_none : c.option.Restores none := ⟨.null, rfl, rfl⟩

theorem option_restores_some (inner : c.Restores x) (noNull : c.WritesNoNull) :
    c.option.Restores (some x) := by
  obtain ⟨j, written, back⟩ := inner
  refine ⟨j, written, ?_⟩
  have notNull : j ≠ .null := fun same => noNull x (same ▸ written)
  simp only [option]
  rw [back, Option.map_some]

theorem option_restores {x : Option α} (inner : ∀ v ∈ x, c.Restores v)
    (noNull : c.WritesNoNull) : c.option.Restores x := by
  cases x with
  | none => exact option_restores_none
  | some v => exact option_restores_some (inner v rfl) noNull

/-! ### Sequences -/

def list (c : Codec α) : Codec (List α) where
  serialize xs := (collect c.serialize xs).map .arr
  deserialize
    | .arr js => collect c.deserialize js
    | _ => none

theorem collect_restores {xs : List α} (inner : ∀ x ∈ xs, c.Restores x) :
    ∃ js, collect c.serialize xs = some js ∧ collect c.deserialize js = some xs := by
  induction xs with
  | nil => exact ⟨[], rfl, rfl⟩
  | cons x xs ih =>
    obtain ⟨j, written, back⟩ := inner x List.mem_cons_self
    obtain ⟨js, allWritten, allBack⟩ := ih fun x mem => inner x (List.mem_cons_of_mem _ mem)
    refine ⟨j :: js, ?_, ?_⟩
    · rw [collect_cons_of_some written, allWritten, Option.map_some]
    · rw [collect_cons_of_some back, allBack, Option.map_some]

theorem list_restores {xs : List α} (inner : ∀ x ∈ xs, c.Restores x) : c.list.Restores xs := by
  obtain ⟨js, written, back⟩ := collect_restores inner
  exact ⟨.arr js, by simp [list, written], back⟩

theorem list_writesNoNull (c : Codec α) : c.list.WritesNoNull := by
  simp [WritesNoNull, list]

/-- A set, whose members are written in the order that `iterate` gives them. -/
def set [DecidableEq α] (c : Codec α) (iterate : Finset α → List α) : Codec (Finset α) :=
  c.list.map List.toFinset iterate

theorem set_restores [DecidableEq α] {iterate : Finset α → List α} {s : Finset α}
    (inner : ∀ x, c.Restores x) (members : (iterate s).toFinset = s) :
    (c.set iterate).Restores s :=
  map_restores (list_restores fun x _ => inner x) members

def pair (c : Codec α) (d : Codec β) : Codec (α × β) where
  serialize p := do
    let first ← c.serialize p.1
    let second ← d.serialize p.2
    some (.arr [first, second])
  deserialize
    | .arr [first, second] => do
      let x ← c.deserialize first
      let y ← d.deserialize second
      some (x, y)
    | _ => none

theorem pair_restores (first : c.Restores x) (second : d.Restores y) :
    (c.pair d).Restores (x, y) := by
  obtain ⟨j, written, back⟩ := first
  obtain ⟨k, written', back'⟩ := second
  exact ⟨.arr [j, k], by simp [pair, written, written'], by simp [pair, back, back']⟩

end Codec

/-! ### Enumerations -/

/-- The name of a variant and its content, if it has one. -/
def Json.tagged : Json → Option (String × Option Json)
  | .str tag => some (tag, none)
  | .obj [(tag, content)] => some (tag, some content)
  | _ => none

/-- The content of a variant that has none may also be `null`. -/
def Json.isUnit : Option Json → Bool
  | none => true
  | some .null => true
  | _ => false

namespace Codec

variable {α β : Type} {c : Codec α} {x : α}

/-- An enumeration whose variants have no content. -/
def units [DecidableEq α] (tag : α → String) (variants : List α) : Codec α where
  serialize x := some (.str (tag x))
  deserialize j := do
    let (name, content) ← j.tagged
    if Json.isUnit content then variants.find? fun x => tag x = name else none

theorem units_restores [DecidableEq α] {tag : α → String} {variants : List α}
    (distinct : variants.find? (fun y => tag y = tag x) = some x) :
    (units tag variants).Restores x :=
  ⟨.str (tag x), rfl, distinct⟩

/-- An enumeration with one more variant, whose content is a `β`. -/
def newtype (c : Codec α) (tag : String) (d : Codec β) (make : β → α) (content : α → Option β) :
    Codec α where
  serialize x :=
    match content x with
    | some y => (d.serialize y).map fun j => .obj [(tag, j)]
    | none => c.serialize x
  deserialize
    | .obj [(name, j)] =>
      if name = tag then (d.deserialize j).map make else c.deserialize (.obj [(name, j)])
    | j => c.deserialize j

theorem newtype_restores_content {tag : String} {d : Codec β} {make : β → α}
    {content : α → Option β} {y : β} (inner : d.Restores y) (holds : content (make y) = some y) :
    (c.newtype tag d make content).Restores (make y) := by
  obtain ⟨j, written, back⟩ := inner
  refine ⟨.obj [(tag, j)], ?_, ?_⟩
  · simp [newtype, holds, written]
  · simp [newtype, back]

theorem newtype_restores_unit [DecidableEq α] {name : α → String} {variants : List α}
    {tag : String} {d : Codec β} {make : β → α} {content : α → Option β}
    (distinct : variants.find? (fun y => name y = name x) = some x) (holds : content x = none) :
    ((units name variants).newtype tag d make content).Restores x :=
  ⟨.str (name x), by simp [newtype, holds, units], distinct⟩

end Codec

end ProofKit
