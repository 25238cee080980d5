import SubspaceSdk.ProofKit.Record
import SubspaceSdk.Utils.ByteSize

/-! The types of `sdk-substrate` that saved configurations are made of, each with its default and
its serde form. -/

namespace SubspaceSdk

open ProofKit Codec

/-! ### Fields that are left out -/

/-- `is_default`, where `default` is the default of the type. -/
def isDefault {α : Type} [DecidableEq α] (default t : α) : Bool := t = default

/-- `#[serde(default, skip_serializing_if = "sdk_utils::is_default")]`. -/
def orDefault {α : Type} [DecidableEq α] (default : α) : Omission α :=
  ⟨isDefault default, some default⟩

/-- `#[serde(default, skip_serializing_if = "Vec::is_empty")]`. -/
def orEmpty {α : Type} : Omission (List α) := ⟨List.isEmpty, some []⟩

theorem orDefault_faithful {α : Type} [DecidableEq α] (default t : α) :
    (orDefault default).Faithful t :=
  fun skipped => congrArg some (of_decide_eq_true skipped).symm

theorem orEmpty_faithful {α : Type} (t : List α) : orEmpty.Faithful t :=
  fun skipped => congrArg some (List.isEmpty_iff.mp skipped).symm

/-! ### Enumerations -/

/-- Block pruning settings. -/
inductive BlocksPruning where
  | keepAll
  | keepFinalized
  | some (n : BitVec 32)
  deriving Repr, DecidableEq

namespace BlocksPruning

def default : BlocksPruning := keepAll

def tag : BlocksPruning → String
  | keepAll => "KeepAll"
  | keepFinalized => "KeepFinalized"
  | some _ => "Some"

def codec : Codec BlocksPruning :=
  (units tag [keepAll, keepFinalized]).newtype "Some" (uint 32) some fun
    | some n => Option.some n
    | _ => none

theorem restores (x : BlocksPruning) : codec.Restores x := by
  cases x with
  | keepAll => exact newtype_restores_unit rfl rfl
  | keepFinalized => exact newtype_restores_unit rfl rfl
  | some n => exact newtype_restores_content (uint_restores n) rfl

end BlocksPruning

/-- Pruning constraints. -/
structure Constraints where
  maxBlocks : Option (BitVec 32)
  deriving Repr, DecidableEq

def Constraints.record : Record Constraints Constraints :=
  (Record.build Constraints.mk)
    |>.field "max_blocks" maxBlocks (uint 32).option .optional

theorem Constraints.restores (x : Constraints) : record.codec.Restores x :=
  Record.Restores.codec
    ((Record.build_restores _)
      |>.field (option_restores (fun n _ => uint_restores n) (uint_writesNoNull 32))
        (Omission.optional_faithful _))
    (by decide)

/-- Pruning mode. -/
inductive PruningMode where
  | archiveAll
  | archiveCanonical
  | constrained (constraints : Constraints)
  deriving Repr, DecidableEq

namespace PruningMode

def default : PruningMode := archiveAll

def tag : PruningMode → String
  | archiveAll => "ArchiveAll"
  | archiveCanonical => "ArchiveCanonical"
  | constrained _ => "Constrained"

def codec : Codec PruningMode :=
  (units tag [archiveAll, archiveCanonical]).newtype "Constrained" Constraints.record.codec
    constrained fun
    | constrained constraints => some constraints
    | _ => none

theorem restores (x : PruningMode) : codec.Restores x := by
  cases x with
  | archiveAll => exact newtype_restores_unit rfl rfl
  | archiveCanonical => exact newtype_restores_unit rfl rfl
  | constrained constraints => exact newtype_restores_content constraints.restores rfl

end PruningMode

/-- Role of the local node. -/
inductive Role where
  | full
  | authority
  deriving Repr, DecidableEq

namespace Role

def default : Role := full

def tag : Role → String
  | full => "Full"
  | authority => "Authority"

def codec : Codec Role := units tag [full, authority]

theorem restores (x : Role) : codec.Restores x := by
  cases x <;> exact units_restores rfl

end Role

/-- Available RPC methods. -/
inductive RpcMethods where
  | auto
  | safe
  | unsafeMethods
  deriving Repr, DecidableEq

namespace RpcMethods

def default : RpcMethods := auto

def tag : RpcMethods → String
  | auto => "Auto"
  | safe => "Safe"
  | unsafeMethods => "Unsafe"

def codec : Codec RpcMethods := units tag [auto, safe, unsafeMethods]

theorem restores (x : RpcMethods) : codec.Restores x := by
  cases x <;> exact units_restores rfl

end RpcMethods

/-! ### Wrappers with a default -/

/-- The name of the implementation. -/
structure ImplName where
  name : String
  deriving DecidableEq

def ImplName.default : ImplName := ⟨"sdk-substrate"⟩

def ImplName.codec : Codec ImplName := string.map ImplName.mk ImplName.name

theorem ImplName.restores (x : ImplName) : codec.Restores x :=
  map_restores (string_restores x.name) rfl

/-- The version of the implementation. -/
structure ImplVersion where
  version : String
  deriving DecidableEq

/-- The default at a revision of the repository. -/
def ImplVersion.default (gitHash : String) : ImplVersion := ⟨"0.1.0-" ++ gitHash⟩

def ImplVersion.codec : Codec ImplVersion := string.map ImplVersion.mk ImplVersion.version

theorem ImplVersion.restores (x : ImplVersion) : codec.Restores x :=
  map_restores (string_restores x.version) rfl

/-! ### Offchain worker -/

/-- Offchain worker config. -/
structure OffchainWorker where
  enabled : Bool
  indexingEnabled : Bool
  deriving Repr, DecidableEq

namespace OffchainWorker

def default : OffchainWorker := ⟨false, false⟩

def record : Record OffchainWorker OffchainWorker :=
  (Record.build OffchainWorker.mk)
    |>.field "enabled" enabled bool (orDefault false)
    |>.field "indexing_enabled" indexingEnabled bool (orDefault false)

theorem restores (x : OffchainWorker) : record.codec.Restores x :=
  Record.Restores.codec
    ((Record.build_restores _)
      |>.field (bool_restores _) (orDefault_faithful _ _)
      |>.field (bool_restores _) (orDefault_faithful _ _))
    (by decide)

end OffchainWorker

/-! ### The standard library -/

/-- A path, which is written as text where it is valid UTF-8. -/
structure PathBuf where
  bytes : ByteArray

namespace PathBuf

instance : DecidableEq PathBuf := fun a b =>
  match ByteArray.instDecidableEq a.bytes b.bytes with
  | .isTrue same => .isTrue (congrArg mk same)
  | .isFalse different => .isFalse fun same => different (congrArg bytes same)

def codec : Codec PathBuf := utf8.map mk bytes

def IsUtf8 (path : PathBuf) : Prop := path.bytes.IsValidUTF8

theorem restores_iff (path : PathBuf) : codec.Restores path ↔ path.IsUtf8 :=
  (map_restores_iff (fun _ => rfl) rfl).trans utf8_restores_iff

theorem writesNoNull : codec.WritesNoNull := fun path => utf8_writesNoNull path.bytes

end PathBuf

def nanosPerSec : Nat := 10 ^ 9

/-- A duration of the standard library. -/
structure Duration where
  secs : BitVec 64
  nanos : {n : BitVec 32 // n.toNat < nanosPerSec}
  deriving DecidableEq

namespace Duration

/-- `Duration::new`, whose nanoseconds may be more than a second.  A sum of seconds that is too
large is an error when a duration is read. -/
def new (parts : BitVec 64 × BitVec 32) : Option Duration :=
  let secs := parts.1.toNat + parts.2.toNat / nanosPerSec
  if secs < 2 ^ 64 then
    some ⟨.ofNat 64 secs, ⟨.ofNat 32 (parts.2.toNat % nanosPerSec), by
      rw [BitVec.toNat_ofNat]
      exact Nat.lt_of_le_of_lt (Nat.mod_le _ _) (Nat.mod_lt _ (by decide))⟩⟩
  else
    none

def record : Record (BitVec 64 × BitVec 32) (BitVec 64 × BitVec 32) :=
  (Record.build Prod.mk)
    |>.field "secs" Prod.fst (uint 64) .required
    |>.field "nanos" Prod.snd (uint 32) .required

/-- The form of a duration, which has no other fields. -/
def codec : Codec Duration := record.strictCodec.tryMap new fun d => (d.secs, d.nanos)

theorem new_parts (d : Duration) : new (d.secs, d.nanos) = some d := by
  obtain ⟨secs, nanos, below⟩ := d
  have whole : nanos.toNat / nanosPerSec = 0 := Nat.div_eq_of_lt below
  simp only [new, whole, Nat.add_zero, secs.isLt, if_true, Nat.mod_eq_of_lt below,
    BitVec.ofNat_toNat, BitVec.setWidth_eq]

theorem restores (d : Duration) : codec.Restores d :=
  tryMap_restores
    (Record.Restores.strictCodec
      ((Record.build_restores _)
        |>.field (uint_restores _) (Omission.required_faithful _)
        |>.field (uint_restores _) (Omission.required_faithful _))
      (by decide))
    (new_parts d)

end Duration

/-! ### Storage monitor -/

/-- Storage monitor. -/
structure StorageMonitor where
  threshold : ByteSize
  pollingPeriod : Duration
  deriving DecidableEq

namespace StorageMonitor

def record (lib : Bytesize) : Record StorageMonitor StorageMonitor :=
  (Record.build StorageMonitor.mk)
    |>.field "threshold" threshold (ByteSize.codec lib) .required
    |>.field "polling_period" pollingPeriod Duration.codec .required

def codec (lib : Bytesize) : Codec StorageMonitor := (record lib).codec

end StorageMonitor

end SubspaceSdk
