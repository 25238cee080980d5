import SubspaceSdk.Dsn.Builder
import SubspaceSdk.Farmer.FarmDescription
import Mathlib.Data.Finset.Sort

/-! `Config`, the configuration of a node that is saved on disk, with the configuration of a domain
inside it.  Both flatten `Base`, and leave out what has its default. -/

namespace SubspaceSdk

open ProofKit Codec

variable {leaf : LeafTypes}

/-- The number of segments that are published at once. -/
structure SegmentPublishConcurrency where
  jobs : {n : BitVec 64 // n ≠ 0}
  deriving DecidableEq

namespace SegmentPublishConcurrency

def default : SegmentPublishConcurrency := ⟨⟨10, by decide⟩⟩

def codec : Codec SegmentPublishConcurrency :=
  ((uint 64).restrict fun n => n ≠ 0).map SegmentPublishConcurrency.mk jobs

theorem restores (x : SegmentPublishConcurrency) : codec.Restores x :=
  map_restores (restrict_restores (uint_restores _)) rfl

end SegmentPublishConcurrency

/-- Domain node configuration. -/
structure DomainConfig (leaf : LeafTypes) where
  chainId : String
  domainId : leaf.DomainId
  maybeOperatorId : Option leaf.OperatorId
  additionalArgs : List String
  base : Base leaf
  deriving DecidableEq

namespace DomainConfig

def default (leaf : LeafTypes) : DomainConfig leaf where
  chainId := ""
  domainId := leaf.defaultDomainId
  maybeOperatorId := none
  additionalArgs := []
  base := .default leaf

def record (leaf : LeafTypes) : Record (DomainConfig leaf) (DomainConfig leaf) :=
  (Record.build DomainConfig.mk)
    |>.field "chain_id" chainId string (orDefault "")
    |>.field "domain_id" domainId leaf.domainId (orDefault leaf.defaultDomainId)
    |>.field "maybe_operator_id" maybeOperatorId leaf.operatorId.option (orDefault none)
    |>.field "additional_args" additionalArgs string.list (orDefault [])
    |>.flatten base (Base.record leaf) (isDefault (.default leaf))

theorem record_own (leaf : LeafTypes) :
    (record leaf).own = ["chain_id", "domain_id", "maybe_operator_id", "additional_args"] := by
  simp [record]

theorem record_flat (leaf : LeafTypes) : (record leaf).flat = (Base.record leaf).keys := by
  simp [record]

theorem keys_nodup (leaf : LeafTypes) : (record leaf).keys.Nodup := by
  rw [Record.keys, record_own, record_flat, Base.record_keys]
  decide

theorem restores (x : DomainConfig leaf) : (record leaf).codec.Restores x :=
  Record.Restores.codec
    ((Record.build_restores _)
      |>.field (string_restores _) (orDefault_faithful _ _)
      |>.field (leaf.domainId_restores _) (orDefault_faithful _ _)
      |>.field (option_restores (fun id _ => leaf.operatorId_restores id)
          leaf.operatorId_writesNoNull) (orDefault_faithful _ _)
      |>.field (list_restores fun s _ => string_restores s) (orDefault_faithful _ _)
      |>.flatten (Base.restores _) (Base.keys_nodup leaf) (Base.leftOut _))
    (keys_nodup leaf)

end DomainConfig

/-- Node configuration. -/
structure Config (leaf : LeafTypes) where
  segmentPublishConcurrency : SegmentPublishConcurrency
  syncFromDsn : Bool
  base : Base leaf
  dsn : Dsn leaf
  storageMonitor : Option StorageMonitor
  enableSubspaceBlockRelay : Bool
  domain : Option (DomainConfig leaf)
  isTimekeeper : Bool
  timekeeperCpuCores : Finset (BitVec 64)
  potExternalEntropy : Option (List (BitVec 8))
  deriving DecidableEq

namespace Config

def default (leaf : LeafTypes) : Config leaf where
  segmentPublishConcurrency := .default
  syncFromDsn := false
  base := .default leaf
  dsn := .default leaf
  storageMonitor := none
  enableSubspaceBlockRelay := false
  domain := none
  isTimekeeper := false
  timekeeperCpuCores := ∅
  potExternalEntropy := none

def record (leaf : LeafTypes) : Record (Config leaf) (Config leaf) :=
  (Record.build Config.mk)
    |>.field "segment_publish_concurrency" segmentPublishConcurrency
      SegmentPublishConcurrency.codec (orDefault .default)
    |>.field "sync_from_dsn" syncFromDsn bool (orDefault false)
    |>.flatten base (Base.record leaf) (isDefault (.default leaf))
    |>.field "dsn" dsn (Dsn.record leaf).codec (orDefault (.default leaf))
    |>.field "storage_monitor" storageMonitor (StorageMonitor.codec leaf.bytesize).option
      (orDefault none)
    |>.field "enable_subspace_block_relay" enableSubspaceBlockRelay bool (orDefault false)
    |>.field "domain" domain (DomainConfig.record leaf).codec.option (orDefault none)
    |>.field "is_timekeeper" isTimekeeper bool (orDefault false)
    |>.field "timekeeper_cpu_cores" timekeeperCpuCores ((uint 64).set leaf.iterate)
      (orDefault ∅)
    |>.field "pot_external_entropy" potExternalEntropy (uint 8).list.option (orDefault none)

def codec (leaf : LeafTypes) : Codec (Config leaf) := (record leaf).codec

theorem record_own (leaf : LeafTypes) : (record leaf).own =
    ["segment_publish_concurrency", "sync_from_dsn", "dsn", "storage_monitor",
      "enable_subspace_block_relay", "domain", "is_timekeeper", "timekeeper_cpu_cores",
      "pot_external_entropy"] := by
  simp [record]

theorem record_flat (leaf : LeafTypes) : (record leaf).flat = (Base.record leaf).keys := by
  simp [record]

theorem keys_nodup (leaf : LeafTypes) : (record leaf).keys.Nodup := by
  rw [Record.keys, record_own, record_flat, Base.record_keys]
  decide

/-- The fields build the configuration again, if those that may have no JSON form do. -/
theorem restores (c : Config leaf)
    (monitor : (StorageMonitor.codec leaf.bytesize).option.Restores c.storageMonitor)
    (utf8Path : ∀ path ∈ c.dsn.providerStoragePath, path.IsUtf8) :
    (record leaf).Restores c c :=
  (Record.build_restores _)
    |>.field (SegmentPublishConcurrency.restores _) (orDefault_faithful _ _)
    |>.field (bool_restores _) (orDefault_faithful _ _)
    |>.flatten (Base.restores _) (Base.keys_nodup leaf) (Base.leftOut _)
    |>.field (Dsn.restores _ utf8Path) (orDefault_faithful _ _)
    |>.field monitor (orDefault_faithful _ _)
    |>.field (bool_restores _) (orDefault_faithful _ _)
    |>.field (option_restores (fun domain _ => domain.restores) (Record.codec_writesNoNull _))
      (orDefault_faithful _ _)
    |>.field (bool_restores _) (orDefault_faithful _ _)
    |>.field (set_restores (fun n => uint_restores n) (leaf.iterate_members _))
      (orDefault_faithful _ _)
    |>.field (option_restores (fun _ _ => list_restores fun byte _ => uint_restores byte)
        (list_writesNoNull _)) (orDefault_faithful _ _)

end Config

/-- A configuration without a storage monitor, and with paths that can be written, is read back as
it was saved.  No key of `Base` is a key of a record that flattens it. -/
theorem config_restored (leaf : LeafTypes) (c : Config leaf) (noMonitor : c.storageMonitor = none)
    (utf8Path : ∀ path ∈ c.dsn.providerStoragePath, path.IsUtf8) :
    (∃ entries, (Config.codec leaf).serialize c = some (.obj entries) ∧
      (entries.map Prod.fst).Nodup ∧ (Config.codec leaf).deserialize (.obj entries) = some c) ∧
    (∀ key ∈ (Base.record leaf).keys, key ∉ (Config.record leaf).own) ∧
    ∀ key ∈ (Base.record leaf).keys, key ∉ (DomainConfig.record leaf).own := by
  have monitor : (StorageMonitor.codec leaf.bytesize).option.Restores c.storageMonitor :=
    noMonitor ▸ option_restores_none
  refine ⟨(c.restores monitor utf8Path).entries (Config.keys_nodup leaf), ?_, ?_⟩
  · rw [← Config.record_flat]
    exact Record.flat_apart (Config.keys_nodup leaf)
  · rw [← DomainConfig.record_flat]
    exact Record.flat_apart (DomainConfig.keys_nodup leaf)

/-- The members of a set in ascending order. -/
def ascending (s : Finset (BitVec 64)) : List (BitVec 64) :=
  ((s.image BitVec.toNat).sort (· ≤ ·)).map (BitVec.ofNat 64)

theorem ascending_members (s : Finset (BitVec 64)) : (ascending s).toFinset = s := by
  ext n
  simp [ascending]

/-- Addresses as they are written, and plain numbers. -/
def textLeaves : LeafTypes where
  Multiaddr := String
  MultiaddrWithPeerId := String
  SocketAddr := String
  DomainId := BitVec 32
  OperatorId := BitVec 64
  decMultiaddr := inferInstance
  decMultiaddrWithPeerId := inferInstance
  decSocketAddr := inferInstance
  decDomainId := inferInstance
  decOperatorId := inferInstance
  multiaddr := string
  multiaddrWithPeerId := string
  socketAddr := string
  domainId := uint 32
  operatorId := uint 64
  multiaddr_restores := string_restores
  multiaddrWithPeerId_restores := string_restores
  socketAddr_restores := string_restores
  domainId_restores := uint_restores
  operatorId_restores := uint_restores
  socketAddr_writesNoNull := string_writesNoNull
  operatorId_writesNoNull := uint_writesNoNull 64
  localTcp := "/ip4/127.0.0.1/tcp/0"
  defaultDomainId := 0
  gitHash := "bd43510"
  iterate := ascending
  iterate_members := ascending_members
  bytesize := decimalBytesize

/-- A timekeeper whose settings look empty but are no defaults. -/
def timekeeper : Config textLeaves :=
  { Config.default textLeaves with
    base :=
      { Base.default textLeaves with
        role := .authority
        statePruning := .constrained ⟨none⟩
        rpc := { Rpc.default textLeaves with cors := some [] } }
    dsn := { Dsn.default textLeaves with listenAddresses := ⟨[]⟩ }
    domain := some (DomainConfig.default textLeaves)
    isTimekeeper := true
    timekeeperCpuCores := {2, 3}
    potExternalEntropy := some [] }

theorem timekeeper_restored :
    (∃ entries, (Config.codec textLeaves).serialize timekeeper = some (.obj entries) ∧
      (entries.map Prod.fst).Nodup ∧
      (Config.codec textLeaves).deserialize (.obj entries) = some timekeeper) ∧
    (∀ key ∈ (Base.record textLeaves).keys, key ∉ (Config.record textLeaves).own) ∧
    ∀ key ∈ (Base.record textLeaves).keys, key ∉ (DomainConfig.record textLeaves).own :=
  config_restored textLeaves timekeeper rfl nofun

end SubspaceSdk
