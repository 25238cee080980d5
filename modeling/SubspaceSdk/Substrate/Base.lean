import SubspaceSdk.Substrate.Types

/-! `Base`, the settings that consensus nodes and domain nodes share, with its records of RPC and
network settings. -/

namespace SubspaceSdk

open ProofKit Codec

/-- The types of other crates in configurations, with their serde forms, what the build and the
standard library leave open, and the crate that writes sizes. -/
structure LeafTypes where
  Multiaddr : Type
  MultiaddrWithPeerId : Type
  SocketAddr : Type
  DomainId : Type
  OperatorId : Type
  decMultiaddr : DecidableEq Multiaddr
  decMultiaddrWithPeerId : DecidableEq MultiaddrWithPeerId
  decSocketAddr : DecidableEq SocketAddr
  decDomainId : DecidableEq DomainId
  decOperatorId : DecidableEq OperatorId
  multiaddr : Codec Multiaddr
  multiaddrWithPeerId : Codec MultiaddrWithPeerId
  socketAddr : Codec SocketAddr
  domainId : Codec DomainId
  operatorId : Codec OperatorId
  multiaddr_restores : ∀ x, multiaddr.Restores x
  multiaddrWithPeerId_restores : ∀ x, multiaddrWithPeerId.Restores x
  socketAddr_restores : ∀ x, socketAddr.Restores x
  domainId_restores : ∀ x, domainId.Restores x
  operatorId_restores : ∀ x, operatorId.Restores x
  socketAddr_writesNoNull : socketAddr.WritesNoNull
  operatorId_writesNoNull : operatorId.WritesNoNull
  /-- `/ip4/127.0.0.1/tcp/0`. -/
  localTcp : Multiaddr
  defaultDomainId : DomainId
  gitHash : String
  /-- The order of the members of a `HashSet`. -/
  iterate : Finset (BitVec 64) → List (BitVec 64)
  iterate_members : ∀ s, (iterate s).toFinset = s
  bytesize : Bytesize

attribute [instance] LeafTypes.decMultiaddr LeafTypes.decMultiaddrWithPeerId
  LeafTypes.decSocketAddr LeafTypes.decDomainId LeafTypes.decOperatorId

variable {leaf : LeafTypes}

/-- Node RPC settings. -/
structure Rpc (leaf : LeafTypes) where
  addr : Option leaf.SocketAddr
  port : Option (BitVec 16)
  maxConnections : Option (BitVec 64)
  cors : Option (List String)
  methods : RpcMethods
  maxRequestSize : Option (BitVec 64)
  maxResponseSize : Option (BitVec 64)
  maxSubsPerConn : Option (BitVec 64)
  deriving DecidableEq

namespace Rpc

def default (leaf : LeafTypes) : Rpc leaf where
  addr := none
  port := none
  maxConnections := none
  cors := none
  methods := .default
  maxRequestSize := none
  maxResponseSize := none
  maxSubsPerConn := none

def record (leaf : LeafTypes) : Record (Rpc leaf) (Rpc leaf) :=
  (Record.build Rpc.mk)
    |>.field "addr" addr leaf.socketAddr.option (orDefault none)
    |>.field "port" port (uint 16).option (orDefault none)
    |>.field "max_connections" maxConnections (uint 64).option (orDefault none)
    |>.field "cors" cors string.list.option (orDefault none)
    |>.field "methods" methods RpcMethods.codec (orDefault .default)
    |>.field "max_request_size" maxRequestSize (uint 64).option (orDefault none)
    |>.field "max_response_size" maxResponseSize (uint 64).option (orDefault none)
    |>.field "max_subs_per_conn" maxSubsPerConn (uint 64).option (orDefault none)

theorem record_keys (leaf : LeafTypes) : (record leaf).keys =
    ["addr", "port", "max_connections", "cors", "methods", "max_request_size",
      "max_response_size", "max_subs_per_conn"] := by
  simp [Record.keys, record]

theorem restores (x : Rpc leaf) : (record leaf).codec.Restores x :=
  have word {w : Nat} (n : Option (BitVec w)) : (uint w).option.Restores n :=
    option_restores (fun n _ => uint_restores n) (uint_writesNoNull w)
  Record.Restores.codec
    ((Record.build_restores _)
      |>.field (option_restores (fun a _ => leaf.socketAddr_restores a)
          leaf.socketAddr_writesNoNull) (orDefault_faithful _ _)
      |>.field (word _) (orDefault_faithful _ _)
      |>.field (word _) (orDefault_faithful _ _)
      |>.field (option_restores (fun _ _ => list_restores fun s _ => string_restores s)
          (list_writesNoNull _)) (orDefault_faithful _ _)
      |>.field (RpcMethods.restores _) (orDefault_faithful _ _)
      |>.field (word _) (orDefault_faithful _ _)
      |>.field (word _) (orDefault_faithful _ _)
      |>.field (word _) (orDefault_faithful _ _))
    (by rw [record_keys]; decide)

end Rpc

/-- Node network settings. -/
structure Network (leaf : LeafTypes) where
  enableMdns : Bool
  allowPrivateIp : Bool
  allowNonGlobalsInDht : Bool
  listenAddresses : List leaf.Multiaddr
  bootNodes : List leaf.MultiaddrWithPeerId
  forceSynced : Bool
  name : Option String
  clientId : Option String
  deriving DecidableEq

namespace Network

def default (leaf : LeafTypes) : Network leaf where
  enableMdns := false
  allowPrivateIp := false
  allowNonGlobalsInDht := false
  listenAddresses := []
  bootNodes := []
  forceSynced := false
  name := none
  clientId := none

def record (leaf : LeafTypes) : Record (Network leaf) (Network leaf) :=
  (Record.build Network.mk)
    |>.field "enable_mdns" enableMdns bool (orDefault false)
    |>.field "allow_private_ip" allowPrivateIp bool (orDefault false)
    |>.field "allow_non_globals_in_dht" allowNonGlobalsInDht bool (orDefault false)
    |>.field "listen_addresses" listenAddresses leaf.multiaddr.list (orDefault [])
    |>.field "boot_nodes" bootNodes leaf.multiaddrWithPeerId.list orEmpty
    |>.field "force_synced" forceSynced bool (orDefault false)
    |>.field "name" name string.option (orDefault none)
    |>.field "client_id" clientId string.option (orDefault none)

theorem record_keys (leaf : LeafTypes) : (record leaf).keys =
    ["enable_mdns", "allow_private_ip", "allow_non_globals_in_dht", "listen_addresses",
      "boot_nodes", "force_synced", "name", "client_id"] := by
  simp [Record.keys, record]

theorem restores (x : Network leaf) : (record leaf).codec.Restores x :=
  have text (s : Option String) : string.option.Restores s :=
    option_restores (fun s _ => string_restores s) string_writesNoNull
  Record.Restores.codec
    ((Record.build_restores _)
      |>.field (bool_restores _) (orDefault_faithful _ _)
      |>.field (bool_restores _) (orDefault_faithful _ _)
      |>.field (bool_restores _) (orDefault_faithful _ _)
      |>.field (list_restores fun a _ => leaf.multiaddr_restores a) (orDefault_faithful _ _)
      |>.field (list_restores fun a _ => leaf.multiaddrWithPeerId_restores a)
        (orEmpty_faithful _)
      |>.field (bool_restores _) (orDefault_faithful _ _)
      |>.field (text _) (orDefault_faithful _ _)
      |>.field (text _) (orDefault_faithful _ _))
    (by rw [record_keys]; decide)

end Network

/-- The settings of a node of any chain. -/
structure Base (leaf : LeafTypes) where
  forceAuthoring : Bool
  role : Role
  blocksPruning : BlocksPruning
  statePruning : PruningMode
  implName : ImplName
  implVersion : ImplVersion
  rpc : Rpc leaf
  network : Network leaf
  offchainWorker : OffchainWorker
  informantEnableColor : Bool
  telemetry : List (leaf.Multiaddr × BitVec 8)
  devKeySeed : Option String
  deriving DecidableEq

namespace Base

def default (leaf : LeafTypes) : Base leaf where
  forceAuthoring := false
  role := .default
  blocksPruning := .default
  statePruning := .default
  implName := .default
  implVersion := .default leaf.gitHash
  rpc := .default leaf
  network := .default leaf
  offchainWorker := .default
  informantEnableColor := false
  telemetry := []
  devKeySeed := none

def record (leaf : LeafTypes) : Record (Base leaf) (Base leaf) :=
  (Record.build Base.mk)
    |>.field "force_authoring" forceAuthoring bool (orDefault false)
    |>.field "role" role Role.codec (orDefault .default)
    |>.field "blocks_pruning" blocksPruning BlocksPruning.codec (orDefault .default)
    |>.field "state_pruning" statePruning PruningMode.codec (orDefault .default)
    |>.field "impl_name" implName ImplName.codec (orDefault .default)
    |>.field "impl_version" implVersion ImplVersion.codec (orDefault (.default leaf.gitHash))
    |>.field "rpc" rpc (Rpc.record leaf).codec (orDefault (.default leaf))
    |>.field "network" network (Network.record leaf).codec (orDefault (.default leaf))
    |>.field "offchain_worker" offchainWorker OffchainWorker.record.codec (orDefault .default)
    |>.field "informant_enable_color" informantEnableColor bool (orDefault false)
    |>.field "telemetry" telemetry (leaf.multiaddr.pair (uint 8)).list (orDefault [])
    |>.field "dev_key_seed" devKeySeed string.option (orDefault none)

theorem record_keys (leaf : LeafTypes) : (record leaf).keys =
    ["force_authoring", "role", "blocks_pruning", "state_pruning", "impl_name", "impl_version",
      "rpc", "network", "offchain_worker", "informant_enable_color", "telemetry",
      "dev_key_seed"] := by
  simp [Record.keys, record]

theorem keys_nodup (leaf : LeafTypes) : (record leaf).keys.Nodup := by
  rw [record_keys]
  decide

/-- The fields of `Base` build it again, on their own or among the entries of another record. -/
theorem restores (x : Base leaf) : (record leaf).Restores x x :=
  (Record.build_restores _)
    |>.field (bool_restores _) (orDefault_faithful _ _)
    |>.field (Role.restores _) (orDefault_faithful _ _)
    |>.field (BlocksPruning.restores _) (orDefault_faithful _ _)
    |>.field (PruningMode.restores _) (orDefault_faithful _ _)
    |>.field (ImplName.restores _) (orDefault_faithful _ _)
    |>.field (ImplVersion.restores _) (orDefault_faithful _ _)
    |>.field (Rpc.restores _) (orDefault_faithful _ _)
    |>.field (Network.restores _) (orDefault_faithful _ _)
    |>.field (OffchainWorker.restores _) (orDefault_faithful _ _)
    |>.field (bool_restores _) (orDefault_faithful _ _)
    |>.field (list_restores fun endpoint _ =>
        pair_restores (leaf.multiaddr_restores endpoint.1) (uint_restores endpoint.2))
      (orDefault_faithful _ _)
    |>.field (option_restores (fun s _ => string_restores s) string_writesNoNull)
      (orDefault_faithful _ _)

/-- Nothing is written for the default. -/
theorem slots_default (leaf : LeafTypes) :
    (record leaf).slots (default leaf) = some ((record leaf).keys.map (·, none)) := by
  rw [record_keys]
  simp [record, Record.field, Record.build, Omission.slot, orDefault, isDefault, default]

theorem leftOut (x : Base leaf) (skipped : isDefault (default leaf) x = true) :
    (record leaf).slots x = some ((record leaf).keys.map (·, none)) := by
  rw [show x = default leaf from of_decide_eq_true skipped]
  exact slots_default leaf

end Base

end SubspaceSdk
