import Mathlib.Data.List.AList
import SubspaceSdk.ProofKit.Checked
import SubspaceSdk.Substrate.Base

/-! What `Base` and a chain spec make of the configuration of the substrate service, when a node
starts.  The service has its own types for what is saved, limits of 32 bits, and no open choices. -/

namespace SubspaceSdk

open ProofKit Codec

variable {leaf : LeafTypes}

/-! ### The types of the service -/

namespace Service

/-- `sc_service::BlocksPruning`. -/
inductive BlocksPruning where
  | keepAll
  | keepFinalized
  | some (n : BitVec 32)
  deriving Repr, DecidableEq

/-- `sc_state_db::Constraints`. -/
structure Constraints where
  maxBlocks : Option (BitVec 32)
  deriving Repr, DecidableEq

/-- `sc_service::PruningMode`. -/
inductive PruningMode where
  | archiveAll
  | archiveCanonical
  | constrained (constraints : Constraints)
  deriving Repr, DecidableEq

/-- `sc_service::Role`. -/
inductive Role where
  | full
  | authority
  deriving Repr, DecidableEq

/-- `sc_service::RpcMethods`. -/
inductive RpcMethods where
  | auto
  | safe
  | unsafeMethods
  deriving Repr, DecidableEq

structure OffchainWorkerConfig where
  enabled : Bool
  indexingEnabled : Bool
  deriving Repr, DecidableEq

/-- In mebibytes and in seconds. -/
structure StorageMonitorParams where
  threshold : BitVec 64
  pollingPeriod : BitVec 32
  deriving Repr, DecidableEq

end Service

namespace BlocksPruning

def toService : BlocksPruning → Service.BlocksPruning
  | keepAll => .keepAll
  | keepFinalized => .keepFinalized
  | some n => .some n

def ofService : Service.BlocksPruning → BlocksPruning
  | .keepAll => keepAll
  | .keepFinalized => keepFinalized
  | .some n => some n

theorem ofService_toService (x : BlocksPruning) : ofService x.toService = x := by
  cases x <;> rfl

end BlocksPruning

def Constraints.toService (c : Constraints) : Service.Constraints := ⟨c.maxBlocks⟩

def Constraints.ofService (c : Service.Constraints) : Constraints := ⟨c.maxBlocks⟩

namespace PruningMode

def toService : PruningMode → Service.PruningMode
  | archiveAll => .archiveAll
  | archiveCanonical => .archiveCanonical
  | constrained c => .constrained c.toService

def ofService : Service.PruningMode → PruningMode
  | .archiveAll => archiveAll
  | .archiveCanonical => archiveCanonical
  | .constrained c => constrained (.ofService c)

theorem ofService_toService (x : PruningMode) : ofService x.toService = x := by
  cases x <;> rfl

end PruningMode

def Role.toService : Role → Service.Role
  | full => .full
  | authority => .authority

theorem Role.toService_injective : Function.Injective Role.toService := by
  intro x y same
  cases x <;> cases y <;> first | rfl | cases same

def RpcMethods.toService : RpcMethods → Service.RpcMethods
  | auto => .auto
  | safe => .safe
  | unsafeMethods => .unsafeMethods

theorem RpcMethods.toService_injective : Function.Injective RpcMethods.toService := by
  intro x y same
  cases x <;> cases y <;> first | rfl | cases same

def OffchainWorker.toService (w : OffchainWorker) : Service.OffchainWorkerConfig :=
  ⟨w.enabled, w.indexingEnabled⟩

theorem OffchainWorker.toService_injective : Function.Injective OffchainWorker.toService := by
  rintro ⟨_, _⟩ ⟨_, _⟩ same
  cases same
  rfl

/-- `bytesize::MIB`. -/
def mib : BitVec 64 := 1_048_576

/-- `max(1)`. -/
def atLeastOne (n : BitVec 64) : BitVec 64 := if n = 0 then 1 else n

/-- The period is at least a second before it is cut to 32 bits. -/
def StorageMonitor.toParams (m : StorageMonitor) : Service.StorageMonitorParams where
  threshold := atLeastOne (m.threshold.inner / mib)
  pollingPeriod := (atLeastOne m.pollingPeriod.secs).setWidth 32

/-! ### The configuration -/

/-- A path below the directory of the node. -/
abbrev Path := List String

abbrev Endpoint (leaf : LeafTypes) := leaf.Multiaddr × BitVec 8

/-- The properties of a chain spec. -/
abbrev Properties := AList fun _ : String => Json

/-- `sc_service::ChainType`. -/
inductive ChainType where
  | development
  | localNetwork
  | live
  | custom (name : String)
  deriving Repr, DecidableEq

/-- A chain spec without its genesis. -/
structure Spec (leaf : LeafTypes) where
  name : String
  id : String
  chainType : ChainType
  bootNodes : List leaf.MultiaddrWithPeerId
  telemetryEndpoints : Option (List (Endpoint leaf))
  protocolId : Option String
  properties : Properties

structure NetworkConfiguration (leaf : LeafTypes) where
  listenAddresses : List leaf.Multiaddr
  bootNodes : List leaf.MultiaddrWithPeerId
  forceSynced : Bool
  enableMdns : Bool
  allowPrivateIp : Bool
  allowNonGlobalsInDht : Bool
  nodeName : String
  clientVersion : String
  nodeKey : Path
  netConfigPath : Path
  outPeers : BitVec 32
  inPeers : BitVec 32

/-- `sc_service::Configuration`. -/
structure ServiceConfiguration (leaf : LeafTypes) where
  implName : String
  implVersion : String
  network : NetworkConfiguration leaf
  database : Path
  trieCacheMaximumSize : Option (BitVec 64)
  statePruning : Option Service.PruningMode
  blocksPruning : Service.BlocksPruning
  rpcAddr : Option leaf.SocketAddr
  rpcPort : BitVec 16
  rpcMethods : Service.RpcMethods
  rpcMaxConnections : BitVec 32
  rpcCors : Option (List String)
  rpcMaxRequestSize : BitVec 32
  rpcMaxResponseSize : BitVec 32
  rpcMaxSubsPerConn : BitVec 32
  /-- Whether metrics are served. -/
  prometheusConfig : Bool
  telemetryEndpoints : Option (List (Endpoint leaf))
  offchainWorker : Service.OffchainWorkerConfig
  forceAuthoring : Bool
  disableGrandpa : Bool
  devKeySeed : Option String
  chainSpec : Spec leaf
  maxRuntimeInstances : Nat
  announceBlock : Bool
  role : Service.Role
  basePath : Path
  dataPath : Path
  informantEnableColor : Bool
  runtimeCacheSize : BitVec 8

/-- Why a node does not start: a panic, or the property that cannot be decoded. -/
inductive StartUpFailure where
  | nodeName
  /-- The telemetry cannot be decoded again. -/
  | telemetry
  | arithmetic (fault : Fault)
  | potExternalEntropy
  | dsnBootstrapNodes
  | domainsBootstrapNodes
  /-- The entry of a domain in `domainsBootstrapNodes`. -/
  | domain (domainId : String)
  /-- There is no spec for a domain, so that its runner fails. -/
  | domainSpec (domainId : BitVec 32) (error : String)
  deriving Repr, DecidableEq

/-- A number in decimal. -/
def decimal (n : BitVec 32) : String := n.toNat.repr

/-- The text of the failure, before that of its cause. -/
def StartUpFailure.message : StartUpFailure → String
  | .nodeName => "RNG is available on all supported platforms; qed"
  | .telemetry => "Serialization is always valid"
  | .arithmetic _ => "attempt to add with overflow"
  | .potExternalEntropy => "Failed to decode PoT initial key: "
  | .dsnBootstrapNodes => "Failed to decode DSN bootsrap nodes"
  | .domainsBootstrapNodes => "Failed to decode Domains bootstrap nodes: "
  | .domain domainId => "Failed to decode Domain: " ++ domainId ++ " bootstrap nodes: "
  | .domainSpec domainId _ =>
    "Error while creating domain spec for the domain: " ++ decimal domainId ++ " Error: "

/-- The endpoints of the telemetry.  Endpoints can only be added to those of a chain spec in their
JSON form; without any, each is parsed from its text. -/
def telemetryEndpoints (chainSpec : Option (List (Endpoint leaf)))
    (telemetry : List (Endpoint leaf)) : Except StartUpFailure (List (Endpoint leaf)) :=
  let endpoint : Codec (Endpoint leaf) := leaf.multiaddr.pair (uint 8)
  let all : Option (List (Endpoint leaf)) :=
    match chainSpec with
    | some endpoints => do
      let extraTelemetry ← collect endpoint.serialize telemetry
      let telemetry ← collect endpoint.serialize endpoints
      endpoint.list.deserialize (.arr (telemetry ++ extraTelemetry))
    | none =>
      collect (fun e => ((leaf.multiaddr.serialize e.1).bind leaf.multiaddr.deserialize).map
        (·, e.2)) telemetry
  match all with
  | some endpoints => .ok endpoints
  | none => .error .telemetry

def nodeNameMaxLength : Nat := 64

/-- The name of the node, where `generated` is what the generator of names gives. -/
def nodeName (generated : String) (name : Option String) : Except StartUpFailure String :=
  match name with
  | some name => .ok name
  | none => if generated.length < nodeNameMaxLength then .ok generated else .error .nodeName

/-- `unwrap_or_default() as u32`. -/
def limit (n : Option (BitVec 64)) : BitVec 32 := (n.getD 0).setWidth 32

namespace Base

def configDir (directory : Path) (spec : Spec leaf) : Path := directory ++ ["chains", spec.id]

def clientId (b : Base leaf) : String :=
  b.network.clientId.getD (b.implName.name ++ "/v" ++ b.implVersion.version)

def networkConfiguration (directory : Path) (spec : Spec leaf) (name : String) (b : Base leaf) :
    NetworkConfiguration leaf where
  listenAddresses := b.network.listenAddresses
  bootNodes := spec.bootNodes ++ b.network.bootNodes
  forceSynced := b.network.forceSynced
  enableMdns := b.network.enableMdns
  allowPrivateIp := b.network.allowPrivateIp
  allowNonGlobalsInDht := b.network.allowNonGlobalsInDht
  nodeName := name
  clientVersion := b.clientId
  nodeKey := configDir directory spec ++ ["network", "secret_ed25519"]
  netConfigPath := configDir directory spec ++ ["network"]
  outPeers := 50
  inPeers := 25 + 100

/-- The configuration with a name and the endpoints of the telemetry. -/
def serviceConfiguration (directory : Path) (spec : Spec leaf) (name : String)
    (endpoints : List (Endpoint leaf)) (b : Base leaf) : ServiceConfiguration leaf where
  implName := b.implName.name
  implVersion := b.implVersion.version
  network := b.networkConfiguration directory spec name
  database := configDir directory spec ++ ["paritydb", "full"]
  trieCacheMaximumSize := some 67_108_864
  statePruning := some b.statePruning.toService
  blocksPruning := b.blocksPruning.toService
  rpcAddr := b.rpc.addr
  rpcPort := b.rpc.port.getD 0
  rpcMethods := b.rpc.methods.toService
  rpcMaxConnections := limit b.rpc.maxConnections
  rpcCors := b.rpc.cors
  rpcMaxRequestSize := limit b.rpc.maxRequestSize
  rpcMaxResponseSize := limit b.rpc.maxResponseSize
  rpcMaxSubsPerConn := limit b.rpc.maxSubsPerConn
  prometheusConfig := false
  telemetryEndpoints := some endpoints
  offchainWorker := b.offchainWorker.toService
  forceAuthoring := b.forceAuthoring
  disableGrandpa := false
  devKeySeed := b.devKeySeed
  chainSpec := spec
  maxRuntimeInstances := 8
  announceBlock := true
  role := b.role.toService
  basePath := directory
  dataPath := configDir directory spec
  informantEnableColor := b.informantEnableColor
  runtimeCacheSize := 2

def configuration (directory : Path) (spec : Spec leaf) (generated : String) (b : Base leaf) :
    Except StartUpFailure (ServiceConfiguration leaf) := do
  let name ← nodeName generated b.network.name
  let endpoints ← telemetryEndpoints spec.telemetryEndpoints b.telemetry
  .ok (b.serviceConfiguration directory spec name endpoints)

end Base

theorem endpoint_restores (e : Endpoint leaf) :
    (leaf.multiaddr.pair (uint 8)).Restores e :=
  pair_restores (leaf.multiaddr_restores e.1) (uint_restores e.2)

/-- The telemetry is always decoded again, what the chain spec has first. -/
theorem telemetryEndpoints_eq (chainSpec : Option (List (Endpoint leaf)))
    (telemetry : List (Endpoint leaf)) :
    telemetryEndpoints chainSpec telemetry = .ok (chainSpec.getD [] ++ telemetry) := by
  cases chainSpec with
  | none =>
    have parsed : collect (fun e : Endpoint leaf =>
        ((leaf.multiaddr.serialize e.1).bind leaf.multiaddr.deserialize).map (·, e.2)) telemetry =
        some telemetry := by
      refine collect_eq_some_iff.mpr (List.forall₂_same.mpr fun e _ => ?_)
      obtain ⟨j, text, back⟩ := leaf.multiaddr_restores e.1
      rw [text, Option.bind_some, back, Option.map_some]
    simp only [telemetryEndpoints, parsed]
    rfl
  | some endpoints =>
    obtain ⟨extra, extraWritten, extraBack⟩ :=
      collect_restores fun e (_ : e ∈ telemetry) => endpoint_restores e
    obtain ⟨js, written, back⟩ :=
      collect_restores fun e (_ : e ∈ endpoints) => endpoint_restores e
    have all : (leaf.multiaddr.pair (uint 8)).list.deserialize (.arr (js ++ extra)) =
        some (endpoints ++ telemetry) :=
      collect_eq_some_iff.mpr
        (List.rel_append (collect_eq_some_iff.mp back) (collect_eq_some_iff.mp extraBack))
    simp only [telemetryEndpoints, extraWritten, written, all, Option.bind_eq_bind,
      Option.bind_some]
    rfl

/-- Only the name can be missing. -/
theorem Base.configuration_eq (directory : Path) (spec : Spec leaf) (generated : String)
    (b : Base leaf) : b.configuration directory spec generated =
      (nodeName generated b.network.name).map fun name =>
        b.serviceConfiguration directory spec name
          (spec.telemetryEndpoints.getD [] ++ b.telemetry) := by
  rw [configuration, telemetryEndpoints_eq]
  cases nodeName generated b.network.name <;> rfl

theorem nodeName_ok_iff {generated name : String} {own : Option String} :
    nodeName generated own = .ok name ↔
      name = own.getD generated ∧ (own = none → generated.length < nodeNameMaxLength) := by
  cases own with
  | some own => simp [nodeName, eq_comm]
  | none =>
    by_cases short : generated.length < nodeNameMaxLength
    · simp [nodeName, short, eq_comm]
    · simp [nodeName, short]

end SubspaceSdk
