import SubspaceSdk.Dsn.Networking
import SubspaceSdk.Node.Config
import SubspaceSdk.Node.DomainSpec
import Mathlib

/-! How a node starts, from its configuration and its chain spec.  The chain spec adds boot nodes
and telemetry, and its properties say the external entropy of the proof of time and the nodes that
the networks connect to first.  A property may be missing; one that cannot be decoded keeps the
node from starting. -/

namespace SubspaceSdk

open ProofKit Codec
open ChainSpec (Profile)

variable {leaf : LeafTypes}

/-- The properties of a consensus chain of the SDK, which leaves the entropy open. -/
def consensusProperties (ss58Format tokenDecimals : BitVec 16) : Properties :=
  (chainSpecProperties ss58Format tokenDecimals).insert "potExternalEntropy" .null

/-- What a property says, if it is there. -/
def decodeProperty {α : Type} (c : Codec α) (error : StartUpFailure) :
    Option Json → Except StartUpFailure (Option α)
  | none => .ok none
  | some property =>
    match c.deserialize property with
    | some value => .ok (some value)
    | none => .error error

/-- `serde_json::Map`. -/
def jsonMap : Codec Entries where
  serialize entries := some (.obj entries)
  deserialize
    | .obj entries => some entries
    | _ => none

/-- The entropy of the chain spec, or else that of the configuration. -/
def potExternalEntropy (properties : Properties) (config : Option (List (BitVec 8))) :
    Except StartUpFailure (List (BitVec 8)) := do
  let chainSpec ← decodeProperty (uint 8).list.option .potExternalEntropy
    (properties.lookup "potExternalEntropy")
  .ok ((chainSpec.join.or config).getD [])

/-- What a node starts with besides its configuration. -/
structure Surroundings (leaf : LeafTypes) where
  profile : Profile
  /-- The chain spec of the node. -/
  spec : Spec leaf
  /-- The chain spec in a file, for a domain that names one. -/
  fromJsonFile : String → Except String (Spec leaf)
  /-- The constants of the runtime that chain specs mention. -/
  ss58Format : BitVec 16
  tokenDecimals : BitVec 16
  domainNumber : leaf.DomainId → BitVec 32
  /-- A domain among the properties. -/
  domainText : leaf.DomainId → String
  /-- What the generator of names gives, should the node or the domain have none. -/
  generatedName : String
  generatedDomainName : String

/-- What the runner of a domain is started with. -/
structure DomainStart (leaf : LeafTypes) where
  domainId : leaf.DomainId
  maybeOperatorId : Option leaf.OperatorId
  additionalArguments : List String
  /-- The runner fails where there is none. -/
  service : Except StartUpFailure (ServiceConfiguration leaf)

/-- What a node is started with. -/
structure StartUp (leaf : LeafTypes) where
  service : ServiceConfiguration leaf
  potExternalEntropy : List (BitVec 8)
  dsn : NetworkingConfig leaf
  syncFromDsn : Bool
  enableSubspaceBlockRelay : Bool
  isTimekeeper : Bool
  timekeeperCpuCores : Finset (BitVec 64)
  storageMonitor : Option Service.StorageMonitorParams
  domain : Option (DomainStart leaf)

def ServiceConfiguration.setBootNodes (s : ServiceConfiguration leaf)
    (bootNodes : List leaf.MultiaddrWithPeerId) : ServiceConfiguration leaf :=
  { s with network := { s.network with bootNodes } }

namespace DomainConfig

/-- Below the directory of the node. -/
def directory (env : Surroundings leaf) (domain : DomainConfig leaf) : Path :=
  ["domain-" ++ decimal (env.domainNumber domain.domainId)]

def spec (env : Surroundings leaf) (domain : DomainConfig leaf) :
    Except StartUpFailure (Spec leaf) :=
  (createDomainSpec (chainSpecProperties env.ss58Format env.tokenDecimals) env.fromJsonFile
    domain.chainId).mapError (.domainSpec (env.domainNumber domain.domainId))

/-- The boot nodes of the chain spec are for a service that has none. -/
def start (env : Surroundings leaf) (chainSpecBootstrapNodes : List leaf.MultiaddrWithPeerId)
    (domain : DomainConfig leaf) : DomainStart leaf where
  domainId := domain.domainId
  maybeOperatorId := domain.maybeOperatorId
  additionalArguments := domain.additionalArgs
  service := do
    let spec ← domain.spec env
    let service ← domain.base.configuration (domain.directory env) spec env.generatedDomainName
    if service.network.bootNodes.isEmpty then
      .ok (service.setBootNodes chainSpecBootstrapNodes)
    else
      .ok service

end DomainConfig

namespace Config

/-- The domain, with the boot nodes of its entry among those of all domains. -/
def startDomain (env : Surroundings leaf) (domains : Entries) (config : Config leaf) :
    Except StartUpFailure (Option (DomainStart leaf)) :=
  match config.domain with
  | none => .ok none
  | some domain => do
    let text := env.domainText domain.domainId
    let nodes ← decodeProperty leaf.multiaddrWithPeerId.list (.domain text) (domains.lookup text)
    .ok (some (domain.start env (nodes.getD [])))

def startUp (env : Surroundings leaf) (config : Config leaf) :
    Except StartUpFailure (StartUp leaf) := do
  let service ← config.base.configuration [] env.spec env.generatedName
  let properties := service.chainSpec.properties
  let potExternalEntropy ←
    SubspaceSdk.potExternalEntropy properties config.potExternalEntropy
  let chainSpecBootNodes ← decodeProperty leaf.multiaddrWithPeerId.list .dsnBootstrapNodes
    (properties.lookup "dsnBootstrapNodes")
  let dsn := { config.dsn with bootNodes := config.dsn.bootNodes ++ chainSpecBootNodes.getD [] }
  let dsn ← (dsn.buildDsn env.profile [] service.prometheusConfig).mapError .arithmetic
  let domains ← decodeProperty jsonMap .domainsBootstrapNodes
    (properties.lookup "domainsBootstrapNodes")
  let domain ← config.startDomain env (domains.getD [])
  .ok {
    service
    potExternalEntropy
    dsn
    syncFromDsn := config.syncFromDsn
    enableSubspaceBlockRelay := config.enableSubspaceBlockRelay
    isTimekeeper := config.isTimekeeper
    timekeeperCpuCores := config.timekeeperCpuCores
    storageMonitor := config.storageMonitor.map StorageMonitor.toParams
    domain }

/-- The node has a name or gets one, and the limits of its DSN fit. -/
def Starts (env : Surroundings leaf) (config : Config leaf) : Prop :=
  (config.base.network.name = none → env.generatedName.length < nodeNameMaxLength) ∧
    config.dsn.Fits env.profile

end Config

/-! ### What a chain spec publishes -/

/-- What the author of a chain spec has to say to the nodes that start with it. -/
structure Published (leaf : LeafTypes) where
  potExternalEntropy : Option (List (BitVec 8))
  dsnBootstrapNodes : List leaf.MultiaddrWithPeerId
  domainsBootstrapNodes : List (leaf.DomainId × List leaf.MultiaddrWithPeerId)
  distinct : (domainsBootstrapNodes.map Prod.fst).Nodup

namespace Published

/-- The property of the domains, an object with an entry for each. -/
def writeDomains (display : leaf.DomainId → String)
    (domains : List (leaf.DomainId × List leaf.MultiaddrWithPeerId)) : Option Entries :=
  collect (fun domain => (leaf.multiaddrWithPeerId.list.serialize domain.2).map
    (display domain.1, ·)) domains

/-- What is published, among the other properties. -/
def write (display : leaf.DomainId → String) (p : Published leaf) (properties : Properties) :
    Option Properties := do
  let entropy ← (uint 8).list.option.serialize p.potExternalEntropy
  let dsn ← leaf.multiaddrWithPeerId.list.serialize p.dsnBootstrapNodes
  let domains ← writeDomains display p.domainsBootstrapNodes
  some (((properties.insert "potExternalEntropy" entropy).insert "dsnBootstrapNodes" dsn).insert
    "domainsBootstrapNodes" (.obj domains))

/-- What a domain makes of it: one without nodes of its own gets what is published for it. -/
def startDomain (p : Published leaf) (env : Surroundings leaf) (domain : DomainConfig leaf) :
    DomainStart leaf where
  domainId := domain.domainId
  maybeOperatorId := domain.maybeOperatorId
  additionalArguments := domain.additionalArgs
  service := do
    let spec ← domain.spec env
    let name ← nodeName env.generatedDomainName domain.base.network.name
    let own := spec.bootNodes ++ domain.base.network.bootNodes
    let published := (p.domainsBootstrapNodes.lookup domain.domainId).getD []
    .ok ((domain.base.serviceConfiguration (domain.directory env) spec name
      (spec.telemetryEndpoints.getD [] ++ domain.base.telemetry)).setBootNodes
        (if own.isEmpty then published else own))

/-- What a node makes of it: the published entropy stands before the configured one, and the DSN
gets the nodes of both. -/
def startUp (p : Published leaf) (env : Surroundings leaf) (config : Config leaf) :
    StartUp leaf where
  service := config.base.serviceConfiguration [] env.spec
    (config.base.network.name.getD env.generatedName)
    (env.spec.telemetryEndpoints.getD [] ++ config.base.telemetry)
  potExternalEntropy := (p.potExternalEntropy.or config.potExternalEntropy).getD []
  dsn := Dsn.networkingConfig [] false
    (config.dsn.targetConnections.count + config.dsn.inConnections.count / 4)
    { config.dsn with bootNodes := config.dsn.bootNodes ++ p.dsnBootstrapNodes }
  syncFromDsn := config.syncFromDsn
  enableSubspaceBlockRelay := config.enableSubspaceBlockRelay
  isTimekeeper := config.isTimekeeper
  timekeeperCpuCores := config.timekeeperCpuCores
  storageMonitor := config.storageMonitor.map StorageMonitor.toParams
  domain := config.domain.map (p.startDomain env)

/-- Nothing is published. -/
def nothing (leaf : LeafTypes) : Published leaf := ⟨none, [], [], List.nodup_nil⟩

end Published

theorem nodes_restores (nodes : List leaf.MultiaddrWithPeerId) :
    leaf.multiaddrWithPeerId.list.Restores nodes :=
  list_restores fun node _ => leaf.multiaddrWithPeerId_restores node

theorem entropy_restores (entropy : Option (List (BitVec 8))) :
    (uint 8).list.option.Restores entropy :=
  option_restores (fun _ _ => list_restores fun byte _ => uint_restores byte) (list_writesNoNull _)

/-- A property that is written is decoded. -/
theorem decodeProperty_of_deserialize {α : Type} {c : Codec α} {error : StartUpFailure}
    {j : Json} {x : α} (read : c.deserialize j = some x) :
    decodeProperty c error (some j) = .ok (some x) := by
  simp only [decodeProperty, read]

/-- The entry of a domain is found under its text, and says what is published for it. -/
theorem writeDomains_lookup {display : leaf.DomainId → String}
    (injective : Function.Injective display)
    (domains : List (leaf.DomainId × List leaf.MultiaddrWithPeerId)) :
    ∃ entries, Published.writeDomains display domains = some entries ∧ ∀ domainId error,
      decodeProperty leaf.multiaddrWithPeerId.list error (entries.lookup (display domainId)) =
        .ok (domains.lookup domainId) := by
  induction domains with
  | nil => exact ⟨[], rfl, fun _ _ => rfl⟩
  | cons domain domains ih =>
    obtain ⟨entries, written, found⟩ := ih
    obtain ⟨j, nodes, read⟩ := nodes_restores domain.2
    refine ⟨(display domain.1, j) :: entries, ?_, fun domainId error => ?_⟩
    · unfold Published.writeDomains at written ⊢
      rw [collect_cons_of_some (b := (display domain.1, j)) (by rw [nodes, Option.map_some]),
        written, Option.map_some]
    · rw [List.lookup_cons, List.lookup_cons]
      by_cases same : domainId = domain.1
      · rw [same, beq_self_eq_true, beq_self_eq_true]
        exact decodeProperty_of_deserialize read
      · rw [beq_false_of_ne same, beq_false_of_ne fun text => same (injective text)]
        exact found domainId error

/-- The properties that a node reads. -/
def readProperties : List String :=
  ["potExternalEntropy", "dsnBootstrapNodes", "domainsBootstrapNodes"]

theorem mapError_eq_ok {ε ε' α : Type} {f : ε → ε'} {x : Except ε α} {a : α} :
    x.mapError f = .ok a ↔ x = .ok a := by
  cases x <;> simp [Except.mapError]

/-- A domain starts with the nodes of its entry, or with none. -/
theorem start_eq (p : Published leaf) (env : Surroundings leaf) (domain : DomainConfig leaf) :
    domain.start env ((p.domainsBootstrapNodes.lookup domain.domainId).getD []) =
      p.startDomain env domain := by
  rw [DomainConfig.start, Published.startDomain]
  cases domain.spec env with
  | error => rfl
  | ok spec =>
    simp only [Checked.ok_bind, Base.configuration_eq]
    cases nodeName env.generatedDomainName domain.base.network.name with
    | error => rfl
    | ok name =>
      simp only [Except.map, Checked.ok_bind, Base.serviceConfiguration,
        Base.networkConfiguration, ServiceConfiguration.setBootNodes]
      split <;> rfl

/-- A node starts with what its chain spec says, whatever else that says. -/
theorem startUp_of_lookup {env : Surroundings leaf} {p : Published leaf}
    {entropy dsn : Json} {domains : Entries}
    (entropyRead : (uint 8).list.option.deserialize entropy = some p.potExternalEntropy)
    (dsnRead : leaf.multiaddrWithPeerId.list.deserialize dsn = some p.dsnBootstrapNodes)
    (domainsRead : ∀ domainId error, decodeProperty leaf.multiaddrWithPeerId.list error
      (domains.lookup (env.domainText domainId)) =
        .ok (p.domainsBootstrapNodes.lookup domainId))
    (first : env.spec.properties.lookup "potExternalEntropy" = some entropy)
    (second : env.spec.properties.lookup "dsnBootstrapNodes" = some dsn)
    (third : env.spec.properties.lookup "domainsBootstrapNodes" = some (.obj domains))
    (config : Config leaf) (started : StartUp leaf) :
    config.startUp env = .ok started ↔ config.Starts env ∧ started = p.startUp env config := by
  have domain : config.startDomain env domains = .ok (config.domain.map (p.startDomain env)) := by
    unfold Config.startDomain
    cases there : config.domain with
    | none => rfl
    | some domain =>
      simp only [domainsRead, Checked.ok_bind, start_eq, Option.map_some]
  have all : decodeProperty jsonMap .domainsBootstrapNodes (some (.obj domains)) =
      .ok (some domains) := rfl
  have steps : config.startUp env = (do
      let name ← nodeName env.generatedName config.base.network.name
      let dsn ← (Dsn.buildDsn env.profile [] false { config.dsn with
        bootNodes := config.dsn.bootNodes ++ p.dsnBootstrapNodes }).mapError .arithmetic
      .ok { p.startUp env config with
        service := config.base.serviceConfiguration [] env.spec name
          (env.spec.telemetryEndpoints.getD [] ++ config.base.telemetry)
        dsn }) := by
    unfold Config.startUp SubspaceSdk.potExternalEntropy
    rw [Base.configuration_eq]
    cases nodeName env.generatedName config.base.network.name with
    | error => rfl
    | ok name =>
      simp only [Except.map, Checked.ok_bind, Base.serviceConfiguration, first, second, third,
        decodeProperty_of_deserialize entropyRead, decodeProperty_of_deserialize dsnRead,
        all, Option.getD_some, domain]
      rfl
  rw [steps, Checked.bind_eq_ok]
  constructor
  · rintro ⟨name, named, built⟩
    obtain ⟨dsn, networking, same⟩ := Checked.bind_eq_ok.mp built
    obtain ⟨rfl, short⟩ := nodeName_ok_iff.mp named
    obtain ⟨fits, rfl⟩ := Dsn.buildDsn_ok_iff.mp (mapError_eq_ok.mp networking)
    exact ⟨⟨short, fits⟩, (Except.ok.inj same).symm⟩
  · rintro ⟨⟨short, fits⟩, rfl⟩
    refine ⟨_, nodeName_ok_iff.mpr ⟨rfl, short⟩, Checked.bind_eq_ok.mpr ⟨_, ?_, rfl⟩⟩
    exact mapError_eq_ok.mpr (Dsn.buildDsn_ok_iff.mpr ⟨fits, rfl⟩)

/-- The chain specs that are compiled into the SDK publish nothing. -/
theorem startUp_consensus {env : Surroundings leaf} {ss58Format tokenDecimals : BitVec 16}
    (same : env.spec.properties = consensusProperties ss58Format tokenDecimals)
    (config : Config leaf) (started : StartUp leaf) : config.startUp env = .ok started ↔
      config.Starts env ∧ started = (Published.nothing leaf).startUp env config := by
  have entropy : (uint 8).list.option.deserialize .null =
      some (Published.nothing leaf).potExternalEntropy := rfl
  have dsn : leaf.multiaddrWithPeerId.list.deserialize (.arr []) =
      some (Published.nothing leaf).dsnBootstrapNodes := rfl
  have domains (domainId : leaf.DomainId) (error : StartUpFailure) :
      decodeProperty leaf.multiaddrWithPeerId.list error
          (List.lookup (env.domainText domainId) ([] : Entries)) =
        .ok ((Published.nothing leaf).domainsBootstrapNodes.lookup domainId) := rfl
  apply startUp_of_lookup entropy dsn domains
  · rw [same]
    exact AList.lookup_insert _
  · simp only [same, consensusProperties, chainSpecProperties, ne_eq, String.reduceEq,
      not_false_eq_true, AList.lookup_insert_ne, AList.lookup_insert]
  · simp only [same, consensusProperties, chainSpecProperties, ne_eq, String.reduceEq,
      not_false_eq_true, AList.lookup_insert_ne, AList.lookup_insert]

/-- What is published can be written among any other properties.  By the configuration code of the
SDK, every node whose chain spec says so, whatever else that says, starts exactly if it has a name
and the limits of its DSN fit, and then with what is published and with the boot nodes and the
telemetry of both.  The chain specs that are compiled into the SDK publish nothing, so that the
configuration decides. -/
theorem startUp_published (leaf : LeafTypes) (display : leaf.DomainId → String)
    (injective : Function.Injective display) :
    (∀ (p : Published leaf) properties, ∃ written, p.write display properties = some written ∧
      ∀ env : Surroundings leaf, env.domainText = display →
        (∀ key ∈ readProperties, env.spec.properties.lookup key = written.lookup key) →
        ∀ (config : Config leaf) started, config.startUp env = .ok started ↔
          config.Starts env ∧ started = p.startUp env config) ∧
    ∀ ss58Format tokenDecimals (env : Surroundings leaf),
      env.spec.properties = consensusProperties ss58Format tokenDecimals →
      ∀ (config : Config leaf) started, config.startUp env = .ok started ↔
        config.Starts env ∧ started = (Published.nothing leaf).startUp env config := by
  refine ⟨fun p properties => ?_, fun ss58Format tokenDecimals env same => ?_⟩
  · obtain ⟨entropy, entropyWritten, entropyRead⟩ := entropy_restores p.potExternalEntropy
    obtain ⟨dsn, dsnWritten, dsnRead⟩ := nodes_restores p.dsnBootstrapNodes
    obtain ⟨domains, domainsWritten, domainsRead⟩ :=
      writeDomains_lookup injective p.domainsBootstrapNodes
    refine ⟨((properties.insert "potExternalEntropy" entropy).insert "dsnBootstrapNodes" dsn).insert
      "domainsBootstrapNodes" (.obj domains), ?_, fun env text same => ?_⟩
    · simp [Published.write, entropyWritten, dsnWritten, domainsWritten]
    · subst text
      apply startUp_of_lookup entropyRead dsnRead domainsRead
      · rw [same _ (by decide)]
        simp
      · rw [same _ (by decide)]
        simp
      · rw [same _ (by decide)]
        simp
  · exact startUp_consensus same

theorem decimal_injective : Function.Injective decimal := fun _ _ same =>
  BitVec.eq_of_toNat_eq (Nat.repr_injective same)

/-- What a chain spec publishes for one domain. -/
def oneDomain : Published textLeaves where
  potExternalEntropy := some [7]
  dsnBootstrapNodes := ["/dns/dsn"]
  domainsBootstrapNodes := [((0 : BitVec 32), ["/dns/domain"])]
  distinct := List.nodup_singleton _

/-- A node whose chain spec has these properties. -/
def surroundings (properties : Properties) : Surroundings textLeaves where
  profile := .debug
  spec :=
    { (DomainSpec.fromGenesis "Chain" "chain" .live none properties : Spec textLeaves) with
      bootNodes := ["/dns/chain"]
      telemetryEndpoints := some [("/dns/telemetry", 1)] }
  fromJsonFile := .error
  ss58Format := 2254
  tokenDecimals := 18
  domainNumber := id
  domainText := decimal
  generatedName := "node"
  generatedDomainName := "domain"

theorem startUp_published_oneDomain : ∃ written started,
    oneDomain.write decimal (consensusProperties 2254 18) = some written ∧
      timekeeper.startUp (surroundings written) = .ok started ∧
      started.potExternalEntropy = [7] ∧ started.service.network.bootNodes = ["/dns/chain"] ∧
      started.dsn.bootstrapAddresses = ["/dns/dsn"] ∧
      started.domain.map (·.service.map (·.network.bootNodes)) = some (.ok ["/dns/domain"]) := by
  obtain ⟨written, said, starts⟩ :=
    (startUp_published textLeaves decimal decimal_injective).1 oneDomain
      (consensusProperties 2254 18)
  have domain : (oneDomain.startDomain (surroundings written)
      (DomainConfig.default textLeaves)).service.map (·.network.bootNodes) =
        .ok ["/dns/domain"] := by
    have spec : (DomainConfig.default textLeaves).spec (surroundings written) =
        .ok (DomainSpec.localTestnetConfig (chainSpecProperties 2254 18)) := rfl
    have named : nodeName (surroundings written).generatedDomainName
        (DomainConfig.default textLeaves).base.network.name = .ok "domain" :=
      nodeName_ok_iff.mpr ⟨rfl, fun _ => (by decide : "domain".length < nodeNameMaxLength)⟩
    rw [Published.startDomain, spec, named]
    rfl
  refine ⟨written, oneDomain.startUp (surroundings written) timekeeper, said, ?_, rfl, rfl, rfl,
    congrArg some domain⟩
  refine (starts (surroundings written) rfl (fun _ _ => rfl) timekeeper _).mpr ⟨⟨?_, ?_⟩, rfl⟩
  · exact fun _ => (by decide : "node".length < nodeNameMaxLength)
  · exact .inr (by decide)

end SubspaceSdk
