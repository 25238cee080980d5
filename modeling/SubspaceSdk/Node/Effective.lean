import SubspaceSdk.Node.StartUp

/-! Which settings of a node have an effect.  A configuration has a normal form, in which what makes
no difference to a starting node is gone: the normal form starts the same node, and configurations
that start the same nodes have the same one. -/

namespace SubspaceSdk

open ProofKit

variable {leaf : LeafTypes}

/-! ### Normal forms -/

/-- A limit is cut to 32 bits, and without one it is zero. -/
def effectiveLimit (n : Option (BitVec 64)) : Option (BitVec 64) := some ((limit n).setWidth 64)

theorem limit_effectiveLimit (n : Option (BitVec 64)) : limit (effectiveLimit n) = limit n := by
  simp [limit, effectiveLimit]

def Rpc.effective (r : Rpc leaf) : Rpc leaf :=
  { r with
    port := some (r.port.getD 0)
    maxConnections := effectiveLimit r.maxConnections
    maxRequestSize := effectiveLimit r.maxRequestSize
    maxResponseSize := effectiveLimit r.maxResponseSize
    maxSubsPerConn := effectiveLimit r.maxSubsPerConn }

def Base.effective (b : Base leaf) : Base leaf :=
  { b with
    rpc := b.rpc.effective
    network := { b.network with clientId := some b.clientId } }

/-- Nothing reads the path of the provider storage. -/
def Dsn.effective (d : Dsn leaf) : Dsn leaf := { d with providerStoragePath := none }

/-- A monitor that gives these parameters.  A period of zero seconds comes of one whose seconds are
cut to 32 bits. -/
def StorageMonitor.ofParams (p : Service.StorageMonitorParams) : StorageMonitor where
  threshold := ⟨p.threshold * mib⟩
  pollingPeriod :=
    ⟨if p.pollingPeriod = 0 then 2 ^ 32 else p.pollingPeriod.setWidth 64, ⟨0, by decide⟩⟩

def DomainConfig.effective (domain : DomainConfig leaf) : DomainConfig leaf :=
  { domain with chainId := effectiveChainId domain.chainId, base := domain.base.effective }

/-- Nothing reads the concurrency of publishing. -/
def Config.effective (c : Config leaf) : Config leaf :=
  { c with
    segmentPublishConcurrency := .default
    base := c.base.effective
    dsn := c.dsn.effective
    storageMonitor := (c.storageMonitor.map StorageMonitor.toParams).map .ofParams
    domain := c.domain.map DomainConfig.effective
    potExternalEntropy := some (c.potExternalEntropy.getD []) }

/-! ### The normal form starts the same node -/

theorem atLeastOne_of_ne {n : BitVec 64} (ne : n ≠ 0) : atLeastOne n = n := if_neg ne

theorem atLeastOne_ne (n : BitVec 64) : atLeastOne n ≠ 0 := by
  rw [atLeastOne]
  split
  · decide
  · assumption

/-- The mebibytes of a size can be counted again. -/
theorem threshold_mul_div (n : BitVec 64) :
    atLeastOne (n / mib) * mib / mib = atLeastOne (n / mib) := by
  have small : (atLeastOne (n / mib)).toNat < 2 ^ 44 := by
    rw [atLeastOne]
    split
    · decide
    · rw [BitVec.toNat_udiv]
      exact Nat.div_lt_of_lt_mul n.isLt
  have bytes : mib.toNat = 2 ^ 20 := rfl
  apply BitVec.eq_of_toNat_eq
  rw [BitVec.toNat_udiv, BitVec.toNat_mul, bytes, Nat.mod_eq_of_lt (by omega),
    Nat.mul_div_cancel _ (by decide)]

/-- The seconds of a period are found again. -/
theorem period_again (p : BitVec 32) :
    (atLeastOne (if p = 0 then 2 ^ 32 else p.setWidth 64)).setWidth 32 = p := by
  by_cases zero : p = 0
  · subst zero
    decide
  · have wide : p.setWidth 64 ≠ 0 := by
      intro none
      have narrow := congrArg (BitVec.setWidth 32) none
      rw [BitVec.setWidth_setWidth_of_le _ (by decide), BitVec.setWidth_eq] at narrow
      exact zero narrow
    rw [if_neg zero, atLeastOne_of_ne wide, BitVec.setWidth_setWidth_of_le _ (by decide),
      BitVec.setWidth_eq]

theorem toParams_ofParams (m : StorageMonitor) :
    (StorageMonitor.ofParams m.toParams).toParams = m.toParams := by
  have threshold : atLeastOne (m.toParams.threshold * mib / mib) = m.toParams.threshold := by
    rw [StorageMonitor.toParams, threshold_mul_div, atLeastOne_of_ne (atLeastOne_ne _)]
  exact congrArg₂ Service.StorageMonitorParams.mk threshold (period_again _)

theorem Base.configuration_effective (directory : Path) (spec : Spec leaf) (generated : String)
    (b : Base leaf) : b.effective.configuration directory spec generated =
      b.configuration directory spec generated := by
  have same (name : String) (endpoints : List (Endpoint leaf)) :
      b.effective.serviceConfiguration directory spec name endpoints =
        b.serviceConfiguration directory spec name endpoints := by
    simp only [serviceConfiguration, effective, Rpc.effective, limit_effectiveLimit,
      networkConfiguration, clientId, Option.getD_some]
  simp only [configuration_eq, same]
  rfl

theorem DomainConfig.start_effective (env : Surroundings leaf)
    (nodes : List leaf.MultiaddrWithPeerId) (domain : DomainConfig leaf) :
    domain.effective.start env nodes = domain.start env nodes := by
  have spec : domain.effective.spec env = domain.spec env := by
    rw [DomainConfig.spec, effective, createDomainSpec_effectiveChainId, DomainConfig.spec]
  rw [start, spec, start]
  simp only [effective, directory, Base.configuration_effective]

namespace Config

theorem startDomain_effective (env : Surroundings leaf) (domains : Entries) (c : Config leaf) :
    c.effective.startDomain env domains = c.startDomain env domains := by
  unfold startDomain
  cases there : c.domain with
  | none => simp only [effective, there, Option.map_none]
  | some domain =>
    simp only [effective, there, Option.map_some, DomainConfig.start_effective]
    rfl

theorem startUp_effective (env : Surroundings leaf) (c : Config leaf) :
    c.effective.startUp env = c.startUp env := by
  have entropy (published : Option (List (BitVec 8))) :
      (published.or (some (c.potExternalEntropy.getD []))).getD [] =
        (published.or c.potExternalEntropy).getD [] := by
    cases published <;> rfl
  have monitor : ((c.storageMonitor.map StorageMonitor.toParams).map .ofParams).map
      StorageMonitor.toParams = c.storageMonitor.map StorageMonitor.toParams := by
    cases c.storageMonitor with
    | none => rfl
    | some monitor => simp only [Option.map_some, toParams_ofParams]
  simp only [startUp, SubspaceSdk.potExternalEntropy, startDomain_effective]
  simp only [effective, Base.configuration_effective, entropy, monitor, Dsn.effective, Dsn.buildDsn,
    Dsn.networkingConfig]

end Config

/-! ### Configurations that start the same nodes -/

theorem eq_of_getD {α : Type} {x y : α} {a b : Option α} (different : x ≠ y)
    (first : a.getD x = b.getD x) (second : a.getD y = b.getD y) : a = b := by
  cases a with
  | none =>
    cases b with
    | none => rfl
    | some b => exact absurd (first.trans second.symm) different
  | some a =>
    cases b with
    | none => exact absurd (first.symm.trans second) different
    | some b => exact congrArg some first

theorem effectiveLimit_of_limit {n n' : Option (BitVec 64)} (same : limit n = limit n') :
    effectiveLimit n = effectiveLimit n' := by
  rw [effectiveLimit, same, effectiveLimit]

/-- A service tells the settings with an effect, except for the name. -/
theorem Base.effective_of_service {directory : Path} {spec : Spec leaf} {name name' : String}
    {b c : Base leaf} (named : b.network.name = c.network.name)
    (same : b.serviceConfiguration directory spec name
        (spec.telemetryEndpoints.getD [] ++ b.telemetry) =
      c.serviceConfiguration directory spec name'
        (spec.telemetryEndpoints.getD [] ++ c.telemetry)) : b.effective = c.effective := by
  have field {α : Type} (f : ServiceConfiguration leaf → α) := congrArg f same
  have rpc : b.rpc.effective = c.rpc.effective := by
    simp only [Rpc.effective, Rpc.mk.injEq]
    exact ⟨field (·.rpcAddr), congrArg some (field (·.rpcPort)),
      effectiveLimit_of_limit (field (·.rpcMaxConnections)), field (·.rpcCors),
      RpcMethods.toService_injective (field (·.rpcMethods)),
      effectiveLimit_of_limit (field (·.rpcMaxRequestSize)),
      effectiveLimit_of_limit (field (·.rpcMaxResponseSize)),
      effectiveLimit_of_limit (field (·.rpcMaxSubsPerConn))⟩
  have network : { b.network with clientId := some b.clientId } =
      { c.network with clientId := some c.clientId } := by
    simp only [Network.mk.injEq]
    exact ⟨field (·.network.enableMdns), field (·.network.allowPrivateIp),
      field (·.network.allowNonGlobalsInDht), field (·.network.listenAddresses),
      List.append_cancel_left (field (·.network.bootNodes)), field (·.network.forceSynced), named,
      congrArg some (field (·.network.clientVersion))⟩
  have telemetry : b.telemetry = c.telemetry :=
    List.append_cancel_left (Option.some.inj (field (·.telemetryEndpoints)))
  have pruning := Function.LeftInverse.injective BlocksPruning.ofService_toService
    (field (·.blocksPruning))
  have statePruning := Function.LeftInverse.injective PruningMode.ofService_toService
    (Option.some.inj (field (·.statePruning)))
  simp only [effective, rpc, network, Base.mk.injEq]
  exact ⟨field (·.forceAuthoring), Role.toService_injective (field (·.role)), pruning,
    statePruning, congrArg ImplName.mk (field (·.implName)),
    congrArg ImplVersion.mk (field (·.implVersion)), trivial, trivial,
    OffchainWorker.toService_injective (field (·.offchainWorker)),
    field (·.informantEnableColor), telemetry, field (·.devKeySeed)⟩

theorem Dsn.effective_of_networking {basePath : Path} {metrics : Bool} {limit limit' : BitVec 32}
    {nodes : List leaf.MultiaddrWithPeerId} {d e : Dsn leaf}
    (same : { d with bootNodes := d.bootNodes ++ nodes }.networkingConfig basePath metrics limit =
      { e with bootNodes := e.bootNodes ++ nodes }.networkingConfig basePath metrics limit') :
    d.effective = e.effective := by
  have field {α : Type} (f : NetworkingConfig leaf → α) := congrArg f same
  simp only [effective, Dsn.mk.injEq]
  exact ⟨trivial, congrArg ListenAddresses.mk (field (·.listenOn)),
    List.append_cancel_right (field (·.bootstrapAddresses)), field (·.externalAddresses),
    field (·.reservedPeers), field (·.allowNonGlobalAddressesInDht),
    congrArg Connections.mk (field (·.maxEstablishedIncomingConnections)),
    congrArg Connections.mk (field (·.maxEstablishedOutgoingConnections)),
    congrArg Connections.mk (field (·.maxPendingIncomingConnections)),
    congrArg Connections.mk (field (·.maxPendingOutgoingConnections)),
    congrArg Connections.mk (field (·.specialConnectedPeersTarget))⟩

/-- A chain spec that says nothing, the same of each file, and one generated name for both. -/
def plain (leaf : LeafTypes) (name : String) : Surroundings leaf where
  profile := .release
  spec := DomainSpec.fromGenesis "" "" .live none (consensusProperties 0 0)
  fromJsonFile := fileSpec
  ss58Format := 0
  tokenDecimals := 0
  domainNumber _ := 0
  domainText _ := ""
  generatedName := name
  generatedDomainName := name

theorem startUp_plain {name : String} (short : name.length < nodeNameMaxLength)
    (c : Config leaf) :
    c.startUp (plain leaf name) = .ok ((Published.nothing leaf).startUp (plain leaf name) c) :=
  (startUp_consensus rfl c _).mpr ⟨⟨fun _ => short, .inl rfl⟩, rfl⟩

/-- The service of a domain, which has its own boot nodes. -/
def DomainConfig.plainService (name : String) (spec : Spec leaf) (domain : DomainConfig leaf) :
    ServiceConfiguration leaf :=
  domain.base.serviceConfiguration (domain.directory (plain leaf name)) spec
    (domain.base.network.name.getD name) (spec.telemetryEndpoints.getD [] ++ domain.base.telemetry)

theorem startDomain_plain (domain : DomainConfig leaf) :
    ∃ spec : Spec leaf, spec.chainId = effectiveChainId domain.chainId ∧
      ∀ name, name.length < nodeNameMaxLength →
        ((Published.nothing leaf).startDomain (plain leaf name) domain).service =
          .ok (domain.plainService name spec) := by
  obtain ⟨spec, made, identifier⟩ :=
    @createDomainSpec_chainId leaf (chainSpecProperties 0 0) domain.chainId
  refine ⟨spec, identifier, fun name short => ?_⟩
  have there : domain.spec (plain leaf name) = .ok spec := by
    rw [DomainConfig.spec]
    exact mapError_eq_ok.mpr made
  have named := nodeName_ok_iff.mpr
    ⟨rfl, fun _ : domain.base.network.name = none => short⟩
  have own (nodes : List leaf.MultiaddrWithPeerId) :
      (if nodes.isEmpty then [] else nodes) = nodes := by
    cases nodes <;> rfl
  rw [Published.startDomain, there]
  simp only [Checked.ok_bind, plain, named]
  refine congrArg Except.ok ?_
  exact congrArg (ServiceConfiguration.setBootNodes (domain.plainService name spec)) (own _)

/-- A domain tells its settings with an effect. -/
theorem DomainConfig.effective_of_start {d e : DomainConfig leaf}
    (same : ∀ name, name.length < nodeNameMaxLength →
      (Published.nothing leaf).startDomain (plain leaf name) d =
        (Published.nothing leaf).startDomain (plain leaf name) e) : d.effective = e.effective := by
  obtain ⟨spec, identifier, started⟩ := startDomain_plain d
  obtain ⟨spec', identifier', started'⟩ := startDomain_plain e
  have service {name : String} (short : name.length < nodeNameMaxLength) :
      d.plainService name spec = e.plainService name spec' := by
    have told := congrArg DomainStart.service (same name short)
    rw [started name short, started' name short] at told
    exact Except.ok.inj told
  have first := @service "" (by decide)
  have second := @service "x" (by decide)
  have named : d.base.network.name = e.base.network.name :=
    eq_of_getD (by decide : "" ≠ "x") (congrArg (·.network.nodeName) first)
      (congrArg (·.network.nodeName) second)
  obtain rfl : spec = spec' := congrArg (·.chainSpec) first
  have base : d.base.effective = e.base.effective := Base.effective_of_service named first
  have start := same "" (by decide)
  simp only [effective, base, DomainConfig.mk.injEq]
  exact ⟨identifier.symm.trans identifier', congrArg DomainStart.domainId start,
    congrArg DomainStart.maybeOperatorId start,
    congrArg DomainStart.additionalArguments start, trivial⟩

namespace Config

/-- A node tells its settings with an effect, once it is started under two names. -/
theorem effective_of_startUp {c d : Config leaf}
    (same : ∀ env : Surroundings leaf, c.startUp env = d.startUp env) :
    c.effective = d.effective := by
  have started {name : String} (short : name.length < nodeNameMaxLength) :
      (Published.nothing leaf).startUp (plain leaf name) c =
        (Published.nothing leaf).startUp (plain leaf name) d := by
    have told := same (plain leaf name)
    rw [startUp_plain short, startUp_plain short] at told
    exact Except.ok.inj told
  have first := @started "" (by decide)
  have second := @started "x" (by decide)
  have named : c.base.network.name = d.base.network.name :=
    eq_of_getD (by decide : "" ≠ "x") (congrArg (·.service.network.nodeName) first)
      (congrArg (·.service.network.nodeName) second)
  have base : c.base.effective = d.base.effective :=
    Base.effective_of_service named (congrArg StartUp.service first)
  have dsn : c.dsn.effective = d.dsn.effective :=
    Dsn.effective_of_networking (congrArg StartUp.dsn first)
  have monitor := congrArg (Option.map StorageMonitor.ofParams)
    (congrArg StartUp.storageMonitor first)
  have domain : c.domain.map DomainConfig.effective = d.domain.map DomainConfig.effective := by
    have told {name : String} (short : name.length < nodeNameMaxLength) :
        c.domain.map ((Published.nothing leaf).startDomain (plain leaf name)) =
          d.domain.map ((Published.nothing leaf).startDomain (plain leaf name)) :=
      congrArg StartUp.domain (started short)
    cases here : c.domain with
    | none =>
      cases there : d.domain with
      | none => rfl
      | some domain => simpa [here, there] using @told "" (by decide)
    | some own =>
      cases there : d.domain with
      | none => simpa [here, there] using @told "" (by decide)
      | some domain =>
        refine congrArg some (DomainConfig.effective_of_start fun name short => ?_)
        simpa only [here, there, Option.map_some, Option.some.injEq] using told short
  simp only [effective, base, dsn, domain, Config.mk.injEq]
  exact ⟨trivial, congrArg StartUp.syncFromDsn first, trivial, trivial, monitor,
    congrArg StartUp.enableSubspaceBlockRelay first, trivial,
    congrArg StartUp.isTimekeeper first, congrArg StartUp.timekeeperCpuCores first,
    congrArg some (congrArg StartUp.potExternalEntropy first)⟩

/-- The normal form of a configuration starts the same node.  Two configurations start the same
node, whatever the chain spec, the domain's spec and the generated names are, exactly if they have
the same normal form. -/
theorem startUp_eq_iff (leaf : LeafTypes) :
    (∀ (c : Config leaf) env, c.effective.startUp env = c.startUp env) ∧
      ∀ c d : Config leaf, (∀ env, c.startUp env = d.startUp env) ↔ c.effective = d.effective := by
  refine ⟨fun c env => startUp_effective env c, fun c d => ⟨effective_of_startUp, ?_⟩⟩
  intro same env
  rw [← startUp_effective env c, same, startUp_effective]

end Config

end SubspaceSdk
