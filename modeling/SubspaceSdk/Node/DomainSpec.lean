import SubspaceSdk.Substrate.Service

/-! The chain specs of EVM domains.  A `chain_id` names one of four specs, which differ in their
names and in the kind of network, or the file of another one. -/

namespace SubspaceSdk

open ProofKit

variable {leaf : LeafTypes}

/-- The properties of the chain specs that are compiled into the SDK. -/
def chainSpecProperties (ss58Format tokenDecimals : BitVec 16) : Properties :=
  (∅ : Properties)
    |>.insert "dsnBootstrapNodes" (.arr [])
    |>.insert "ss58Format" (.num ss58Format.toNat)
    |>.insert "tokenDecimals" (.num tokenDecimals.toNat)
    |>.insert "tokenSymbol" (.str "tSSC")
    |>.insert "domainsBootstrapNodes" (.obj [])

namespace DomainSpec

/-- A spec that says nothing of a node. -/
def fromGenesis (name id : String) (chainType : ChainType) (protocolId : Option String)
    (properties : Properties) : Spec leaf where
  name
  id
  chainType
  bootNodes := []
  telemetryEndpoints := none
  protocolId
  properties

variable (properties : Properties)

def developmentConfig : Spec leaf :=
  fromGenesis "Development" "evm_domain_dev" .development none properties

def localTestnetConfig : Spec leaf :=
  fromGenesis "Local Testnet" "evm_domain_local_testnet" .localNetwork (some "evm-local") properties

def gemini3gConfig : Spec leaf :=
  fromGenesis "Subspace Gemini 3g EVM Domain" "subspace_gemini_3g_evm_domain" .live
    (some "subspace-gemini-3g-evm-domain") properties

def devnetConfig : Spec leaf :=
  fromGenesis "Subspace Devnet EVM Domain" "subspace_devnet_evm_domain" (.custom "Testnet")
    (some "subspace-devnet-evm-domain") properties

end DomainSpec

/-- The spec of a domain, whose genesis is that of the domain on the consensus chain. -/
def createDomainSpec (properties : Properties)
    (fromJsonFile : String → Except String (Spec leaf)) (chainId : String) :
    Except String (Spec leaf) :=
  match chainId with
  | "dev" => .ok (DomainSpec.developmentConfig properties)
  | "gemini-3g" => .ok (DomainSpec.gemini3gConfig properties)
  | "devnet" => .ok (DomainSpec.devnetConfig properties)
  | "" | "local" => .ok (DomainSpec.localTestnetConfig properties)
  | path => fromJsonFile path

/-- Two identifiers name the local network. -/
def effectiveChainId (chainId : String) : String := if chainId = "local" then "" else chainId

theorem createDomainSpec_effectiveChainId (properties : Properties)
    (fromJsonFile : String → Except String (Spec leaf)) (chainId : String) :
    createDomainSpec properties fromJsonFile (effectiveChainId chainId) =
      createDomainSpec properties fromJsonFile chainId := by
  by_cases same : chainId = "local"
  · rw [same]
    rfl
  · rw [effectiveChainId, if_neg same]

/-- The spec in a file, that has its path for an identifier. -/
def fileSpec (path : String) : Except String (Spec leaf) :=
  .ok { DomainSpec.fromGenesis path path .live none ∅ with telemetryEndpoints := some [] }

/-- The identifier of a spec, if all files have such specs. -/
def Spec.chainId (spec : Spec leaf) : String :=
  if spec.telemetryEndpoints.isSome then spec.id
  else if spec.id = "evm_domain_dev" then "dev"
  else if spec.id = "subspace_gemini_3g_evm_domain" then "gemini-3g"
  else if spec.id = "subspace_devnet_evm_domain" then "devnet"
  else ""

theorem createDomainSpec_chainId (properties : Properties) (chainId : String) :
    ∃ spec : Spec leaf, createDomainSpec properties fileSpec chainId = .ok spec ∧
      spec.chainId = effectiveChainId chainId := by
  unfold createDomainSpec
  split
  case h_6 path _ _ _ _ other =>
    refine ⟨_, rfl, ?_⟩
    rw [effectiveChainId, if_neg other]
    rfl
  all_goals exact ⟨_, rfl, rfl⟩

end SubspaceSdk
