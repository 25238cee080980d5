import SubspaceSdk.Dsn.Builder
import SubspaceSdk.Node.ChainSpec
import SubspaceSdk.Substrate.Service

/-! The configuration with which `Dsn` starts the networking of the distributed storage network.
Two of its limits are computed from the settings, and their sum may be too large. -/

namespace SubspaceSdk

open ProofKit
open ChainSpec (Profile)

variable {leaf : LeafTypes}

/-- `subspace_networking::Config`. -/
structure NetworkingConfig (leaf : LeafTypes) where
  listenOn : List leaf.Multiaddr
  allowNonGlobalAddressesInDht : Bool
  /-- Where the addresses of known peers are kept. -/
  knownPeers : Path
  reservedPeers : List leaf.Multiaddr
  maxEstablishedIncomingConnections : BitVec 32
  maxEstablishedOutgoingConnections : BitVec 32
  maxPendingIncomingConnections : BitVec 32
  maxPendingOutgoingConnections : BitVec 32
  bootstrapAddresses : List leaf.MultiaddrWithPeerId
  externalAddresses : List leaf.Multiaddr
  generalConnectedPeersTarget : BitVec 32
  specialConnectedPeersTarget : BitVec 32
  generalConnectedPeersLimit : BitVec 32
  specialConnectedPeersLimit : BitVec 32
  metrics : Bool

theorem add_eq_ok_iff {w : Nat} {profile : Profile} {x y z : BitVec w} :
    profile.add x y = .ok z ↔
      (profile = .release ∨ x.toNat + y.toNat < 2 ^ w) ∧ z = x + y := by
  cases profile with
  | release => simp [Profile.add, eq_comm]
  | debug =>
    by_cases fits : x.toNat + y.toNat < 2 ^ w
    · simp [Profile.add, Checked.add, fits, eq_comm]
    · simp [Profile.add, Checked.add, fits]

namespace Dsn

/-- The configuration with a limit for the connections to farmers. -/
def networkingConfig (basePath : Path) (metrics : Bool) (specialConnectedPeersLimit : BitVec 32)
    (d : Dsn leaf) : NetworkingConfig leaf where
  listenOn := d.listenAddresses.addresses
  allowNonGlobalAddressesInDht := d.allowNonGlobalAddressesInDht
  knownPeers := basePath ++ ["known_addresses.bin"]
  reservedPeers := d.reservedNodes
  maxEstablishedIncomingConnections := d.inConnections.count
  maxEstablishedOutgoingConnections := d.outConnections.count
  maxPendingIncomingConnections := d.pendingInConnections.count
  maxPendingOutgoingConnections := d.pendingOutConnections.count
  bootstrapAddresses := d.bootNodes
  externalAddresses := d.externalAddresses
  generalConnectedPeersTarget := 0
  specialConnectedPeersTarget := d.targetConnections.count
  generalConnectedPeersLimit := d.inConnections.count / 4
  specialConnectedPeersLimit
  metrics

/-- What `build_dsn` gives to `subspace_networking::construct`. -/
def buildDsn (profile : Profile) (basePath : Path) (metrics : Bool) (d : Dsn leaf) :
    Except Fault (NetworkingConfig leaf) := do
  let limit ← profile.add d.targetConnections.count (d.inConnections.count / 4)
  .ok (d.networkingConfig basePath metrics limit)

/-- The limit does not overflow, or nothing notices that it does. -/
def Fits (profile : Profile) (d : Dsn leaf) : Prop :=
  profile = .release ∨ d.targetConnections.count.toNat + d.inConnections.count.toNat / 4 < 2 ^ 32

theorem buildDsn_ok_iff {profile : Profile} {basePath : Path} {metrics : Bool} {d : Dsn leaf}
    {networking : NetworkingConfig leaf} :
    d.buildDsn profile basePath metrics = .ok networking ↔ d.Fits profile ∧
      networking = d.networkingConfig basePath metrics
        (d.targetConnections.count + d.inConnections.count / 4) := by
  have quarter : (d.inConnections.count / 4).toNat = d.inConnections.count.toNat / 4 :=
    BitVec.toNat_udiv
  rw [buildDsn, Checked.bind_eq_ok, Fits, ← quarter]
  constructor
  · rintro ⟨limit, sum, same⟩
    obtain ⟨fits, rfl⟩ := add_eq_ok_iff.mp sum
    exact ⟨fits, (Except.ok.inj same).symm⟩
  · rintro ⟨fits, rfl⟩
    exact ⟨_, add_eq_ok_iff.mpr ⟨fits, rfl⟩, rfl⟩

end Dsn

end SubspaceSdk
