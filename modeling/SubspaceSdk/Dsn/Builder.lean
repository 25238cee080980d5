import SubspaceSdk.Substrate.Base

/-! `Dsn`, the settings of a node in the distributed storage network. -/

namespace SubspaceSdk

open ProofKit Codec

variable {leaf : LeafTypes}

/-- The addresses to listen on. -/
structure ListenAddresses (leaf : LeafTypes) where
  addresses : List leaf.Multiaddr
  deriving DecidableEq

namespace ListenAddresses

def default (leaf : LeafTypes) : ListenAddresses leaf := ⟨[leaf.localTcp]⟩

def codec (leaf : LeafTypes) : Codec (ListenAddresses leaf) :=
  leaf.multiaddr.list.map ListenAddresses.mk addresses

theorem restores (x : ListenAddresses leaf) : (codec leaf).Restores x :=
  map_restores (list_restores fun a _ => leaf.multiaddr_restores a) rfl

end ListenAddresses

/-- A number of connections. -/
structure Connections where
  count : BitVec 32
  deriving Repr, DecidableEq

namespace Connections

def codec : Codec Connections := (uint 32).map Connections.mk count

theorem restores (x : Connections) : codec.Restores x :=
  map_restores (uint_restores x.count) rfl

end Connections

abbrev InConnections := Connections

def InConnections.default : InConnections := ⟨300⟩

abbrev OutConnections := Connections

def OutConnections.default : OutConnections := ⟨150⟩

abbrev TargetConnections := Connections

def TargetConnections.default : TargetConnections := ⟨15⟩

abbrev PendingInConnections := Connections

def PendingInConnections.default : PendingInConnections := ⟨100⟩

abbrev PendingOutConnections := Connections

def PendingOutConnections.default : PendingOutConnections := ⟨150⟩

/-- Node DSN settings. -/
structure Dsn (leaf : LeafTypes) where
  providerStoragePath : Option PathBuf
  listenAddresses : ListenAddresses leaf
  bootNodes : List leaf.MultiaddrWithPeerId
  externalAddresses : List leaf.Multiaddr
  reservedNodes : List leaf.Multiaddr
  allowNonGlobalAddressesInDht : Bool
  inConnections : InConnections
  outConnections : OutConnections
  pendingInConnections : PendingInConnections
  pendingOutConnections : PendingOutConnections
  targetConnections : TargetConnections
  deriving DecidableEq

namespace Dsn

def default (leaf : LeafTypes) : Dsn leaf where
  providerStoragePath := none
  listenAddresses := .default leaf
  bootNodes := []
  externalAddresses := []
  reservedNodes := []
  allowNonGlobalAddressesInDht := false
  inConnections := InConnections.default
  outConnections := OutConnections.default
  pendingInConnections := PendingInConnections.default
  pendingOutConnections := PendingOutConnections.default
  targetConnections := TargetConnections.default

def record (leaf : LeafTypes) : Record (Dsn leaf) (Dsn leaf) :=
  (Record.build Dsn.mk)
    |>.field "provider_storage_path" providerStoragePath PathBuf.codec.option (orDefault none)
    |>.field "listen_addresses" listenAddresses (ListenAddresses.codec leaf)
      (orDefault (.default leaf))
    |>.field "boot_nodes" bootNodes leaf.multiaddrWithPeerId.list orEmpty
    |>.field "external_addresses" externalAddresses leaf.multiaddr.list (orDefault [])
    |>.field "reserved_nodes" reservedNodes leaf.multiaddr.list (orDefault [])
    |>.field "allow_non_global_addresses_in_dht" allowNonGlobalAddressesInDht bool
      (orDefault false)
    |>.field "in_connections" inConnections Connections.codec (orDefault InConnections.default)
    |>.field "out_connections" outConnections Connections.codec
      (orDefault OutConnections.default)
    |>.field "pending_in_connections" pendingInConnections Connections.codec
      (orDefault PendingInConnections.default)
    |>.field "pending_out_connections" pendingOutConnections Connections.codec
      (orDefault PendingOutConnections.default)
    |>.field "target_connections" targetConnections Connections.codec
      (orDefault TargetConnections.default)

theorem record_keys (leaf : LeafTypes) : (record leaf).keys =
    ["provider_storage_path", "listen_addresses", "boot_nodes", "external_addresses",
      "reserved_nodes", "allow_non_global_addresses_in_dht", "in_connections", "out_connections",
      "pending_in_connections", "pending_out_connections", "target_connections"] := by
  simp [Record.keys, record]

theorem restores (x : Dsn leaf) (utf8Path : ∀ path ∈ x.providerStoragePath, path.IsUtf8) :
    (record leaf).codec.Restores x :=
  have addresses (as : List leaf.Multiaddr) : leaf.multiaddr.list.Restores as :=
    list_restores fun a _ => leaf.multiaddr_restores a
  Record.Restores.codec
    ((Record.build_restores _)
      |>.field (option_restores (fun path mem => (path.restores_iff).mpr (utf8Path path mem))
          PathBuf.writesNoNull) (orDefault_faithful _ _)
      |>.field (ListenAddresses.restores _) (orDefault_faithful _ _)
      |>.field (list_restores fun a _ => leaf.multiaddrWithPeerId_restores a)
        (orEmpty_faithful _)
      |>.field (addresses _) (orDefault_faithful _ _)
      |>.field (addresses _) (orDefault_faithful _ _)
      |>.field (bool_restores _) (orDefault_faithful _ _)
      |>.field (Connections.restores _) (orDefault_faithful _ _)
      |>.field (Connections.restores _) (orDefault_faithful _ _)
      |>.field (Connections.restores _) (orDefault_faithful _ _)
      |>.field (Connections.restores _) (orDefault_faithful _ _)
      |>.field (Connections.restores _) (orDefault_faithful _ _))
    (by rw [record_keys]; decide)

end Dsn

end SubspaceSdk
