import Mathlib.Data.List.Basic

/-! The conversion of a block header.  It takes the first pre-runtime item of the digest for the
pre-digest, whichever consensus engine the item is of, and expects that it can be decoded. -/

namespace SubspaceSdk

abbrev ConsensusEngineId := Vector UInt8 4

inductive DigestItem where
  | preRuntime (engineId : ConsensusEngineId) (payload : List UInt8)
  | consensus (engineId : ConsensusEngineId) (payload : List UInt8)
  | seal (engineId : ConsensusEngineId) (payload : List UInt8)
  | other (payload : List UInt8)
  | runtimeEnvironmentUpdated
  deriving DecidableEq

abbrev Digest := List DigestItem

/-- `Digest::log`: what the closure gives for the first item for which it gives something. -/
def Digest.log {α : Type} (digest : Digest) (select : DigestItem → Option α) : Option α :=
  digest.findSome? select

structure Header (Hash : Type) where
  number : Nat
  parentHash : Hash
  stateRoot : Hash
  extrinsicsRoot : Hash
  digest : Digest
  deriving DecidableEq

/-- New block notification. -/
structure BlockHeader (Hash PreDigest : Type) where
  hash : Hash
  number : Nat
  parentHash : Hash
  stateRoot : Hash
  extrinsicsRoot : Hash
  /-- Block pre digest. -/
  preDigest : Option PreDigest
  deriving DecidableEq

/-- The scale codec of pre-digests.  What follows a pre-digest is not read. -/
structure PreDigestCodec (PreDigest : Type) where
  encode : PreDigest → List UInt8
  decode : List UInt8 → Option PreDigest
  decode_encode : ∀ preDigest, decode (encode preDigest) = some preDigest

section

variable {Hash PreDigest : Type}

/-- The closure of the conversion. -/
def preRuntimePayload : DigestItem → Option (List UInt8)
  | .preRuntime _ payload => some payload
  | _ => none

/-- `From::from`, or the message with which it panics. -/
def BlockHeader.ofHeader (hash : Header Hash → Hash) (codec : PreDigestCodec PreDigest)
    (header : Header Hash) : Except String (BlockHeader Hash PreDigest) :=
  let blockHeader (preDigest : Option PreDigest) : BlockHeader Hash PreDigest :=
    { hash := hash header
      number := header.number
      parentHash := header.parentHash
      stateRoot := header.stateRoot
      extrinsicsRoot := header.extrinsicsRoot
      preDigest := preDigest }
  match header.digest.log preRuntimePayload with
  | none => .ok (blockHeader none)
  | some payload =>
    match codec.decode payload with
    | some preDigest => .ok (blockHeader (some preDigest))
    | none => .error "Pre digest is always scale encoded"

/-! ### What the conversion is to give -/

/-- The payload of a pre-runtime item of one engine. -/
def enginePayload (engineId : ConsensusEngineId) : DigestItem → Option (List UInt8)
  | .preRuntime other payload => if other = engineId then some payload else none
  | _ => none

/-- The digest has at most one pre-runtime item of the engine, which holds this pre-digest. -/
def Digest.Carries (codec : PreDigestCodec PreDigest) (engineId : ConsensusEngineId)
    (digest : Digest) (preDigest : Option PreDigest) : Prop :=
  digest.filterMap (enginePayload engineId) = (preDigest.map codec.encode).toList

/-- The header with this pre-digest. -/
def Header.converted (hash : Header Hash → Hash) (header : Header Hash)
    (preDigest : Option PreDigest) : BlockHeader Hash PreDigest where
  hash := hash header
  number := header.number
  parentHash := header.parentHash
  stateRoot := header.stateRoot
  extrinsicsRoot := header.extrinsicsRoot
  preDigest := preDigest

/-- A pre-runtime item, with its engine. -/
def preRuntime : DigestItem → Option (ConsensusEngineId × List UInt8)
  | .preRuntime engineId payload => some (engineId, payload)
  | _ => none

/-- The first pre-runtime item, if there is one, is of the engine, or its payload can be decoded to
the pre-digest that the engine's item holds. -/
def Digest.Leads (codec : PreDigestCodec PreDigest) (engineId : ConsensusEngineId)
    (digest : Digest) (preDigest : Option PreDigest) : Prop :=
  ∀ first payload, digest.log preRuntime = some (first, payload) →
    first = engineId ∨ (preDigest.isSome = true ∧ codec.decode payload = preDigest)

/-- The engine is lost on the closure of the conversion. -/
theorem log_preRuntimePayload (digest : Digest) :
    digest.log preRuntimePayload = (digest.log preRuntime).map Prod.snd := by
  induction digest with
  | nil => rfl
  | cons item rest ih =>
    cases item with
    | preRuntime => rfl
    | _ => exact ih

theorem enginePayloads_of_log_none (engineId : ConsensusEngineId) {digest : Digest}
    (none : digest.log preRuntime = none) : digest.filterMap (enginePayload engineId) = [] := by
  induction digest with
  | nil => rfl
  | cons item rest ih =>
    cases item with
    | preRuntime => cases none
    | _ => exact ih none

/-- Where the first pre-runtime item is of the engine, its payload is the first of the engine. -/
theorem enginePayloads_of_log {engineId : ConsensusEngineId} {digest : Digest}
    {payload : List UInt8} (first : digest.log preRuntime = some (engineId, payload)) :
    ∃ others, digest.filterMap (enginePayload engineId) = payload :: others := by
  induction digest with
  | nil => cases first
  | cons item rest ih =>
    cases item with
    | preRuntime =>
      cases first
      exact ⟨_, by simp [enginePayload]; rfl⟩
    | _ => exact ih first

/-- The conversion gives the header with the pre-digest of the engine exactly where no pre-runtime
item of another engine gets in its way. -/
theorem ofHeader_eq_converted_iff (hash : Header Hash → Hash) (codec : PreDigestCodec PreDigest)
    (engineId : ConsensusEngineId) (header : Header Hash) (preDigest : Option PreDigest)
    (carries : header.digest.Carries codec engineId preDigest) :
    BlockHeader.ofHeader hash codec header = .ok (header.converted hash preDigest) ↔
      header.digest.Leads codec engineId preDigest := by
  rw [Digest.Carries] at carries
  cases found : header.digest.log preRuntime with
  | none =>
    rw [enginePayloads_of_log_none engineId found] at carries
    have absent : preDigest = none := by
      cases preDigest with
      | none => rfl
      | some preDigest => cases carries
    subst absent
    refine iff_of_true ?_ fun first payload here => ?_
    · simp only [BlockHeader.ofHeader, log_preRuntimePayload, found, Option.map_none]
      rfl
    · rw [found] at here
      cases here
  | some item =>
    obtain ⟨first, payload⟩ := item
    have leads : header.digest.Leads codec engineId preDigest ↔
        first = engineId ∨ (preDigest.isSome = true ∧ codec.decode payload = preDigest) := by
      refine ⟨fun leads => leads first payload found, fun condition other payload' here => ?_⟩
      rw [found] at here
      cases here
      exact condition
    have converts : BlockHeader.ofHeader hash codec header =
        .ok (header.converted hash preDigest) ↔
          preDigest.isSome = true ∧ codec.decode payload = preDigest := by
      simp only [BlockHeader.ofHeader, log_preRuntimePayload, found, Option.map_some]
      cases decoded : codec.decode payload with
      | none => cases preDigest <;> simp
      | some preDigest' => cases preDigest <;> simp [Header.converted]
    rw [leads, converts]
    refine ⟨.inr, fun condition => condition.elim (fun same => ?_) id⟩
    subst same
    obtain ⟨others, payloads⟩ := enginePayloads_of_log found
    rw [payloads] at carries
    cases preDigest with
    | none => cases carries
    | some preDigest =>
      cases carries
      exact ⟨rfl, codec.decode_encode preDigest⟩

end

/-- The engine id of the consensus, `SUB_`. -/
def subspaceEngineId : ConsensusEngineId := #v[83, 85, 66, 95]

/-- The engine id `aura`. -/
def auraEngineId : ConsensusEngineId := #v[97, 117, 114, 97]

/-- How a pre-digest begins: the byte of its version, and the eight bytes of its slot. -/
def slotCodec : PreDigestCodec { slot : List UInt8 // slot.length = 8 } where
  encode slot := 0 :: slot.val
  decode
    | 0 :: rest => if length : (rest.take 8).length = 8 then some ⟨rest.take 8, length⟩ else none
    | _ => none
  decode_encode slot := by
    have all : slot.val.take 8 = slot.val := List.take_of_length_le (Nat.le_of_eq slot.property)
    simp only [all, slot.property, dite_true]

/-- Slot 9. -/
def slotNine : { slot : List UInt8 // slot.length = 8 } := ⟨[9, 0, 0, 0, 0, 0, 0, 0], rfl⟩

/-- A header with a seal before the pre-digest. -/
theorem ofHeader_eq_converted_iff_sealed :
    BlockHeader.ofHeader (fun header : Header Nat => header.number) slotCodec
      ⟨7, 1, 2, 3, [.seal auraEngineId [5],
        .preRuntime subspaceEngineId (slotCodec.encode slotNine)]⟩ =
      .ok ⟨7, 7, 1, 2, 3, some slotNine⟩ := by
  let header : Header Nat := ⟨7, 1, 2, 3, [.seal auraEngineId [5],
    .preRuntime subspaceEngineId (slotCodec.encode slotNine)]⟩
  refine (ofHeader_eq_converted_iff (fun header : Header Nat => header.number) slotCodec
    subspaceEngineId header (some slotNine) rfl).mpr ?_
  rintro _ _ ⟨⟩
  exact .inl rfl

/-- The slot of `aura` stands before the pre-digest, and the conversion panics. -/
theorem ofHeader_panics_on_aura : ¬∀ (header : Header Nat) preDigest,
    header.digest.Carries slotCodec subspaceEngineId preDigest →
    BlockHeader.ofHeader (fun header => header.number) slotCodec header =
      .ok (header.converted (fun header => header.number) preDigest) := by
  intro converts
  let header : Header Nat := ⟨7, 1, 2, 3, [.preRuntime auraEngineId [9, 0, 0, 0, 0, 0, 0, 0],
    .preRuntime subspaceEngineId (slotCodec.encode slotNine)]⟩
  have panics := converts header (some slotNine) rfl
  cases panics

end SubspaceSdk
