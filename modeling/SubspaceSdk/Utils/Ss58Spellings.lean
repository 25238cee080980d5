import SubspaceSdk.Utils.Ss58

/-! What the SS58 parser makes of encoded keys, and which spellings of a key it accepts.  An
identifier below 64 has a prefix of one byte, but the parser also takes the two bytes that would
give the same identifier. -/

namespace SubspaceSdk

open ProofKit ProofKit.Radix

variable {lib : Ss58Library} {s : String} {ident : BitVec 16} {key : PublicKey}
  {data : List Byte}

/-- The `PublicKey` of the SDK, around the one of the protocol. -/
structure SdkPublicKey where
  key : PublicKey
  deriving DecidableEq

/-- `PublicKey::from_str`. -/
def publicKeyFromStr (lib : Ss58Library) (s : String) : Except Ss58Failure SdkPublicKey :=
  (parseSs58RewardAddress lib s).map .mk

/-- `from_base58`, whose zero bytes for the leading ones are what its buffer has left. -/
def base58Decode (s : String) : Except Fault (Option (List Byte)) :=
  match base58Letters.decode s with
  | none => .ok none
  | some data =>
    if data.length ≤ base58Buffer then .ok (some data)
    else if (data.dropWhile (· == 0)).length ≤ base58Buffer then .error .subOverflow
    else .ok none

theorem base58Decode_eq_some_iff : base58Decode s = .ok (some data) ↔
    base58Letters.decode s = some data ∧ data.length ≤ base58Buffer := by
  rw [base58Decode]
  cases base58Letters.decode s with
  | none => simp
  | some found =>
    dsimp only
    by_cases fits : found.length ≤ base58Buffer
    · rw [if_pos fits, Except.ok.injEq, Option.some.injEq]
      exact ⟨fun same => ⟨same, same ▸ fits⟩, fun both => both.1⟩
    · rw [if_neg fits]
      refine iff_of_false (by split <;> nofun) ?_
      rintro ⟨⟨⟩, short⟩
      exact fits short

theorem base58Decode_faults_iff (s : String) :
    (∃ fault, base58Decode s = .error fault) ↔ overrunsBuffer s = true := by
  rw [base58Decode, overrunsBuffer]
  cases base58Letters.decode s with
  | none => simp
  | some found =>
    dsimp only [Option.any_some]
    generalize (found.dropWhile (· == 0)).length = rest
    split_ifs with fits stripped
    · simp [Nat.not_lt.mpr fits]
    · simp [Nat.not_le.mp fits, stripped]
    · simp [stripped]

/-- The decoder of the crate gives all that the alphabet does for a text that is no longer than its
buffer. -/
theorem base58Decode_of_short (short : s.toList.length ≤ base58Buffer) :
    base58Decode s = .ok (base58Letters.decode s) := by
  rw [base58Decode]
  cases decoded : base58Letters.decode s with
  | none => rfl
  | some data =>
    exact if_pos ((Alphabet.length_le_of_decode decoded (by decide)).trans short)

/-- The crates, with a hash that gives `digest` for all data. -/
def digestLibrary (digest : List Byte) (long : digest.length = 64) : Ss58Library where
  fromBase58 := base58Decode
  toBase58 := base58Letters.encode
  from_to bytes fits := base58Decode_eq_some_iff.mpr ⟨base58Letters.decode_encode bytes, fits⟩
  from_injective _ _ _ first second :=
    (base58Letters.encode_of_decode (base58Decode_eq_some_iff.mp first).1).symm.trans
      (base58Letters.encode_of_decode (base58Decode_eq_some_iff.mp second).1)
  from_faults := base58Decode_faults_iff
  blake2b512 _ := digest
  hash_length _ := long
  isReserved ident := 16383 < ident.toNat || ident == 46 || ident == 47

/-! ### Encoded keys -/

theorem publicKeyFromStr_of_ok (accepted : parseSs58RewardAddress lib s = .ok key) :
    publicKeyFromStr lib s = .ok ⟨key⟩ := by
  rw [publicKeyFromStr, accepted]
  rfl

theorem publicKeyFromStr_of_failed {failure : Ss58Failure}
    (failed : addressKey lib s = .error failure) : publicKeyFromStr lib s = .error failure := by
  rw [publicKeyFromStr, parseSs58RewardAddress, failed]
  rfl

/-- The parser ends on a text without a panic, with 32 bytes where it converts some. -/
structure EndsOn (lib : Ss58Library) (s : String) : Prop where
  noPanic : ∀ fault, publicKeyFromStr lib s ≠ .error (.panic fault)
  converts : ∀ bytes, addressKey lib s = .ok bytes →
    ∃ key, tryIntoKey bytes = some key ∧ publicKeyFromStr lib s = .ok ⟨key⟩

theorem publicKeyFromStr_of_addressKey_ok {bytes : List Byte}
    (found : addressKey lib s = .ok bytes) :
    ∃ key, tryIntoKey bytes = some key ∧ publicKeyFromStr lib s = .ok ⟨key⟩ := by
  rcases addressKey_outcome lib s with ⟨fault, -, failed⟩ | ⟨-, ⟨error, failed⟩ |
    ⟨pre, rest, ident, -, -, long, -, -, found'⟩⟩
  · rw [failed] at found
    cases found
  · rw [failed] at found
    cases found
  · rw [found'] at found
    cases found
    have length : (rest.take 32).length = 32 := by
      rw [List.length_take, long]
      rfl
    have accepted : parseSs58RewardAddress lib s = .ok ⟨rest.take 32, length⟩ := by
      rw [parseSs58RewardAddress, found', Checked.ok_bind, tryIntoKey_of_length length]
      rfl
    exact ⟨_, tryIntoKey_of_length length, publicKeyFromStr_of_ok accepted⟩

/-- The parser's own steps do not panic. -/
theorem publicKeyFromStr_panics_iff {fault : Fault} :
    publicKeyFromStr lib s = .error (.panic fault) ↔ lib.fromBase58 s = .error fault := by
  rcases addressKey_outcome lib s with ⟨fault', faults, failed⟩ |
    ⟨⟨data, decoded⟩, ⟨error, failed⟩ | ⟨pre, rest, ident, -, -, -, -, -, found⟩⟩
  · rw [publicKeyFromStr_of_failed failed, faults]
    simp only [Except.error.injEq, Ss58Failure.panic.injEq]
  · rw [publicKeyFromStr_of_failed failed, decoded]
    simp only [Except.error.injEq, reduceCtorEq]
  · obtain ⟨key, -, accepted⟩ := publicKeyFromStr_of_addressKey_ok found
    rw [decoded, accepted]
    simp only [reduceCtorEq]

/-- The parser gives back an encoded key and refuses a reserved identifier, panics only where the
base58 decoder does, and ends on a text as it should exactly where the text does not overrun the
buffer of that decoder. -/
theorem publicKeyFromStr_inverts (lib : Ss58Library) :
    (∀ (ident : BitVec 16) (key : PublicKey), ident.toNat < 2 ^ 14 →
      publicKeyFromStr lib (lib.toBase58 (encodeSs58 lib ident key)) =
        if lib.isReserved ident = false then .ok ⟨key⟩ else .error (.error .formatNotAllowed)) ∧
    (∀ s fault, publicKeyFromStr lib s = .error (.panic fault) ↔
      lib.fromBase58 s = .error fault) ∧
    ∀ s, EndsOn lib s ↔ overrunsBuffer s = false := by
  refine ⟨fun ident key small => ?_, fun s fault => publicKeyFromStr_panics_iff, fun s => ?_⟩
  · have reads := readsPrefix_encodePrefix small
    have parsed : parseSs58RewardAddress lib (lib.toBase58 (encodeSs58 lib ident key)) = _ :=
      parse_of_encoded reads (lib.from_to _ (reads.fits lib key))
    rw [publicKeyFromStr, parsed]
    split <;> rfl
  · rw [← Bool.not_eq_true, ← lib.from_faults]
    constructor
    · rintro ends ⟨fault, faults⟩
      exact ends.noPanic fault (publicKeyFromStr_panics_iff.mpr faults)
    · intro sound
      refine ⟨fun fault panics => sound ⟨fault, publicKeyFromStr_panics_iff.mp panics⟩, ?_⟩
      exact fun bytes found => publicKeyFromStr_of_addressKey_ok found

/-- A key of the tests of the network. -/
def aliceKey : PublicKey where
  bytes := [0xd4, 0x35, 0x93, 0xc7, 0x15, 0xfd, 0xd3, 0x1c, 0x61, 0x14, 0x1a, 0xbd, 0x04, 0xa9,
    0x9f, 0xd6, 0x82, 0x2c, 0x85, 0x58, 0x85, 0x4c, 0xcd, 0xe3, 0x9a, 0x56, 0x84, 0xe7, 0xa5,
    0x6d, 0xa2, 0x7d]
  length_eq := rfl

/-- The hash of `SS58PRE`, the byte 42 and the key. -/
def substrateDigest : List Byte :=
  [0x1d, 0x21, 0xe0, 0x51, 0x82, 0xaa, 0x93, 0x7a, 0xaa, 0xd7, 0x16, 0x38, 0x83, 0x2e, 0xe5,
    0x45, 0x47, 0x59, 0x7e, 0x37, 0x4b, 0x1b, 0xbe, 0x65, 0x60, 0xc9, 0xb2, 0xf4, 0xf7, 0x38,
    0x03, 0x4f, 0xc6, 0x16, 0x0d, 0xe6, 0x8c, 0x76, 0x19, 0x1c, 0xc0, 0xb5, 0x20, 0x85, 0x66,
    0xe6, 0xbb, 0x1a, 0x3b, 0x66, 0x34, 0x29, 0xfa, 0x58, 0x0d, 0x0f, 0x1b, 0xe7, 0xc8, 0xf7,
    0x9b, 0xaf, 0x9b, 0x97]

theorem substrate_address : (digestLibrary substrateDigest rfl).toBase58
    (encodeSs58 (digestLibrary substrateDigest rfl) 42 aliceKey) =
      "5GrwvaEF5zXb26Fz9rcQpDWS57CtERHpNehXCPcNoHGKutQY" := by
  decide +kernel

/-- The address of the key under the identifier 42. -/
theorem publicKeyFromStr_inverts_substrate :
    publicKeyFromStr (digestLibrary substrateDigest rfl)
      "5GrwvaEF5zXb26Fz9rcQpDWS57CtERHpNehXCPcNoHGKutQY" = .ok ⟨aliceKey⟩ := by
  have parsed := (publicKeyFromStr_inverts (digestLibrary substrateDigest rfl)).1 42 aliceKey
    (by decide)
  rw [substrate_address] at parsed
  exact parsed

/-- The 133 zero bytes of as many ones do not fit the buffer of the base58 decoder. -/
theorem ones_overrun : ¬ EndsOn (digestLibrary substrateDigest rfl)
    (String.ofList (List.replicate 133 '1')) := by
  intro ends
  have panics : publicKeyFromStr (digestLibrary substrateDigest rfl)
      (String.ofList (List.replicate 133 '1')) = .error (.panic .subOverflow) := by
    decide +kernel
  exact ends.noPanic _ panics

/-! ### Spellings -/

/-- The parser accepts the text as `key` under the identifier that it reads from the prefix. -/
def AcceptsAs (lib : Ss58Library) (s : String) (ident : BitVec 16) (key : PublicKey) : Prop :=
  parseSs58RewardAddress lib s = .ok key ∧
    ∃ data prefixLen, lib.fromBase58 s = .ok (some data) ∧
      parsePrefix data = .ok (prefixLen, ident)

theorem acceptsAs_iff : AcceptsAs lib s ident key ↔ ∃ pre, ReadsPrefix pre ident ∧
    lib.isReserved ident = false ∧ lib.fromBase58 s =
      .ok (some (pre ++ key.bytes ++ (ss58hash lib (pre ++ key.bytes)).take 2)) := by
  rw [AcceptsAs, parse_eq_ok_iff]
  constructor
  · rintro ⟨⟨pre, ident', reads, allowed, decoded⟩, data, prefixLen, decoded', read⟩
    rw [decoded] at decoded'
    cases decoded'
    rw [List.append_assoc, parsePrefix_of_reads reads] at read
    cases read
    exact ⟨pre, reads, allowed, decoded⟩
  · rintro ⟨pre, reads, allowed, decoded⟩
    refine ⟨⟨pre, ident, reads, allowed, decoded⟩, _, .ofNat 64 pre.length, decoded, ?_⟩
    rw [List.append_assoc]
    exact parsePrefix_of_reads reads _

theorem encodeSs58_eq_iff (lib : Ss58Library) (ident : BitVec 16) (key : PublicKey)
    (pre : List Byte) :
    pre ++ key.bytes ++ (ss58hash lib (pre ++ key.bytes)).take 2 = encodeSs58 lib ident key ↔
      encodePrefix ident = pre := by
  constructor
  · intro same
    have length := congrArg List.length same
    simp only [encodeSs58, List.length_append, List.length_take, ss58hash, lib.hash_length]
      at length
    rw [encodeSs58, List.append_assoc, List.append_assoc] at same
    exact (List.append_inj same (by omega)).1.symm
  · rintro rfl
    rfl

theorem acceptsAs_twoBytes {ident : BitVec 16} (small : ident.toNat < 2 ^ 14)
    (allowed : lib.isReserved ident = false) (key : PublicKey) :
    ∃ s data, lib.fromBase58 s = .ok (some data) ∧ data.length = 36 ∧
      AcceptsAs lib s ident key := by
  have reads := readsPrefix_twoBytes small
  have decoded := lib.from_to _ (reads.fits lib key)
  refine ⟨_, _, decoded, ?_, acceptsAs_iff.mpr ⟨_, reads, allowed, decoded⟩⟩
  simp [key.length_eq, ss58hash, lib.hash_length]

/-- The bytes of an accepted text are the encoding of its key exactly where its prefix is not too
long, and the identifiers with one spelling for each key are those from 64 on. -/
theorem accepted_encoding_iff (lib : Ss58Library) :
    (∀ s ident key data, AcceptsAs lib s ident key → lib.fromBase58 s = .ok (some data) →
      (data = encodeSs58 lib ident key ↔ ¬Overlong data)) ∧
    ∀ ident : BitVec 16, ident.toNat < 2 ^ 14 → lib.isReserved ident = false →
      ((∀ s s' key, AcceptsAs lib s ident key → AcceptsAs lib s' ident key → s = s') ↔
        64 ≤ ident.toNat) := by
  have exactly : ∀ s ident key data, AcceptsAs lib s ident key →
      lib.fromBase58 s = .ok (some data) →
        (data = encodeSs58 lib ident key ↔ ¬Overlong data) := by
    intro s ident key data accepts decoded
    obtain ⟨pre, reads, -, decoded'⟩ := acceptsAs_iff.mp accepts
    rw [decoded] at decoded'
    cases decoded'
    rw [encodeSs58_eq_iff, List.append_assoc]
    exact reads.encodePrefix_eq_iff _
  refine ⟨exactly, fun ident small allowed => ?_⟩
  constructor
  · intro single
    by_contra below
    let key : PublicKey := ⟨List.replicate 32 0, rfl⟩
    obtain ⟨s, data, decoded, long, accepts⟩ := acceptsAs_twoBytes small allowed key
    have reads := readsPrefix_encodePrefix small
    have back := lib.from_to (encodeSs58 lib ident key) (reads.fits lib key)
    have proper : AcceptsAs lib (lib.toBase58 (encodeSs58 lib ident key)) ident key :=
      acceptsAs_iff.mpr ⟨_, reads, allowed, back⟩
    have same := single _ _ key accepts proper
    rw [same, back] at decoded
    cases decoded
    simp [encodeSs58, encodePrefix, Nat.not_le.mp below, key.length_eq, ss58hash,
      lib.hash_length] at long
  · intro large s s' key accepts accepts'
    obtain ⟨pre, reads, -, decoded⟩ := acceptsAs_iff.mp accepts
    obtain ⟨pre', reads', -, decoded'⟩ := acceptsAs_iff.mp accepts'
    rw [← (reads.encodePrefix_eq_iff []).mpr (reads.not_overlong large [])] at decoded
    rw [← (reads'.encodePrefix_eq_iff []).mpr (reads'.not_overlong large [])] at decoded'
    exact lib.from_injective s s' _ decoded decoded'

/-- The identifier 42, whose prefix has one byte, and the identifier 64, with one spelling for each
key. -/
theorem accepted_encoding_iff_substrate :
    ¬Overlong (encodeSs58 (digestLibrary substrateDigest rfl) 42 aliceKey) ∧
      ∀ s s' key, AcceptsAs (digestLibrary substrateDigest rfl) s 64 key →
        AcceptsAs (digestLibrary substrateDigest rfl) s' 64 key → s = s' := by
  have decoded : (digestLibrary substrateDigest rfl).fromBase58
      "5GrwvaEF5zXb26Fz9rcQpDWS57CtERHpNehXCPcNoHGKutQY" =
        .ok (some (encodeSs58 (digestLibrary substrateDigest rfl) 42 aliceKey)) := by
    rw [← substrate_address]
    exact (digestLibrary substrateDigest rfl).from_to _ (by decide)
  have accepts := acceptsAs_iff.mpr ⟨_, readsPrefix_encodePrefix (by decide), by decide, decoded⟩
  obtain ⟨exactly, single⟩ := accepted_encoding_iff (digestLibrary substrateDigest rfl)
  exact ⟨(exactly _ _ _ _ accepts decoded).mp rfl,
    (single 64 (by decide) (by decide)).mpr (by decide)⟩

/-- The hash of `SS58PRE`, the bytes 64 and 0, and the key. -/
def overlongDigest : List Byte :=
  [0xb3, 0x0e, 0x3e, 0xfe, 0xdc, 0x2a, 0xa8, 0x35, 0xaf, 0xa8, 0xbf, 0xe3, 0x66, 0xee, 0xc6,
    0xc6, 0x41, 0xca, 0xec, 0xb6, 0xc1, 0x09, 0x6a, 0x94, 0xb2, 0x32, 0xec, 0x8e, 0x84, 0xa5,
    0x14, 0x8c, 0xe9, 0xe6, 0xce, 0x90, 0x7b, 0x8e, 0xc4, 0x9a, 0xb7, 0x70, 0x5c, 0x5a, 0x4e,
    0x1c, 0xd2, 0xfa, 0x38, 0x44, 0x4d, 0xf8, 0x4a, 0xa2, 0x07, 0xe3, 0x00, 0xf8, 0x28, 0x07,
    0x04, 0x07, 0x0d, 0x99]

/-- The key is accepted under the identifier 0 with a prefix of two bytes. -/
theorem overlong_accepted :
    ¬∀ s ident key data, AcceptsAs (digestLibrary overlongDigest rfl) s ident key →
      (digestLibrary overlongDigest rfl).fromBase58 s = .ok (some data) →
      data = encodeSs58 (digestLibrary overlongDigest rfl) ident key := by
  intro exactly
  have decoded : (digestLibrary overlongDigest rfl).fromBase58
      "VBsrc5NLykZFTPMQucUzZebcjre8F9RFiyhyBLBWjSzSs68Hj" =
        .ok (some ([0x40, 0x00] ++ aliceKey.bytes ++ [0xb3, 0x0e])) := by
    decide +kernel
  have reads : ReadsPrefix [0x40, 0x00] 0 := ReadsPrefix.two (a := 0x40) (b := 0x00) (by decide)
    (by decide)
  have accepts := acceptsAs_iff.mpr ⟨_, reads, by decide, decoded⟩
  have same := exactly _ 0 aliceKey _ accepts decoded
  exact absurd (congrArg List.length same) (by decide)

end SubspaceSdk
