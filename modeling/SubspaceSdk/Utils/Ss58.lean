import SubspaceSdk.ProofKit.Checked
import SubspaceSdk.ProofKit.Radix

/-! `parse_ss58_reward_address`, through which reward addresses enter as text.  Every index, slice,
sum and shift of the parser is checked, so that a panic would be a result of the model. -/

namespace SubspaceSdk

open ProofKit ProofKit.Checked ProofKit.Radix

abbrev Byte := BitVec 8

def base58Letters : Alphabet where
  letters := "123456789ABCDEFGHJKLMNPQRSTUVWXYZabcdefghijkmnopqrstuvwxyz".toList
  nodup := by decide
  two := by decide

/-- The bytes that `from_base58` has room for. -/
def base58Buffer : Nat := 132

/-- The number that the text stands for fits the buffer of `from_base58`, and the zero bytes of its
leading ones do not fit there as well. -/
def overrunsBuffer (s : String) : Bool :=
  (base58Letters.decode s).any fun data =>
    base58Buffer < data.length && (data.dropWhile (· == 0)).length ≤ base58Buffer

/-- The crates that the parser calls: base58, the hash, and the registry of the identifiers.  The
decoder of base58 panics where the leading ones of a text overrun its buffer. -/
structure Ss58Library where
  fromBase58 : String → Except Fault (Option (List Byte))
  toBase58 : List Byte → String
  from_to : ∀ bytes, bytes.length ≤ base58Buffer → fromBase58 (toBase58 bytes) = .ok (some bytes)
  from_injective : ∀ s s' bytes, fromBase58 s = .ok (some bytes) →
    fromBase58 s' = .ok (some bytes) → s = s'
  from_faults : ∀ s, (∃ fault, fromBase58 s = .error fault) ↔ overrunsBuffer s = true
  blake2b512 : List Byte → List Byte
  hash_length : ∀ data, (blake2b512 data).length = 64
  isReserved : BitVec 16 → Bool

inductive Ss58ParsingError where
  | badBase58
  | badLength
  | invalidPrefix
  | formatNotAllowed
  | invalidChecksum
  deriving Repr, DecidableEq

/-- How a call of the parser ends without a key. -/
inductive Ss58Failure where
  | error (error : Ss58ParsingError)
  | panic (fault : Fault)
  deriving Repr, DecidableEq

structure PublicKey where
  bytes : List Byte
  length_eq : bytes.length = 32
  deriving DecidableEq

def publicKeyLength : BitVec 64 := 32

def checksumLen : BitVec 64 := 2

/-- The bytes of `SS58PRE`. -/
def ss58Prefix : List Byte := [0x53, 0x53, 0x35, 0x38, 0x50, 0x52, 0x45]

def ss58hash (lib : Ss58Library) (data : List Byte) : List Byte :=
  lib.blake2b512 (ss58Prefix ++ data)

def checked {α : Type} (result : Except Fault α) : Except Ss58Failure α :=
  result.mapError .panic

def ensure (condition : Prop) [Decidable condition] (error : Ss58ParsingError) :
    Except Ss58Failure Unit :=
  if condition then .ok () else .error (.error error)

/-- The length of the prefix of an address, and the identifier that the prefix gives. -/
def parsePrefix (data : List Byte) : Except Ss58Failure (BitVec 64 × BitVec 16) := do
  let first ← checked (index data 0)
  if first.toNat ≤ 63 then
    .ok (1, first.setWidth 16)
  else if first.toNat ≤ 127 then do
    let second ← checked (index data 1)
    let high ← checked (shl first 2)
    let low ← checked (shr second 6)
    let lower := high ||| low
    let upper := second &&& 0b00111111
    let shifted ← checked (shl (upper.setWidth 16) 8)
    .ok (2, lower.setWidth 16 ||| shifted)
  else
    .error (.error .invalidPrefix)

/-- The parser up to the conversion of the key's bytes to an array. -/
def addressKey (lib : Ss58Library) (s : String) : Except Ss58Failure (List Byte) := do
  let decoded ← checked (lib.fromBase58 s)
  let data ← decoded.elim (.error (.error .badBase58)) .ok
  ensure (2 ≤ data.length) .badLength
  let (prefixLen, ident) ← parsePrefix data
  let withKey ← checked (add prefixLen publicKeyLength)
  let total ← checked (add withKey checksumLen)
  ensure (data.length = total.toNat) .badLength
  ensure (lib.isReserved ident = false) .formatNotAllowed
  let hashed ← checked (add publicKeyLength prefixLen)
  let preimage ← checked (slice data 0 hashed.toNat)
  let checksum ← checked (slice (ss58hash lib preimage) 0 checksumLen.toNat)
  let stop ← checked (add hashed checksumLen)
  let given ← checked (slice data hashed.toNat stop.toNat)
  ensure (given = checksum) .invalidChecksum
  let rest ← checked (slice data prefixLen.toNat data.length)
  checked (slice rest 0 publicKeyLength.toNat)

/-- The conversion to an array of 32 bytes. -/
def tryIntoKey (bytes : List Byte) : Option PublicKey :=
  if h : bytes.length = 32 then some ⟨bytes, h⟩ else none

def parseSs58RewardAddress (lib : Ss58Library) (s : String) : Except Ss58Failure PublicKey := do
  let bytes ← addressKey lib s
  (tryIntoKey bytes).elim (.error (.error .badLength)) .ok

/-! ### The prefix -/

/-- The identifier that the parser reads from two bytes. -/
def twoByteIdent (a b : Byte) : BitVec 16 :=
  (a <<< 2 ||| b >>> 6).setWidth 16 ||| (b &&& 0b00111111).setWidth 16 <<< 8

/-- The first of the two bytes of an identifier. -/
def firstByte (ident : BitVec 16) : Byte := (0b01000000 ||| (ident &&& 0xFC) >>> 2).setWidth 8

/-- The second of the two bytes of an identifier. -/
def secondByte (ident : BitVec 16) : Byte := (ident >>> 8 ||| (ident &&& 3) <<< 6).setWidth 8

/-- The prefix of an identifier: one byte below 64, and two bytes from there on. -/
def encodePrefix (ident : BitVec 16) : List Byte :=
  if ident.toNat < 64 then [ident.setWidth 8] else [firstByte ident, secondByte ident]

/-- The prefixes that the parser reads, with their identifiers. -/
inductive ReadsPrefix : List Byte → BitVec 16 → Prop
  | one {a : Byte} (low : a.toNat ≤ 63) : ReadsPrefix [a] (a.setWidth 16)
  | two {a b : Byte} (high : 63 < a.toNat) (low : a.toNat ≤ 127) :
      ReadsPrefix [a, b] (twoByteIdent a b)

theorem toNat_or_shiftLeft {w k : Nat} (x y : BitVec w) (n : Nat) (small : x.toNat < 2 ^ k)
    (high : y.toNat = 2 ^ k * n) : (y ||| x).toNat = 2 ^ k * n + x.toNat := by
  rw [BitVec.toNat_or, high, Nat.two_pow_add_eq_or_of_lt small]

theorem twoByteIdent_toNat (a b : Byte) :
    (twoByteIdent a b).toNat = 256 * (b.toNat % 64) + (4 * (a.toNat % 64) + b.toNat / 64) := by
  have := b.isLt
  have shifted : (a <<< 2).toNat = 2 ^ 2 * (a.toNat % 64) := by
    rw [BitVec.toNat_shiftLeft, Nat.shiftLeft_eq]
    omega
  have top : (b >>> 6).toNat = b.toNat / 64 := by
    rw [BitVec.toNat_ushiftRight, Nat.shiftRight_eq_div_pow]
  have lower : (a <<< 2 ||| b >>> 6).toNat = 4 * (a.toNat % 64) + b.toNat / 64 := by
    rw [toNat_or_shiftLeft _ _ _ (by omega) shifted, top]
    rfl
  have masked : (b &&& 0b00111111).toNat = b.toNat % 64 := by
    rw [BitVec.toNat_and]
    exact Nat.and_two_pow_sub_one_eq_mod b.toNat 6
  have upper : ((b &&& 0b00111111).setWidth 16 <<< 8).toNat = 2 ^ 8 * (b.toNat % 64) := by
    rw [BitVec.toNat_shiftLeft, BitVec.toNat_setWidth, masked, Nat.shiftLeft_eq]
    omega
  have wide : ((a <<< 2 ||| b >>> 6).setWidth 16).toNat =
      4 * (a.toNat % 64) + b.toNat / 64 := by
    rw [BitVec.toNat_setWidth, lower, Nat.mod_eq_of_lt (by omega)]
  rw [twoByteIdent, BitVec.or_comm, toNat_or_shiftLeft _ _ _ (by omega) upper, wide]
  rfl

theorem firstByte_toNat (ident : BitVec 16) :
    (firstByte ident).toNat = 64 + ident.toNat % 256 / 4 := by
  have masked : ((ident &&& 0xFC) >>> 2).toNat = ident.toNat % 256 / 4 := by
    rw [BitVec.toNat_ushiftRight, BitVec.toNat_and, Nat.shiftRight_and_distrib,
      Nat.shiftRight_eq_div_pow]
    refine (Nat.and_two_pow_sub_one_eq_mod _ 6).trans ?_
    omega
  have whole : (0b01000000 ||| (ident &&& 0xFC) >>> 2 : BitVec 16).toNat =
      64 + ident.toNat % 256 / 4 := by
    rw [toNat_or_shiftLeft (k := 6) _ _ 1 (by omega) rfl, masked]
    rfl
  rw [firstByte, BitVec.toNat_setWidth, whole]
  omega

theorem secondByte_toNat {ident : BitVec 16} (small : ident.toNat < 2 ^ 14) :
    (secondByte ident).toNat = 64 * (ident.toNat % 4) + ident.toNat / 256 := by
  have top : (ident >>> 8).toNat = ident.toNat / 256 := by
    rw [BitVec.toNat_ushiftRight, Nat.shiftRight_eq_div_pow]
  have masked : (ident &&& 3).toNat = ident.toNat % 4 := by
    rw [BitVec.toNat_and]
    exact Nat.and_two_pow_sub_one_eq_mod _ 2
  have shifted : ((ident &&& 3) <<< 6).toNat = 2 ^ 6 * (ident.toNat % 4) := by
    rw [BitVec.toNat_shiftLeft, masked, Nat.shiftLeft_eq]
    omega
  rw [secondByte, BitVec.toNat_setWidth, BitVec.or_comm,
    toNat_or_shiftLeft _ _ _ (by omega) shifted, top]
  omega

/-- The two bytes of a number of 14 bits give the number. -/
theorem number_of_bytes {n : Nat} (small : n < 2 ^ 14) :
    256 * ((64 * (n % 4) + n / 256) % 64) +
      (4 * ((64 + n % 256 / 4) % 64) + (64 * (n % 4) + n / 256) / 64) = n := by
  have upper : (64 * (n % 4) + n / 256) % 64 = n / 256 := by omega
  have low : (64 * (n % 4) + n / 256) / 64 = n % 4 := by omega
  have middle : (64 + n % 256 / 4) % 64 = n % 256 / 4 := by omega
  rw [upper, low, middle]
  omega

/-- The number that two bytes give has these bytes. -/
theorem bytes_of_number {a b n : Nat} (high : 63 < a) (low : a ≤ 127) (byte : b < 256)
    (number : n = 256 * (b % 64) + (4 * (a % 64) + b / 64)) :
    64 + n % 256 / 4 = a ∧ 64 * (n % 4) + n / 256 = b := by
  have upper : n / 256 = b % 64 := by omega
  have middle : n % 256 = 4 * (a % 64) + b / 64 := by omega
  have last : n % 4 = b / 64 := by omega
  have quarter : (4 * (a % 64) + b / 64) / 4 = a % 64 := by omega
  rw [upper, middle, last, quarter]
  omega

/-- Every identifier of 14 bits may be written with two bytes. -/
theorem readsPrefix_twoBytes {ident : BitVec 16} (small : ident.toNat < 2 ^ 14) :
    ReadsPrefix [firstByte ident, secondByte ident] ident := by
  have first := firstByte_toNat ident
  have second := secondByte_toNat small
  have reads := ReadsPrefix.two (a := firstByte ident) (b := secondByte ident) (by omega)
    (by omega)
  have same : twoByteIdent (firstByte ident) (secondByte ident) = ident := by
    apply BitVec.eq_of_toNat_eq
    rw [twoByteIdent_toNat, first, second]
    exact number_of_bytes small
  rwa [same] at reads

/-- The parser reads back the prefix of every identifier of 14 bits. -/
theorem readsPrefix_encodePrefix {ident : BitVec 16} (small : ident.toNat < 2 ^ 14) :
    ReadsPrefix (encodePrefix ident) ident := by
  rw [encodePrefix]
  split
  next one =>
    have narrow : (ident.setWidth 8 : Byte).toNat = ident.toNat := by
      rw [BitVec.toNat_setWidth]
      omega
    have same : ((ident.setWidth 8 : Byte).setWidth 16) = ident := by
      apply BitVec.eq_of_toNat_eq
      rw [BitVec.toNat_setWidth, narrow]
      omega
    have reads := ReadsPrefix.one (a := ident.setWidth 8) (by omega)
    rwa [same] at reads
  next two => exact readsPrefix_twoBytes small

theorem ReadsPrefix.small {pre : List Byte} {ident : BitVec 16} (reads : ReadsPrefix pre ident) :
    ident.toNat < 2 ^ 14 := by
  cases reads with
  | @one a low =>
    rw [BitVec.toNat_setWidth]
    omega
  | @two a b high low =>
    have := b.isLt
    rw [twoByteIdent_toNat]
    omega

/-- Two bytes for an identifier that has a prefix of one byte. -/
def Overlong (data : List Byte) : Prop :=
  ∃ a b rest, data = a :: b :: rest ∧ 64 ≤ a.toNat ∧ a.toNat < 80 ∧ b.toNat % 64 = 0

theorem ReadsPrefix.not_overlong {pre : List Byte} {ident : BitVec 16}
    (reads : ReadsPrefix pre ident) (large : 64 ≤ ident.toNat) (rest : List Byte) :
    ¬Overlong (pre ++ rest) := by
  rintro ⟨a', b', rest', split, high, few, zero⟩
  cases reads with
  | one =>
    cases split
    omega
  | two =>
    cases split
    have ident := twoByteIdent_toNat a' b'
    have := b'.isLt
    omega

/-- A prefix is the encoding of its identifier where it is not too long. -/
theorem ReadsPrefix.encodePrefix_eq_iff {pre : List Byte} {ident : BitVec 16}
    (reads : ReadsPrefix pre ident) (rest : List Byte) :
    encodePrefix ident = pre ↔ ¬Overlong (pre ++ rest) := by
  rcases Nat.lt_or_ge ident.toNat 64 with below | large
  · cases reads with
    | @one a low =>
      have wide : (a.setWidth 16).toNat = a.toNat := by
        rw [BitVec.toNat_setWidth]
        omega
      have narrow : (a.setWidth 16).setWidth 8 = a := by
        apply BitVec.eq_of_toNat_eq
        rw [BitVec.toNat_setWidth, wide]
        omega
      rw [encodePrefix, if_pos below, narrow]
      refine iff_of_true rfl ?_
      rintro ⟨a', b', rest', same, high, -⟩
      cases same
      omega
    | @two a b high low =>
      have ident := twoByteIdent_toNat a b
      have := b.isLt
      rw [encodePrefix, if_pos below]
      refine iff_of_false (fun same => ?_) fun proper => proper ?_
      · exact absurd (congrArg List.length same) (by simp)
      · exact ⟨a, b, rest, rfl, by omega, by omega, by omega⟩
  · refine iff_of_true ?_ (reads.not_overlong large rest)
    cases reads with
    | @one a low =>
      rw [BitVec.toNat_setWidth] at large
      omega
    | @two a b high low =>
      have first := firstByte_toNat (twoByteIdent a b)
      have second : (secondByte (twoByteIdent a b)).toNat = _ :=
        secondByte_toNat (ReadsPrefix.two (b := b) high low).small
      obtain ⟨sameFirst, sameSecond⟩ :=
        bytes_of_number high low b.isLt (twoByteIdent_toNat a b)
      rw [encodePrefix, if_neg (by omega), BitVec.eq_of_toNat_eq (first.trans sameFirst),
        BitVec.eq_of_toNat_eq (second.trans sameSecond)]

/-! ### The outcomes of the parser -/

variable {lib : Ss58Library} {s : String} {pre rest : List Byte} {ident : BitVec 16}

theorem ReadsPrefix.length (reads : ReadsPrefix pre ident) : pre.length = 1 ∨ pre.length = 2 := by
  cases reads with
  | one => exact .inl rfl
  | two => exact .inr rfl

theorem parsePrefix_of_reads (reads : ReadsPrefix pre ident) (rest : List Byte) :
    parsePrefix (pre ++ rest) = .ok (.ofNat 64 pre.length, ident) := by
  cases reads with
  | one low =>
    rw [parsePrefix]
    show (if _ then _ else _) = _
    rw [if_pos low]
    rfl
  | two high low =>
    rw [parsePrefix]
    show (if _ then _ else _) = _
    rw [if_neg (by omega), if_pos low]
    rfl

/-- A prefix is read, or the first byte starts none. -/
theorem parsePrefix_cases {data : List Byte} (two : 2 ≤ data.length) :
    (∃ pre rest ident, data = pre ++ rest ∧ ReadsPrefix pre ident) ∨
      parsePrefix data = .error (.error .invalidPrefix) := by
  obtain ⟨a, b, rest, rfl⟩ : ∃ a b rest, data = a :: b :: rest := by
    match data, two with
    | a :: b :: rest, _ => exact ⟨a, b, rest, rfl⟩
  rcases Nat.lt_or_ge 63 a.toNat with high | low
  · rcases Nat.lt_or_ge 127 a.toNat with large | small
    · right
      rw [parsePrefix]
      show (if _ then _ else _) = _
      rw [if_neg (by omega), if_neg (by omega)]
    · exact .inl ⟨[a, b], rest, _, rfl, .two high small⟩
  · exact .inl ⟨[a], b :: rest, _, rfl, .one low⟩

theorem ensure_of {condition : Prop} [Decidable condition] (holds : condition)
    (error : Ss58ParsingError) : ensure condition error = .ok () := if_pos holds

theorem ensure_of_not {condition : Prop} [Decidable condition] (fails : ¬condition)
    (error : Ss58ParsingError) : ensure condition error = .error (.error error) := if_neg fails

theorem checked_ok {α : Type} (a : α) : checked (.ok a) = .ok a := rfl

/-- What the parser makes of bytes that start with a prefix. -/
theorem addressKey_of_reads (reads : ReadsPrefix pre ident) (two : 2 ≤ (pre ++ rest).length)
    (decoded : lib.fromBase58 s = .ok (some (pre ++ rest))) :
    addressKey lib s =
      if rest.length = 34 then
        if lib.isReserved ident = false then
          if rest.drop 32 = (ss58hash lib (pre ++ rest.take 32)).take 2 then .ok (rest.take 32)
          else .error (.error .invalidChecksum)
        else .error (.error .formatNotAllowed)
      else .error (.error .badLength) := by
  have hashed : add publicKeyLength (.ofNat 64 pre.length) = .ok (.ofNat 64 (pre.length + 32)) := by
    rcases reads.length with length | length <;> rw [length] <;> rfl
  have withKey : add (.ofNat 64 pre.length) publicKeyLength =
      .ok (.ofNat 64 (pre.length + 32)) := by
    rcases reads.length with length | length <;> rw [length] <;> rfl
  have total : add (.ofNat 64 (pre.length + 32)) checksumLen =
      .ok (.ofNat 64 (pre.length + 34)) := by
    rcases reads.length with length | length <;> rw [length] <;> rfl
  have toNat {n : Nat} (few : n ≤ 34) :
      (BitVec.ofNat 64 (pre.length + n)).toNat = pre.length + n := by
    rw [BitVec.toNat_ofNat]
    rcases reads.length with length | length <;> omega
  have front : (BitVec.ofNat 64 pre.length).toNat = pre.length := toNat (n := 0) (by omega)
  have keyLength : publicKeyLength.toNat = 32 := rfl
  have sumLength : checksumLen.toNat = 2 := rfl
  have whole : (pre ++ rest).length = pre.length + rest.length := List.length_append
  simp only [addressKey, decoded, checked_ok, Option.elim_some, ok_bind, ensure_of two,
    parsePrefix_of_reads reads, withKey, hashed, total, toNat (Nat.le_refl 34),
    toNat (n := 32) (by omega), keyLength, sumLength]
  split
  next long =>
    rw [ensure_of (by omega), ok_bind]
    split
    next allowed =>
      have preimage : slice (pre ++ rest) 0 (pre.length + 32) = .ok (pre ++ rest.take 32) := by
        rw [slice_zero (by omega), List.take_length_add_append]
      have checksum : slice (ss58hash lib (pre ++ rest.take 32)) 0 2 = .ok _ :=
        slice_zero (by rw [ss58hash, lib.hash_length]; decide)
      have given : slice (pre ++ rest) (pre.length + 32) (pre.length + 34) =
          .ok (rest.drop 32) := by
        rw [← long, ← whole, slice_length (by omega), List.drop_length_add_append]
      have after : slice (pre ++ rest) (BitVec.ofNat 64 pre.length).toNat (pre ++ rest).length =
          .ok rest := by
        rw [front, slice_length (by omega)]
        exact congrArg _ (List.drop_left)
      have key : slice rest 0 32 = .ok (rest.take 32) := slice_zero (by omega)
      rw [ensure_of allowed]
      simp only [ok_bind, preimage, checksum, given, after, key, checked_ok]
      split
      next same => rw [ensure_of same, ok_bind]
      next wrong => rw [ensure_of_not wrong, error_bind]
    next reserved => rw [ensure_of_not reserved, error_bind]
  next short => rw [ensure_of_not (by omega), error_bind]

/-- Each call of the parser ends without a panic, but for one of the base58 decoder, and the bytes
that it converts to a key are as many as a key has. -/
theorem addressKey_outcome (lib : Ss58Library) (s : String) :
    (∃ fault, lib.fromBase58 s = .error fault ∧ addressKey lib s = .error (.panic fault)) ∨
      (∃ data, lib.fromBase58 s = .ok data) ∧
        ((∃ error, addressKey lib s = .error (.error error)) ∨
          ∃ pre rest ident, lib.fromBase58 s = .ok (some (pre ++ rest)) ∧ ReadsPrefix pre ident ∧
            rest.length = 34 ∧ lib.isReserved ident = false ∧
            rest.drop 32 = (ss58hash lib (pre ++ rest.take 32)).take 2 ∧
            addressKey lib s = .ok (rest.take 32)) := by
  rcases decoded : lib.fromBase58 s with fault | _ | data
  · refine .inl ⟨fault, rfl, ?_⟩
    simp only [addressKey, decoded]
    rfl
  · refine .inr ⟨⟨_, rfl⟩, .inl ⟨.badBase58, ?_⟩⟩
    simp only [addressKey, decoded, checked_ok, ok_bind, Option.elim_none, error_bind]
  · refine .inr ⟨⟨_, rfl⟩, ?_⟩
    rcases Nat.lt_or_ge data.length 2 with short | two
    · refine .inl ⟨.badLength, ?_⟩
      simp only [addressKey, decoded, checked_ok, Option.elim_some, ok_bind,
        ensure_of_not (Nat.not_le.mpr short), error_bind]
    rcases parsePrefix_cases two with ⟨pre, rest, ident, rfl, reads⟩ | invalid
    · rw [addressKey_of_reads reads two decoded]
      split
      next long =>
        split
        next allowed =>
          split
          next same => exact .inr ⟨pre, rest, ident, rfl, reads, long, allowed, same, rfl⟩
          next => exact .inl ⟨_, rfl⟩
        next => exact .inl ⟨_, rfl⟩
      next => exact .inl ⟨_, rfl⟩
    · refine .inl ⟨.invalidPrefix, ?_⟩
      simp only [addressKey, decoded, checked_ok, Option.elim_some, ok_bind, ensure_of two, invalid,
        error_bind]

theorem tryIntoKey_of_length {bytes : List Byte} (long : bytes.length = 32) :
    tryIntoKey bytes = some ⟨bytes, long⟩ := dif_pos long

/-- The encoding of a key under an identifier. -/
def encodeSs58 (lib : Ss58Library) (ident : BitVec 16) (key : PublicKey) : List Byte :=
  encodePrefix ident ++ key.bytes ++ (ss58hash lib (encodePrefix ident ++ key.bytes)).take 2

/-- A prefix, a key and a checksum fit the buffer of `from_base58`. -/
theorem ReadsPrefix.fits (reads : ReadsPrefix pre ident) (lib : Ss58Library) (key : PublicKey) :
    (pre ++ key.bytes ++ (ss58hash lib (pre ++ key.bytes)).take 2).length ≤ base58Buffer := by
  have few := reads.length
  have keyLength := key.length_eq
  have checksum : ((ss58hash lib (pre ++ key.bytes)).take 2).length ≤ 2 := List.length_take_le _ _
  rw [List.length_append, List.length_append, base58Buffer]
  omega

/-- The parser on a prefix, a key and the checksum of both. -/
theorem parse_of_encoded {key : PublicKey} (reads : ReadsPrefix pre ident)
    (decoded : lib.fromBase58 s =
      .ok (some (pre ++ key.bytes ++ (ss58hash lib (pre ++ key.bytes)).take 2))) :
    parseSs58RewardAddress lib s =
      if lib.isReserved ident = false then .ok key else .error (.error .formatNotAllowed) := by
  have keyLength := key.length_eq
  have checksum : ((ss58hash lib (pre ++ key.bytes)).take 2).length = 2 := by
    rw [List.length_take, ss58hash, lib.hash_length]
    rfl
  have front : (key.bytes ++ (ss58hash lib (pre ++ key.bytes)).take 2).take 32 = key.bytes := by
    rw [← keyLength, List.take_left]
  have back : (key.bytes ++ (ss58hash lib (pre ++ key.bytes)).take 2).drop 32 =
      (ss58hash lib (pre ++ key.bytes)).take 2 := by
    rw [← keyLength, List.drop_left]
  rw [List.append_assoc] at decoded
  rw [parseSs58RewardAddress, addressKey_of_reads reads (by simp; omega) decoded,
    if_pos (by rw [List.length_append, checksum, keyLength]), front, back]
  split
  next =>
    rw [if_pos rfl, ok_bind, tryIntoKey_of_length keyLength]
    rfl
  next => rfl

/-- What the parser accepts. -/
theorem parse_eq_ok_iff {key : PublicKey} :
    parseSs58RewardAddress lib s = .ok key ↔ ∃ pre ident, ReadsPrefix pre ident ∧
      lib.isReserved ident = false ∧ lib.fromBase58 s =
        .ok (some (pre ++ key.bytes ++ (ss58hash lib (pre ++ key.bytes)).take 2)) := by
  constructor
  · intro accepted
    rcases addressKey_outcome lib s with ⟨fault, -, failed⟩ | ⟨-, ⟨error, failed⟩ |
      ⟨pre, rest, ident, decoded, reads, long, allowed, checksum, found⟩⟩
    · rw [parseSs58RewardAddress, failed] at accepted
      cases accepted
    · rw [parseSs58RewardAddress, failed] at accepted
      cases accepted
    · have length : (rest.take 32).length = 32 := by
        rw [List.length_take, long]
        rfl
      rw [parseSs58RewardAddress, found, ok_bind, tryIntoKey_of_length length] at accepted
      cases accepted
      refine ⟨pre, ident, reads, allowed, ?_⟩
      rw [decoded, ← checksum, List.append_assoc, List.take_append_drop]
  · rintro ⟨pre, ident, reads, allowed, decoded⟩
    rw [parse_of_encoded reads decoded, if_pos allowed]

end SubspaceSdk
