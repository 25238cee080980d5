import SubspaceSdk.Utils.Ss58Spellings

/-! The text that a public key is shown as, and what the parser makes of it.  A key is shown in
hexadecimal digits and read from base58: 64 digits are the text of more bytes than an address has,
and the digit `0` is no letter of base58. -/

namespace SubspaceSdk

open ProofKit ProofKit.Radix

variable {lib : Ss58Library} {keyText : PublicKey → String} {s : String} {data : List Byte}

def hexLetters : List Char :=
  ['0', '1', '2', '3', '4', '5', '6', '7', '8', '9', 'a', 'b', 'c', 'd', 'e', 'f']

/-- As many lower-case hexadecimal digits as a key has. -/
structure IsHexKey (text : String) : Prop where
  length : text.toList.length = 64
  letters : ∀ c ∈ text.toList, c ∈ hexLetters

/-- `Display` for the key of the SDK, which hands over to the one for the key of the protocol. -/
def SdkPublicKey.display (keyText : PublicKey → String) (key : SdkPublicKey) : String :=
  keyText key.key

/-- Of the hexadecimal digits, base58 lacks the zero. -/
theorem base58_digit_eq_none_iff {c : Char} (mem : c ∈ hexLetters) :
    base58Letters.digit c = none ↔ c = '0' := by
  simp only [hexLetters, List.mem_cons, List.not_mem_nil, or_false] at mem
  rcases mem with rfl | rfl | rfl | rfl | rfl | rfl | rfl | rfl | rfl | rfl | rfl | rfl | rfl |
    rfl | rfl | rfl <;> decide

/-- The parser refuses more bytes than an address has. -/
theorem addressKey_of_long (decoded : lib.fromBase58 s = .ok (some data))
    (long : 36 < data.length) : addressKey lib s = .error (.error .badLength) ∨
      addressKey lib s = .error (.error .invalidPrefix) := by
  have two : 2 ≤ data.length := by omega
  rcases parsePrefix_cases two with ⟨pre, rest, ident, rfl, reads⟩ | invalid
  · have few := reads.length
    rw [List.length_append] at long
    exact .inl ((addressKey_of_reads reads two decoded).trans (if_neg (by omega)))
  · right
    simp only [addressKey, decoded, checked_ok, Option.elim_some, Checked.ok_bind, ensure_of two,
      invalid, Checked.error_bind]

/-- The text of a key is refused: as no base58 where it has the digit `0`, and as too long, or for
the byte that it starts with, where it has none. -/
theorem publicKeyFromStr_hexKey (hex : IsHexKey s)
    (base58 : lib.fromBase58 s = .ok (base58Letters.decode s)) :
    if '0' ∈ s.toList then
      publicKeyFromStr lib s = .error (.error .badBase58)
    else
      publicKeyFromStr lib s = .error (.error .badLength) ∨
        publicKeyFromStr lib s = .error (.error .invalidPrefix) := by
  have invalid : base58Letters.decode s = none ↔ '0' ∈ s.toList := by
    rw [Alphabet.decode_eq_none_iff]
    constructor
    · rintro ⟨c, mem, none⟩
      exact (base58_digit_eq_none_iff (hex.letters c mem)).mp none ▸ mem
    · exact fun mem => ⟨'0', mem, by decide⟩
  split
  next zero =>
    apply publicKeyFromStr_of_failed
    simp only [addressKey, base58, invalid.mpr zero, checked_ok, Checked.ok_bind,
      Option.elim_none, Checked.error_bind]
  next other =>
    obtain ⟨data, decoded⟩ := Option.ne_none_iff_exists'.mp (mt invalid.mp other)
    -- 58 ^ 63 needs 46 bytes
    have long : 45 < data.length := Alphabet.lt_length_of_decode (n := 63) decoded (by decide)
      (by decide) (by rw [hex.length]; decide)
    rw [decoded] at base58
    rcases addressKey_of_long base58 (by omega) with failed | failed
    · exact .inl (publicKeyFromStr_of_failed failed)
    · exact .inr (publicKeyFromStr_of_failed failed)

/-- The parser reads the text of a key as that key. -/
def ReadsBack (lib : Ss58Library) (keyText : PublicKey → String) (key : SdkPublicKey) : Prop :=
  publicKeyFromStr lib (key.display keyText) = .ok key

/-- No key is read back. -/
theorem not_readsBack (hex : ∀ key, IsHexKey (keyText key))
    (base58 : ∀ s : String, s.toList.length ≤ base58Buffer →
      lib.fromBase58 s = .ok (base58Letters.decode s))
    (key : SdkPublicKey) : ¬ReadsBack lib keyText key := by
  intro reads
  have shown : IsHexKey (key.display keyText) := hex key.key
  have refused := publicKeyFromStr_hexKey shown
    (base58 _ (by rw [shown.length]; decide))
  rw [show publicKeyFromStr lib (key.display keyText) = .ok key from reads] at refused
  split at refused
  · cases refused
  · rcases refused with same | same <;> cases same

/-! ### The hexadecimal text -/

def hexDigit (n : Nat) : Char := hexLetters.getD n '0'

def hexPair (byte : Byte) : List Char := [hexDigit (byte.toNat / 16), hexDigit (byte.toNat % 16)]

/-- The bytes of the key in lower-case hexadecimal digits. -/
def hexDisplay (key : PublicKey) : String := String.ofList (key.bytes.flatMap hexPair)

theorem hexDigit_mem {n : Nat} (small : n < 16) : hexDigit n ∈ hexLetters := by
  have inside : n < hexLetters.length := small
  have letter : hexDigit n = hexLetters[n] := by simp [hexDigit, inside]
  exact letter ▸ List.getElem_mem inside

theorem isHexKey_hexDisplay (key : PublicKey) : IsHexKey (hexDisplay key) := by
  have pairs (bytes : List Byte) : (bytes.flatMap hexPair).length = 2 * bytes.length := by
    induction bytes with
    | nil => rfl
    | cons byte rest ih =>
      rw [List.flatMap_cons, List.length_append, ih, List.length_cons]
      show 2 + _ = _
      omega
  constructor
  · rw [hexDisplay, String.toList_ofList, pairs, key.length_eq]
  · intro c mem
    rw [hexDisplay, String.toList_ofList] at mem
    obtain ⟨byte, -, letter⟩ := List.mem_flatMap.mp mem
    have bound := byte.isLt
    rcases List.mem_cons.mp letter with rfl | letter
    · exact hexDigit_mem (by omega)
    · rw [List.mem_singleton] at letter
      exact letter ▸ hexDigit_mem (by omega)

theorem not_readsBack_alice :
    ¬ReadsBack (digestLibrary substrateDigest rfl) hexDisplay ⟨aliceKey⟩ :=
  not_readsBack isHexKey_hexDisplay (fun _ => base58Decode_of_short) ⟨aliceKey⟩

/-- The 64 ones that a key of bytes `0x11` is shown as are 64 zero bytes in base58. -/
theorem display_of_ones_refused :
    ¬∀ key, ReadsBack (digestLibrary substrateDigest rfl) hexDisplay key := by
  intro all
  have refused : publicKeyFromStr (digestLibrary substrateDigest rfl)
      (SdkPublicKey.display hexDisplay ⟨⟨List.replicate 32 0x11, rfl⟩⟩) =
        .error (.error .badLength) := by
    decide +kernel
  have same := refused.symm.trans (all _)
  cases same

end SubspaceSdk
