import Mathlib.Data.Nat.Digits.Lemmas
import SubspaceSdk.ProofKit.Collect

/-! Byte strings written in the letters of an alphabet.  The bytes are read as a number, most
significant byte first, and the number is written with as many digits as the alphabet has letters; a
zero byte at the front becomes a zero digit of its own, so that nothing is lost. -/

namespace ProofKit.Radix

variable {b b' : Nat} {ds zeros : List Nat}

/-- The number with the digits `ds`, most significant digit first. -/
def value (b : Nat) (ds : List Nat) : Nat := Nat.ofDigits b ds.reverse

/-- The digits of a number, most significant digit first, without leading zeros. -/
def digits (b n : Nat) : List Nat := (Nat.digits b n).reverse

/-- The same number in another radix, with the same leading zeros. -/
def convert (b b' : Nat) (ds : List Nat) : List Nat :=
  ds.takeWhile (· == 0) ++ digits b' (value b ds)

theorem value_digits (b n : Nat) : value b (digits b n) = n := by
  rw [value, digits, List.reverse_reverse, Nat.ofDigits_digits]

theorem value_zeros_append (b : Nat) (ds : List Nat) (all : ∀ d ∈ zeros, d = 0) :
    value b (zeros ++ ds) = value b ds := by
  rw [List.eq_replicate_of_mem all, value, List.reverse_append, List.reverse_replicate,
    Nat.ofDigits_append_replicate_zero]
  rfl

theorem digits_value (one : 1 < b) (all : ∀ d ∈ ds, d < b) (lead : ∀ d, ds.head? = some d → d ≠ 0) :
    digits b (value b ds) = ds := by
  rw [digits, value, Nat.digits_ofDigits b one ds.reverse (by simpa using all) ?_,
    List.reverse_reverse]
  intro nonempty
  rw [List.getLast_reverse]
  exact lead _ (List.head?_eq_some_head _)

theorem digits_lead {n d : Nat} (head : (digits b n).head? = some d) : d ≠ 0 := by
  rw [digits, List.head?_reverse] at head
  have nonempty : Nat.digits b n ≠ [] := by
    intro none
    rw [none] at head
    cases head
  rw [List.getLast?_eq_some_getLast nonempty, Option.some.injEq] at head
  exact head ▸ Nat.getLast_digit_ne_zero b (Nat.digits_ne_nil_iff_ne_zero.mp nonempty)

theorem lt_of_mem_digits {n d : Nat} (one : 1 < b) (mem : d ∈ digits b n) : d < b :=
  Nat.digits_lt_base one (List.mem_reverse.mp mem)

theorem zeros_of_takeWhile (ds : List Nat) : ∀ d ∈ ds.takeWhile (· == 0), d = 0 :=
  fun d mem => by simpa using List.all_eq_true.mp (List.all_takeWhile (l := ds)) d mem

theorem takeWhile_zeros_append (all : ∀ d ∈ zeros, d = 0)
    (lead : ∀ d, ds.head? = some d → d ≠ 0) : (zeros ++ ds).takeWhile (· == 0) = zeros := by
  rw [List.takeWhile_append_of_pos (by simpa using all)]
  cases ds with
  | nil => simp
  | cons d ds => simp [lead d rfl]

theorem lt_of_mem_convert {d : Nat} (one : 1 < b') (mem : d ∈ convert b b' ds) : d < b' := by
  rcases List.mem_append.mp mem with zero | digit
  · rw [zeros_of_takeWhile ds d zero]
    omega
  · exact lt_of_mem_digits one digit

/-- A change of radix and back gives the same digits. -/
theorem convert_convert (one : 1 < b) (all : ∀ d ∈ ds, d < b) :
    convert b' b (convert b b' ds) = ds := by
  have zeros := zeros_of_takeWhile ds
  have kept : (convert b b' ds).takeWhile (· == 0) = ds.takeWhile (· == 0) :=
    takeWhile_zeros_append zeros fun _ => digits_lead
  have same : value b' (convert b b' ds) = value b (ds.dropWhile (· == 0)) := by
    rw [convert, value_zeros_append _ _ zeros, value_digits]
    conv_lhs => rw [← List.takeWhile_append_dropWhile (p := (· == 0)) (l := ds)]
    rw [value_zeros_append _ _ zeros]
  rw [convert, kept, same, digits_value one, List.takeWhile_append_dropWhile]
  · exact fun d mem => all d ((List.dropWhile_sublist _).subset mem)
  · intro d head zero
    have := List.head?_dropWhile_not (· == 0) ds
    simp [head, zero] at this

theorem convert_zero_cons (b b' : Nat) (ds : List Nat) :
    convert b b' (0 :: ds) = 0 :: convert b b' ds := by
  have same : value b ([0] ++ ds) = value b ds := value_zeros_append b ds (by simp)
  rw [convert, show 0 :: ds = [0] ++ ds from rfl, same]
  rfl

theorem pow_le_value {d : Nat} (lead : d ≠ 0) (b : Nat) (ds : List Nat) :
    b ^ ds.length ≤ value b (d :: ds) := by
  have first : b ^ ds.length * 1 ≤ b ^ ds.length * d :=
    Nat.mul_le_mul_left _ (Nat.one_le_iff_ne_zero.mpr lead)
  rw [value, List.reverse_cons, Nat.ofDigits_append, Nat.ofDigits_singleton, List.length_reverse]
  omega

/-- A wider radix needs fewer digits, but no fewer than the powers of the two allow. -/
theorem lt_length_convert {m n : Nat} (positive : 0 < b) (one : 1 < b') (wide : b ≤ b')
    (powers : b' ^ m ≤ b ^ n) (length : n < ds.length) : m < (convert b b' ds).length := by
  induction ds generalizing m n with
  | nil => exact absurd length (Nat.not_lt_zero n)
  | cons d ds ih =>
    by_cases lead : d = 0
    · rw [lead, convert_zero_cons, List.length_cons]
      rcases m with _ | m
      · exact Nat.succ_pos _
      rcases n with _ | n
      · exact absurd powers (Nat.not_le.mpr (Nat.one_lt_pow (Nat.succ_ne_zero m) one))
      have smaller : b' ^ m * b' ≤ b ^ n * b' := by
        rw [pow_succ, pow_succ] at powers
        exact powers.trans (Nat.mul_le_mul_left _ wide)
      exact Nat.succ_lt_succ (ih (Nat.le_of_mul_le_mul_right smaller (by omega))
        (Nat.lt_of_succ_lt_succ length))
    · have front : (d :: ds).takeWhile (· == 0) = [] :=
        List.takeWhile_cons_of_neg (by simpa using lead)
      have large : b' ^ m ≤ value b (d :: ds) := calc
        b' ^ m ≤ b ^ n := powers
        _ ≤ b ^ ds.length := Nat.pow_le_pow_right positive (Nat.le_of_lt_succ length)
        _ ≤ value b (d :: ds) := pow_le_value lead b ds
      rw [convert, front, List.nil_append, digits, List.length_reverse]
      exact (Nat.lt_digits_length_iff one _).mpr large

/-- A wider radix needs no more digits. -/
theorem length_convert_le (one : 1 < b) (wide : b ≤ b') (all : ∀ d ∈ ds, d < b) :
    (convert b b' ds).length ≤ ds.length := by
  have split : (ds.takeWhile (· == 0)).length + (ds.dropWhile (· == 0)).length = ds.length := by
    rw [← List.length_append, List.takeWhile_append_dropWhile]
  have same : value b ds = value b (ds.dropWhile (· == 0)) := by
    conv_lhs => rw [← List.takeWhile_append_dropWhile (p := (· == 0)) (l := ds)]
    rw [value_zeros_append _ _ (zeros_of_takeWhile ds)]
  have small : value b (ds.dropWhile (· == 0)) < b' ^ (ds.dropWhile (· == 0)).length := by
    have below : value b (ds.dropWhile (· == 0)) < b ^ _ :=
      Nat.ofDigits_lt_base_pow_length one fun d mem =>
        all d ((List.dropWhile_sublist _).subset (List.mem_reverse.mp mem))
    rw [List.length_reverse] at below
    exact below.trans_le (Nat.pow_le_pow_left wide _)
  have digits := (Nat.digits_length_le_iff (Nat.lt_of_lt_of_le one wide) _).mpr small
  rw [convert, Radix.digits, same, List.length_append, List.length_reverse]
  omega

/-! ### Bytes as text -/

/-- The letters that stand for the digits, at least two and each for one digit. -/
structure Alphabet where
  letters : List Char
  nodup : letters.Nodup
  two : 1 < letters.length

namespace Alphabet

variable {α : Alphabet} {bytes : List (BitVec 8)}

def letter (α : Alphabet) (d : Nat) : Char := α.letters.getD d ' '

def digit (α : Alphabet) (c : Char) : Option Nat := α.letters.idxOf? c

def encode (α : Alphabet) (bytes : List (BitVec 8)) : String :=
  String.ofList ((convert 256 α.letters.length (bytes.map (·.toNat))).map α.letter)

/-- The bytes of a text, or nothing where a letter is not in the alphabet. -/
def decode (α : Alphabet) (s : String) : Option (List (BitVec 8)) :=
  (collect α.digit s.toList).map fun ds =>
    (convert α.letters.length 256 ds).map (BitVec.ofNat 8)

theorem digit_eq_some_iff {c : Char} {d : Nat} :
    α.digit c = some d ↔ d < α.letters.length ∧ α.letter d = c := by
  rw [digit, List.idxOf?, List.findIdx?_eq_some_iff_getElem]
  constructor
  · rintro ⟨inside, found, -⟩
    exact ⟨inside, by simpa [letter, inside] using found⟩
  · rintro ⟨inside, rfl⟩
    refine ⟨inside, by simp [letter, inside], fun j before same => ?_⟩
    have : α.letters[j] = α.letters[d] := by simpa [letter, inside] using same
    exact absurd ((α.nodup.getElem_inj_iff).mp this) (Nat.ne_of_lt before)

theorem collect_digit_iff {cs : List Char} {ds : List Nat} :
    collect α.digit cs = some ds ↔ (∀ d ∈ ds, d < α.letters.length) ∧ ds.map α.letter = cs := by
  rw [collect_eq_some_iff]
  constructor
  · intro letters
    induction letters with
    | nil => exact ⟨nofun, rfl⟩
    | cons found _ ih =>
      obtain ⟨inside, same⟩ := digit_eq_some_iff.mp found
      exact ⟨List.forall_mem_cons.mpr ⟨inside, ih.1⟩, by rw [List.map_cons, same, ih.2]⟩
  · rintro ⟨all, rfl⟩
    rw [List.forall₂_map_left_iff, List.forall₂_same]
    exact fun d mem => digit_eq_some_iff.mpr ⟨all d mem, rfl⟩

theorem bytes_lt (bytes : List (BitVec 8)) : ∀ d ∈ bytes.map (·.toNat), d < 256 := by
  intro d mem
  obtain ⟨byte, -, rfl⟩ := List.mem_map.mp mem
  exact byte.isLt

theorem decode_encode (α : Alphabet) (bytes : List (BitVec 8)) :
    α.decode (α.encode bytes) = some bytes := by
  have small : ∀ d ∈ convert 256 α.letters.length (bytes.map (·.toNat)), d < α.letters.length :=
    fun d => lt_of_mem_convert α.two
  have digits := collect_digit_iff.mpr ⟨small, rfl⟩
  have same : bytes.map (BitVec.ofNat 8 ·.toNat) = bytes.map id :=
    List.map_congr_left fun byte _ => by simp
  rw [decode, encode, String.toList_ofList, digits, Option.map_some,
    convert_convert (by decide) (bytes_lt bytes), List.map_map, Option.some.injEq]
  exact same.trans (List.map_id _)

/-- A text is the only one with its bytes. -/
theorem encode_of_decode {s : String} (decoded : α.decode s = some bytes) : α.encode bytes = s := by
  obtain ⟨ds, collected, rfl⟩ := Option.map_eq_some_iff.mp decoded
  obtain ⟨small, letters⟩ := collect_digit_iff.mp collected
  have same : (convert α.letters.length 256 ds).map (fun d => (BitVec.ofNat 8 d).toNat) =
      (convert α.letters.length 256 ds).map id := by
    refine List.map_congr_left fun d mem => ?_
    rw [BitVec.toNat_ofNat, Nat.mod_eq_of_lt (lt_of_mem_convert (by decide) mem)]
    rfl
  have bytes : ((convert α.letters.length 256 ds).map (BitVec.ofNat 8)).map (·.toNat) =
      convert α.letters.length 256 ds := by
    rw [List.map_map]
    exact same.trans (List.map_id _)
  rw [encode, bytes, convert_convert α.two small, letters, String.ofList_toList]

theorem decode_eq_none_iff {s : String} :
    α.decode s = none ↔ ∃ c ∈ s.toList, α.digit c = none := by
  rw [decode, Option.map_eq_none_iff, collect_eq_none_iff]

/-- The bytes of a text are at least as many as its letters allow. -/
theorem lt_length_of_decode {s : String} {m n : Nat} (decoded : α.decode s = some bytes)
    (wide : α.letters.length ≤ 256) (powers : 256 ^ m ≤ α.letters.length ^ n)
    (length : n < s.toList.length) : m < bytes.length := by
  obtain ⟨ds, collected, rfl⟩ := Option.map_eq_some_iff.mp decoded
  have letters := length_eq_of_collect collected
  rw [List.length_map]
  exact lt_length_convert (Nat.lt_of_succ_lt α.two) (by decide) wide powers (by omega)

/-- The bytes of a text are no more than its letters. -/
theorem length_le_of_decode {s : String} (decoded : α.decode s = some bytes)
    (wide : α.letters.length ≤ 256) : bytes.length ≤ s.toList.length := by
  obtain ⟨ds, collected, rfl⟩ := Option.map_eq_some_iff.mp decoded
  rw [List.length_map, ← length_eq_of_collect collected]
  exact length_convert_le α.two wide (collect_digit_iff.mp collected).1

end Alphabet

end ProofKit.Radix
