import TokenGen.Lib.Codec
import Mathlib.Tactic.Common

/-!
# Hexadecimal text

Two lowercase digits per byte, high half first (`Hexadecimal.encode`), read back in either
letter case (`Hexadecimal.decode`); a text with an odd number of digits is rejected before
any of them is looked at. `codec_decodes` : reading undoes writing. Writing is byte by
byte, so the first `2 n` digits of a text are the text of the first `n` bytes
(`take_encode`).
-/

namespace Hexadecimal

/-- The digits, lowercase. -/
def digits : List Char :=
  "0123456789abcdef".toList

/-- The digits, uppercase. -/
def upperDigits : List Char :=
  "0123456789ABCDEF".toList

/-- The digit for `n < 16`. -/
def digit (n : ℕ) : Char :=
  digits.getD n '0'

/-- The value of a digit in either case. -/
def value (c : Char) : Option ℕ :=
  (digits.idxOf? c).or (upperDigits.idxOf? c)

/-- The two digits of a byte. -/
def pair (b : UInt8) : List Char :=
  [digit (b.toNat / 16), digit (b.toNat % 16)]

/-- The text of a byte string. -/
def encode (bs : List UInt8) : String :=
  String.ofList (bs.flatMap pair)

/-- The bytes of an even number of digits. -/
def decodePairs : List Char → Except String (List UInt8)
  | h :: l :: cs =>
    match value h, value l with
    | some hi, some lo => (decodePairs cs).map (UInt8.ofNat (16 * hi + lo) :: ·)
    | _, _ => .error "Invalid character"
  | _ => .ok []

/-- The bytes of a text, if it is an even number of digits. -/
def decode (s : String) : Except String (List UInt8) :=
  if s.toList.length % 2 ≠ 0 then .error "Odd number of digits" else decodePairs s.toList

theorem value_digit : ∀ n < 16, value (digit n) = some n := by
  decide

theorem digit_mem_digits : ∀ n < 16, digit n ∈ digits := by
  decide

/-! ## Letter case -/

theorem value_isSome_iff {c : Char} : (value c).isSome ↔ c ∈ digits ∨ c ∈ upperDigits := by
  simp [value]

/-- The digit written for the value of a digit is that digit in lowercase. -/
theorem of_value_eq_some {c : Char} {n : ℕ} (h : value c = some n) :
    n < 16 ∧ digit n = c.toLower := by
  have hall : (digits ++ upperDigits).all fun c =>
      (value c).any fun n => decide (n < 16 ∧ digit n = c.toLower) := by decide
  have hmem : c ∈ digits ++ upperDigits :=
    List.mem_append.mpr (value_isSome_iff.mp (Option.isSome_of_eq_some h))
  have hc := List.all_eq_true.mp hall c hmem
  rwa [h, Option.any_some, decide_eq_true_eq] at hc

theorem toNat_lt_of_mem : ∀ c ∈ digits ++ upperDigits, c.toNat < 128 := by
  have hall : (digits ++ upperDigits).all fun c => decide (c.toNat < 128) := by decide
  simpa only [List.all_eq_true, decide_eq_true_eq] using hall

theorem value_of_not_ascii {c : Char} (h : 128 ≤ c.toNat) : value c = none := by
  rw [← Option.not_isSome_iff_eq_none, value_isSome_iff, ← List.mem_append]
  exact fun hmem => absurd (toNat_lt_of_mem c hmem) (by omega)

/-! ## Reading back -/

theorem decodePairs_flatMap_pair :
    ∀ bs : List UInt8, decodePairs (bs.flatMap pair) = .ok bs
  | [] => rfl
  | b :: bs => by
    have hb := b.toNat_lt
    have hsum : 16 * (b.toNat / 16) + b.toNat % 16 = b.toNat := Nat.div_add_mod _ _
    simp only [List.flatMap_cons, pair, List.cons_append, List.nil_append, decodePairs,
      value_digit _ (show b.toNat / 16 < 16 by omega),
      value_digit _ (Nat.mod_lt b.toNat (by omega : 16 > 0)), hsum, UInt8.ofNat_toNat,
      decodePairs_flatMap_pair bs, Except.map]

theorem length_flatMap_pair (bs : List UInt8) : (bs.flatMap pair).length = 2 * bs.length := by
  induction bs with
  | nil => rfl
  | cons b bs ih =>
    rw [List.flatMap_cons, List.length_append, ih, List.length_cons, pair]
    simp only [List.length_cons, List.length_nil]
    omega

theorem take_flatMap_pair (n : ℕ) (bs : List UInt8) :
    (bs.flatMap pair).take (2 * n) = (bs.take n).flatMap pair := by
  induction bs generalizing n with
  | nil => simp
  | cons b bs ih =>
    cases n with
    | zero => simp
    | succ n =>
      rw [List.take_succ_cons, List.flatMap_cons, List.flatMap_cons, ← ih n, Nat.mul_succ]
      simp [pair]

/-! ## The codec -/

/-- Hexadecimal text as a codec. -/
def codec : TextCodec :=
  ⟨encode, decode⟩

theorem decode_encode (bs : List UInt8) : decode (encode bs) = .ok bs := by
  rw [decode, encode, String.toList_ofList, length_flatMap_pair, if_neg (by omega),
    decodePairs_flatMap_pair]

theorem codec_decodes : codec.Decodes :=
  decode_encode

theorem decode_of_odd {s : String} (h : s.length % 2 = 1) :
    decode s = .error "Odd number of digits" := by
  rw [decode, String.length_toList, if_pos (by omega)]

@[simp] theorem length_encode (bs : List UInt8) : (encode bs).length = 2 * bs.length := by
  rw [← String.length_toList, encode, String.toList_ofList, length_flatMap_pair]

theorem encode_append (bs cs : List UInt8) : encode (bs ++ cs) = encode bs ++ encode cs := by
  apply String.toList_injective
  simp [encode]

theorem take_encode (n : ℕ) (bs : List UInt8) :
    (encode bs).toList.take (2 * n) = (encode (bs.take n)).toList := by
  rw [encode, encode, String.toList_ofList, String.toList_ofList, take_flatMap_pair]

/-- Only digits are written. -/
theorem mem_digits_of_mem_encode {bs : List UInt8} {c : Char} (h : c ∈ (encode bs).toList) :
    c ∈ digits := by
  rw [encode, String.toList_ofList, List.mem_flatMap] at h
  obtain ⟨b, -, hc⟩ := h
  have hb := b.toNat_lt
  simp only [pair, List.mem_cons, List.not_mem_nil, or_false] at hc
  rcases hc with rfl | rfl
  · exact digit_mem_digits _ (by omega)
  · exact digit_mem_digits _ (by omega)

end Hexadecimal
