import Mathlib.Data.Nat.Digits.Lemmas

/-!
# Fixed-width big-endian numbers

`BigEndian.encode w n` is `n` on exactly `w` bytes, most significant byte first, and
`BigEndian.decode` reads a byte string of any length. Below `256 ^ w` the two are inverse
(`decode_encode`, `encode_decode`), so neither a number nor a byte is lost. The digits are
Mathlib's `Nat.digitsAppend`, least significant first, reversed.
-/

namespace BigEndian

/-- The `w` big-endian bytes of `n`. -/
def encode (w n : ℕ) : List UInt8 :=
  ((Nat.digitsAppend 256 w n).map UInt8.ofNat).reverse

/-- The number a big-endian byte string denotes. -/
def decode (bs : List UInt8) : ℕ :=
  Nat.ofDigits 256 (bs.reverse.map UInt8.toNat)

theorem toNat_map_lt (bs : List UInt8) : ∀ d ∈ bs.map UInt8.toNat, d < 256 := by
  intro d hd
  obtain ⟨b, -, rfl⟩ := List.mem_map.mp hd
  exact b.toNat_lt

theorem length_encode {w n : ℕ} (h : n < 256 ^ w) : (encode w n).length = w := by
  rw [encode, List.length_reverse, List.length_map]
  exact Nat.length_digitsAppend (by omega) w h

theorem decode_lt (bs : List UInt8) : decode bs < 256 ^ bs.length := by
  have h := Nat.ofDigits_lt_base_pow_length (by omega) (toNat_map_lt bs.reverse)
  rwa [List.length_map, List.length_reverse] at h

/-- Reading back the bytes of a number, whatever the width they were padded to. -/
theorem decode_encode (w n : ℕ) : decode (encode w n) = n := by
  have hdigits : (Nat.digitsAppend 256 w n).map (UInt8.toNat ∘ UInt8.ofNat) =
      Nat.digitsAppend 256 w n := by
    refine (List.map_congr_left fun d hd => ?_).trans (List.map_id _)
    exact UInt8.toNat_ofNat_of_lt' (Nat.lt_of_mem_digitsAppend (by omega : 1 < 256) w d hd)
  rw [decode, encode, List.reverse_reverse, List.map_map, hdigits, Nat.digitsAppend,
    Nat.ofDigits_append_replicate_zero, Nat.ofDigits_digits]

/-- Every byte string is the encoding of its number at its own width. -/
theorem encode_decode (bs : List UInt8) : encode bs.length (decode bs) = bs := by
  have hinv := (Nat.setInvOn_digitsAppend_ofDigits (b := 256) (by omega) bs.length).1
  have hdigits := hinv (x := bs.reverse.map UInt8.toNat)
    ⟨by simp, toNat_map_lt bs.reverse⟩
  rw [encode, decode, hdigits]
  simp [Function.comp_def]

end BigEndian
