import TokenGen.Lib.BigEndian

/-!
# Unsigned 64-bit arithmetic

The checked and saturating operations on `UInt64`, each with its value as a natural number,
and the eight big-endian bytes of a word. `toBeBytes` and `fromBeBytes` are inverse between
words and byte strings of length eight.
-/

namespace U64

/-- The sum, unless it does not fit. -/
def checkedAdd (a b : UInt64) : Option UInt64 :=
  if a.toNat + b.toNat < 2 ^ 64 then some (a + b) else none

/-- The difference, `0` where it would be negative. -/
def saturatingSub (a b : UInt64) : UInt64 :=
  if b ≤ a then a - b else 0

/-- The eight bytes of a word, most significant first. -/
def toBeBytes (x : UInt64) : List UInt8 :=
  BigEndian.encode 8 x.toNat

/-- The word a byte string denotes, most significant byte first. -/
def fromBeBytes (bs : List UInt8) : UInt64 :=
  UInt64.ofNat (BigEndian.decode bs)

theorem checkedAdd_eq_some_iff {a b c : UInt64} :
    checkedAdd a b = some c ↔ c.toNat = a.toNat + b.toNat := by
  have hc := c.toNat_lt
  unfold checkedAdd
  split_ifs with h
  · rw [Option.some.injEq, ← UInt64.toNat_inj, UInt64.toNat_add, Nat.mod_eq_of_lt h, eq_comm]
  · simp only [false_iff]
    omega

theorem checkedAdd_eq_none_iff {a b : UInt64} :
    checkedAdd a b = none ↔ 2 ^ 64 ≤ a.toNat + b.toNat := by
  unfold checkedAdd
  split_ifs with h <;> simp <;> omega

@[simp] theorem toNat_saturatingSub (a b : UInt64) :
    (saturatingSub a b).toNat = a.toNat - b.toNat := by
  unfold saturatingSub
  split_ifs with h
  · exact UInt64.toNat_sub_of_le a b h
  · rw [UInt64.le_iff_toNat_le] at h
    simp only [UInt64.toNat_zero]
    omega

@[simp] theorem length_toBeBytes (x : UInt64) : (toBeBytes x).length = 8 :=
  BigEndian.length_encode x.toNat_lt

@[simp] theorem fromBeBytes_toBeBytes (x : UInt64) : fromBeBytes (toBeBytes x) = x := by
  rw [fromBeBytes, toBeBytes, BigEndian.decode_encode, UInt64.ofNat_toNat]

theorem toBeBytes_fromBeBytes {bs : List UInt8} (h : bs.length = 8) :
    toBeBytes (fromBeBytes bs) = bs := by
  have hlt := BigEndian.decode_lt bs
  rw [h] at hlt
  rw [toBeBytes, fromBeBytes, UInt64.toNat_ofNat_of_lt' hlt, ← h]
  exact BigEndian.encode_decode bs

theorem toBeBytes_injective : Function.Injective toBeBytes :=
  Function.LeftInverse.injective fromBeBytes_toBeBytes

end U64
