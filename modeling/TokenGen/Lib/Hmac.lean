import TokenGen.Lib.Mac
import Mathlib.Data.List.Basic

/-!
# HMAC over a hash with fixed-width digests

`BlockHash` is a hash function with its block and digest widths. `BlockHash.hmac` is
RFC 2104 : a key of at most one block is padded on the right with zero bytes, a longer key
is replaced by its digest first (`keyBlock`), and the tag is
`H (K ⊕ opad ‖ H (K ⊕ ipad ‖ message))`.

The key enters only as its block (`hmac_congr`), so keys with one block are one key. Keys
with different blocks give different tags unless the hash collides on the two outer inputs
(`outer_collision`). `hmac_separates_iff` : two keys are told apart up to collisions of the
hash on what it is given in the two computations exactly when their blocks differ, or both
are long enough to be digested.
-/

/-- A hash function on byte strings, with the width of its blocks and of its digests. -/
structure BlockHash where
  blockSize : ℕ
  outputSize : ℕ
  outputSize_le : outputSize ≤ blockSize
  digest : List UInt8 → Vector UInt8 outputSize

namespace BlockHash

variable (H : BlockHash)

/-- The key as HMAC uses it : digested if longer than a block, then filled up with zeros. -/
def keyBlock (key : List UInt8) : List UInt8 :=
  let short := if H.blockSize < key.length then (H.digest key).toList else key
  short ++ List.replicate (H.blockSize - short.length) 0

/-- The input of the first hash : the message after the key block masked with `0x36`. -/
def inner (key message : List UInt8) : List UInt8 :=
  (H.keyBlock key).map (· ^^^ 0x36) ++ message

/-- The input of the second hash : the first digest after the key block masked with
`0x5c`. -/
def outer (key message : List UInt8) : List UInt8 :=
  (H.keyBlock key).map (· ^^^ 0x5c) ++ (H.digest (H.inner key message)).toList

/-- The tag of `message` under `key`. -/
def hmac (key message : List UInt8) : Vector UInt8 H.outputSize :=
  H.digest (H.outer key message)

/-- The hash maps two different inputs, given to it at the same place of the two
computations, to one digest : the keys where both are digested, the inputs of the first
hash, or those of the second. -/
def HmacCollision (key message key' message' : List UInt8) : Prop :=
  (H.blockSize < key.length ∧ H.blockSize < key'.length ∧ Collision H.digest key key') ∨
    Collision H.digest (H.inner key message) (H.inner key' message') ∨
    Collision H.digest (H.outer key message) (H.outer key' message')

variable {H}

theorem length_keyBlock (key : List UInt8) : (H.keyBlock key).length = H.blockSize := by
  have := H.outputSize_le
  unfold keyBlock
  split_ifs with h <;> simp <;> omega

theorem keyBlock_of_le {key : List UInt8} (h : key.length ≤ H.blockSize) :
    H.keyBlock key = key ++ List.replicate (H.blockSize - key.length) 0 := by
  simp [keyBlock, Nat.not_lt.mpr h]

/-- Zero bytes after a key that still fits the block are not part of the key. -/
theorem keyBlock_append_zeros (key : List UInt8) (n : ℕ) (h : key.length + n ≤ H.blockSize) :
    H.keyBlock (key ++ List.replicate n 0) = H.keyBlock key := by
  have hn : H.blockSize - key.length = n + (H.blockSize - (key.length + n)) := by omega
  rw [keyBlock_of_le (by simpa using h), keyBlock_of_le (by omega), hn]
  simp [List.replicate_append_replicate]

/-- A key block is a key, and its own block. -/
theorem keyBlock_keyBlock (key : List UInt8) : H.keyBlock (H.keyBlock key) = H.keyBlock key := by
  rw [keyBlock_of_le (Nat.le_of_eq (length_keyBlock key)), length_keyBlock]
  simp

theorem digest_eq_of_keyBlock_eq {key key' : List UInt8} (h : H.blockSize < key.length)
    (h' : H.blockSize < key'.length) (hb : H.keyBlock key = H.keyBlock key') :
    H.digest key = H.digest key' := by
  simp only [keyBlock, if_pos h, if_pos h', Vector.length_toList] at hb
  exact Vector.toList_inj.mp (List.append_cancel_right hb)

theorem map_xor_injective (m : UInt8) :
    Function.Injective (List.map (· ^^^ m)) := by
  refine List.map_injective_iff.mpr fun a b h => ?_
  have := congrArg (· ^^^ m) h
  simpa [UInt8.xor_assoc] using this

theorem outer_ne_outer {key key' : List UInt8} (hb : H.keyBlock key ≠ H.keyBlock key')
    (m m' : List UInt8) : H.outer key m ≠ H.outer key' m' := by
  intro h
  have hlen : ((H.keyBlock key).map (· ^^^ 0x5c)).length =
      ((H.keyBlock key').map (· ^^^ 0x5c)).length := by
    simp [length_keyBlock]
  exact hb (map_xor_injective _ (List.append_inj_left h hlen))

/-- One tag under keys with different blocks is a collision of the second hash. -/
theorem outer_collision {key key' m m' : List UInt8} (hb : H.keyBlock key ≠ H.keyBlock key')
    (h : H.hmac key m = H.hmac key' m') : Collision H.digest (H.outer key m) (H.outer key' m') :=
  ⟨outer_ne_outer hb m m', h⟩

theorem inner_congr {key key' : List UInt8} (hb : H.keyBlock key = H.keyBlock key')
    (m : List UInt8) : H.inner key m = H.inner key' m := by
  rw [inner, inner, hb]

theorem outer_congr {key key' : List UInt8} (hb : H.keyBlock key = H.keyBlock key')
    (m : List UInt8) : H.outer key m = H.outer key' m := by
  rw [outer, outer, hb, inner_congr hb]

/-- The key enters the tag as its block only. -/
theorem hmac_congr {key key' : List UInt8} (hb : H.keyBlock key = H.keyBlock key')
    (m : List UInt8) : H.hmac key m = H.hmac key' m := by
  rw [hmac, hmac, outer_congr hb]

/-- Keys with one block, not both digested, hash the same inputs. -/
theorem not_hmacCollision {key key' : List UInt8} (hb : H.keyBlock key = H.keyBlock key')
    (hshort : ¬(H.blockSize < key.length ∧ H.blockSize < key'.length)) (m : List UInt8) :
    ¬H.HmacCollision key m key' m := by
  rintro (⟨hk, hk', -⟩ | hi | ho)
  · exact hshort ⟨hk, hk'⟩
  · exact hi.ne (inner_congr hb m)
  · exact ho.ne (outer_congr hb m)

/-- Two different keys give a message different tags, up to collisions of the hash within
the two computations, exactly when their blocks differ or both are digested. -/
theorem hmac_separates_iff {key key' : List UInt8} (hne : key ≠ key') (m : List UInt8) :
    (H.hmac key m ≠ H.hmac key' m ∨ H.HmacCollision key m key' m) ↔
      H.keyBlock key ≠ H.keyBlock key' ∨
        (H.blockSize < key.length ∧ H.blockSize < key'.length) := by
  refine ⟨fun h => ?_, fun h => ?_⟩
  · by_contra hc
    obtain ⟨hb, hshort⟩ := not_or.mp hc
    have hb := not_not.mp hb
    rcases h with h | h
    · exact h (hmac_congr hb m)
    · exact not_hmacCollision hb hshort m h
  · by_cases heq : H.hmac key m = H.hmac key' m
    · right
      by_cases hb : H.keyBlock key = H.keyBlock key'
      · obtain ⟨hk, hk'⟩ := h.resolve_left fun h => h hb
        exact Or.inl ⟨hk, hk', hne, digest_eq_of_keyBlock_eq hk hk' hb⟩
      · exact Or.inr (Or.inr (outer_collision hb heq))
    · exact Or.inl heq

end BlockHash
