import TokenGen.Lib.Sha256

/-!
# scrypt (RFC 7914)

The password is stretched by PBKDF2-HMAC-SHA256 into `p` blocks of `128 r` bytes, each block
is mixed through a table of `N = 2 ^ logN` blocks (`roMix`), and a second PBKDF2 over the
mixed blocks gives the output. Both PBKDF2 runs use one iteration (`pbkdf2`).

Two facts are read off the structure. The password is an HMAC key and nothing else, so only
its key block matters (`scrypt_congr`). The output is cut from a stream of 32-byte blocks,
so one of at most 32 bytes is the beginning of the 32-byte one (`take_scrypt`).
-/

namespace Scrypt

/-! ## PBKDF2-HMAC-SHA256 -/

/-- Block `i` of the stream, counted from `0`. -/
def streamBlock (password salt : List UInt8) (i : ℕ) : Vector UInt8 32 :=
  Sha256.hash.hmac password (salt ++ BigEndian.encode 4 (i + 1))

/-- The stream, up to the block that holds byte `n`. -/
def stream (password salt : List UInt8) (n : ℕ) : List UInt8 :=
  (List.range ((n + 31) / 32)).flatMap fun i => (streamBlock password salt i).toList

theorem length_stream (password salt : List UInt8) (n : ℕ) :
    (stream password salt n).length = 32 * ((n + 31) / 32) := by
  simp [stream, List.length_flatMap, Nat.mul_comm]

/-- PBKDF2 with one iteration : the first `n` bytes of the stream. -/
def pbkdf2 (password salt : List UInt8) (n : ℕ) : Vector UInt8 n :=
  ⟨((stream password salt n).take n).toArray, by
    have := length_stream password salt n
    simp only [List.size_toArray, List.length_take]
    omega⟩

theorem toList_pbkdf2 (password salt : List UInt8) (n : ℕ) :
    (pbkdf2 password salt n).toList = (stream password salt n).take n :=
  rfl

theorem streamBlock_congr {password password' : List UInt8}
    (h : Sha256.hash.keyBlock password = Sha256.hash.keyBlock password') (salt : List UInt8)
    (i : ℕ) : streamBlock password salt i = streamBlock password' salt i :=
  BlockHash.hmac_congr h _

theorem stream_congr {password password' : List UInt8}
    (h : Sha256.hash.keyBlock password = Sha256.hash.keyBlock password') (salt : List UInt8)
    (n : ℕ) : stream password salt n = stream password' salt n := by
  simp only [stream, streamBlock_congr h]

theorem pbkdf2_congr {password password' : List UInt8}
    (h : Sha256.hash.keyBlock password = Sha256.hash.keyBlock password') (salt : List UInt8)
    (n : ℕ) : pbkdf2 password salt n = pbkdf2 password' salt n := by
  rw [← Vector.toList_inj, toList_pbkdf2, toList_pbkdf2, stream_congr h]

/-- Within the first block, a shorter output is the beginning of a longer one. -/
theorem take_pbkdf2 (password salt : List UInt8) {n : ℕ} (hpos : 0 < n) (hn : n ≤ 32) :
    (pbkdf2 password salt n).toList = (pbkdf2 password salt 32).toList.take n := by
  have hone : (n + 31) / 32 = (32 + 31) / 32 := by omega
  rw [toList_pbkdf2, toList_pbkdf2, List.take_take, stream, stream, hone, Nat.min_eq_left hn]

/-! ## Salsa20/8 -/

/-- Sixteen words. -/
abbrev Words := Vector UInt32 16

/-- Rotation to the left. -/
def rotl (x n : UInt32) : UInt32 :=
  x <<< n ||| x >>> (32 - n)

/-- The quarter round on four of the words. -/
def quarterRound (x : Words) (a b c d : Fin 16) : Words :=
  let x := x.set b (x[b] ^^^ rotl (x[a] + x[d]) 7)
  let x := x.set c (x[c] ^^^ rotl (x[b] + x[a]) 9)
  let x := x.set d (x[d] ^^^ rotl (x[c] + x[b]) 13)
  x.set a (x[a] ^^^ rotl (x[d] + x[c]) 18)

/-- Four quarter rounds on the columns, then four on the rows. -/
def doubleRound (x : Words) : Words :=
  let x := quarterRound x 0 4 8 12
  let x := quarterRound x 5 9 13 1
  let x := quarterRound x 10 14 2 6
  let x := quarterRound x 15 3 7 11
  let x := quarterRound x 0 1 2 3
  let x := quarterRound x 5 6 7 4
  let x := quarterRound x 10 11 8 9
  quarterRound x 15 12 13 14

/-- Eight rounds, and the input added at the end. -/
def salsa8 (x : Words) : Words :=
  Vector.zipWith (· + ·) x (doubleRound^[4] x)

/-! ## Mixing -/

/-- The words of 64 bytes, little-endian. -/
def ofBytes (bs : List UInt8) : Words :=
  Vector.ofFn fun i : Fin 16 =>
    UInt32.ofNat (BigEndian.decode ((bs.drop (4 * i)).take 4).reverse)

/-- The bytes of words, little-endian. -/
def toBytes (x : Words) : List UInt8 :=
  x.toList.flatMap fun w => (BigEndian.encode 4 w.toNat).reverse

/-- The exclusive or of two lists of words, place by place. -/
def xor (xs ys : List Words) : List Words :=
  List.zipWith (Vector.zipWith (· ^^^ ·)) xs ys

/-- Each piece is mixed into what the ones before it left. -/
def chain : Words → List Words → List Words
  | _, [] => []
  | x, b :: bs =>
    let y := salsa8 (Vector.zipWith (· ^^^ ·) x b)
    y :: chain y bs

/-- Every second element, from the first on. -/
def evens : List Words → List Words
  | x :: _ :: xs => x :: evens xs
  | xs => xs

/-- `scryptBlockMix` on a block of `2 r` pieces. -/
def blockMix (bs : List Words) : List Words :=
  let ys := chain (bs.getLastD (Vector.replicate 16 0)) bs
  evens ys ++ evens ys.tail

/-- The number in the first eight bytes of the last piece, little-endian. -/
def integerify (bs : List Words) : ℕ :=
  let last := bs.getLastD (Vector.replicate 16 0)
  (last.get 0).toNat + 4294967296 * (last.get 1).toNat

/-- One step of filling the table : the block enters it and is mixed. -/
def fill : Array (List Words) × List Words → Array (List Words) × List Words
  | (table, x) => (table.push x, blockMix x)

/-- One step of reading the table : the entry the block points at is mixed into it. -/
def lookup (table : Array (List Words)) (x : List Words) : List Words :=
  blockMix (xor x (table.getD (integerify x % table.size) []))

/-- `scryptROMix` with a table of `n` blocks. -/
def roMix (n : ℕ) (block : List UInt8) : List UInt8 :=
  let pieces := (List.range (block.length / 64)).map fun i => ofBytes (block.drop (64 * i))
  let (table, x) := fill^[n] (#[], pieces)
  ((lookup table)^[n] x).flatMap toBytes

/-! ## scrypt -/

/-- The `n` output bytes for cost `2 ^ logN`, block size `r` and parallelism `p`. -/
def scrypt (password salt : List UInt8) (logN r p n : ℕ) : Vector UInt8 n :=
  let b := (pbkdf2 password salt (p * (128 * r))).toList
  let mixed := (List.range p).flatMap fun i =>
    roMix (2 ^ logN) ((b.drop (128 * r * i)).take (128 * r))
  pbkdf2 password mixed n

/-- The password enters as an HMAC key only. -/
theorem scrypt_congr {password password' : List UInt8}
    (h : Sha256.hash.keyBlock password = Sha256.hash.keyBlock password') (salt : List UInt8)
    (logN r p n : ℕ) : scrypt password salt logN r p n = scrypt password' salt logN r p n := by
  simp only [scrypt, pbkdf2_congr h]

/-- An output of at most 32 bytes is the beginning of the 32-byte one. -/
theorem take_scrypt (password salt : List UInt8) (logN r p : ℕ) {n : ℕ} (hpos : 0 < n)
    (hn : n ≤ 32) : (scrypt password salt logN r p n).toList =
      (scrypt password salt logN r p 32).toList.take n := by
  rw [scrypt, scrypt, take_pbkdf2 password _ hpos hn]

end Scrypt
