import TokenGen.Lib.BigEndian
import TokenGen.Lib.Hmac

/-!
# SHA-256 (FIPS 180-4)

The hash as a program : the message is padded to whole blocks of 64 bytes (`pad`), each
block is compressed into the eight registers (`compress`), and the digest is the registers
written big-endian. `Sha256.hash` is the hash as a `BlockHash`, so that `Sha256.hash.hmac`
is HMAC-SHA256.
-/

namespace Sha256

/-- The eight registers. -/
abbrev Registers := Vector UInt32 8

/-- The registers before the first block. -/
def initial : Registers :=
  #v[0x6a09e667, 0xbb67ae85, 0x3c6ef372, 0xa54ff53a, 0x510e527f, 0x9b05688c, 0x1f83d9ab,
    0x5be0cd19]

/-- The constants of the 64 rounds. -/
def roundConstants : List UInt32 :=
  [0x428a2f98, 0x71374491, 0xb5c0fbcf, 0xe9b5dba5, 0x3956c25b, 0x59f111f1, 0x923f82a4,
    0xab1c5ed5, 0xd807aa98, 0x12835b01, 0x243185be, 0x550c7dc3, 0x72be5d74, 0x80deb1fe,
    0x9bdc06a7, 0xc19bf174, 0xe49b69c1, 0xefbe4786, 0x0fc19dc6, 0x240ca1cc, 0x2de92c6f,
    0x4a7484aa, 0x5cb0a9dc, 0x76f988da, 0x983e5152, 0xa831c66d, 0xb00327c8, 0xbf597fc7,
    0xc6e00bf3, 0xd5a79147, 0x06ca6351, 0x14292967, 0x27b70a85, 0x2e1b2138, 0x4d2c6dfc,
    0x53380d13, 0x650a7354, 0x766a0abb, 0x81c2c92e, 0x92722c85, 0xa2bfe8a1, 0xa81a664b,
    0xc24b8b70, 0xc76c51a3, 0xd192e819, 0xd6990624, 0xf40e3585, 0x106aa070, 0x19a4c116,
    0x1e376c08, 0x2748774c, 0x34b0bcb5, 0x391c0cb3, 0x4ed8aa4a, 0x5b9cca4f, 0x682e6ff3,
    0x748f82ee, 0x78a5636f, 0x84c87814, 0x8cc70208, 0x90befffa, 0xa4506ceb, 0xbef9a3f7,
    0xc67178f2]

/-- Rotation to the right. -/
def rotr (x n : UInt32) : UInt32 :=
  x >>> n ||| x <<< (32 - n)

/-- The message schedule, sixteen words at a time : the first word leaves, and the next one
enters. -/
def slide (w : Vector UInt32 16) : Vector UInt32 16 :=
  let s0 := rotr w[1] 7 ^^^ rotr w[1] 18 ^^^ w[1] >>> 3
  let s1 := rotr w[14] 17 ^^^ rotr w[14] 19 ^^^ w[14] >>> 10
  #v[w[1], w[2], w[3], w[4], w[5], w[6], w[7], w[8], w[9], w[10], w[11], w[12], w[13], w[14],
    w[15], w[0] + s0 + w[9] + s1]

/-- One round, with its constant and its word of the schedule. -/
def round (v : Registers) (k w : UInt32) : Registers :=
  let s1 := rotr v[4] 6 ^^^ rotr v[4] 11 ^^^ rotr v[4] 25
  let ch := (v[4] &&& v[5]) ^^^ (~~~v[4] &&& v[6])
  let t1 := v[7] + s1 + ch + k + w
  let s0 := rotr v[0] 2 ^^^ rotr v[0] 13 ^^^ rotr v[0] 22
  let maj := (v[0] &&& v[1]) ^^^ (v[0] &&& v[2]) ^^^ (v[1] &&& v[2])
  #v[t1 + (s0 + maj), v[0], v[1], v[2], v[3] + t1, v[4], v[5], v[6]]

/-- The rounds, one for each constant. -/
def rounds : List UInt32 → Vector UInt32 16 → Registers → Registers
  | [], _, v => v
  | k :: ks, w, v => rounds ks (slide w) (round v k w[0])

/-- The big-endian word at byte `4 * i` of a block. -/
def wordAt (block : List UInt8) (i : ℕ) : UInt32 :=
  UInt32.ofNat (BigEndian.decode ((block.drop (4 * i)).take 4))

/-- The registers after one more block. -/
def compress (h : Registers) (block : List UInt8) : Registers :=
  let w := Vector.ofFn fun i : Fin 16 => wordAt block i
  Vector.zipWith (· + ·) h (rounds roundConstants w h)

/-- The message, a one bit, zero bits, and the length of the message in bits. -/
def pad (m : List UInt8) : List UInt8 :=
  m ++ 0x80 :: List.replicate ((119 - m.length % 64) % 64) 0 ++
    BigEndian.encode 8 (8 * m.length % 256 ^ 8)

/-- The blocks of a padded message. -/
def blocks (m : List UInt8) : List (List UInt8) :=
  (List.range (m.length / 64)).map fun i => (m.drop (64 * i)).take 64

/-- The big-endian bytes of the registers. -/
def registerBytes (v : Registers) : Vector UInt8 32 :=
  (v.map fun w => (⟨(BigEndian.encode 4 w.toNat).toArray,
    BigEndian.length_encode w.toNat_lt⟩ : Vector UInt8 4)).flatten

/-- The digest of a message. -/
def digest (m : List UInt8) : Vector UInt8 32 :=
  registerBytes ((blocks (pad m)).foldl compress initial)

/-- SHA-256, with blocks of 64 bytes and digests of 32. -/
def hash : BlockHash :=
  ⟨64, 32, by omega, digest⟩

end Sha256
