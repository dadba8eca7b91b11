import TokenGen.Lib.Base64
import TokenGen.Lib.Hexadecimal
import TokenGen.Lib.Hmac
import TokenGen.Lib.Json

/-!
# The crates the library calls

The code that encodes, hashes, compares and derives keys is third-party. `Crates` holds those
functions as parameters. Digests carry their width in the type, as the crates' arrays do, and
the constant-time comparison carries its law. The two functions of scrypt may panic : it
allocates work areas of a size that only its parameters decide, and they can be parameters of
a stored hash. What else the library relies on is stated law by law, and each result names the
laws it uses :

* `Base64Lawful` : decoding undoes encoding, into the URL-safe alphabet, and no bytes
  encode to no characters;
* `Base64Strict` : decoding accepts one spelling of each byte string only;
* `HexLawful` : lowercase pairs of digits, decoded back, an odd number of digits rejected;
* `HmacRfc2104` : HMAC-SHA256 is HMAC over SHA-256;
* `ScryptRfc7914` : the password enters scrypt as an HMAC-SHA256 key;
* `ScryptOutput` : an output of `0` bytes is rejected, and a shorter output is the
  beginning of the 32-byte one;
* `ScryptAccepts` : the parameters and the output width the library uses are accepted;
* `JsonLawful` : a JSON text is compact and one line, and a graphic string is written as it is.
-/

namespace TokenGen

/-- Byte strings (`&[u8]`, `Vec<u8>`). -/
abbrev Bytes := List UInt8

/-- Parameters of a scrypt run (`scrypt::Params`) : `log₂ N`, `r`, and `p`. -/
structure ScryptParams where
  logN : UInt8
  r : UInt32
  p : UInt32
  deriving DecidableEq

/-- The third-party functions the library calls. -/
structure Crates where
  /-- `base64::engine::general_purpose::URL_SAFE_NO_PAD`. -/
  base64 : TextCodec
  /-- `hex::encode` and `hex::decode`. -/
  hex : TextCodec
  /-- `sha2::Sha256` of a message. -/
  sha256 : Bytes → Vector UInt8 32
  /-- `hmac::Hmac<Sha256>` of a key and a message. -/
  hmacSha256 : Bytes → Bytes → Vector UInt8 32
  /-- `subtle::ConstantTimeEq::ct_eq` on slices. -/
  ctEq : Bytes → Bytes → Bool
  ctEq_iff : ∀ {a b}, ctEq a b = true ↔ a = b
  /-- `scrypt::Params::new`, with the displayed text of an `InvalidParams`, or a panic. -/
  scryptParams : UInt8 → UInt32 → UInt32 → Option (Except String ScryptParams)
  /-- `scrypt::scrypt` with these parameters into a buffer of `n` bytes : a panic, or what it
  makes of a password and a salt, with the displayed text of an `InvalidOutputLen`. -/
  scrypt : ScryptParams → (n : ℕ) → Option (Bytes → Bytes → Except String (Vector UInt8 n))
  /-- `serde_json::to_string`. -/
  toJson : Json → String

/-- A visible character other than a quotation mark and a backslash. -/
def isGraphic (c : Char) : Bool :=
  32 < c.toNat ∧ c ≠ '"' ∧ c ≠ '\\'

/-- A text of such characters : it is one line, holds no separator with a blank, and needs no
escapes in JSON. -/
def Graphic (s : String) : Prop :=
  s.toList.all isGraphic = true

namespace Crates

variable (lib : Crates)

/-- `URL_SAFE_NO_PAD` decodes what it encodes and writes its own alphabet. -/
structure Base64Lawful : Prop where
  decodes : lib.base64.Decodes
  alphabet : ∀ b, ∀ c ∈ (lib.base64.encode b).toList, c ∈ Base64.alphabet
  encode_nil : lib.base64.encode [] = ""

/-- `URL_SAFE_NO_PAD` rejects padding, foreign characters and non-zero trailing bits, so
what it accepts is what it would have written. -/
def Base64Strict : Prop :=
  lib.base64.Strict

/-- `hex` writes two lowercase digits per byte, decodes what it encodes, and rejects an odd
number of characters. -/
structure HexLawful : Prop where
  encode_eq : ∀ b, lib.hex.encode b = Hexadecimal.encode b
  decodes : lib.hex.Decodes
  odd : ∀ s : String, s.length % 2 = 1 → ∃ e, lib.hex.decode s = .error e

theorem shaOutputSize_le : 32 ≤ 64 := by
  omega

/-- SHA-256, with the widths of its blocks and of its digests. -/
def shaHash : BlockHash :=
  ⟨64, 32, shaOutputSize_le, lib.sha256⟩

/-- `Hmac<Sha256>` is RFC 2104 over `Sha256`. -/
def HmacRfc2104 : Prop :=
  ∀ key message, lib.hmacSha256 key message = lib.shaHash.hmac key message

/-- `scrypt` is RFC 7914 : the password is the key of an HMAC-SHA256, so its key block
stands for it. -/
def ScryptRfc7914 : Prop :=
  ∀ {params n scrypt}, lib.scrypt params n = some scrypt →
    ∀ password salt, scrypt password salt = scrypt (lib.shaHash.keyBlock password) salt

/-- Where `scrypt` derives 32 bytes, it rejects an empty output buffer, and fills a buffer of
fewer bytes with the beginning of the 32. -/
structure ScryptOutput : Prop where
  returns : ∀ {params scrypt}, lib.scrypt params 32 = some scrypt →
    ∀ n ≤ 32, ∃ short, lib.scrypt params n = some short
  reject_empty : ∀ {params scrypt}, lib.scrypt params 0 = some scrypt →
    ∀ password salt, ∃ e, scrypt password salt = .error e
  take : ∀ {params scrypt n short}, lib.scrypt params 32 = some scrypt →
    lib.scrypt params n = some short → 0 < n → n ≤ 32 →
    ∀ {password salt out}, scrypt password salt = .ok out →
      ∃ bytes, short password salt = .ok bytes ∧ bytes.toList = out.toList.take n

/-- `scrypt` accepts `N = 2 ^ 14`, `r = 8`, `p = 1` and an output of 32 bytes. -/
def ScryptAccepts : Prop :=
  ∃ params scrypt, lib.scryptParams 14 8 1 = some (.ok params) ∧
    lib.scrypt params 32 = some scrypt ∧ ∀ password salt, ∃ out, scrypt password salt = .ok out

/-- `serde_json::to_string` writes JSON without spaces and on one line. A graphic string has
nothing to escape. -/
structure JsonLawful : Prop where
  bool : ∀ b, lib.toJson (.bool b) = toString b
  str : ∀ {s}, Graphic s → lib.toJson (.str s) = "\"" ++ s ++ "\""
  arr : ∀ items, lib.toJson (.arr items) =
    "[" ++ String.intercalate "," (items.map lib.toJson) ++ "]"
  obj : ∀ fields, lib.toJson (.obj fields) = "\x7b" ++ String.intercalate ","
    (fields.map fun field => lib.toJson (.str field.1) ++ ":" ++ lib.toJson field.2) ++ "\x7d"
  line : ∀ v, '\n' ∉ (lib.toJson v).toList

variable {lib}

theorem Base64Lawful.avoids (h : lib.Base64Lawful) {sep : Char} (hsep : sep ∉ Base64.alphabet) :
    lib.base64.Avoids sep :=
  fun b hb => hsep (h.alphabet b sep hb)

/-- No encoded byte string contains a dot. -/
theorem Base64Lawful.avoids_dot (h : lib.Base64Lawful) : lib.base64.Avoids '.' :=
  h.avoids (by decide)

theorem Base64Lawful.encode_ne_empty (h : lib.Base64Lawful) {b : Bytes} (hb : b ≠ []) :
    lib.base64.encode b ≠ "" := by
  rw [← h.encode_nil]
  exact h.decodes.encode_injective.ne hb

end Crates

end TokenGen
