import TokenGen.Crates
import TokenGen.Error
import TokenGen.Lib.Outcome
import TokenGen.Lib.Radix
import TokenGen.Lib.Slice

/-!
# Encodings (`src/encoding.rs`)

URL-safe Base64 and hexadecimal text. `Base64Url` calls the codec of the `base64` crate;
`Hex` is written in the library itself. Its decoder slices the text at byte offsets, and a
slice out of range or across a character is a panic, the `none` of `ExceptT String Option`.
-/

namespace TokenGen

/-- URL-safe Base64 encoded string (no padding). -/
structure Base64Url where
  text : String
  deriving DecidableEq

namespace Base64Url

variable (lib : Crates)

/-- Encode bytes to URL-safe Base64. -/
def encode (bytes : Bytes) : Base64Url :=
  ⟨lib.base64.encode bytes⟩

/-- Decode to bytes. -/
def decode (self : Base64Url) : Except String Bytes :=
  lib.base64.decode self.text

/-- `from_str` : keep the text if it decodes. -/
def fromStr (s : String) : Except String Base64Url := do
  let _ ← lib.base64.decode s
  return ⟨s⟩

end Base64Url

/-- Hexadecimal encoded string. -/
structure Hex where
  text : String
  deriving DecidableEq

/-- Encode bytes to hexadecimal : each byte as `{:02x}`. -/
def Hex.encode (bytes : Bytes) : Hex :=
  ⟨bytes.foldl (fun s b => s ++ String.ofList (Hexadecimal.pair b)) ""⟩

/-- Decode to bytes : the number in every two bytes of the text. -/
def Hex.decode (self : Hex) : ExceptT String Option Bytes :=
  (List.range' 0 ((self.text.utf8ByteSize + 1) / 2) 2).mapM fun i => do
    let digits ← Text.slice self.text i (i + 2)
    ofExcept ((Radix.u8FromStrRadix 16 digits).mapError Radix.ParseError.display)

/-- `from_str` : keep a text of even length if it decodes. -/
def Hex.fromStr (s : String) : ExceptT String Option Hex := do
  if s.utf8ByteSize % 2 ≠ 0 then
    throw "hex string must have even length"
  let hex : Hex := ⟨s⟩
  let _ ← hex.decode
  return hex

/-- Output format for tokens. -/
inductive Format where
  | base64Url
  | hex
  deriving DecidableEq

/-- Encode bytes using this format. -/
def Format.encode (lib : Crates) (self : Format) (bytes : Bytes) : String :=
  match self with
  | .base64Url => (Base64Url.encode lib bytes).text
  | .hex => (Hex.encode bytes).text

theorem Hex.foldl_pair (bytes : Bytes) (s : String) :
    bytes.foldl (fun s b => s ++ String.ofList (Hexadecimal.pair b)) s =
      s ++ Hexadecimal.encode bytes := by
  induction bytes generalizing s with
  | nil =>
    apply String.toList_injective
    simp [Hexadecimal.encode]
  | cons b bytes ih =>
    rw [List.foldl_cons, ih]
    apply String.toList_injective
    simp [Hexadecimal.encode]

theorem Hex.encode_text (bytes : Bytes) : (Hex.encode bytes).text = Hexadecimal.encode bytes := by
  rw [Hex.encode, Hex.foldl_pair]
  simp

theorem Format.dot_not_mem_encode {lib : Crates} (hlib : lib.Base64Lawful) (format : Format)
    (bytes : Bytes) : '.' ∉ (format.encode lib bytes).toList := by
  cases format with
  | base64Url => exact hlib.avoids_dot bytes
  | hex =>
    rw [Format.encode, Hex.encode_text]
    exact fun h => absurd (Hexadecimal.mem_digits_of_mem_encode h) (by decide)

theorem Format.encode_ne_empty {lib : Crates} (hlib : lib.Base64Lawful) (format : Format)
    {bytes : Bytes} (hne : bytes ≠ []) : format.encode lib bytes ≠ "" := by
  cases format with
  | base64Url => exact hlib.encode_ne_empty hne
  | hex =>
    intro h
    rw [Format.encode, Hex.encode_text] at h
    have hlen := congrArg String.length h
    rw [Hexadecimal.length_encode, String.length_empty] at hlen
    exact hne (List.length_eq_zero_iff.mp (by omega))

/-- The decoding the token parsers apply to one part of a token :
`Base64Url::from_str(part).map_err(ParseError)?.decode().map_err(ParseError)?`. -/
def decodePart (lib : Crates) (part : String) : Except TokenError Bytes := do
  let encoded ← (Base64Url.fromStr lib part).mapError .parseError
  (encoded.decode lib).mapError .parseError

variable {lib : Crates}

theorem Base64Url.fromStr_eq_ok_iff {s : String} {e : Base64Url} :
    Base64Url.fromStr lib s = .ok e ↔ e = ⟨s⟩ ∧ ∃ b, lib.base64.read s = some b := by
  simp only [Base64Url.fromStr, Except.bind_eq_ok_iff, TextCodec.read_eq_some_iff]
  refine ⟨?_, ?_⟩
  · rintro ⟨b, hb, he⟩
    exact ⟨(Except.ok.inj he).symm, b, hb⟩
  · rintro ⟨rfl, b, hb⟩
    exact ⟨b, hb, rfl⟩

theorem Base64Url.fromStr_of_read {s : String} {b : Bytes} (h : lib.base64.read s = some b) :
    Base64Url.fromStr lib s = .ok ⟨s⟩ :=
  Base64Url.fromStr_eq_ok_iff.mpr ⟨rfl, b, h⟩

theorem Base64Url.isOk_fromStr (s : String) :
    (Base64Url.fromStr lib s).isOk = (lib.base64.read s).isSome := by
  unfold Base64Url.fromStr TextCodec.read
  cases lib.base64.decode s <;> rfl

theorem decodePart_of_read {part : String} {b : Bytes} (h : lib.base64.read part = some b) :
    decodePart lib part = .ok b := by
  rw [decodePart, Base64Url.fromStr_of_read h]
  simp [Base64Url.decode, TextCodec.read_eq_some_iff.mp h]

theorem decodePart_eq_ok_iff {part : String} {b : Bytes} :
    decodePart lib part = .ok b ↔ lib.base64.read part = some b := by
  simp only [decodePart, Except.bind_eq_ok_iff, Except.mapError_eq_ok_iff,
    Base64Url.fromStr_eq_ok_iff, TextCodec.read_eq_some_iff]
  refine ⟨?_, fun hb => ?_⟩
  · rintro ⟨e, ⟨rfl, -⟩, hb⟩
    exact hb
  · exact ⟨⟨part⟩, ⟨rfl, b, hb⟩, hb⟩

end TokenGen
