import TokenGen.Lib.Codec
import Mathlib.Data.List.Nodup
import Mathlib.Tactic.Common

/-!
# URL-safe Base64 without padding (RFC 4648 §5)

Three bytes are four six-bit groups, and a last one or two bytes are two or three groups
whose unused low bits are zero (`sextets`). A group is written as a character of the
alphabet. Reading goes back through the groups and accepts only what is written so :
`decode_encode` and `encode_decode` make the codec a bijection between byte strings and the
texts it accepts.
-/

namespace Base64

/-! ## Six-bit groups -/

/-- The six-bit groups of a byte string. -/
def sextets : List UInt8 → List ℕ
  | a :: b :: c :: bs =>
    a.toNat / 4 :: (a.toNat % 4 * 16 + b.toNat / 16) :: (b.toNat % 16 * 4 + c.toNat / 64) ::
      (c.toNat % 64) :: sextets bs
  | [a, b] => [a.toNat / 4, a.toNat % 4 * 16 + b.toNat / 16, b.toNat % 16 * 4]
  | [a] => [a.toNat / 4, a.toNat % 4 * 16]
  | [] => []

/-- The byte string of a list of six-bit groups, if it has one. -/
def ofSextets : List ℕ → Option (List UInt8)
  | p :: q :: r :: s :: ns =>
    (ofSextets ns).map fun bs => UInt8.ofNat (p * 4 + q / 16) ::
      UInt8.ofNat (q % 16 * 16 + r / 4) :: UInt8.ofNat (r % 4 * 64 + s) :: bs
  | [p, q, r] =>
    if r % 4 = 0 then some [UInt8.ofNat (p * 4 + q / 16), UInt8.ofNat (q % 16 * 16 + r / 4)]
    else none
  | [p, q] => if q % 16 = 0 then some [UInt8.ofNat (p * 4 + q / 16)] else none
  | [_] => none
  | [] => some []

theorem sextets_lt : ∀ (bs : List UInt8), ∀ n ∈ sextets bs, n < 64
  | a :: b :: c :: bs, n, hn => by
    have ha := a.toNat_lt
    have hb := b.toNat_lt
    have hc := c.toNat_lt
    simp only [sextets, List.mem_cons] at hn
    rcases hn with rfl | rfl | rfl | rfl | hn
    · omega
    · omega
    · omega
    · omega
    · exact sextets_lt bs n hn
  | [a, b], n, hn => by
    have ha := a.toNat_lt
    have hb := b.toNat_lt
    simp only [sextets, List.mem_cons, List.not_mem_nil, or_false] at hn
    omega
  | [a], n, hn => by
    have ha := a.toNat_lt
    simp only [sextets, List.mem_cons, List.not_mem_nil, or_false] at hn
    omega
  | [], n, hn => by simp [sextets] at hn

theorem ofNat_eq_of_toNat_eq {n : ℕ} {b : UInt8} (h : n = b.toNat) : UInt8.ofNat n = b := by
  rw [h, UInt8.ofNat_toNat]

theorem ofSextets_sextets : ∀ bs : List UInt8, ofSextets (sextets bs) = some bs
  | a :: b :: c :: bs => by
    have ha := a.toNat_lt
    have hb := b.toNat_lt
    have hc := c.toNat_lt
    rw [sextets, ofSextets, ofSextets_sextets bs, Option.map_some]
    congr 2
    · exact ofNat_eq_of_toNat_eq (by omega)
    · congr 1
      · exact ofNat_eq_of_toNat_eq (by omega)
      · congr 1
        exact ofNat_eq_of_toNat_eq (by omega)
  | [a, b] => by
    have ha := a.toNat_lt
    have hb := b.toNat_lt
    rw [sextets, ofSextets, if_pos (by omega)]
    congr 2
    · exact ofNat_eq_of_toNat_eq (by omega)
    · congr 1
      exact ofNat_eq_of_toNat_eq (by omega)
  | [a] => by
    have ha := a.toNat_lt
    rw [sextets, ofSextets, if_pos (by omega)]
    congr 2
    exact ofNat_eq_of_toNat_eq (by omega)
  | [] => rfl

theorem toNat_ofNat_of_lt {n : ℕ} (h : n < 256) : (UInt8.ofNat n).toNat = n :=
  UInt8.toNat_ofNat_of_lt' h

theorem sextets_ofSextets :
    ∀ {ns : List ℕ} {bs : List UInt8}, (∀ n ∈ ns, n < 64) → ofSextets ns = some bs →
      sextets bs = ns
  | p :: q :: r :: s :: ns, bs, hlt, h => by
    simp only [List.forall_mem_cons] at hlt
    obtain ⟨hp, hq, hr, hs, hns⟩ := hlt
    rw [ofSextets, Option.map_eq_some_iff] at h
    obtain ⟨bs', hbs', rfl⟩ := h
    rw [sextets, toNat_ofNat_of_lt (by omega), toNat_ofNat_of_lt (by omega),
      toNat_ofNat_of_lt (by omega), sextets_ofSextets hns hbs']
    congr 1
    · omega
    congr 1
    · omega
    congr 1
    · omega
    congr 1
    omega
  | [p, q, r], bs, hlt, h => by
    simp only [List.forall_mem_cons] at hlt
    obtain ⟨hp, hq, hr, -⟩ := hlt
    rw [ofSextets, Option.ite_none_right_eq_some] at h
    obtain ⟨hrem, h⟩ := h
    obtain rfl := Option.some.inj h
    rw [sextets, toNat_ofNat_of_lt (by omega), toNat_ofNat_of_lt (by omega)]
    congr 1
    · omega
    congr 1
    · omega
    congr 1
    omega
  | [p, q], bs, hlt, h => by
    simp only [List.forall_mem_cons] at hlt
    obtain ⟨hp, hq, -⟩ := hlt
    rw [ofSextets, Option.ite_none_right_eq_some] at h
    obtain ⟨hrem, h⟩ := h
    obtain rfl := Option.some.inj h
    rw [sextets, toNat_ofNat_of_lt (by omega)]
    congr 1
    · omega
    congr 1
    omega
  | [_], bs, _, h => by simp [ofSextets] at h
  | [], bs, _, h => by
    obtain rfl := Option.some.inj h
    rfl

/-! ## Characters -/

/-- The URL-safe alphabet. -/
def alphabet : List Char :=
  "ABCDEFGHIJKLMNOPQRSTUVWXYZabcdefghijklmnopqrstuvwxyz0123456789-_".toList

/-- The character of a six-bit group. -/
def char (n : ℕ) : Char :=
  alphabet.getD n 'A'

/-- The six-bit group of a character. -/
def value (c : Char) : Option ℕ :=
  alphabet.idxOf? c

theorem length_alphabet : alphabet.length = 64 :=
  rfl

theorem nodup_alphabet : alphabet.Nodup := by
  decide

theorem char_eq_getElem {n : ℕ} (h : n < alphabet.length) : char n = alphabet[n] := by
  rw [char, List.getD_eq_getElem?_getD, List.getElem?_eq_getElem h, Option.getD_some]

theorem value_char {n : ℕ} (h : n < 64) : value (char n) = some n := by
  have hlt : n < alphabet.length := by rwa [length_alphabet]
  refine List.idxOf?_eq_some_iff.mpr ⟨hlt, (char_eq_getElem hlt).symm, fun j hj heq => ?_⟩
  rw [char_eq_getElem hlt, List.Nodup.getElem_inj_iff nodup_alphabet] at heq
  omega

theorem char_mem_alphabet {n : ℕ} (h : n < 64) : char n ∈ alphabet := by
  have hlt : n < alphabet.length := by rwa [length_alphabet]
  rw [char_eq_getElem hlt]
  exact List.getElem_mem hlt

theorem lt_and_char_of_value {c : Char} {n : ℕ} (h : value c = some n) : n < 64 ∧ char n = c := by
  obtain ⟨hlt, hget, -⟩ := List.idxOf?_eq_some_iff.mp h
  refine ⟨hlt, ?_⟩
  rw [char_eq_getElem hlt, hget]

/-! ## The codec -/

/-- The text of a byte string. -/
def encode (bs : List UInt8) : String :=
  String.ofList ((sextets bs).map char)

/-- The character of a byte is in the alphabet. -/
def isSymbol (b : UInt8) : Bool :=
  (value (Char.ofNat b.toNat)).isSome

/-- A byte outside the alphabet, and its offset. -/
def invalidSymbol (offset : ℕ) (b : UInt8) : String :=
  "Invalid symbol " ++ toString b.toNat ++ ", offset " ++ toString offset ++ "."

/-- What is wrong with the last group of one to four bytes, which starts at `start` : a byte
outside the alphabet, padding, a single byte, or low bits that are not zero. -/
def lastGroupError (start : ℕ) (group : List UInt8) : String :=
  let symbols := group.takeWhile isSymbol
  let k := symbols.length
  match group.drop k with
  | b :: rest =>
    if b = 61 ∧ 2 ≤ k ∧ rest.all (· = 61) then "Invalid padding"
    else invalidSymbol (start + k) b
  | [] =>
    if k < 2 then "Invalid input length: " ++ toString (start + k)
    else "Invalid last symbol " ++ toString (symbols.getLastD 0).toNat ++ ", offset " ++
      toString (start + k - 1) ++ "."

/-- What is wrong with a text that is not accepted. A lone last byte outside the alphabet is
looked at first, then the groups in order. -/
def decodeError (s : String) : String :=
  let bytes := Text.bytes s
  let n := bytes.length
  let last := bytes.getLastD 61
  let start := (n - 1) / 4 * 4
  if n % 4 = 1 ∧ last ≠ 61 ∧ !isSymbol last then invalidSymbol (n - 1) last
  else
    match (bytes.take start).findIdx? fun b => !isSymbol b with
    | some i => invalidSymbol i (bytes.getD i 0)
    | none => lastGroupError start (bytes.drop start)

/-- The bytes of a text. -/
def decode (s : String) : Except String (List UInt8) :=
  match s.toList.mapM value with
  | none => .error (decodeError s)
  | some ns =>
    match ofSextets ns with
    | none => .error (decodeError s)
    | some bs => .ok bs

theorem decode_encode (bs : List UInt8) : decode (encode bs) = .ok bs := by
  have hvals : ((sextets bs).map char).mapM value = some (sextets bs) :=
    List.mapM_map_of_forall_mem fun n hn => value_char (sextets_lt bs n hn)
  simp only [decode, encode, String.toList_ofList, hvals, ofSextets_sextets]

theorem map_char_of_values {cs : List Char} {ns : List ℕ}
    (h : List.Forall₂ (fun c n => value c = some n) cs ns) :
    ns.map char = cs ∧ ∀ n ∈ ns, n < 64 := by
  induction h with
  | nil => simp
  | cons hc _ ih =>
    obtain ⟨hlt, hchar⟩ := lt_and_char_of_value hc
    exact ⟨by rw [List.map_cons, hchar, ih.1], List.forall_mem_cons.mpr ⟨hlt, ih.2⟩⟩

theorem encode_decode {s : String} {bs : List UInt8} (h : decode s = .ok bs) : encode bs = s := by
  unfold decode at h
  split at h
  · simp at h
  · rename_i ns hns
    split at h
    · simp at h
    · rename_i bs' hbs
      obtain rfl := Except.ok.inj h
      obtain ⟨hchars, hlt⟩ := map_char_of_values (List.mapM_eq_some_iff_forall₂.mp hns)
      rw [encode, sextets_ofSextets hlt hbs, hchars, String.ofList_toList]

theorem mem_alphabet_of_mem_encode {bs : List UInt8} {c : Char} (h : c ∈ (encode bs).toList) :
    c ∈ alphabet := by
  rw [encode, String.toList_ofList] at h
  obtain ⟨n, hn, rfl⟩ := List.mem_map.mp h
  exact char_mem_alphabet (sextets_lt bs n hn)

/-- URL-safe Base64 as a codec. -/
def codec : TextCodec :=
  ⟨encode, decode⟩

theorem codec_decodes : codec.Decodes :=
  decode_encode

theorem codec_strict : codec.Strict :=
  encode_decode

example : encode [0xfb, 0xff, 0x00, 0x01] = "-_8AAQ" := by decide

example : ["AB", "A", "A=", "AAA\n", "AA="].map decodeError = ["Invalid last symbol 66, offset 1.",
    "Invalid input length: 1", "Invalid symbol 61, offset 1.", "Invalid symbol 10, offset 3.",
    "Invalid padding"] := by decide

end Base64
