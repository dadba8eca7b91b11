import TokenGen.HexDecode

/-!
# Hexadecimal text

On what `Hex::encode` writes, `Hex::from_str` and `Hex::decode` undo it (`hex_round_trip`). But
`Hex::from_str` is given any text. Two things are decided by how it reads it, two bytes at a
time with a reader of signed numbers : `hex_from_str_returns_iff` says on which texts it
panics, and `hex_text_accepted_iff` that on ASCII it accepts hexadecimal text and nothing else,
and that encoding undoes decoding up to letter case, except for texts with a plus sign in
place of a first digit.
-/

namespace TokenGen

namespace Hex

/-- A value the library hands out. -/
inductive Obtainable : Hex → Prop
  | encode (bytes : Bytes) : Obtainable (encode bytes)
  | fromStr {s : String} {h : Hex} (hs : (fromStr s).run = some (.ok h)) : Obtainable h

theorem Obtainable.exists_decode {h : Hex} (hh : h.Obtainable) :
    ∃ bytes, h.decode.run = some (.ok bytes) := by
  cases hh with
  | encode bytes => exact ⟨bytes, decode_encode bytes⟩
  | fromStr hs =>
    obtain ⟨-, rfl, bytes, hscan⟩ := fromStr_run_eq_ok_iff.mp hs
    exact ⟨bytes, (decode_run _).trans hscan⟩

end Hex

/-! ## The round trip -/

/-- A byte string is written as two lowercase digits a byte. The text is accepted and decodes
to the byte string, so different byte strings have different texts in the hexadecimal format. -/
theorem hex_round_trip (lib : Crates) :
    (∀ bytes : Bytes, (Hex.encode bytes).text.length = 2 * bytes.length ∧
      (∀ c ∈ (Hex.encode bytes).text.toList, c ∈ Hexadecimal.digits) ∧
      ∃ h, (Hex.fromStr (Hex.encode bytes).text).run = some (.ok h) ∧
        h.decode.run = some (.ok bytes)) ∧
    Function.Injective (Format.hex.encode lib) := by
  refine ⟨fun bytes => ⟨?_, fun c hc => ?_, _, Hex.fromStr_encode bytes, Hex.decode_encode bytes⟩,
    Hex.encode_text_injective⟩
  · rw [Hex.encode_text, Hexadecimal.length_encode]
  · rw [Hex.encode_text] at hc
    exact Hexadecimal.mem_digits_of_mem_encode hc

/-! ## Panics -/

/-- `Hex::from_str` returns, and takes only slices that are in range and on character
boundaries, except on a text of even byte length where, after pairs of characters that are
read as bytes, a character lies across the end of the next two bytes. And every value the
library hands out decodes. -/
theorem hex_from_str_returns_iff (s : String) :
    (((∃ r, (Hex.fromStr s).run = some r) ∧
        (s.utf8ByteSize % 2 = 0 → (⟨s⟩ : Hex).SlicesValid)) ↔
      ¬(s.utf8ByteSize % 2 = 0 ∧ Hex.CutsCharacter s.toList)) ∧
    ∀ h : Hex, h.Obtainable → ∃ bytes, h.decode.run = some (.ok bytes) := by
  refine ⟨?_, fun h hh => hh.exists_decode⟩
  rw [← Option.isSome_iff_exists, Hex.fromStr_run, Hex.slicesValid_iff, Hex.decode_run]
  by_cases heven : s.utf8ByteSize % 2 = 0
  · have hcut : Hex.scan s.toList = none ↔ Hex.CutsCharacter s.toList :=
      Hex.scan_eq_none_iff (by rwa [Text.byteLength_toList])
    rw [if_neg (by omega), Option.isSome_map, ← hcut]
    simp [heven, Option.isSome_iff_ne_none]
  · simp [heven]

/-- `aéb` : the first two bytes end inside `é`. -/
theorem hex_from_str_panics : (Hex.fromStr "aéb").run = none := by
  decide

/-- Two digits are decoded without a panic. -/
theorem hex_from_str_returns_ff : (∃ r, (Hex.fromStr "ff").run = some r) ∧
    ∃ bytes, (Hex.encode [255]).decode.run = some (.ok bytes) := by
  have hcuts : ¬("ff".utf8ByteSize % 2 = 0 ∧ Hex.CutsCharacter "ff".toList) := by
    rintro ⟨-, hcuts⟩
    cases hcuts with
    | wide hc => exact absurd hc (by decide)
    | narrow hc hd => exact hd (by decide)
    | pair hpair h => cases h
  have hff := hex_from_str_returns_iff "ff"
  exact ⟨(hff.1.mpr hcuts).1, hff.2 _ (.encode [255])⟩

/-! ## Hexadecimal text -/

namespace Hex

theorem byteLength_of_ascii {cs : List Char} (hcs : ∀ c ∈ cs, c.toNat < 128) :
    Text.byteLength cs = cs.length := by
  induction cs with
  | nil => rfl
  | cons c cs ih =>
    obtain ⟨hc, hcs⟩ := List.forall_mem_cons.mp hcs
    rw [Text.byteLength_cons, utf8Size_eq_one_iff.mpr hc, ih hcs, List.length_cons, Nat.add_comm]

theorem Pairs.even {cs : List Char} (h : Pairs cs) : cs.length % 2 = 0 := by
  induction h with
  | nil => rfl
  | cons _ _ ih =>
    simp only [List.length_cons]
    omega

theorem not_isDigit_plus : ¬IsDigit '+' := by
  unfold IsDigit
  decide

theorem Pairs.isDigit {cs : List Char} (h : Pairs cs) : ∀ c ∈ cs, c = '+' ∨ IsDigit c := by
  induction h with
  | nil => simp
  | cons hpair _ ih =>
    exact List.forall_mem_cons.mpr ⟨hpair.1, List.forall_mem_cons.mpr ⟨Or.inr hpair.2, ih⟩⟩

theorem pairs_of_isDigit : ∀ {cs : List Char}, cs.length % 2 = 0 → (∀ c ∈ cs, IsDigit c) → Pairs cs
  | [], _, _ => .nil
  | [c], heven, _ => by simp at heven
  | c :: d :: cs, heven, hall => by
    simp only [List.length_cons] at heven
    obtain ⟨hc, hd, hcs⟩ : IsDigit c ∧ IsDigit d ∧ ∀ e ∈ cs, IsDigit e := by simpa using hall
    exact .cons ⟨Or.inr hc, hd⟩ (pairs_of_isDigit (by omega) hcs)

/-- Hexadecimal text : digits, an even number of them. -/
def IsText (s : String) : Prop :=
  s.length % 2 = 0 ∧ ∀ c ∈ s.toList, IsDigit c

/-- Text that is read as bytes with a plus sign for a digit. -/
def HasPlus (s : String) : Prop :=
  Pairs s.toList ∧ '+' ∈ s.toList

theorem isText_iff {s : String} : IsText s ↔ Pairs s.toList ∧ '+' ∉ s.toList := by
  rw [IsText, ← String.length_toList]
  refine ⟨fun h => ⟨pairs_of_isDigit h.1 h.2, fun hplus => not_isDigit_plus (h.2 _ hplus)⟩, ?_⟩
  rintro ⟨hpairs, hplus⟩
  refine ⟨hpairs.even, fun c hc => (hpairs.isDigit c hc).resolve_left ?_⟩
  rintro rfl
  exact hplus hc

theorem exists_fromStr_iff {s : String} (hs : ∀ c ∈ s.toList, c.toNat < 128) :
    (∃ h, (fromStr s).run = some (.ok h)) ↔ Pairs s.toList := by
  simp only [fromStr_run_eq_ok_iff, exists_and_left, exists_eq_left, exists_scan_eq_ok_iff,
    ← Text.byteLength_toList, byteLength_of_ascii hs]
  exact ⟨fun h => h.2, fun h => ⟨h.even, h⟩⟩

/-- Without a plus sign, encoding the decoded bytes gives the text in lowercase. -/
theorem encode_decode {s : String} {h : Hex} {bytes : Bytes} (hs : (fromStr s).run = some (.ok h))
    (hplus : ¬HasPlus s) (hdec : h.decode.run = some (.ok bytes)) :
    (encode bytes).text.toList = s.toList.map Char.toLower := by
  obtain ⟨-, rfl, bytes', hscan⟩ := fromStr_run_eq_ok_iff.mp hs
  rw [decode_run] at hdec
  have hpairs := exists_scan_eq_ok_iff.mp ⟨bytes, hdec⟩
  rw [encode_text, Hexadecimal.encode, String.toList_ofList]
  exact encode_of_scan hdec fun h => hplus ⟨hpairs, h⟩

end Hex

/-- On ASCII, `Hex::from_str` accepts hexadecimal text and nothing else, and encoding the
decoded bytes gives the text in lowercase, exactly if the text is not one that is read as bytes
with a plus sign for a digit. And two accepted texts that are none of those and stand for the
same bytes differ only in letter case. -/
theorem hex_text_accepted_iff (s : String) :
    ((∀ c ∈ s.toList, c.toNat < 128) →
      ((((∃ h, (Hex.fromStr s).run = some (.ok h)) ↔ Hex.IsText s) ∧
        ∀ h, (Hex.fromStr s).run = some (.ok h) → ∃ bytes, h.decode.run = some (.ok bytes) ∧
          (Hex.encode bytes).text.toList = s.toList.map Char.toLower) ↔ ¬Hex.HasPlus s)) ∧
    ∀ (s' : String) (h h' : Hex) (bytes : Bytes), ¬Hex.HasPlus s → ¬Hex.HasPlus s' →
      (Hex.fromStr s).run = some (.ok h) → (Hex.fromStr s').run = some (.ok h') →
      h.decode.run = some (.ok bytes) → h'.decode.run = some (.ok bytes) →
      s.toList.map Char.toLower = s'.toList.map Char.toLower := by
  refine ⟨fun hascii => ⟨?_, fun hplus => ⟨?_, fun h hs => ?_⟩⟩,
    fun s' h h' bytes hplus hplus' hs hs' hdec hdec' => ?_⟩
  · rintro ⟨haccept, -⟩ ⟨hpairs, hplus⟩
    have htext := haccept.mp ((Hex.exists_fromStr_iff hascii).mpr hpairs)
    exact (Hex.isText_iff.mp htext).2 hplus
  · rw [Hex.exists_fromStr_iff hascii, Hex.isText_iff]
    exact ⟨fun hpairs => ⟨hpairs, fun h => hplus ⟨hpairs, h⟩⟩, fun h => h.1⟩
  · obtain ⟨bytes, hdec⟩ := (Hex.Obtainable.fromStr hs).exists_decode
    exact ⟨bytes, hdec, Hex.encode_decode hs hplus hdec⟩
  · rw [← Hex.encode_decode hs hplus hdec, Hex.encode_decode hs' hplus' hdec']

/-- `+f` is accepted and is no hexadecimal text, and stands for the same byte as `0f`. -/
theorem hex_text_with_plus : (Hex.fromStr "+f").run = some (.ok ⟨"+f"⟩) ∧ ¬Hex.IsText "+f" ∧
    (Hex.fromStr "0f").run = some (.ok ⟨"0f"⟩) ∧
    (Hex.decode ⟨"+f"⟩).run = (Hex.decode ⟨"0f"⟩).run := by
  simp only [Hex.fromStr_run, Hex.decode_run]
  refine ⟨by rfl, ?_, by rfl, by rfl⟩
  exact fun h => Hex.not_isDigit_plus (h.2 '+' (by decide))

theorem hex_text_accepted_ff : (∃ h, (Hex.fromStr "fF").run = some (.ok h)) ↔ Hex.IsText "fF" :=
  (((hex_text_accepted_iff "fF").1 (by simp)).mpr fun h => absurd h.2 (by decide)).1

end TokenGen
