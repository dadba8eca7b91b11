import TokenGen.Encoding

/-!
# What the hexadecimal decoder does

`Hex::decode` walks its text in steps of two bytes, slices two bytes at a time, and stops at
the first slice that is not a number. `decode_run` : what it returns is what a walk over the
characters returns (`Hex.scan`). From that, `exists_scan_eq_ok_iff` says what it accepts,
`scan_eq_none_iff` where it panics, and `encode_of_scan`, `decode_encode` and `fromStr_encode` how
it relates to `Hex::encode`.
-/

namespace TokenGen

namespace Hex

/-! ## One step -/

/-- The number in the two bytes at offset `i`. -/
def window (text : String) (i : ℕ) : ExceptT String Option UInt8 := do
  let digits ← Text.slice text i (i + 2)
  ofExcept ((Radix.u8FromStrRadix 16 digits).mapError Radix.ParseError.display)

/-- Decoding is reading one window after another. -/
theorem decode_eq (h : Hex) : h.decode =
    (List.range' 0 ((h.text.utf8ByteSize + 1) / 2) 2).mapM (window h.text) :=
  rfl

theorem window_run (text : String) (i : ℕ) : (window text i).run =
    (Text.slice text i (i + 2)).map fun digits =>
      (Radix.u8FromStrRadix 16 digits).mapError Radix.ParseError.display := by
  unfold window
  refine (ExceptT.run_lift_bind _ _).trans ?_
  cases Text.slice text i (i + 2) with
  | none => rfl
  | some digits => exact ExceptT.run_ofExcept _

theorem window_append (pre cs : List Char) :
    (window (String.ofList (pre ++ cs)) (Text.byteLength pre)).run =
      (Text.splitBytes cs 2).map fun p =>
        (Radix.u8FromStrRadix 16 (String.ofList p.1)).mapError Radix.ParseError.display := by
  rw [window_run, Text.slice_append, Option.map_map]
  rfl

/-- Reading the windows of `cs` after `pre` : the first two bytes, then the rest. -/
theorem run_mapM_window {cs : List Char} (pre : List Char) (hne : cs ≠ []) :
    ((List.range' (Text.byteLength pre) ((Text.byteLength cs + 1) / 2) 2).mapM
      (window (String.ofList (pre ++ cs)))).run =
    match Text.splitBytes cs 2 with
    | none => none
    | some (front, rest) =>
      match Radix.u8FromStrRadix 16 (String.ofList front) with
      | .error e => some (.error e.display)
      | .ok b =>
        ((List.range' (Text.byteLength (pre ++ front)) ((Text.byteLength rest + 1) / 2) 2).mapM
          (window (String.ofList (pre ++ front ++ rest)))).run.map (Except.map (b :: ·)) := by
  obtain ⟨c, cs', rfl⟩ := List.exists_cons_of_ne_nil hne
  have hpos := c.utf8Size_pos
  obtain ⟨n, hn⟩ : ∃ n, (Text.byteLength (c :: cs') + 1) / 2 = n + 1 :=
    ⟨(Text.byteLength (c :: cs') + 1) / 2 - 1, by simp only [Text.byteLength_cons]; omega⟩
  rw [hn, List.range'_succ, ExceptT.run_mapM_cons, window_append]
  cases hsplit : Text.splitBytes (c :: cs') 2 with
  | none => rfl
  | some p =>
    obtain ⟨front, rest⟩ := p
    obtain ⟨hcs, hfront⟩ := Text.splitBytes_eq_some_iff.mp hsplit
    have hrest : (Text.byteLength rest + 1) / 2 = n := by
      rw [hcs, Text.byteLength_append, hfront] at hn
      omega
    simp only [Option.map_some]
    cases Radix.u8FromStrRadix 16 (String.ofList front) with
    | error e => rfl
    | ok b =>
      simp only [Except.mapError_ok, hrest, Text.byteLength_append, hfront, hcs, List.append_assoc]

/-! ## Characters and their sizes -/

theorem utf8Size_eq_one_iff {c : Char} : c.utf8Size = 1 ↔ c.toNat < 128 := by
  rw [Char.utf8Size_eq_one_iff, UInt32.le_iff_toNat_le]
  show c.toNat ≤ 127 ↔ _
  omega

theorem value_of_utf8Size {c : Char} (h : c.utf8Size ≠ 1) : Hexadecimal.value c = none :=
  Hexadecimal.value_of_not_ascii (Nat.le_of_not_lt (utf8Size_eq_one_iff.not.mp h))

theorem u8FromStrRadix_single {c : Char} (hc : c.utf8Size = 2) :
    Radix.u8FromStrRadix 16 (String.ofList [c]) = .error .invalidDigit := by
  rw [Radix.u8FromStrRadix, Radix.fromStrRadix_singleton, value_of_utf8Size (by omega)]
  rfl

theorem u8FromStrRadix_pair (c d : Char) : Radix.u8FromStrRadix 16 (String.ofList [c, d]) =
    (Radix.pairValue c d).elim (.error .invalidDigit) fun n => .ok (UInt8.ofNat n) := by
  rw [Radix.u8FromStrRadix, Radix.fromStrRadix_pair]
  cases Radix.pairValue c d <;> rfl

theorem splitBytes_two_single {c : Char} (hc : c.utf8Size = 2) (cs : List Char) :
    Text.splitBytes (c :: cs) 2 = some ([c], cs) :=
  Text.splitBytes_eq_some_iff.mpr ⟨rfl, by simp [hc]⟩

theorem splitBytes_two_pair {c d : Char} (hc : c.utf8Size = 1) (hd : d.utf8Size = 1)
    (cs : List Char) :
    Text.splitBytes (c :: d :: cs) 2 = some ([c, d], cs) :=
  Text.splitBytes_eq_some_iff.mpr ⟨rfl, by simp [hc, hd]⟩

theorem splitBytes_two_none {c : Char} (hc : 2 < c.utf8Size) (cs : List Char) :
    Text.splitBytes (c :: cs) 2 = none := by
  rw [Text.splitBytes, if_neg (by omega)]

theorem splitBytes_two_none_of_narrow {c d : Char} (hc : c.utf8Size = 1) (hd : d.utf8Size ≠ 1)
    (cs : List Char) : Text.splitBytes (c :: d :: cs) 2 = none := by
  have hpos := d.utf8Size_pos
  rw [Text.splitBytes, if_pos (by omega), hc, Text.splitBytes, if_neg (by omega)]
  rfl

/-! ## The decoder on characters -/

/-- What the decoder makes of the characters still to come. -/
def scan : List Char → Option (Except String Bytes)
  | [] => some (.ok [])
  | [c] => if c.utf8Size = 2 then some (.error Radix.ParseError.invalidDigit.display) else none
  | c :: d :: cs =>
    if c.utf8Size = 1 ∧ d.utf8Size = 1 then
      match Radix.pairValue c d with
      | some n => (scan cs).map (Except.map (UInt8.ofNat n :: ·))
      | none => some (.error Radix.ParseError.invalidDigit.display)
    else if c.utf8Size = 2 then some (.error Radix.ParseError.invalidDigit.display)
    else none

/-- Reading the windows of `cs` after `pre` is scanning `cs`. -/
theorem run_mapM_window_eq_scan (pre cs : List Char) :
    ((List.range' (Text.byteLength pre) ((Text.byteLength cs + 1) / 2) 2).mapM
      (window (String.ofList (pre ++ cs)))).run = scan cs := by
  induction cs using scan.induct generalizing pre with
  | case1 => rfl
  | case2 c hc =>
    rw [run_mapM_window pre (by simp), splitBytes_two_single hc]
    simp only [u8FromStrRadix_single hc, scan, if_pos hc]
  | case3 c hc =>
    have hnone : Text.splitBytes [c] 2 = none := by
      have hpos := c.utf8Size_pos
      by_cases h1 : c.utf8Size = 1
      · simp [Text.splitBytes, h1]
      · exact splitBytes_two_none (by omega) []
    rw [run_mapM_window pre (by simp), hnone, scan, if_neg hc]
  | case4 c d cs hsize n hn ih =>
    rw [run_mapM_window pre (by simp), splitBytes_two_pair hsize.1 hsize.2]
    simp only [u8FromStrRadix_pair, hn, Option.elim_some, ih, scan, if_pos hsize]
  | case5 c d cs hsize hn =>
    rw [run_mapM_window pre (by simp), splitBytes_two_pair hsize.1 hsize.2]
    simp only [u8FromStrRadix_pair, hn, Option.elim_none, scan, if_pos hsize]
  | case6 c d cs hsize hc =>
    rw [run_mapM_window pre (by simp), splitBytes_two_single hc]
    simp only [u8FromStrRadix_single hc, scan, if_neg hsize, if_pos hc]
  | case7 c d cs hsize hc =>
    have hpos := c.utf8Size_pos
    have hnone : Text.splitBytes (c :: d :: cs) 2 = none := by
      by_cases h1 : c.utf8Size = 1
      · exact splitBytes_two_none_of_narrow h1 (fun hd => hsize ⟨h1, hd⟩) cs
      · exact splitBytes_two_none (by omega) _
    rw [run_mapM_window pre (by simp), hnone, scan, if_neg hsize, if_neg hc]

/-- The decoder is `scan`. -/
theorem decode_run (h : Hex) : h.decode.run = scan h.text.toList := by
  have := run_mapM_window_eq_scan [] h.text.toList
  rwa [List.nil_append, String.ofList_toList, Text.byteLength_toList] at this

/-! ## What the decoder accepts -/

/-- One of `0-9`, `a-f`, `A-F`. -/
def IsDigit (c : Char) : Prop :=
  c ∈ Hexadecimal.digits ∨ c ∈ Hexadecimal.upperDigits

/-- Two characters that `u8::from_str_radix(_, 16)` reads as a byte : two digits, or a plus
sign and a digit. -/
def IsPair (c d : Char) : Prop :=
  (c = '+' ∨ IsDigit c) ∧ IsDigit d

theorem pairValue_isSome_iff {c d : Char} : (Radix.pairValue c d).isSome ↔ IsPair c d := by
  have hd : (Hexadecimal.value d).isSome ↔ IsDigit d := Hexadecimal.value_isSome_iff
  have hc : (Hexadecimal.value c).isSome ↔ IsDigit c := Hexadecimal.value_isSome_iff
  rw [IsPair, ← hd, ← hc, Radix.pairValue]
  by_cases hplus : c = '+'
  · simp [hplus]
  · rw [if_neg hplus]
    cases Hexadecimal.value c <;> simp [hplus]

theorem IsDigit.utf8Size {c : Char} (h : IsDigit c) : c.utf8Size = 1 :=
  utf8Size_eq_one_iff.mpr (Hexadecimal.toNat_lt_of_mem c (List.mem_append.mpr h))

theorem IsPair.utf8Size {c d : Char} (h : IsPair c d) : c.utf8Size = 1 ∧ d.utf8Size = 1 := by
  refine ⟨?_, h.2.utf8Size⟩
  rcases h.1 with rfl | hc
  · rfl
  · exact hc.utf8Size

/-- After pairs that are bytes comes a character of three or four bytes, or a character of one
byte followed by a longer one. -/
inductive CutsCharacter : List Char → Prop
  | wide {c : Char} {cs : List Char} (hc : 2 < c.utf8Size) : CutsCharacter (c :: cs)
  | narrow {c d : Char} {cs : List Char} (hc : c.utf8Size = 1) (hd : d.utf8Size ≠ 1) :
    CutsCharacter (c :: d :: cs)
  | pair {c d : Char} {cs : List Char} (hpair : IsPair c d) (h : CutsCharacter cs) :
    CutsCharacter (c :: d :: cs)

theorem cutsCharacter_cons_cons {c d : Char} {cs : List Char} :
    CutsCharacter (c :: d :: cs) ↔ 2 < c.utf8Size ∨ (c.utf8Size = 1 ∧ d.utf8Size ≠ 1) ∨
      (IsPair c d ∧ CutsCharacter cs) := by
  refine ⟨fun h => ?_, ?_⟩
  · cases h with
    | wide hc => exact Or.inl hc
    | narrow hc hd => exact Or.inr (Or.inl ⟨hc, hd⟩)
    | pair hpair h => exact Or.inr (Or.inr ⟨hpair, h⟩)
  · rintro (hc | ⟨hc, hd⟩ | ⟨hpair, h⟩)
    · exact .wide hc
    · exact .narrow hc hd
    · exact .pair hpair h

/-- On a text of even byte length, the decoder panics where it cuts a character. -/
theorem scan_eq_none_iff {cs : List Char} (heven : Text.byteLength cs % 2 = 0) :
    scan cs = none ↔ CutsCharacter cs := by
  induction cs using scan.induct with
  | case1 =>
    simp only [scan, reduceCtorEq, false_iff]
    rintro ⟨⟩
  | case2 c hc =>
    simp only [scan, if_pos hc, reduceCtorEq, false_iff]
    rintro ⟨⟩
    omega
  | case3 c hc =>
    have hsize := c.utf8Size_eq
    simp only [Text.byteLength_cons, Text.byteLength_nil] at heven
    simp only [scan, if_neg hc, true_iff]
    exact .wide (by omega)
  | case4 c d cs hsize n hn ih =>
    have hpair : IsPair c d := pairValue_isSome_iff.mp (Option.isSome_of_eq_some hn)
    have hrest : Text.byteLength cs % 2 = 0 := by
      simp only [Text.byteLength_cons] at heven
      omega
    simp only [scan, if_pos hsize, hn, Option.map_eq_none_iff, ih hrest]
    simp [cutsCharacter_cons_cons, hsize, hpair]
  | case5 c d cs hsize hn =>
    have hpair : ¬IsPair c d := by
      rw [← pairValue_isSome_iff, hn]
      simp
    simp only [scan, if_pos hsize, hn, reduceCtorEq, false_iff]
    simp [cutsCharacter_cons_cons, hsize, hpair]
  | case6 c d cs hsize hc =>
    have hpair : ¬IsPair c d := fun h => hsize h.utf8Size
    simp only [scan, if_neg hsize, if_pos hc, reduceCtorEq, false_iff]
    simp [cutsCharacter_cons_cons, hc, hpair]
  | case7 c d cs hsize hc =>
    have hpos := c.utf8Size_pos
    simp only [scan, if_neg hsize, if_neg hc, true_iff]
    rw [cutsCharacter_cons_cons]
    omega

theorem pairValue_pair (b : UInt8) :
    Radix.pairValue (Hexadecimal.digit (b.toNat / 16)) (Hexadecimal.digit (b.toNat % 16)) =
      some b.toNat := by
  have hb := b.toNat_lt
  have hplus : ∀ n < 16, Hexadecimal.digit n ≠ '+' := by decide
  have hsum : 16 * (b.toNat / 16) + b.toNat % 16 = b.toNat := Nat.div_add_mod _ _
  rw [Radix.pairValue, if_neg (hplus _ (by omega)), Hexadecimal.value_digit _ (by omega),
    Hexadecimal.value_digit _ (by omega)]
  simp [hsum]

/-- The decoder reads back what the encoder writes. -/
theorem scan_flatMap_pair (bytes : Bytes) :
    scan (bytes.flatMap Hexadecimal.pair) = some (.ok bytes) := by
  induction bytes with
  | nil => rfl
  | cons b bytes ih =>
    have hvalue := pairValue_pair b
    have hsize := (pairValue_isSome_iff.mp (Option.isSome_of_eq_some hvalue)).utf8Size
    rw [List.flatMap_cons, Hexadecimal.pair]
    simp only [List.cons_append, List.nil_append, scan, if_pos hsize, hvalue, ih,
      UInt8.ofNat_toNat]
    rfl

theorem decode_encode (bytes : Bytes) : (encode bytes).decode.run = some (.ok bytes) := by
  rw [decode_run, encode_text, Hexadecimal.encode, String.toList_ofList, scan_flatMap_pair]

/-- Different byte strings have different texts. -/
theorem encode_text_injective : Function.Injective fun bytes => (encode bytes).text := by
  intro bytes bytes' h
  have hhex : encode bytes = encode bytes' := congrArg Hex.mk h
  have hdec := decode_encode bytes
  rw [hhex, decode_encode] at hdec
  exact (Except.ok.inj (Option.some.inj hdec)).symm

/-- Pairs that are bytes, one after another. -/
inductive Pairs : List Char → Prop
  | nil : Pairs []
  | cons {c d : Char} {cs : List Char} (hpair : IsPair c d) (h : Pairs cs) : Pairs (c :: d :: cs)

theorem exists_scan_eq_ok_iff {cs : List Char} :
    (∃ bytes, scan cs = some (.ok bytes)) ↔ Pairs cs := by
  refine ⟨?_, fun h => ?_⟩
  · induction cs using scan.induct with
    | case1 => exact fun _ => .nil
    | case2 c hc => simp [scan, hc]
    | case3 c hc => simp [scan, hc]
    | case4 c d cs hsize n hn ih =>
      rintro ⟨bytes, hscan⟩
      simp only [scan, if_pos hsize, hn, Option.map_eq_some_iff, Except.map_eq_ok_iff] at hscan
      obtain ⟨_, hcs, bytes', rfl, rfl⟩ := hscan
      exact .cons (pairValue_isSome_iff.mp (Option.isSome_of_eq_some hn)) (ih ⟨bytes', hcs⟩)
    | case5 c d cs hsize hn => simp [scan, hsize, hn]
    | case6 c d cs hsize hc => simp [scan, hc]
    | case7 c d cs hsize hc => simp [scan, hsize, hc]
  · induction h with
    | nil => exact ⟨[], rfl⟩
    | @cons c d cs hpair _ ih =>
      obtain ⟨bytes, hcs⟩ := ih
      obtain ⟨n, hn⟩ := Option.isSome_iff_exists.mp (pairValue_isSome_iff.mpr hpair)
      exact ⟨UInt8.ofNat n :: bytes, by simp [scan, hpair.utf8Size, hn, hcs, Except.map]⟩

/-- Digits without a plus sign are read as the bytes they are written for, up to letter case. -/
theorem encode_of_scan {cs : List Char} {bytes : Bytes} (h : scan cs = some (.ok bytes))
    (hplus : '+' ∉ cs) : bytes.flatMap Hexadecimal.pair = cs.map Char.toLower := by
  induction cs using scan.induct generalizing bytes with
  | case1 =>
    cases h
    rfl
  | case2 c hc => simp [scan, hc] at h
  | case3 c hc => simp [scan, hc] at h
  | case4 c d cs hsize n hn ih =>
    simp only [scan, if_pos hsize, hn, Option.map_eq_some_iff, Except.map_eq_ok_iff] at h
    obtain ⟨_, hcs, bytes', rfl, rfl⟩ := h
    simp only [List.mem_cons, not_or] at hplus
    rw [Radix.pairValue, if_neg (Ne.symm hplus.1)] at hn
    simp only [Option.bind_eq_some_iff, Option.map_eq_some_iff] at hn
    obtain ⟨hi, hhi, lo, hlo, rfl⟩ := hn
    obtain ⟨hhi16, hc⟩ := Hexadecimal.of_value_eq_some hhi
    obtain ⟨hlo16, hd⟩ := Hexadecimal.of_value_eq_some hlo
    have hn : (UInt8.ofNat (16 * hi + lo)).toNat = 16 * hi + lo :=
      UInt8.toNat_ofNat_of_lt' (show 16 * hi + lo < 256 by omega)
    rw [List.flatMap_cons, ih hcs hplus.2.2, Hexadecimal.pair, hn,
      show (16 * hi + lo) / 16 = hi by omega, show (16 * hi + lo) % 16 = lo by omega, hc, hd]
    rfl
  | case5 c d cs hsize hn => simp [scan, hsize, hn] at h
  | case6 c d cs hsize hc => simp [scan, hc] at h
  | case7 c d cs hsize hc => simp [scan, hsize, hc] at h

/-! ## Slices -/

/-- Every slice the decoder takes is in range and on character boundaries : a slice it reaches
because all slices before it were bytes is a text. -/
def SlicesValid (h : Hex) : Prop :=
  ∀ k, 2 * k < h.text.utf8ByteSize →
    (∀ j < k, ∃ b, (window h.text (2 * j)).run = some (.ok b)) →
    (Text.slice h.text (2 * k) (2 * k + 2)).isSome

theorem slicesValid_iff {h : Hex} : h.SlicesValid ↔ h.decode.run ≠ none := by
  rw [decode_eq, Ne, ExceptT.run_mapM_eq_none_iff]
  refine ⟨?_, fun hno k hk hdone => ?_⟩
  · rintro hvalid ⟨done, x, rest, hl, hdone, hx⟩
    obtain ⟨k, hk, rfl, hrest⟩ := List.range'_eq_append_iff.mp hl
    obtain ⟨rfl, hpos, -⟩ := List.range'_eq_cons_iff.mp hrest.symm
    have hslice := hvalid k (by omega) fun j hj => hdone _ (List.mem_range'.mpr ⟨j, hj, by omega⟩)
    rw [window_run, Option.map_eq_none_iff, show 0 + k * 2 = 2 * k by omega] at hx
    simp [hx] at hslice
  · by_contra hslice
    have hx : (window h.text (0 + k * 2)).run = none := by
      rw [window_run, Option.map_eq_none_iff, show 0 + k * 2 = 2 * k by omega]
      simpa using hslice
    refine hno ⟨List.range' 0 k 2, 0 + k * 2, _, List.range'_eq_append_iff.mpr ⟨k, by omega, rfl,
      (List.range'_eq_cons_iff.mpr ⟨rfl, by omega, rfl⟩).symm⟩, fun y hy => ?_, hx⟩
    obtain ⟨j, hj, rfl⟩ := List.mem_range'.mp hy
    rw [show 0 + 2 * j = 2 * j by omega]
    exact hdone j hj

theorem fromStr_run (s : String) : (fromStr s).run =
    if s.utf8ByteSize % 2 ≠ 0 then some (.error "hex string must have even length")
    else (scan s.toList).map (Except.map fun _ => (⟨s⟩ : Hex)) := by
  unfold fromStr
  split_ifs with h
  · rfl
  · rw [← decode_run ⟨s⟩]
    show ((⟨s⟩ : Hex).decode >>= fun _ => (pure (⟨s⟩ : Hex) : ExceptT String Option Hex)).run = _
    rw [ExceptT.run_bind]
    rcases (⟨s⟩ : Hex).decode.run with _ | _ | _ <;> rfl

theorem fromStr_run_eq_ok_iff {s : String} {h : Hex} : (fromStr s).run = some (.ok h) ↔
    s.utf8ByteSize % 2 = 0 ∧ h = ⟨s⟩ ∧ ∃ bytes, scan s.toList = some (.ok bytes) := by
  rw [fromStr_run]
  split_ifs with hodd
  · simp [hodd]
  · simp only [Option.map_eq_some_iff, Except.map_eq_ok_iff]
    refine ⟨?_, ?_⟩
    · rintro ⟨_, hscan, bytes, rfl, rfl⟩
      exact ⟨by omega, rfl, bytes, hscan⟩
    · rintro ⟨-, rfl, bytes, hscan⟩
      exact ⟨_, hscan, bytes, rfl, rfl⟩

theorem Pairs.byteLength_even {cs : List Char} (h : Pairs cs) : Text.byteLength cs % 2 = 0 := by
  induction h with
  | nil => rfl
  | cons hpair _ ih =>
    rw [Text.byteLength_cons, Text.byteLength_cons, hpair.utf8Size.1, hpair.utf8Size.2]
    omega

/-- What the encoder writes is accepted. -/
theorem fromStr_encode (bytes : Bytes) :
    (fromStr (encode bytes).text).run = some (.ok (encode bytes)) := by
  have hscan : scan (encode bytes).text.toList = some (.ok bytes) :=
    (decode_run _).symm.trans (decode_encode bytes)
  have hpairs := exists_scan_eq_ok_iff.mp ⟨bytes, hscan⟩
  refine fromStr_run_eq_ok_iff.mpr ⟨?_, rfl, bytes, hscan⟩
  rw [← Text.byteLength_toList]
  exact hpairs.byteLength_even

end Hex

end TokenGen
