import TokenGen.Lib.Hexadecimal

/-!
# Reading unsigned numbers (`from_str_radix`, `str::parse`)

An optional plus sign and then digits of the radix, at least one. The value is built up
digit by digit and must stay below the bound of the integer type at each of them.

`fromStrRadix_pair` : two characters are a byte in radix 16 when the second is a digit and
the first is a digit or the sign.
-/

namespace Radix

/-- Why a text is not a number of the type (`ParseIntError`). -/
inductive ParseError where
  | empty
  | invalidDigit
  | posOverflow
  deriving DecidableEq

/-- The displayed text of the error. -/
def ParseError.display : ParseError → String
  | .empty => "cannot parse integer from empty string"
  | .invalidDigit => "invalid digit found in string"
  | .posOverflow => "number too large to fit in target type"

/-- The value of a digit, in either letter case (`char::to_digit`). -/
def toDigit (radix : ℕ) (c : Char) : Option ℕ :=
  let value :=
    if '0' ≤ c ∧ c ≤ '9' then some (c.toNat - '0'.toNat)
    else if 'a' ≤ c ∧ c ≤ 'z' then some (c.toNat - 'a'.toNat + 10)
    else if 'A' ≤ c ∧ c ≤ 'Z' then some (c.toNat - 'A'.toNat + 10)
    else none
  value.filter (· < radix)

/-- The value of digits after a number `n` already read. -/
def readDigits (radix bound : ℕ) : ℕ → List Char → Except ParseError ℕ
  | n, [] => .ok n
  | n, c :: cs =>
    match toDigit radix c with
    | none => .error .invalidDigit
    | some d =>
      if n * radix + d < bound then readDigits radix bound (n * radix + d) cs
      else .error .posOverflow

/-- `from_str_radix` of an unsigned type with values below `bound`. -/
def fromStrRadix (radix bound : ℕ) (s : String) : Except ParseError ℕ :=
  match s.toList with
  | [] => .error .empty
  | ['+'] => .error .invalidDigit
  | '+' :: cs => readDigits radix bound 0 cs
  | cs => readDigits radix bound 0 cs

/-- `u8::from_str_radix`. -/
def u8FromStrRadix (radix : ℕ) (s : String) : Except ParseError UInt8 :=
  (fromStrRadix radix 256 s).map UInt8.ofNat

/-- `parse::<u8>`. -/
def parseU8 (s : String) : Except ParseError UInt8 :=
  (fromStrRadix 10 256 s).map UInt8.ofNat

/-- `parse::<u32>`. -/
def parseU32 (s : String) : Except ParseError UInt32 :=
  (fromStrRadix 10 4294967296 s).map UInt32.ofNat

example : parseU8 "+014" = .ok 14 ∧ parseU8 "256" = .error .posOverflow ∧
    parseU8 "-1" = .error .invalidDigit := by decide

/-! ## Radix 16 -/

theorem toDigit_of_not_ascii {radix : ℕ} {c : Char} (h : 128 ≤ c.toNat) :
    toDigit radix c = none := by
  have hle : ∀ d : Char, d.toNat < 128 → ¬c ≤ d := by
    intro d hd hcd
    have : c.toNat ≤ d.toNat := hcd
    omega
  simp [toDigit, hle '9' (by decide), hle 'z' (by decide), hle 'Z' (by decide)]

theorem forall_ascii {P : Char → Prop} (h : ∀ n < 128, P (Char.ofNat n)) {c : Char}
    (hc : c.toNat < 128) : P c := by
  have := h c.toNat hc
  rwa [Char.ofNat_toNat] at this

theorem toDigit_sixteen (c : Char) : toDigit 16 c = Hexadecimal.value c := by
  rcases Nat.lt_or_ge c.toNat 128 with hc | hc
  · exact forall_ascii (P := fun c => toDigit 16 c = Hexadecimal.value c) (by decide) hc
  · rw [toDigit_of_not_ascii hc, Hexadecimal.value_of_not_ascii hc]

/-- The value of two characters : a digit, or a plus sign for `0`, and a digit. -/
def pairValue (c d : Char) : Option ℕ :=
  (if c = '+' then some 0 else Hexadecimal.value c).bind fun hi =>
    (Hexadecimal.value d).map (16 * hi + ·)

theorem fromStrRadix_of_ne_plus {radix bound : ℕ} {c : Char} (hc : c ≠ '+') (cs : List Char) :
    fromStrRadix radix bound (String.ofList (c :: cs)) = readDigits radix bound 0 (c :: cs) := by
  unfold fromStrRadix
  rw [String.toList_ofList]
  split <;> simp_all

theorem readDigits_singleton {n : ℕ} (hn : n < 16) (d : Char) :
    readDigits 16 256 n [d] =
      ((Hexadecimal.value d).map (16 * n + ·)).elim (.error .invalidDigit) .ok := by
  rw [readDigits, toDigit_sixteen]
  cases h : Hexadecimal.value d with
  | none => rfl
  | some lo =>
    have hlo := (Hexadecimal.of_value_eq_some h).1
    simp only [if_pos (show n * 16 + lo < 256 by omega), readDigits, Option.map_some,
      Option.elim_some, Nat.mul_comm]

theorem fromStrRadix_singleton (c : Char) : fromStrRadix 16 256 (String.ofList [c]) =
    (Hexadecimal.value c).elim (.error .invalidDigit) .ok := by
  by_cases hc : c = '+'
  · subst hc
    decide
  · rw [fromStrRadix_of_ne_plus hc, readDigits_singleton (by decide)]
    cases Hexadecimal.value c <;> simp

theorem fromStrRadix_pair (c d : Char) : fromStrRadix 16 256 (String.ofList [c, d]) =
    (pairValue c d).elim (.error .invalidDigit) .ok := by
  by_cases hc : c = '+'
  · subst hc
    simp only [fromStrRadix, String.toList_ofList, pairValue, if_true]
    exact readDigits_singleton (by decide) d
  · rw [fromStrRadix_of_ne_plus hc, readDigits, toDigit_sixteen, pairValue, if_neg hc]
    cases h : Hexadecimal.value c with
    | none => rfl
    | some hi =>
      have hhi := (Hexadecimal.of_value_eq_some h).1
      simp only [if_pos (show 0 * 16 + hi < 256 by omega), Option.bind_some]
      rw [readDigits_singleton (by omega)]
      simp

end Radix
