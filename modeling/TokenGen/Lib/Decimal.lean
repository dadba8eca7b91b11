import TokenGen.Lib.Radix

/-!
# Writing unsigned numbers

`Radix.decimal` writes a number in decimal digits, without a sign and without leading zeros. A
text may be read as a number in more ways than it is written, and what is written is read back
(`Radix.parseU8_decimal`, `Radix.parseU32_decimal`).
-/

namespace Radix

/-- The decimal digits of a number. -/
def decimal (n : ℕ) : String :=
  String.ofList (Nat.toDigits 10 n)

theorem isDigit_of_mem_decimal {n : ℕ} {c : Char} (h : c ∈ (decimal n).toList) :
    c.isDigit = true := by
  rw [decimal, String.toList_ofList] at h
  exact Nat.isDigit_of_mem_toDigits (by decide) (by decide) h

/-- A character that is no digit is not written. -/
theorem not_mem_decimal {n : ℕ} {c : Char} (hc : c.isDigit = false) : c ∉ (decimal n).toList := by
  intro h
  rw [isDigit_of_mem_decimal h] at hc
  cases hc

theorem toDigit_digitChar : ∀ d < 10, toDigit 10 d.digitChar = some d := by
  decide

/-- Reading in two steps. -/
theorem readDigits_append {radix bound n m : ℕ} {cs : List Char}
    (h : readDigits radix bound n cs = .ok m) (ds : List Char) :
    readDigits radix bound n (cs ++ ds) = readDigits radix bound m ds := by
  induction cs generalizing n with
  | nil =>
    obtain rfl := Except.ok.inj h
    rfl
  | cons c cs ih =>
    rw [readDigits] at h
    rw [List.cons_append, readDigits]
    split at h
    · cases h
    · split_ifs at h ⊢
      exact ih h

theorem readDigits_digit {bound d : ℕ} (n : ℕ) (hd : d < 10) (hn : n * 10 + d < bound) :
    readDigits 10 bound n [d.digitChar] = .ok (n * 10 + d) := by
  simp only [readDigits, toDigit_digitChar d hd, if_pos hn]

/-- By induction on the number of digits : the last one is the remainder, the others are those of
the quotient. -/
theorem readDigits_toDigits {bound n : ℕ} (hn : n < bound) :
    readDigits 10 bound 0 (Nat.toDigits 10 n) = .ok n := by
  induction n using Nat.strongRecOn with
  | ind n ih =>
    rw [Nat.toDigits_eq_if (by decide)]
    split_ifs with hlt
    · have hlt' : 0 * 10 + n < bound := by omega
      have hdigit := readDigits_digit 0 hlt hlt'
      rwa [Nat.zero_mul, Nat.zero_add] at hdigit
    · have hquotient := ih (n / 10) (by omega) (by omega)
      have hn' : n / 10 * 10 + n % 10 < bound := by omega
      have hlast := readDigits_digit (n / 10) (Nat.mod_lt n (by decide)) hn'
      rw [readDigits_append hquotient, hlast, Nat.div_add_mod']

/-- What is written is read back, if it is below the bound of the type. -/
theorem fromStrRadix_decimal {bound n : ℕ} (hn : n < bound) :
    fromStrRadix 10 bound (decimal n) = .ok n := by
  have hread := readDigits_toDigits hn
  have hplus : '+' ∉ (decimal n).toList := not_mem_decimal (by decide)
  rw [decimal, String.toList_ofList] at hplus
  rw [decimal]
  cases hdigits : Nat.toDigits 10 n with
  | nil => exact absurd hdigits Nat.toDigits_ne_nil
  | cons c cs =>
    rw [hdigits] at hread hplus
    rw [fromStrRadix_of_ne_plus fun hc => hplus (hc ▸ List.mem_cons_self), hread]

theorem parseU8_decimal (n : UInt8) : parseU8 (decimal n.toNat) = .ok n := by
  rw [parseU8, fromStrRadix_decimal n.toNat_lt]
  simp [Except.map]

theorem parseU32_decimal (n : UInt32) : parseU32 (decimal n.toNat) = .ok n := by
  rw [parseU32, fromStrRadix_decimal n.toNat_lt]
  simp [Except.map]

end Radix
