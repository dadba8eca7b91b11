import TokenGen.HashRecord
import TokenGen.Lib.Decimal
import TokenGen.Standard

/-!
# What a stored text says

`verify` takes any text as a stored hash, with any scrypt parameters. `StoredHash` is what such a
text can say, `StoredHash.parse` reads it and `StoredHash.render` writes it in one way, its normal
form. A SHA-256 hash has no other form (`parseSha256_eq_some_iff`); of a scrypt hash there are
many, with a plus sign or zeros in front of the numbers, and digits in either letter case.

`stored_hash_normal_form` : a text is valid for a key exactly if it says something the key
matches, so for every key verification does the same with it as with its normal form, and what the
library writes is in normal form.
-/

namespace TokenGen

/-- What a stored text says : a digest, or the parameters, the salt and the output of a scrypt
run. -/
inductive StoredHash where
  | sha256 (digest : Vector UInt8 32)
  | scrypt (n : UInt8) (r p : UInt32) (salt derived : Bytes)

namespace StoredHash

variable (lib : Crates)

/-- Recomputing from the password gives what is stored. -/
def Matches (password : Bytes) : StoredHash → Prop
  | .sha256 digest => lib.sha256 password = digest
  | .scrypt n r p salt derived => ∃ params scrypt out,
      lib.scryptParams n r p = some (.ok params) ∧
        lib.scrypt params derived.length = some scrypt ∧ scrypt password salt = .ok out ∧
          out.toList = derived

/-- What comes of recomputing from a key : whether it gives what is stored, or a panic. -/
def check (k : ApiKey) : StoredHash → Option Bool
  | .sha256 digest => some (decide (lib.sha256 (Text.bytes k.inner) = digest))
  | .scrypt n r p salt derived => k.checkDerived lib n r p salt derived

/-- The normal form. -/
def render : StoredHash → String
  | .sha256 digest => "sha256:" ++ lib.hex.encode digest.toList
  | .scrypt n r p salt derived => "scrypt:" ++ Text.join ':' [Radix.decimal n.toNat,
      Radix.decimal r.toNat, Radix.decimal p.toNat, lib.hex.encode salt, lib.hex.encode derived]

/-- A digest, in lowercase digits. -/
def parseSha256 (s : String) : Option StoredHash := do
  let digest ← (lib.hex.decode s).toOption
  if h : digest.length = 32 then
    if lib.hex.encode digest = s then some (.sha256 ⟨digest.toArray, h⟩) else none
  else none

/-- Three numbers and two byte strings between colons. -/
def parseScrypt (s : String) : Option StoredHash :=
  match Text.split ':' s with
  | [n, r, p, salt, derived] => do
    let n ← (Radix.parseU8 n).toOption
    let r ← (Radix.parseU32 r).toOption
    let p ← (Radix.parseU32 p).toOption
    let salt ← (lib.hex.decode salt).toOption
    let derived ← (lib.hex.decode derived).toOption
    return .scrypt n r p salt derived
  | _ => none

/-- What a text says, if anything. -/
def parse (s : String) : Option StoredHash :=
  match Text.stripPrefix "sha256:" s with
  | some t => parseSha256 lib t
  | none => (Text.stripPrefix "scrypt:" s).bind (parseScrypt lib)

/-- The salt in a stored text. -/
def salt (s : String) : Option Bytes :=
  match parse lib s with
  | some (.scrypt _ _ _ salt _) => some salt
  | _ => none

variable {lib}

theorem parse_sha256 (t : String) : parse lib ("sha256:" ++ t) = parseSha256 lib t := by
  rw [parse, Text.stripPrefix_append]

theorem parse_scrypt (t : String) : parse lib ("scrypt:" ++ t) = parseScrypt lib t := by
  have hnone := Text.stripPrefix_eq_none_iff.mpr (ApiKey.scryptText_ne t)
  simp only [parse, hnone, Text.stripPrefix_append, Option.bind_some]

/-! ## Reading -/

/-- A digest has one text. -/
theorem parseSha256_eq_some_iff (hhex : lib.HexLawful) {t : String} {h : StoredHash} :
    parseSha256 lib t = some h ↔
      ∃ digest : Vector UInt8 32, h = .sha256 digest ∧ t = lib.hex.encode digest.toList := by
  simp only [parseSha256, Option.bind_eq_bind, Option.bind_eq_some_iff,
    Except.toOption_eq_some_iff]
  refine ⟨?_, ?_⟩
  · rintro ⟨digest, -, hparse⟩
    split_ifs at hparse with hlen hencode
    obtain rfl := Option.some.inj hparse
    exact ⟨_, rfl, hencode.symm⟩
  · rintro ⟨digest, rfl, rfl⟩
    refine ⟨digest.toList, hhex.decodes digest.toList, ?_⟩
    rw [dif_pos digest.length_toList, if_pos rfl]
    rfl

theorem parseScrypt_eq_some_iff {t : String} {h : StoredHash} : parseScrypt lib t = some h ↔
    ∃ p₀ p₁ p₂ p₃ p₄, Text.split ':' t = [p₀, p₁, p₂, p₃, p₄] ∧
      ∃ n r p salt derived, Radix.parseU8 p₀ = .ok n ∧ Radix.parseU32 p₁ = .ok r ∧
        Radix.parseU32 p₂ = .ok p ∧ lib.hex.decode p₃ = .ok salt ∧
        lib.hex.decode p₄ = .ok derived ∧ h = .scrypt n r p salt derived := by
  unfold parseScrypt
  split
  · rename_i p₀ p₁ p₂ p₃ p₄ hs
    simp only [Option.bind_eq_bind, Option.bind_eq_some_iff, Except.toOption_eq_some_iff]
    refine ⟨?_, ?_⟩
    · rintro ⟨n, hn, r, hr, p, hp, salt, hsalt, derived, hderived, hh⟩
      exact ⟨p₀, p₁, p₂, p₃, p₄, hs, n, r, p, salt, derived, hn, hr, hp, hsalt, hderived,
        (Option.some.inj hh).symm⟩
    · rintro ⟨_, _, _, _, _, hs', n, r, p, salt, derived, hn, hr, hp, hsalt, hderived, rfl⟩
      simp only [hs, List.cons.injEq, and_true] at hs'
      obtain ⟨rfl, rfl, rfl, rfl, rfl⟩ := hs'
      exact ⟨n, hn, r, hr, p, hp, salt, hsalt, derived, hderived, rfl⟩
  · rename_i hs
    simp only [reduceCtorEq, false_iff]
    rintro ⟨p₀, p₁, p₂, p₃, p₄, h', -⟩
    exact hs _ _ _ _ _ h'

theorem check_eq_some_true_iff {k : ApiKey} {h : StoredHash} :
    h.check lib k = some true ↔ h.Matches lib (Text.bytes k.inner) := by
  cases h with
  | sha256 digest => simp [check, Matches]
  | scrypt n r p salt derived => exact ApiKey.checkDerived_eq_some_true_iff

/-- A text that says something is checked against it. -/
theorem verify_of_parse (hhex : lib.HexLawful) {s : String} {h : StoredHash}
    (hparse : parse lib s = some h) (k : ApiKey) : k.verify lib s = h.check lib k := by
  by_cases hsha : ∃ t, s = "sha256:" ++ t
  · obtain ⟨t, rfl⟩ := hsha
    rw [parse_sha256] at hparse
    obtain ⟨digest, rfl, rfl⟩ := (parseSha256_eq_some_iff hhex).mp hparse
    rw [ApiKey.verify_sha256, check, Option.some.injEq, decide_eq_decide, ApiKey.hashSha256,
      String.append_right_inj, hhex.decodes.encode_injective.eq_iff, Vector.toList_inj]
  · by_cases hscrypt : ∃ t, s = "scrypt:" ++ t
    · obtain ⟨t, rfl⟩ := hscrypt
      rw [parse_scrypt] at hparse
      obtain ⟨p₀, p₁, p₂, p₃, p₄, hs, n, r, p, salt, derived, hn, hr, hp, hsalt, hderived, rfl⟩ :=
        parseScrypt_eq_some_iff.mp hparse
      rw [ApiKey.verify_scrypt, ApiKey.verifyScrypt_of_split hs hn hr hp hsalt hderived, check]
    · rw [parse, Text.stripPrefix_eq_none_iff.mpr (not_exists.mp hsha),
        Text.stripPrefix_eq_none_iff.mpr (not_exists.mp hscrypt)] at hparse
      cases hparse

/-- A text that says nothing is valid for no key. -/
theorem verify_of_parse_eq_none (hhex : lib.HexLawful) {s : String} (hparse : parse lib s = none)
    (k : ApiKey) : k.verify lib s = some false := by
  by_cases hsha : ∃ t, s = "sha256:" ++ t
  · obtain ⟨t, rfl⟩ := hsha
    rw [ApiKey.verify_sha256, Option.some.injEq, decide_eq_false_iff_not, ApiKey.hashSha256,
      String.append_right_inj]
    rintro rfl
    have hsome := (parseSha256_eq_some_iff hhex).mpr ⟨lib.sha256 (Text.bytes k.inner), rfl, rfl⟩
    rw [parse_sha256, hsome] at hparse
    cases hparse
  · by_cases hscrypt : ∃ t, s = "scrypt:" ++ t
    · obtain ⟨t, rfl⟩ := hscrypt
      rw [ApiKey.verify_scrypt, ApiKey.verifyScrypt_eq_false]
      rintro ⟨p₀, p₁, p₂, p₃, p₄, hs, n, r, p, salt, derived, hn, hr, hp, hsalt, hderived⟩
      rw [parse_scrypt, parseScrypt_eq_some_iff.mpr ⟨p₀, p₁, p₂, p₃, p₄, hs, n, r, p, salt,
        derived, hn, hr, hp, hsalt, hderived, rfl⟩] at hparse
      cases hparse
    · exact ApiKey.verify_eq_false (not_exists.mp hsha) (not_exists.mp hscrypt)

/-! ## Normal forms -/

/-- The normal form says what it was written for. -/
theorem parse_render (hhex : lib.HexLawful) (h : StoredHash) :
    parse lib (h.render lib) = some h := by
  cases h with
  | sha256 digest =>
    rw [render, parse_sha256]
    exact (parseSha256_eq_some_iff hhex).mpr ⟨digest, rfl, rfl⟩
  | scrypt n r p salt derived =>
    rw [render, parse_scrypt, parseScrypt_eq_some_iff]
    refine ⟨_, _, _, _, _, Text.split_join (by simp) ?_, n, r, p, salt, derived,
      Radix.parseU8_decimal n, Radix.parseU32_decimal r, Radix.parseU32_decimal p,
      hhex.decodes salt, hhex.decodes derived, rfl⟩
    have hcolon : ∀ n, ':' ∉ (Radix.decimal n).toList := fun n => Radix.not_mem_decimal (by decide)
    simp [hcolon, HashRecord.not_mem_encode hhex]

end StoredHash

/-- A record of the library, as what it says. -/
def HashRecord.toStoredHash : HashRecord → StoredHash
  | .sha256 digest => .sha256 digest
  | .scrypt salt derived => .scrypt 14 8 1 salt.toList derived.toList

/-- The library writes normal forms. -/
theorem HashRecord.render_toStoredHash {lib : Crates} (r : HashRecord) :
    r.toStoredHash.render lib = r.render lib := by
  cases r with
  | sha256 digest => rfl
  | scrypt salt derived =>
    have h14 : Radix.decimal 14 = "14" := by decide
    have h8 : Radix.decimal 8 = "8" := by decide
    have h1 : Radix.decimal 1 = "1" := by decide
    apply String.toList_injective
    simp [toStoredHash, StoredHash.render, h14, h8, h1, HashRecord.render, scryptHead]

theorem HashRecord.parse_render {lib : Crates} (hhex : lib.HexLawful) (r : HashRecord) :
    StoredHash.parse lib (r.render lib) = some r.toStoredHash := by
  rw [← r.render_toStoredHash]
  exact r.toStoredHash.parse_render hhex

/-- Every text says nothing and is valid for no key, or it says something and has a normal form
that says the same, and then for every key verification does the same with both and finds them
valid exactly if the key matches what they say. The hashes the library writes are in normal form. -/
theorem stored_hash_normal_form {lib : Crates} (hhex : lib.HexLawful) :
    (∀ s, (StoredHash.parse lib s = none ∧ ∀ k : ApiKey, k.verify lib s = some false) ∨
      ∃ h, StoredHash.parse lib s = some h ∧ StoredHash.parse lib (h.render lib) = some h ∧
        ∀ k : ApiKey, k.verify lib s = k.verify lib (h.render lib) ∧
          (k.verify lib s = some true ↔ h.Matches lib (Text.bytes k.inner))) ∧
    ∀ (k : ApiKey) (algorithm : HashAlgorithm) (os : SysRng) (text : String) (os' : SysRng),
      (k.hash lib algorithm).run os = .ok text os' →
        ∃ h, StoredHash.parse lib text = some h ∧ text = h.render lib ∧
          h.Matches lib (Text.bytes k.inner) := by
  refine ⟨fun s => ?_, fun k algorithm os text os' hhash => ?_⟩
  · cases hparse : StoredHash.parse lib s with
    | none => exact Or.inl ⟨rfl, StoredHash.verify_of_parse_eq_none hhex hparse⟩
    | some h =>
      have hrender := h.parse_render hhex
      refine Or.inr ⟨h, rfl, hrender, fun k => ?_⟩
      rw [StoredHash.verify_of_parse hhex hparse, StoredHash.verify_of_parse hhex hrender]
      exact ⟨rfl, StoredHash.check_eq_some_true_iff⟩
  · obtain ⟨r, rfl, -, hmatches⟩ := HashRecord.exists_of_hash hhash
    have hparse := r.parse_render hhex
    refine ⟨r.toStoredHash, hparse, r.render_toStoredHash.symm, ?_⟩
    rw [← StoredHash.check_eq_some_true_iff, ← StoredHash.verify_of_parse hhex hparse]
    exact (HashRecord.verify_render_iff hhex r).mpr hmatches

/-- Signs, zeros and capital letters that the normal form does without. -/
theorem stored_hash_normal_form_standard : ∃ k : ApiKey, k.asStr = "k" ∧
    k.verify Crates.standard "scrypt:+14:08:1:AB:cd" =
      k.verify Crates.standard "scrypt:14:8:1:ab:cd" := by
  refine ⟨⟨"k", by decide⟩, rfl, ?_⟩
  have hparse : StoredHash.parse Crates.standard "scrypt:+14:08:1:AB:cd" =
      some (.scrypt 14 8 1 [0xab] [0xcd]) := rfl
  rcases (stored_hash_normal_form Crates.standard_hexLawful).1 "scrypt:+14:08:1:AB:cd" with
    ⟨hnone, -⟩ | ⟨h, hh, -, hverify⟩
  · cases hparse.symm.trans hnone
  · obtain rfl := Option.some.inj (hparse.symm.trans hh)
    exact (hverify _).1

end TokenGen
