import TokenGen.Auth
import TokenGen.Lib.Scrypt

/-!
# The crates as published standards

`Crates.standard` is an implementation of every third-party function from its standard :
Base64 and hexadecimal text (RFC 4648), SHA-256 (FIPS 180-4), HMAC (RFC 2104), scrypt
(RFC 7914), compact JSON. Its scrypt panics where a work area would be larger than any buffer.
It satisfies every law `Crates` states, so no result about lawful crates is about nothing.
`SysRng.zeros`, a random source that never fails, `SecretKey.zeros` and
`SystemTime.epoch` serve the same purpose.
-/

namespace TokenGen

namespace Crates

/-- `scrypt::Params::new`, on 64-bit words. -/
def standardParams (logN : UInt8) (r p : UInt32) : Option (Except String ScryptParams) :=
  if 0 < r ∧ 0 < p ∧ logN < 64 ∧ 128 * r.toNat * 2 ^ logN.toNat < 2 ^ 64 ∧
      128 * r.toNat * p.toNat < 2 ^ 64 ∧ r.toNat * p.toNat < 2 ^ 30 then
    some (.ok ⟨logN, r, p⟩)
  else some (.error "invalid scrypt parameters")

/-- The widths `scrypt::scrypt` derives. -/
def OutputLen (n : ℕ) : Prop :=
  0 < n ∧ n / 32 < 2 ^ 32

instance (n : ℕ) : Decidable (OutputLen n) :=
  inferInstanceAs (Decidable (_ ∧ _))

/-- The work areas of scrypt, `128 r p` and `128 r N` bytes, can be allocated. -/
def Fits (params : ScryptParams) : Prop :=
  128 * params.r.toNat * params.p.toNat ≤ isizeMax ∧
    128 * params.r.toNat * 2 ^ params.logN.toNat ≤ isizeMax

instance (params : ScryptParams) : Decidable (Fits params) :=
  inferInstanceAs (Decidable (_ ∧ _))

/-- `scrypt::scrypt`. -/
def standardScrypt (params : ScryptParams) (n : ℕ) :
    Option (Bytes → Bytes → Except String (Vector UInt8 n)) :=
  if ¬OutputLen n then some fun _ _ => .error "invalid output buffer length"
  else if ¬Fits params then none
  else some fun password salt =>
    .ok (Scrypt.scrypt password salt params.logN.toNat params.r.toNat params.p.toNat n)

/-- Every function from its standard. -/
def standard : Crates where
  base64 := Base64.codec
  hex := Hexadecimal.codec
  sha256 := Sha256.digest
  hmacSha256 := Sha256.hash.hmac
  ctEq a b := decide (a = b)
  ctEq_iff := decide_eq_true_iff
  scryptParams := standardParams
  scrypt := standardScrypt
  toJson := Json.render

theorem standard_base64Lawful : standard.Base64Lawful where
  decodes := Base64.codec_decodes
  alphabet _ _ hc := Base64.mem_alphabet_of_mem_encode hc
  encode_nil := rfl

theorem standard_base64Strict : standard.Base64Strict :=
  Base64.codec_strict

theorem standard_hexLawful : standard.HexLawful where
  encode_eq _ := rfl
  decodes := Hexadecimal.codec_decodes
  odd _ hs := ⟨_, Hexadecimal.decode_of_odd hs⟩

theorem shaHash_standard : standard.shaHash = Sha256.hash :=
  rfl

theorem standard_hmacRfc2104 : standard.HmacRfc2104 :=
  fun _ _ => rfl

theorem standardParams_default : standardParams 14 8 1 = some (.ok ⟨14, 8, 1⟩) :=
  if_pos (by decide)

theorem standardScrypt_zero (params : ScryptParams) :
    standardScrypt params 0 = some fun _ _ => .error "invalid output buffer length" :=
  if_pos (by decide)

theorem outputLen_of_le {n : ℕ} (hpos : 0 < n) (hn : n ≤ 32) : OutputLen n :=
  ⟨hpos, by omega⟩

theorem standardScrypt_of_fits {params : ScryptParams} (hfits : Fits params) {n : ℕ}
    (hn : OutputLen n) : standardScrypt params n = some fun password salt =>
      .ok (Scrypt.scrypt password salt params.logN.toNat params.r.toNat params.p.toNat n) := by
  rw [standardScrypt, if_neg (not_not.mpr hn), if_neg (not_not.mpr hfits)]

theorem fits_of_standardScrypt {params : ScryptParams} {n : ℕ} (hn : OutputLen n)
    {scrypt : Bytes → Bytes → Except String (Vector UInt8 n)}
    (h : standardScrypt params n = some scrypt) : Fits params := by
  by_contra hfits
  rw [standardScrypt, if_neg (not_not.mpr hn), if_pos hfits] at h
  cases h

theorem standard_scryptRfc7914 : standard.ScryptRfc7914 := by
  intro params n scrypt h password salt
  rw [shaHash_standard]
  by_cases hn : OutputLen n
  · have hfits := fits_of_standardScrypt hn h
    obtain rfl := Option.some.inj ((standardScrypt_of_fits hfits hn).symm.trans h)
    have hblock := (BlockHash.keyBlock_keyBlock (H := Sha256.hash) password).symm
    simp only [Scrypt.scrypt_congr hblock]
  · obtain rfl := Option.some.inj ((if_pos hn).symm.trans h)
    rfl

theorem standard_scryptOutput : standard.ScryptOutput where
  returns {params scrypt} h n hn := by
    have hfits := fits_of_standardScrypt (outputLen_of_le (by omega) le_rfl) h
    rcases Nat.eq_zero_or_pos n with rfl | hpos
    · exact ⟨_, standardScrypt_zero params⟩
    · exact ⟨_, standardScrypt_of_fits hfits (outputLen_of_le hpos hn)⟩
  reject_empty {params scrypt} h password salt := by
    obtain rfl := Option.some.inj ((standardScrypt_zero params).symm.trans h)
    exact ⟨_, rfl⟩
  take {params scrypt n short} h hshort hpos hn password salt out hout := by
    have h32 : OutputLen 32 := outputLen_of_le (by omega) le_rfl
    have hfits := fits_of_standardScrypt h32 h
    obtain rfl := Option.some.inj ((standardScrypt_of_fits hfits h32).symm.trans h)
    obtain rfl := Option.some.inj
      ((standardScrypt_of_fits hfits (outputLen_of_le hpos hn)).symm.trans hshort)
    obtain rfl := Except.ok.inj hout
    exact ⟨_, rfl, Scrypt.take_scrypt password salt _ _ _ hpos hn⟩

theorem fits_default : Fits ⟨14, 8, 1⟩ := by
  decide

theorem standard_scryptAccepts : standard.ScryptAccepts :=
  ⟨_, _, standardParams_default,
    standardScrypt_of_fits fits_default (outputLen_of_le (by omega) le_rfl),
    fun _ _ => ⟨_, rfl⟩⟩

theorem standard_jsonLawful : standard.JsonLawful where
  bool _ := rfl
  str {s} h := by
    refine Json.quote_eq fun c hc => ?_
    have hgraphic := List.all_eq_true.mp h c hc
    rw [isGraphic, decide_eq_true_iff] at hgraphic
    exact ⟨hgraphic.1.le, hgraphic.2⟩
  arr items := by
    show Json.render _ = _
    rw [Json.render, Json.renderItems_eq]
    rfl
  obj fields := by
    show Json.render _ = _
    rw [Json.render, Json.renderFields_eq]
    rfl
  line := Json.newline_not_mem_render

end Crates

/-- The random source that answers every request with zero bytes. -/
def SysRng.zeros : SysRng :=
  ⟨Stream'.const fun n => .ok (Vector.replicate n 0)⟩

theorem SysRng.zeros_answer (n : ℕ) : zeros.answer n = .ok (Vector.replicate n 0) :=
  rfl

/-- The key of sixteen zero bytes. -/
def SecretKey.zeros : SecretKey :=
  ⟨List.replicate 16 0, by decide⟩

/-- The Unix epoch. -/
def SystemTime.epoch : SystemTime :=
  .sinceEpoch (Duration.fromSecs 0)

/-- The fields of the CSRF token that is issued for the session `a` at the epoch. -/
def Wire.inSessionA : Wire :=
  Wire.sign (Crates.standard.hmacSha256 SecretKey.zeros.bytes) 0 (List.replicate 16 0)
    (Text.bytes "a")

theorem generate_inSessionA :
    (CsrfTokenBuilder.generate Crates.standard ⟨16, some SecretKey.zeros, some "a"⟩
      SystemTime.epoch).run SysRng.zeros =
        .ok (CsrfToken.ofWire Crates.standard Wire.inSessionA) SysRng.zeros.next := by
  rw [SystemTime.epoch, CsrfTokenBuilder.generate_run_ok Crates.standard _ _ _ drawable_sixteen
    (SysRng.zeros_answer 16), Vector.toList_replicate]
  rfl

theorem parse_inSessionA :
    Wire.parse Crates.standard (Wire.inSessionA.render Crates.standard) = some Wire.inSessionA :=
  Wire.parse_render Crates.standard_base64Lawful _

/-- A builder of tokens that expire after a minute. -/
def AuthTokenBuilder.minute : AuthTokenBuilder :=
  ⟨16, .hex, some (Duration.fromSecs 60), some SecretKey.zeros⟩

/-- The fields of the token it issues at the epoch. -/
def Wire.minute : Wire :=
  Wire.sign (Crates.standard.hmacSha256 SecretKey.zeros.bytes) 60 (List.replicate 16 0) []

theorem generate_minute :
    (AuthTokenBuilder.minute.generate Crates.standard SystemTime.epoch).run SysRng.zeros =
      .ok (AuthToken.ofWire Crates.standard Wire.minute) SysRng.zeros.next := by
  have hsum : U64.checkedAdd (Duration.fromSecs 0).secs (Duration.fromSecs 60).secs =
      some 60 := by
    decide
  rw [SystemTime.epoch, AuthTokenBuilder.minute, AuthTokenBuilder.generate_run_expiring_ok
    Crates.standard _ _ hsum drawable_sixteen (SysRng.zeros_answer 16), Vector.toList_replicate]
  rfl

end TokenGen
