import TokenGen.Auth
import TokenGen.Standard

/-!
# Tokens under another secret

A token is rejected under a secret other than the one it was issued with, as far as HMAC
tells the two apart. It does not always : HMAC fills a short key up with zero bytes and
digests a long one first, so two secrets can have one key block.
`secret_isolated_iff` : inside its window, a token of either type is rejected under another
secret, up to a collision of SHA-256 inside the two HMAC computations, exactly when the key
blocks differ, or both secrets are longer than a block.
-/

namespace TokenGen

variable {lib : Crates}

/-- HMAC-SHA256 tells two keys apart : their key blocks differ, or both are digested. -/
def KeysSeparated (lib : Crates) (key key' : Bytes) : Prop :=
  lib.shaHash.keyBlock key ≠ lib.shaHash.keyBlock key' ∨ (64 < key.length ∧ 64 < key'.length)

/-- A token signed under one key is not signed under another, up to a collision of SHA-256,
exactly when HMAC tells the keys apart. -/
theorem Wire.not_signed_or_collision_iff (hrfc : lib.HmacRfc2104) {key key' x : Bytes}
    (hne : key ≠ key') {w : Wire} (h : w.Signed (lib.hmacSha256 key) x) :
    ¬w.Signed (lib.hmacSha256 key') x ∨
        lib.shaHash.HmacCollision key (w.message x) key' (w.message x) ↔
      KeysSeparated lib key key' := by
  have hsigned : w.Signed (lib.hmacSha256 key') x ↔
      lib.shaHash.hmac key (w.message x) = lib.shaHash.hmac key' (w.message x) := by
    rw [Wire.Signed, h, Vector.toList_inj, hrfc, hrfc]
    rfl
  rw [hsigned]
  exact BlockHash.hmac_separates_iff hne (w.message x)

/-- Inside its window, an issued token of either type is rejected under another secret, up to
a collision of SHA-256, exactly when HMAC tells the secrets apart. -/
theorem secret_isolated_iff (hlib : lib.Base64Lawful) (hrfc : lib.HmacRfc2104)
    {secret secret' : SecretKey} (hne : secret.bytes ≠ secret'.bytes) :
    (∀ (b : AuthTokenBuilder) (duration : Duration) (issuedAt : SystemTime) (os os' : SysRng)
        (a : AuthToken), b.expiresIn = some duration → b.secretKey = some secret →
      (b.generate lib issuedAt).run os = .ok a os' →
      ∃ issued, Wire.parse lib a.asStr = some issued ∧
        ∀ now, AuthToken.Unexpired now issued.timestamp →
          (¬(a.verify lib now secret').isOk ∨ lib.shaHash.HmacCollision secret.bytes
              (issued.message []) secret'.bytes (issued.message []) ↔
            KeysSeparated lib secret.bytes secret'.bytes)) ∧
    ∀ (b : CsrfTokenBuilder) (sessionId : String) (issuedAt : SystemTime) (os os' : SysRng)
        (c : CsrfToken), b.sessionId = some sessionId → b.secretKey = some secret →
      (b.generate lib issuedAt).run os = .ok c os' →
      ∀ now maxAgeSecs, CsrfToken.Fresh now c.timestamp maxAgeSecs →
        (¬(c.verify lib now secret' sessionId maxAgeSecs).isOk ∨
            lib.shaHash.HmacCollision secret.bytes (c.toWire.message (Text.bytes sessionId))
              secret'.bytes (c.toWire.message (Text.bytes sessionId)) ↔
          KeysSeparated lib secret.bytes secret'.bytes) := by
  refine ⟨?_, ?_⟩
  · rintro ⟨length, format, _, _⟩ duration issuedAt os os' a rfl rfl ha
    obtain ⟨w, rfl, hw⟩ := AuthTokenBuilder.exists_wire_of_generate ha
    have hparse := Wire.parse_render hlib w
    refine ⟨w, hparse, fun now hnow => ?_⟩
    have hok : ((AuthToken.ofWire lib w).verify lib now secret').isOk ↔
        w.Signed (lib.hmacSha256 secret'.bytes) [] := by
      rw [AuthToken.isOk_verify_iff, AuthToken.ofWire]
      simp [hparse, hnow]
    rw [hok]
    exact Wire.not_signed_or_collision_iff hrfc hne hw
  · rintro ⟨length, _, _⟩ sessionId issuedAt os os' c rfl rfl hc now maxAgeSecs hfresh
    obtain ⟨w, rfl, hw⟩ := CsrfTokenBuilder.exists_wire_of_generate hc
    rw [CsrfToken.isOk_verify_iff, CsrfToken.toWire_ofWire, and_iff_right hfresh]
    exact Wire.not_signed_or_collision_iff hrfc hne hw

/-- A token issued under sixteen zero bytes, for the empty session id. -/
theorem exists_issued_zeros : ∃ (w : Wire) (os' : SysRng),
    (CsrfTokenBuilder.generate Crates.standard ⟨16, some SecretKey.zeros, some ""⟩
      SystemTime.epoch).run SysRng.zeros = .ok (CsrfToken.ofWire Crates.standard w) os' ∧
    w.Signed (Crates.standard.hmacSha256 SecretKey.zeros.bytes) (Text.bytes "") :=
  ⟨_, _, CsrfTokenBuilder.generate_run_ok Crates.standard SecretKey.zeros ""
    (Duration.fromSecs 0) drawable_sixteen (SysRng.zeros_answer 16), Wire.signed_sign _ _ _ _⟩

/-- The key of seventeen zero bytes. -/
def SecretKey.moreZeros : SecretKey :=
  ⟨List.replicate 17 0, by decide⟩

theorem SecretKey.zeros_ne_moreZeros : SecretKey.zeros.bytes ≠ SecretKey.moreZeros.bytes := by
  decide

/-- A token issued under sixteen zero bytes passes under seventeen, and nothing collides. -/
theorem zero_byte_after_secret : ∃ (c : CsrfToken) (os' : SysRng),
    (CsrfTokenBuilder.generate Crates.standard ⟨16, some SecretKey.zeros, some ""⟩
      SystemTime.epoch).run SysRng.zeros = .ok c os' ∧
    SecretKey.zeros.bytes ≠ SecretKey.moreZeros.bytes ∧
    (c.verify Crates.standard SystemTime.epoch SecretKey.moreZeros "" 0).isOk ∧
    ¬Crates.standard.shaHash.HmacCollision SecretKey.zeros.bytes
      (c.toWire.message (Text.bytes "")) SecretKey.moreZeros.bytes
      (c.toWire.message (Text.bytes "")) := by
  obtain ⟨w, os', hc, hw⟩ := exists_issued_zeros
  have hblock : Crates.standard.shaHash.keyBlock SecretKey.moreZeros.bytes =
      Crates.standard.shaHash.keyBlock SecretKey.zeros.bytes :=
    BlockHash.keyBlock_append_zeros SecretKey.zeros.bytes 1 (by decide)
  have hsep : ¬KeysSeparated Crates.standard SecretKey.zeros.bytes SecretKey.moreZeros.bytes := by
    rintro (hne | hlong)
    · exact hne hblock.symm
    · exact absurd hlong (by decide)
  obtain ⟨hsigned, hcoll⟩ := not_or.mp ((Wire.not_signed_or_collision_iff
    Crates.standard_hmacRfc2104 SecretKey.zeros_ne_moreZeros hw).not.mpr hsep)
  refine ⟨_, os', hc, SecretKey.zeros_ne_moreZeros, CsrfToken.isOk_verify_iff.mpr ⟨?_, ?_⟩, hcoll⟩
  · exact ⟨Duration.fromSecs 0, rfl, by simp [Duration.fromSecs]⟩
  · exact not_not.mp hsigned

theorem secret_isolated_standard : ∃ (c : CsrfToken) (os' : SysRng),
    (CsrfTokenBuilder.generate Crates.standard ⟨16, some SecretKey.zeros, some ""⟩
      SystemTime.epoch).run SysRng.zeros = .ok c os' ∧
    ∀ now maxAgeSecs, CsrfToken.Fresh now c.timestamp maxAgeSecs →
      (¬(c.verify Crates.standard now SecretKey.moreZeros "" maxAgeSecs).isOk ∨
          Crates.standard.shaHash.HmacCollision SecretKey.zeros.bytes
            (c.toWire.message (Text.bytes "")) SecretKey.moreZeros.bytes
            (c.toWire.message (Text.bytes "")) ↔
        KeysSeparated Crates.standard SecretKey.zeros.bytes SecretKey.moreZeros.bytes) := by
  obtain ⟨w, os', hc, -⟩ := exists_issued_zeros
  exact ⟨_, os', hc, (secret_isolated_iff Crates.standard_base64Lawful
    Crates.standard_hmacRfc2104 SecretKey.zeros_ne_moreZeros).2 _ _ _ _ _ _ rfl rfl hc⟩

end TokenGen
