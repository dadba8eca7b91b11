import TokenGen.Auth
import TokenGen.Standard

/-!
# Tokens and the clock

Timestamps are whole seconds. The second of an expiry is the sum of two truncated numbers, and
the age of a CSRF token a difference that stops at zero. `not_expired_early_iff` : an auth token
lives as long as asked for exactly if the two fractions truncated away do not add up to a
second. `claims_age_iff` : a CSRF token reports its true age exactly if it is not signed and
dated in the future.
-/

namespace TokenGen

variable {lib : Crates}

/-! ## The expiry of an auth token -/

/-- A signed token is accepted and not expired up to its expiry second. -/
theorem AuthToken.accepted_ofWire_iff (hlib : lib.Base64Lawful) {w : Wire} {secret : SecretKey}
    (hw : w.Signed (lib.hmacSha256 secret.bytes) []) (now : Duration) :
    ((ofWire lib w).verify lib (.sinceEpoch now) secret = .ok () ∧
      (ofWire lib w).isExpired lib (.sinceEpoch now) = .ok false) ↔
    now.secs.toNat ≤ w.timestamp.toNat := by
  have hexpired :=
    isExpired_sinceEpoch (t := ofWire lib w) rfl (Wire.parse_render hlib w) now
  rw [verify_ofWire hlib, if_pos hw, hexpired, ← Nat.not_lt, ← UInt64.lt_iff_toNat_lt]
  by_cases h : w.timestamp < now.secs <;> simp [h]

/-- From its creation to the end of its duration, in nanoseconds, a generated token is accepted
and not expired, exactly if the fractions of creation and duration are less than a second
together, or there is no later second. -/
theorem not_expired_early_iff (hlib : lib.Base64Lawful) {b : AuthTokenBuilder}
    {secret : SecretKey} {duration created : Duration} {os os' : SysRng} {t : AuthToken}
    (hduration : b.expiresIn = some duration) (hsecret : b.secretKey = some secret)
    (h : (b.generate lib (.sinceEpoch created)).run os = .ok t os') :
    (∀ now : Duration, created.inNanos ≤ now.inNanos →
        now.inNanos ≤ created.inNanos + duration.inNanos →
        t.verify lib (.sinceEpoch now) secret = .ok () ∧
        t.isExpired lib (.sinceEpoch now) = .ok false) ↔
      created.nanos + duration.nanos < 1000000000 ∨
        created.secs.toNat + duration.secs.toNat + 1 = 18446744073709551616 := by
  obtain ⟨length, format, _, _⟩ := b
  obtain rfl := hduration
  obtain rfl := hsecret
  obtain ⟨_, nonce, timestamp, hd, -, hsum, rfl⟩ :=
    AuthTokenBuilder.generate_run_expiring_eq_ok_iff.mp h
  obtain rfl := SystemTime.sinceEpoch.inj hd
  have hvalue := U64.checkedAdd_eq_some_iff.mp hsum
  have hlt := timestamp.toNat_lt
  have hsigned := Wire.signed_sign (lib.hmacSha256 secret.bytes) timestamp nonce []
  simp only [AuthToken.accepted_ofWire_iff hlib hsigned]
  simp only [Wire.timestamp_sign, hvalue, Duration.inNanos]
  refine ⟨fun hall => ?_, fun hcond now _ hnow => ?_⟩
  · by_contra hcond
    rw [not_or, Nat.not_lt] at hcond
    -- the end of the duration itself : its second is the one after the expiry second
    have hlast : (UInt64.ofNat (timestamp.toNat + 1)).toNat = timestamp.toNat + 1 :=
      UInt64.toNat_ofNat_of_lt' (show timestamp.toNat + 1 < 18446744073709551616 by omega)
    have h1 := created.nanos_lt
    have h2 := duration.nanos_lt
    have := hall ⟨UInt64.ofNat (timestamp.toNat + 1), created.nanos + duration.nanos - 1000000000,
      by omega⟩
    simp only [hlast] at this
    omega
  · have := now.secs.toNat_lt
    omega

/-- Half a second. -/
def Duration.half : Duration :=
  ⟨0, 500000000, by decide⟩

theorem exists_issued_half : ∃ (w : Wire) (os' : SysRng),
    (AuthTokenBuilder.generate Crates.standard ⟨16, .base64Url, some Duration.half,
      some SecretKey.zeros⟩ (.sinceEpoch Duration.half)).run SysRng.zeros =
        .ok (AuthToken.ofWire Crates.standard w) os' ∧
    w.Signed (Crates.standard.hmacSha256 SecretKey.zeros.bytes) [] ∧ w.timestamp = 0 :=
  have hsum : U64.checkedAdd Duration.half.secs Duration.half.secs = some 0 := by decide
  ⟨_, _, AuthTokenBuilder.generate_run_expiring_ok Crates.standard .base64Url SecretKey.zeros hsum
    drawable_sixteen (SysRng.zeros_answer 16), Wire.signed_sign _ _ _ _, rfl⟩

/-- Created half a second after the epoch for half a second, a token has expired at the end of
that second. -/
theorem expires_early : ∃ (t : AuthToken) (os' : SysRng),
    (AuthTokenBuilder.generate Crates.standard ⟨16, .base64Url, some Duration.half,
      some SecretKey.zeros⟩ (.sinceEpoch Duration.half)).run SysRng.zeros = .ok t os' ∧
    Duration.half.inNanos ≤ (Duration.fromSecs 1).inNanos ∧
    (Duration.fromSecs 1).inNanos ≤ Duration.half.inNanos + Duration.half.inNanos ∧
    t.verify Crates.standard (.sinceEpoch (Duration.fromSecs 1)) SecretKey.zeros =
      .error .expired ∧
    t.isExpired Crates.standard (.sinceEpoch (Duration.fromSecs 1)) = .ok true := by
  obtain ⟨w, os', ht, hsigned, hts⟩ := exists_issued_half
  refine ⟨_, os', ht, by decide, by decide, ?_, ?_⟩
  · rw [AuthToken.verify_ofWire Crates.standard_base64Lawful, if_pos hsigned, hts, if_pos]
    decide
  · rw [AuthToken.isExpired_sinceEpoch (t := AuthToken.ofWire Crates.standard w) rfl
      (Wire.parse_render Crates.standard_base64Lawful w), hts]
    rfl

theorem not_expired_early_standard : ∃ (t : AuthToken) (os' : SysRng),
    (AuthTokenBuilder.generate Crates.standard ⟨16, .base64Url, some Duration.half,
      some SecretKey.zeros⟩ (.sinceEpoch Duration.half)).run SysRng.zeros = .ok t os' ∧
    ((∀ now : Duration, Duration.half.inNanos ≤ now.inNanos →
        now.inNanos ≤ Duration.half.inNanos + Duration.half.inNanos →
        t.verify Crates.standard (.sinceEpoch now) SecretKey.zeros = .ok () ∧
        t.isExpired Crates.standard (.sinceEpoch now) = .ok false) ↔
      Duration.half.nanos + Duration.half.nanos < 1000000000 ∨
        Duration.half.secs.toNat + Duration.half.secs.toNat + 1 = 18446744073709551616) := by
  obtain ⟨w, os', ht, -⟩ := exists_issued_half
  exact ⟨_, os', ht, not_expired_early_iff Crates.standard_base64Lawful rfl rfl ht⟩

/-! ## The age of a CSRF token -/

/-- Whatever claims `verify` returns at the clock reading `now` give a creation second not after
it, the time since then as the age, and an age of at most `maxAgeSecs`; and a signed token dated
in the future is not accepted. -/
def CsrfToken.ReportsAge (lib : Crates) (t : CsrfToken) (now : SystemTime) (secret : SecretKey)
    (sessionId : String) (maxAgeSecs : UInt64) : Prop :=
  (∀ claims, t.verify lib now secret sessionId maxAgeSecs = .ok claims →
    ∃ d, now = .sinceEpoch d ∧ claims.timestamp.toNat ≤ d.secs.toNat ∧
      claims.timestamp.toNat + claims.age.secs.toNat = d.secs.toNat ∧ claims.age.nanos = 0 ∧
      claims.age.secs.toNat ≤ maxAgeSecs.toNat) ∧
  ∀ d, now = .sinceEpoch d → d.secs.toNat < t.timestamp.toNat →
    t.toWire.Signed (lib.hmacSha256 secret.bytes) (Text.bytes sessionId) →
    ¬(t.verify lib now secret sessionId maxAgeSecs).isOk

/-- A token that is not signed and dated in the future reports its true age. -/
theorem CsrfToken.reportsAge_of_le {t : CsrfToken} {now : Duration} {secret : SecretKey}
    {sessionId : String} (h : t.toWire.Signed (lib.hmacSha256 secret.bytes)
      (Text.bytes sessionId) → t.timestamp.toNat ≤ now.secs.toNat) (maxAgeSecs : UInt64) :
    t.ReportsAge lib (.sinceEpoch now) secret sessionId maxAgeSecs := by
  refine ⟨fun claims hclaims => ⟨now, rfl, ?_⟩, fun d hd hfuture hsigned => ?_⟩
  · rw [verify_sinceEpoch] at hclaims
    split_ifs at hclaims with hage hsigned
    obtain rfl := Except.ok.inj hclaims
    have hle := h hsigned
    have hsecs := U64.toNat_saturatingSub now.secs t.timestamp
    refine ⟨hle, ?_, rfl, ?_⟩
    · rw [Duration.fromSecs, hsecs, Nat.add_sub_cancel' hle]
    · rw [Duration.fromSecs, hsecs]
      exact Nat.not_lt.mp hage
  · obtain rfl := SystemTime.sinceEpoch.inj hd
    exact absurd hfuture (Nat.not_lt.mpr (h hsigned))

/-- A signed token dated in the future has age zero and is accepted. -/
theorem CsrfToken.isOk_verify_of_future {t : CsrfToken} {now : Duration} {secret : SecretKey}
    {sessionId : String} (hsigned : t.toWire.Signed (lib.hmacSha256 secret.bytes)
      (Text.bytes sessionId)) (h : now.secs.toNat < t.timestamp.toNat) (maxAgeSecs : UInt64) :
    (t.verify lib (.sinceEpoch now) secret sessionId maxAgeSecs).isOk := by
  rw [isOk_verify_iff]
  refine ⟨⟨now, rfl, ?_⟩, hsigned⟩
  rw [Nat.sub_eq_zero_of_le (Nat.le_of_lt h)]
  exact Nat.zero_le _

theorem CsrfToken.reportsAge_iff (t : CsrfToken) (now : SystemTime) (secret : SecretKey)
    (sessionId : String) (maxAgeSecs : UInt64) :
    t.ReportsAge lib now secret sessionId maxAgeSecs ↔
      ∀ d, now = .sinceEpoch d →
        t.toWire.Signed (lib.hmacSha256 secret.bytes) (Text.bytes sessionId) →
        t.timestamp.toNat ≤ d.secs.toNat := by
  cases now with
  | beforeEpoch => simp [ReportsAge, verify_beforeEpoch]
  | sinceEpoch now =>
    refine ⟨fun h d hd hsigned => ?_, fun h => reportsAge_of_le (h now rfl) maxAgeSecs⟩
    obtain rfl := SystemTime.sinceEpoch.inj hd
    by_contra hfuture
    rw [Nat.not_le] at hfuture
    exact h.2 now rfl hfuture hsigned (isOk_verify_of_future hsigned hfuture maxAgeSecs)

/-- A token reports its true age exactly if it is not signed and dated in the future; a
generated one exactly if the clock was not set back behind its creation. -/
theorem claims_age_iff :
    (∀ (t : CsrfToken) (now : SystemTime) (secret : SecretKey) (sessionId : String)
        (maxAgeSecs : UInt64), t.ReportsAge lib now secret sessionId maxAgeSecs ↔
      ∀ d, now = .sinceEpoch d →
        t.toWire.Signed (lib.hmacSha256 secret.bytes) (Text.bytes sessionId) →
        t.timestamp.toNat ≤ d.secs.toNat) ∧
    ∀ (b : CsrfTokenBuilder) (secret : SecretKey) (sessionId : String) (created : Duration)
        (os os' : SysRng) (t : CsrfToken), b.secretKey = some secret →
      b.sessionId = some sessionId → (b.generate lib (.sinceEpoch created)).run os = .ok t os' →
      ∀ (now : Duration) (maxAgeSecs : UInt64),
        t.ReportsAge lib (.sinceEpoch now) secret sessionId maxAgeSecs ↔
          created.secs.toNat ≤ now.secs.toNat := by
  refine ⟨CsrfToken.reportsAge_iff, ?_⟩
  rintro ⟨length, _, _⟩ secret sessionId created os os' t rfl rfl h now maxAgeSecs
  obtain ⟨d, nonce, hd, -, rfl⟩ := CsrfTokenBuilder.generate_run_eq_ok_iff.mp h
  obtain rfl := SystemTime.sinceEpoch.inj hd
  rw [CsrfToken.reportsAge_iff]
  simp only [SystemTime.sinceEpoch.injEq, forall_eq', CsrfToken.toWire_ofWire,
    Wire.signed_sign, true_imp_iff]
  rfl

theorem exists_issued_minute : ∃ (nonce : Bytes) (os' : SysRng),
    (CsrfTokenBuilder.generate Crates.standard ⟨16, some SecretKey.zeros, some ""⟩
      (.sinceEpoch (Duration.fromSecs 60))).run SysRng.zeros =
        .ok (CsrfToken.ofWire Crates.standard (Wire.sign
          (Crates.standard.hmacSha256 SecretKey.zeros.bytes) 60 nonce (Text.bytes ""))) os' :=
  ⟨_, _, CsrfTokenBuilder.generate_run_ok Crates.standard SecretKey.zeros "" _ drawable_sixteen
    (SysRng.zeros_answer 16)⟩

/-- Issued a minute after the epoch, a token is accepted by a clock that stands at the epoch
and allows no age at all. -/
theorem future_token_accepted : ∃ (t : CsrfToken) (os' : SysRng),
    (CsrfTokenBuilder.generate Crates.standard ⟨16, some SecretKey.zeros, some ""⟩
      (.sinceEpoch (Duration.fromSecs 60))).run SysRng.zeros = .ok t os' ∧
    t.verify Crates.standard SystemTime.epoch SecretKey.zeros "" 0 =
      .ok ⟨60, Duration.fromSecs 0, ""⟩ := by
  obtain ⟨nonce, os', ht⟩ := exists_issued_minute
  refine ⟨_, os', ht, ?_⟩
  have hage : ¬(0 : UInt64).toNat < (Duration.fromSecs 0).secs.toNat - (60 : UInt64).toNat := by
    decide
  rw [SystemTime.epoch, CsrfToken.verify_sinceEpoch, CsrfToken.toWire_ofWire,
    CsrfToken.timestamp_ofWire, Wire.timestamp_sign, if_neg hage, if_pos (Wire.signed_sign _ _ _ _)]
  rfl

theorem claims_age_standard : ∃ (t : CsrfToken) (os' : SysRng),
    (CsrfTokenBuilder.generate Crates.standard ⟨16, some SecretKey.zeros, some ""⟩
      (.sinceEpoch (Duration.fromSecs 60))).run SysRng.zeros = .ok t os' ∧
    ((t.ReportsAge Crates.standard SystemTime.epoch SecretKey.zeros "" 0 ↔
        (Duration.fromSecs 60).secs.toNat ≤ (Duration.fromSecs 0).secs.toNat) ∧
      (t.ReportsAge Crates.standard (.sinceEpoch (Duration.fromSecs 90)) SecretKey.zeros "" 30 ↔
        (Duration.fromSecs 60).secs.toNat ≤ (Duration.fromSecs 90).secs.toNat)) := by
  obtain ⟨nonce, os', ht⟩ := exists_issued_minute
  have hage := claims_age_iff.2 ⟨16, some SecretKey.zeros, some ""⟩ SecretKey.zeros "" _ _ _ _
    rfl rfl ht
  exact ⟨_, os', ht, hage _ 0, hage _ 30⟩

end TokenGen
