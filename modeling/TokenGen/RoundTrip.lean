import TokenGen.Auth
import TokenGen.Standard

/-!
# Issue, transport, verify

A token is generated, only its text travels, and the text is parsed and verified later.
`csrf_round_trip` and `auth_round_trip` : parsing gives back the generated token, and
verifying gives the outcome that the clock readings alone decide. A CSRF token is accepted
up to and including `maxAgeSecs` seconds after its creation, an expiring auth token up to
and including its expiry second, both in unbounded arithmetic. A length that no buffer has gives
no token : generation panics.
-/

namespace TokenGen

variable {lib : Crates}

/-! ## CSRF tokens -/

/-- A CSRF token created in second `created.secs` comes back from its text as it is, and at
any later clock reading verifies if it is at most `maxAgeSecs` old, and has expired if not. It is
generated whenever the random source gives its nonce, unless no buffer has this length. -/
theorem csrf_round_trip (hlib : lib.Base64Lawful) (secret : SecretKey) (sessionId : String)
    {length : ℕ} (hlen : minNonceLength ≤ length) {os : SysRng} {nonce : Vector UInt8 length}
    (hos : os.answer length = .ok nonce) (created : Duration) :
    (isizeMax < length → (CsrfTokenBuilder.generate lib ⟨length, some secret, some sessionId⟩
      (.sinceEpoch created)).run os = .error .panic os) ∧
    (length ≤ isizeMax →
      ∃ c, (CsrfTokenBuilder.generate lib ⟨length, some secret, some sessionId⟩
        (.sinceEpoch created)).run os = .ok c os.next ∧
      CsrfToken.fromStr lib c.asStr = .ok c ∧
      ∀ (now : Duration) (maxAgeSecs : UInt64), created.secs.toNat ≤ now.secs.toNat →
        ∃ age : UInt64, age.toNat = now.secs.toNat - created.secs.toNat ∧
          c.verify lib (.sinceEpoch now) secret sessionId maxAgeSecs =
            if age.toNat ≤ maxAgeSecs.toNat then
              .ok ⟨created.secs, Duration.fromSecs age, sessionId⟩
            else .error .expired) := by
  refine ⟨fun hbig => ?_, fun hfits => ?_⟩
  · rw [CsrfTokenBuilder.generate_run, generateBytes_run_panic hbig]
  refine ⟨_, CsrfTokenBuilder.generate_run_ok lib secret sessionId created ⟨hlen, hfits⟩ hos,
    CsrfToken.fromStr_ofWire hlib _, fun now maxAgeSecs _ => ?_⟩
  refine ⟨U64.saturatingSub now.secs created.secs, U64.toNat_saturatingSub _ _, ?_⟩
  rw [CsrfToken.verify_sinceEpoch, CsrfToken.toWire_ofWire, if_pos (Wire.signed_sign _ _ _ _),
    U64.toNat_saturatingSub]
  by_cases hage : now.secs.toNat - created.secs.toNat ≤ maxAgeSecs.toNat
  · rw [if_pos hage, if_neg]
    · rfl
    · exact Nat.not_lt.mpr hage
  · rw [if_neg hage, if_pos]
    exact Nat.lt_of_not_le hage

theorem csrf_round_trip_standard : ∃ c os',
    (CsrfTokenBuilder.generate Crates.standard ⟨16, some SecretKey.zeros, some ""⟩
      SystemTime.epoch).run SysRng.zeros = .ok c os' ∧
    CsrfToken.fromStr Crates.standard c.asStr = .ok c ∧
    ∃ claims, c.verify Crates.standard (.sinceEpoch (Duration.fromSecs 60)) SecretKey.zeros ""
      60 = .ok claims := by
  obtain ⟨c, hc, hparse, hverify⟩ := (csrf_round_trip Crates.standard_base64Lawful
    SecretKey.zeros "" (by decide) (SysRng.zeros_answer 16) (Duration.fromSecs 0)).2 (by decide)
  obtain ⟨age, hage, hclaims⟩ := hverify (Duration.fromSecs 60) 60 (by decide)
  refine ⟨c, _, hc, hparse, _, hclaims.trans (if_pos ?_)⟩
  rw [hage]
  decide

/-! ## Auth tokens -/

/-- Every generated auth token comes back from its text as it is. A simple one is generated
whenever the random source gives its bytes. An expiring one is generated unless the second of
its creation and its duration add up to more than 64 bits, and then verifies at every clock
reading up to the second they add up to, and has expired at every later one. Where no buffer has
the length, the generation of either panics. -/
theorem auth_round_trip (hlib : lib.Base64Lawful) :
    (∀ (b : AuthTokenBuilder) (now : SystemTime) (os os' : SysRng) (t : AuthToken),
      (b.generate lib now).run os = .ok t os' → AuthToken.fromStr lib t.asStr = .ok t) ∧
    ∀ (b : AuthTokenBuilder) (os : SysRng) (nonce : Vector UInt8 b.length),
      minEntropyBytes ≤ b.length → os.answer b.length = .ok nonce →
      (isizeMax < b.length → ∀ now, (b.generate lib now).run os = .error .panic os) ∧
      (b.length ≤ isizeMax →
        (b.expiresIn = none → ∀ now, ∃ t, (b.generate lib now).run os = .ok t os.next) ∧
        ∀ (duration : Duration) (secret : SecretKey) (created : Duration),
          b.expiresIn = some duration → b.secretKey = some secret →
          ((∃ e os', (b.generate lib (.sinceEpoch created)).run os = .error (.error e) os') ↔
            2 ^ 64 ≤ created.secs.toNat + duration.secs.toNat) ∧
          ((∀ t os', (b.generate lib (.sinceEpoch created)).run os ≠ .ok t os') ↔
            2 ^ 64 ≤ created.secs.toNat + duration.secs.toNat) ∧
          ∀ t os', (b.generate lib (.sinceEpoch created)).run os = .ok t os' →
            ∀ now : Duration, t.verify lib (.sinceEpoch now) secret =
              if now.secs.toNat ≤ created.secs.toNat + duration.secs.toNat then .ok ()
              else .error .expired) := by
  refine ⟨fun b now os os' t h => AuthToken.fromStr_of_generate hlib h, ?_⟩
  intro b os nonce hlen hos
  refine ⟨fun hbig now => AuthTokenBuilder.generate_run_panic hbig now os, fun hfits => ?_⟩
  have hbytes := generateBytes_run_ok ⟨hlen, hfits⟩ hos
  obtain ⟨length, format, _, _⟩ := b
  refine ⟨?_, ?_⟩
  · rintro rfl now
    exact ⟨_, by rw [AuthTokenBuilder.generate_run_simple, hbytes]⟩
  · rintro duration secret created rfl rfl
    simp only [AuthTokenBuilder.generate_run_expiring, hbytes, ← U64.checkedAdd_eq_none_iff]
    cases hsum : U64.checkedAdd created.secs duration.secs with
    | none => simp
    | some timestamp =>
      refine ⟨by simp, by simp, fun t os' h now => ?_⟩
      obtain ⟨rfl, -⟩ := EStateM.Result.ok.inj h
      have hvalue := U64.checkedAdd_eq_some_iff.mp hsum
      rw [AuthToken.verify_ofWire hlib, if_pos (Wire.signed_sign _ _ _ _)]
      simp only [Wire.sign, UInt64.lt_iff_toNat_lt, hvalue]
      by_cases hnow : now.secs.toNat ≤ created.secs.toNat + duration.secs.toNat
      · rw [if_neg (Nat.not_lt.mpr hnow), if_pos hnow]
      · rw [if_pos (Nat.lt_of_not_le hnow), if_neg hnow]

theorem auth_round_trip_standard : ∃ t os',
    (AuthTokenBuilder.minute.generate Crates.standard SystemTime.epoch).run SysRng.zeros =
      .ok t os' ∧
    AuthToken.fromStr Crates.standard t.asStr = .ok t ∧
    t.verify Crates.standard (.sinceEpoch (Duration.fromSecs 60)) SecretKey.zeros = .ok () ∧
    t.verify Crates.standard (.sinceEpoch (Duration.fromSecs 61)) SecretKey.zeros =
      .error .expired := by
  obtain ⟨hparse, h⟩ := auth_round_trip Crates.standard_base64Lawful
  obtain ⟨-, hnone, hwindow⟩ := ((h AuthTokenBuilder.minute SysRng.zeros _ (by decide)
    (SysRng.zeros_answer 16)).2 (by decide)).2 _ SecretKey.zeros (Duration.fromSecs 0) rfl rfl
  have hsome := hnone.not.mpr (by decide)
  simp only [not_forall, not_not] at hsome
  obtain ⟨t, os', ht⟩ := hsome
  refine ⟨t, os', ht, hparse _ _ _ _ t ht, ?_, ?_⟩
  · rw [hwindow t os' ht]
    exact if_pos (by decide)
  · rw [hwindow t os' ht]
    exact if_neg (by decide)

end TokenGen
