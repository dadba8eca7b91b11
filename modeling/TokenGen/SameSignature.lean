import TokenGen.Auth
import TokenGen.Standard

/-!
# Texts with the signature of an issued token

What can be made of one signature without the key. The signed message is a timestamp of
fixed width, the nonce, and the session id, one after another. So a signature says nothing
about where the nonce ends, nor which type of token it was made for :

* `session_bound_iff` : a CSRF token passes for another session exactly when a block of
  bytes moved over the boundary between nonce and session id;
* `token_types_separated_iff` : a signature of one type of token passes for the other
  exactly when the nonces differ by the session id;
* `not_malleable` : with the type and the session fixed, only the issued text passes.

Each up to a collision of the MAC on the two messages. The clock and the maximum age still
apply, and are part of the condition.
-/

namespace TokenGen

variable {lib : Crates} {secret : SecretKey}

/-! ## Another session -/

/-- A text of a CSRF token with an issued signature is rejected for another session, up to a
collision, exactly when it is not fresh, or not of the issued second, or its nonce and
session id do not run together to the issued ones. -/
theorem session_bound_iff {length : ℕ} {sessionId sessionId' s : String}
    {issuedAt now : SystemTime} {os os' : SysRng} {c p : CsrfToken} {maxAgeSecs : UInt64}
    (hc : (CsrfTokenBuilder.generate lib ⟨length, some secret, some sessionId⟩ issuedAt).run os =
      .ok c os')
    (hp : CsrfToken.fromStr lib s = .ok p) (hsig : p.signature = c.signature)
    (hne : sessionId' ≠ sessionId) :
    ¬CsrfToken.Accepts lib s now secret sessionId' maxAgeSecs ∨
        Collision (lib.hmacSha256 secret.bytes) (p.toWire.message (Text.bytes sessionId'))
          (c.toWire.message (Text.bytes sessionId)) ↔
      ¬(CsrfToken.Fresh now p.timestamp maxAgeSecs ∧ p.timestamp = c.timestamp ∧
        Moved p.nonce (Text.bytes sessionId') c.nonce (Text.bytes sessionId)) := by
  obtain ⟨w, rfl, hsigned⟩ := CsrfTokenBuilder.exists_wire_of_generate hc
  have hwire : p.toWire.signature = w.signature := hsig
  have haccepts : CsrfToken.Accepts lib s now secret sessionId' maxAgeSecs ↔
      (p.verify lib now secret sessionId' maxAgeSecs).isOk := by
    simp [CsrfToken.Accepts, hp]
  rw [haccepts, CsrfToken.isOk_verify_iff, CsrfToken.toWire_ofWire,
    Wire.reject_or_collision_iff hsigned hwire, Wire.message_eq_iff,
    Moved.iff_append_eq (Text.bytes_injective.ne hne)]
  rfl

/-- A token issued for the session id `ab`. -/
theorem exists_issued_ab : ∃ (w : Wire) (os' : SysRng),
    (CsrfTokenBuilder.generate Crates.standard ⟨16, some SecretKey.zeros, some "ab"⟩
      SystemTime.epoch).run SysRng.zeros = .ok (CsrfToken.ofWire Crates.standard w) os' ∧
    w.Signed (Crates.standard.hmacSha256 SecretKey.zeros.bytes) (Text.bytes "ab") :=
  ⟨_, _, CsrfTokenBuilder.generate_run_ok Crates.standard SecretKey.zeros "ab"
    (Duration.fromSecs 0) drawable_sixteen (SysRng.zeros_answer 16), Wire.signed_sign _ _ _ _⟩

/-- The first byte of the session id `ab`, moved to the end of the nonce, leaves a token for
the session id `b`. -/
theorem session_boundary_moves : ∃ (c p : CsrfToken) (os' : SysRng) (maxAgeSecs : UInt64),
    (CsrfTokenBuilder.generate Crates.standard ⟨16, some SecretKey.zeros, some "ab"⟩
      SystemTime.epoch).run SysRng.zeros = .ok c os' ∧
    CsrfToken.fromStr Crates.standard p.asStr = .ok p ∧ p.signature = c.signature ∧
    CsrfToken.Accepts Crates.standard p.asStr SystemTime.epoch SecretKey.zeros "b" maxAgeSecs ∧
    ¬Collision (Crates.standard.hmacSha256 SecretKey.zeros.bytes)
      (p.toWire.message (Text.bytes "b")) (c.toWire.message (Text.bytes "ab")) := by
  obtain ⟨w, os', hc, hsigned⟩ := exists_issued_ab
  have hp := CsrfToken.fromStr_ofWire Crates.standard_base64Lawful
    ⟨w.timestamp, w.nonce ++ [97], w.signature⟩
  have hsigned' := Wire.Signed.move [97] (Text.bytes "b") hsigned
  refine ⟨_, _, os', 0, hc, hp, by simp, ⟨_, hp, CsrfToken.isOk_verify_iff.mpr ⟨?_, ?_⟩⟩, ?_⟩
  · exact ⟨Duration.fromSecs 0, rfl, by simp [Duration.fromSecs]⟩
  · rwa [CsrfToken.toWire_ofWire]
  · rw [CsrfToken.toWire_ofWire, CsrfToken.toWire_ofWire]
    exact fun h => h.ne (Wire.message_move w [97] (Text.bytes "b"))

theorem session_bound_standard : ∃ (c : CsrfToken) (os' : SysRng),
    (CsrfTokenBuilder.generate Crates.standard ⟨16, some SecretKey.zeros, some "ab"⟩
      SystemTime.epoch).run SysRng.zeros = .ok c os' ∧
    (¬CsrfToken.Accepts Crates.standard c.asStr SystemTime.epoch SecretKey.zeros "b" 0 ∨
        Collision (Crates.standard.hmacSha256 SecretKey.zeros.bytes)
          (c.toWire.message (Text.bytes "b")) (c.toWire.message (Text.bytes "ab")) ↔
      ¬(CsrfToken.Fresh SystemTime.epoch c.timestamp 0 ∧ c.timestamp = c.timestamp ∧
        Moved c.nonce (Text.bytes "b") c.nonce (Text.bytes "ab"))) := by
  obtain ⟨w, os', hc, -⟩ := exists_issued_ab
  exact ⟨_, os', hc, session_bound_iff hc
    (CsrfToken.fromStr_ofWire Crates.standard_base64Lawful w) rfl (by decide)⟩

/-! ## The other type of token -/

/-- A signature of an expiring auth token passes for a CSRF token exactly when the nonce and
the session id run together to the nonce of the auth token; and a signature of a CSRF token
passes for an auth token exactly when its nonce and its session id run together to the nonce
of the auth token. Both inside the window of the type it passes for, and up to a
collision. -/
theorem token_types_separated_iff (hlib : lib.Base64Lawful) {authLength csrfLength : ℕ}
    {format : Format} {duration : Duration} {authTime csrfTime : SystemTime}
    {os₁ os₁' os₂ os₂' : SysRng} {a : AuthToken} {c : CsrfToken} {sessionId : String}
    (ha : (AuthTokenBuilder.generate lib ⟨authLength, format, some duration, some secret⟩
      authTime).run os₁ = .ok a os₁')
    (hc : (CsrfTokenBuilder.generate lib ⟨csrfLength, some secret, some sessionId⟩
      csrfTime).run os₂ = .ok c os₂') :
    (∃ issued, Wire.parse lib a.asStr = some issued ∧
      ∀ s now sessionId' maxAgeSecs,
        Wire.signaturePart lib s = some issued.signature →
        (¬CsrfToken.Accepts lib s now secret sessionId' maxAgeSecs ∨
            Wire.Colliding lib (lib.hmacSha256 secret.bytes) (Text.bytes sessionId') s issued [] ↔
          ¬∃ w, Wire.parse lib s = some w ∧ CsrfToken.Fresh now w.timestamp maxAgeSecs ∧
            w.timestamp = issued.timestamp ∧
            w.nonce ++ Text.bytes sessionId' = issued.nonce)) ∧
    ∀ s now, Wire.signaturePart lib s = some c.signature →
      (¬AuthToken.Accepts lib s now secret ∨
          Wire.Colliding lib (lib.hmacSha256 secret.bytes) [] s c.toWire
            (Text.bytes sessionId) ↔
        ¬∃ w, Wire.parse lib s = some w ∧ AuthToken.Unexpired now w.timestamp ∧
          w.timestamp = c.timestamp ∧ w.nonce = c.nonce ++ Text.bytes sessionId) := by
  obtain ⟨wa, rfl, hwa⟩ := AuthTokenBuilder.exists_wire_of_generate ha
  obtain ⟨wc, rfl, hwc⟩ := CsrfTokenBuilder.exists_wire_of_generate hc
  refine ⟨?_, fun s now hsig => ?_⟩
  · refine ⟨wa, Wire.parse_render hlib wa, fun s now sessionId' maxAgeSecs hsig => ?_⟩
    rw [CsrfToken.accepts_iff, Wire.rejected_or_colliding_iff hwa hsig]
    simp only [Wire.message_eq_iff, List.append_nil]
  · rw [AuthToken.accepts_iff, CsrfToken.toWire_ofWire, Wire.rejected_or_colliding_iff hwc hsig]
    simp only [Wire.message_eq_iff, List.append_nil]
    rfl

/-- An auth token and a CSRF token for the empty session id, issued under one key. -/
theorem exists_issued_pair : ∃ (a c : Wire) (os₁ os₂ : SysRng),
    (AuthTokenBuilder.generate Crates.standard ⟨16, .base64Url, some (Duration.fromSecs 60),
      some SecretKey.zeros⟩ SystemTime.epoch).run SysRng.zeros =
        .ok (AuthToken.ofWire Crates.standard a) os₁ ∧
    (CsrfTokenBuilder.generate Crates.standard ⟨16, some SecretKey.zeros, some ""⟩
      SystemTime.epoch).run SysRng.zeros = .ok (CsrfToken.ofWire Crates.standard c) os₂ ∧
    a.Signed (Crates.standard.hmacSha256 SecretKey.zeros.bytes) [] ∧
    c.Signed (Crates.standard.hmacSha256 SecretKey.zeros.bytes) [] :=
  have hsum : U64.checkedAdd (Duration.fromSecs 0).secs (Duration.fromSecs 60).secs = some 60 := by
    decide
  ⟨_, _, _, _, AuthTokenBuilder.generate_run_expiring_ok Crates.standard .base64Url
      SecretKey.zeros hsum drawable_sixteen (SysRng.zeros_answer 16),
    CsrfTokenBuilder.generate_run_ok Crates.standard SecretKey.zeros "" (Duration.fromSecs 0)
      drawable_sixteen (SysRng.zeros_answer 16),
    Wire.signed_sign _ _ _ _, Wire.signed_sign _ _ _ _⟩

/-- With the empty session id, each of the two tokens passes for the other type as it is. -/
theorem tokens_pass_for_each_other : ∃ (a : AuthToken) (c : CsrfToken) (issued : Wire)
      (os₁ os₂ : SysRng),
    (AuthTokenBuilder.generate Crates.standard ⟨16, .base64Url, some (Duration.fromSecs 60),
      some SecretKey.zeros⟩ SystemTime.epoch).run SysRng.zeros = .ok a os₁ ∧
    (CsrfTokenBuilder.generate Crates.standard ⟨16, some SecretKey.zeros, some ""⟩
      SystemTime.epoch).run SysRng.zeros = .ok c os₂ ∧
    Wire.parse Crates.standard a.asStr = some issued ∧
    CsrfToken.Accepts Crates.standard a.asStr SystemTime.epoch SecretKey.zeros "" 0 ∧
    ¬Wire.Colliding Crates.standard (Crates.standard.hmacSha256 SecretKey.zeros.bytes)
      (Text.bytes "") a.asStr issued [] ∧
    AuthToken.Accepts Crates.standard c.asStr SystemTime.epoch SecretKey.zeros ∧
    ¬Wire.Colliding Crates.standard (Crates.standard.hmacSha256 SecretKey.zeros.bytes) []
      c.asStr c.toWire (Text.bytes "") := by
  obtain ⟨a, c, os₁, os₂, ha, hc, hasigned, hcsigned⟩ := exists_issued_pair
  have hparse := Wire.parse_render Crates.standard_base64Lawful
  have hno : ∀ w : Wire, ¬Wire.Colliding Crates.standard
      (Crates.standard.hmacSha256 SecretKey.zeros.bytes) [] (w.render Crates.standard) w [] := by
    rintro w ⟨w', hw', hcoll⟩
    obtain rfl := Option.some.inj ((hparse w).symm.trans hw')
    exact Collision.irrefl _ _ hcoll
  refine ⟨_, _, a, os₁, os₂, ha, hc, hparse a, CsrfToken.accepts_iff.mpr ?_, hno a,
    AuthToken.accepts_iff.mpr ?_, hno c⟩
  · exact ⟨a, hparse a, ⟨Duration.fromSecs 0, rfl, by simp [Duration.fromSecs]⟩, hasigned⟩
  · exact ⟨c, hparse c, ⟨Duration.fromSecs 0, rfl, by simp [Duration.fromSecs]⟩, hcsigned⟩

theorem token_types_separated_standard : ∃ (c : CsrfToken) (os₂ : SysRng),
    (CsrfTokenBuilder.generate Crates.standard ⟨16, some SecretKey.zeros, some ""⟩
      SystemTime.epoch).run SysRng.zeros = .ok c os₂ ∧
    ∀ s now, Wire.signaturePart Crates.standard s = some c.signature →
      (¬AuthToken.Accepts Crates.standard s now SecretKey.zeros ∨
          Wire.Colliding Crates.standard (Crates.standard.hmacSha256 SecretKey.zeros.bytes) [] s
            c.toWire (Text.bytes "") ↔
        ¬∃ w, Wire.parse Crates.standard s = some w ∧ AuthToken.Unexpired now w.timestamp ∧
          w.timestamp = c.timestamp ∧ w.nonce = c.nonce ++ Text.bytes "") := by
  obtain ⟨a, c, os₁, os₂, ha, hc, -⟩ := exists_issued_pair
  exact ⟨_, os₂, hc, (token_types_separated_iff Crates.standard_base64Lawful ha hc).2⟩

/-! ## The same type and the same session -/

/-- A text with the signature of an issued token that passes for the type and the session of
that token is its text, up to a collision. -/
theorem not_malleable (hlib : lib.Base64Lawful) (hstrict : lib.Base64Strict)
    {authLength csrfLength : ℕ} {format : Format} {duration : Duration}
    {authTime csrfTime : SystemTime} {os₁ os₁' os₂ os₂' : SysRng} {a : AuthToken}
    {c : CsrfToken} {sessionId : String}
    (ha : (AuthTokenBuilder.generate lib ⟨authLength, format, some duration, some secret⟩
      authTime).run os₁ = .ok a os₁')
    (hc : (CsrfTokenBuilder.generate lib ⟨csrfLength, some secret, some sessionId⟩
      csrfTime).run os₂ = .ok c os₂') :
    (∃ issued, Wire.parse lib a.asStr = some issued ∧
      ∀ s now, Wire.signaturePart lib s = some issued.signature →
        AuthToken.Accepts lib s now secret →
        s = a.asStr ∨ Wire.Colliding lib (lib.hmacSha256 secret.bytes) [] s issued []) ∧
    ∀ s now maxAgeSecs, Wire.signaturePart lib s = some c.signature →
      CsrfToken.Accepts lib s now secret sessionId maxAgeSecs →
      s = c.asStr ∨ Wire.Colliding lib (lib.hmacSha256 secret.bytes) (Text.bytes sessionId) s
        c.toWire (Text.bytes sessionId) := by
  obtain ⟨wa, rfl, hwa⟩ := AuthTokenBuilder.exists_wire_of_generate ha
  obtain ⟨wc, rfl, hwc⟩ := CsrfTokenBuilder.exists_wire_of_generate hc
  refine ⟨?_, fun s now maxAgeSecs hsig haccepts => ?_⟩
  · refine ⟨wa, Wire.parse_render hlib wa, fun s now hsig haccepts => ?_⟩
    exact Wire.eq_render_or_colliding hstrict hwa hsig (AuthToken.accepts_iff.mp haccepts)
  · exact Wire.eq_render_or_colliding hstrict hwc hsig (CsrfToken.accepts_iff.mp haccepts)

theorem not_malleable_standard : ∃ (c : CsrfToken) (os₂ : SysRng),
    (CsrfTokenBuilder.generate Crates.standard ⟨16, some SecretKey.zeros, some ""⟩
      SystemTime.epoch).run SysRng.zeros = .ok c os₂ ∧
    ∀ s now maxAgeSecs, Wire.signaturePart Crates.standard s = some c.signature →
      CsrfToken.Accepts Crates.standard s now SecretKey.zeros "" maxAgeSecs →
      s = c.asStr ∨ Wire.Colliding Crates.standard
        (Crates.standard.hmacSha256 SecretKey.zeros.bytes) (Text.bytes "") s c.toWire
        (Text.bytes "") := by
  obtain ⟨a, c, os₁, os₂, ha, hc, -⟩ := exists_issued_pair
  exact ⟨_, os₂, hc, (not_malleable Crates.standard_base64Lawful Crates.standard_base64Strict
    ha hc).2⟩

end TokenGen
