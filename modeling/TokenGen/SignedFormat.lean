import TokenGen.Auth
import TokenGen.Standard

/-!
# The parsers of the signed format

Both token types travel as `timestamp.nonce.signature`, and four pieces of code split and
decode that text : two parsers and, for an auth token, `is_expired` and `verify` once more.

`csrf_grammar` : the parser of CSRF tokens accepts exactly the texts of that shape, and the
fields a token carries are those of its text. `parsers_agree` : the other three read the same
fields in the same texts. `expiring_flag_faithful` : the flag of an auth token says whether its
text has that shape, however the token came about, so nothing but the signature and the clock
decides its verification.
-/

namespace TokenGen

variable {lib : Crates}

/-! ## CSRF tokens -/

/-- A token the library hands out. -/
inductive CsrfToken.Obtainable (lib : Crates) : CsrfToken → Prop
  | generate {b : CsrfTokenBuilder} {now : SystemTime} {os os' : SysRng} {t : CsrfToken}
    (h : (b.generate lib now).run os = .ok t os') : Obtainable lib t
  | fromStr {s : String} {t : CsrfToken} (h : CsrfToken.fromStr lib s = .ok t) : Obtainable lib t

/-- Builders and parser keep the fields and the text in step. -/
theorem CsrfToken.Obtainable.eq_ofWire (hlib : lib.Base64Strict) {t : CsrfToken}
    (ht : t.Obtainable lib) : ∃ w, t = CsrfToken.ofWire lib w := by
  cases ht with
  | @generate b now os os' _ h =>
    obtain ⟨secret, sessionId, hsecret, hsession⟩ := CsrfTokenBuilder.exists_config_of_generate h
    obtain ⟨length, _, _⟩ := b
    obtain rfl := hsecret
    obtain rfl := hsession
    obtain ⟨w, rfl, -⟩ := CsrfTokenBuilder.exists_wire_of_generate h
    exact ⟨w, rfl⟩
  | @fromStr s _ h =>
    obtain ⟨rfl, hparse⟩ := CsrfToken.fromStr_eq_ok_iff.mp h
    refine ⟨t.toWire, ?_⟩
    rw [CsrfToken.ofWire, Wire.render_parse hlib hparse]
    rfl

/-- The parser of CSRF tokens accepts the texts of three segments between dots that are what
Base64 writes, the first for eight bytes. A token is the text of its fields, parses as itself,
and is determined by its text. -/
theorem csrf_grammar (hlib : lib.Base64Lawful) (hstrict : lib.Base64Strict) :
    (∀ s, (∃ t, CsrfToken.fromStr lib s = .ok t) ↔
      ∃ ts nonce sig : Bytes, ts.length = 8 ∧ Text.split '.' s =
        [lib.base64.encode ts, lib.base64.encode nonce, lib.base64.encode sig]) ∧
    (∀ t : CsrfToken, t.Obtainable lib →
      t.asStr = lib.base64.encode (U64.toBeBytes t.timestamp) ++ "." ++
        lib.base64.encode t.nonce ++ "." ++ lib.base64.encode t.signature ∧
      CsrfToken.fromStr lib t.asStr = .ok t) ∧
    ∀ t t' : CsrfToken, t.Obtainable lib → t'.Obtainable lib → (t = t' ↔ t.asStr = t'.asStr) := by
  have hself : ∀ t : CsrfToken, t.Obtainable lib → CsrfToken.fromStr lib t.asStr = .ok t := by
    intro t ht
    obtain ⟨w, rfl⟩ := ht.eq_ofWire hstrict
    exact CsrfToken.fromStr_ofWire hlib w
  refine ⟨fun s => ⟨?_, ?_⟩, fun t ht => ⟨?_, hself t ht⟩, fun t t' ht ht' => ⟨?_, fun h => ?_⟩⟩
  · rintro ⟨t, ht⟩
    obtain ⟨p₀, p₁, p₂, hs, h₀, h₁, h₂⟩ :=
      Wire.parse_eq_some_iff_split.mp (CsrfToken.fromStr_eq_ok_iff.mp ht).2
    refine ⟨U64.toBeBytes t.toWire.timestamp, t.toWire.nonce, t.toWire.signature,
      U64.length_toBeBytes _, hs.trans ?_⟩
    rw [hstrict (TextCodec.read_eq_some_iff.mp h₀), hstrict (TextCodec.read_eq_some_iff.mp h₁),
      hstrict (TextCodec.read_eq_some_iff.mp h₂)]
  · rintro ⟨ts, nonce, sig, hlen, hs⟩
    have hread := TextCodec.read_encode hlib.decodes
    have hts : lib.base64.read (lib.base64.encode ts) =
        some (U64.toBeBytes (U64.fromBeBytes ts)) := by
      rw [hread, U64.toBeBytes_fromBeBytes hlen]
    exact ⟨⟨s, U64.fromBeBytes ts, nonce, sig⟩, CsrfToken.fromStr_eq_ok_iff.mpr ⟨rfl,
      Wire.parse_eq_some_iff_split.mpr ⟨_, _, _, hs, hts, hread nonce, hread sig⟩⟩⟩
  · obtain ⟨w, rfl⟩ := ht.eq_ofWire hstrict
    exact Wire.render_eq w
  · rintro rfl
    rfl
  · have hparse := hself t ht
    rw [h, hself t' ht'] at hparse
    exact (Except.ok.inj hparse).symm

theorem csrf_grammar_standard :
    (∃ ts nonce sig : Bytes, ts.length = 8 ∧
      Text.split '.' (CsrfToken.ofWire Crates.standard Wire.inSessionA).asStr =
        [Crates.standard.base64.encode ts, Crates.standard.base64.encode nonce,
          Crates.standard.base64.encode sig]) ∧
    CsrfToken.fromStr Crates.standard (CsrfToken.ofWire Crates.standard Wire.inSessionA).asStr =
      .ok (CsrfToken.ofWire Crates.standard Wire.inSessionA) := by
  obtain ⟨hgrammar, htext, -⟩ :=
    csrf_grammar Crates.standard_base64Lawful Crates.standard_base64Strict
  have hparse := (htext _ (.generate generate_inSessionA)).2
  exact ⟨(hgrammar _).mp ⟨_, hparse⟩, hparse⟩

/-! ## The two parsers -/

/-- A text is taken for an expiring auth token exactly when it parses as a CSRF token, and then
`is_expired` and `verify` decode the fields the CSRF token carries, and depend on the text
through them only. -/
theorem parsers_agree (s : String) :
    ((∃ t, AuthToken.fromStr lib s = .ok t ∧ t.isExpiring = true) ↔
      ∃ c, CsrfToken.fromStr lib s = .ok c) ∧
    ∀ t c, AuthToken.fromStr lib s = .ok t → CsrfToken.fromStr lib s = .ok c →
      t.expiryTimestamp lib = .ok c.timestamp ∧
      t.signedFields lib = .ok ⟨c.timestamp, c.nonce, c.signature⟩ ∧
      ∀ now,
        (t.isExpired lib now = do
          let now ← now.unixSeconds
          return decide (now > c.timestamp)) ∧
        ∀ secret, t.verify lib now secret = do
          let actualSig ← AuthToken.computeSignature lib secret c.timestamp c.nonce
          if !constantTimeCompare lib c.signature actualSig then
            throw .invalidSignature
          if ← t.isExpired lib now then
            throw .expired
          return () := by
  refine ⟨⟨?_, ?_⟩, fun t c ht hc => ?_⟩
  · rintro ⟨t, ht, hexpiring⟩
    obtain ⟨-, rfl⟩ := AuthToken.fromStr_eq_ok_iff.mp ht
    obtain ⟨w, hw⟩ := Option.isSome_iff_exists.mp hexpiring
    exact ⟨⟨s, w.timestamp, w.nonce, w.signature⟩, CsrfToken.fromStr_eq_ok_iff.mpr ⟨rfl, hw⟩⟩
  · rintro ⟨c, hc⟩
    have hparse := (CsrfToken.fromStr_eq_ok_iff.mp hc).2
    exact ⟨_, AuthToken.fromStr_of_ne_empty (Wire.ne_empty_of_parse hparse),
      Option.isSome_of_eq_some hparse⟩
  · have hparse := (CsrfToken.fromStr_eq_ok_iff.mp hc).2
    obtain ⟨-, rfl⟩ := AuthToken.fromStr_eq_ok_iff.mp ht
    have hexpiring : (⟨s, (Wire.parse lib s).isSome⟩ : AuthToken).expiring :=
      Option.isSome_of_eq_some hparse
    have hts := AuthToken.expiryTimestamp_of_parse (t := ⟨s, (Wire.parse lib s).isSome⟩) hparse
    have hfields :=
      AuthToken.signedFields_eq_ok_iff (t := ⟨s, (Wire.parse lib s).isSome⟩).mpr hparse
    refine ⟨hts, hfields, fun now => ⟨?_, fun secret => ?_⟩⟩
    · rw [AuthToken.isExpired_eq hexpiring, hts]
      rfl
    · rw [AuthToken.verify_eq hexpiring, hfields]
      rfl

theorem parsers_agree_standard :
    (AuthToken.ofWire Crates.standard Wire.minute).expiryTimestamp Crates.standard = .ok 60 ∧
    (AuthToken.ofWire Crates.standard Wire.minute).signedFields Crates.standard =
      .ok Wire.minute := by
  obtain ⟨htimestamp, hfields, -⟩ := (parsers_agree _).2 _ _
    (AuthToken.fromStr_of_generate Crates.standard_base64Lawful generate_minute)
    (CsrfToken.fromStr_ofWire Crates.standard_base64Lawful Wire.minute)
  exact ⟨htimestamp, hfields⟩

/-! ## The expiring flag -/

/-- A token the library hands out; a clone is the token itself. -/
inductive AuthToken.Obtainable (lib : Crates) : AuthToken → Prop
  | generate {length : ℕ} {format : Format} {os os' : SysRng} {t : AuthToken}
    (h : (AuthToken.generate lib length format).run os = .ok t os') : Obtainable lib t
  | generateWithRng {R : Type} [TokenRng R] {length : ℕ} {format : Format} {rng rng' : R}
    {t : AuthToken} (h : (AuthToken.generateWithRng lib length format).run rng = .ok t rng') :
    Obtainable lib t
  | build {b : AuthTokenBuilder} {now : SystemTime} {os os' : SysRng} {t : AuthToken}
    (h : (b.generate lib now).run os = .ok t os') : Obtainable lib t
  | fromStr {s : String} {t : AuthToken} (h : AuthToken.fromStr lib s = .ok t) : Obtainable lib t

/-- However a token came about, its flag is what its text parses to. -/
theorem AuthToken.Obtainable.expiring_eq (hlib : lib.Base64Lawful) {t : AuthToken}
    (ht : t.Obtainable lib) : t.expiring = (Wire.parse lib t.inner).isSome := by
  have hsimple : ∀ (format : Format) (bytes : Bytes),
      (Wire.parse lib (format.encode lib bytes)).isSome = false := by
    intro format bytes
    rw [Wire.parse_eq_none_of_not_mem (Format.dot_not_mem_encode hlib format bytes),
      Option.isSome_none]
  cases ht with
  | generate h =>
    obtain ⟨bytes, -, rfl⟩ := AuthToken.generate_run_eq_ok_iff.mp h
    exact (hsimple _ bytes).symm
  | generateWithRng h =>
    simp only [AuthToken.generateWithRng, EStateM.run_bind_eq_ok_iff,
      EStateM.run_pure_eq_ok_iff] at h
    obtain ⟨bytes, _, -, rfl, -⟩ := h
    exact (hsimple _ bytes).symm
  | build h =>
    obtain ⟨-, heq⟩ := AuthToken.fromStr_eq_ok_iff.mp (AuthToken.fromStr_of_generate hlib h)
    exact congrArg AuthToken.expiring heq
  | fromStr h =>
    obtain ⟨-, rfl⟩ := AuthToken.fromStr_eq_ok_iff.mp h
    rfl

/-- The flag of a token says whether its text is three parts with a timestamp. Of an expiring
token, `verify` decodes its fields; it rejects the signature exactly if it is not the HMAC of
timestamp and nonce, whatever the clock says; and with a clock since the epoch, `is_expired`
returns and decides between the other two outcomes. -/
theorem expiring_flag_faithful (hlib : lib.Base64Lawful) {t : AuthToken}
    (ht : t.Obtainable lib) :
    (t.isExpiring = true ↔ ∃ timestamp, ThreeParts lib t.asStr timestamp) ∧
    (t.isExpiring = true → ∃ w, t.signedFields lib = .ok w ∧ ∀ secret : SecretKey,
      (∀ now, t.verify lib now secret = .error .invalidSignature ↔
        w.signature ≠ (lib.hmacSha256 secret.bytes
          (U64.toBeBytes w.timestamp ++ w.nonce)).toList) ∧
      ∀ d : Duration, ∃ expired, t.isExpired lib (.sinceEpoch d) = .ok expired ∧
        (t.verify lib (.sinceEpoch d) secret = .error .expired ↔
          w.signature = (lib.hmacSha256 secret.bytes
            (U64.toBeBytes w.timestamp ++ w.nonce)).toList ∧ expired = true) ∧
        (t.verify lib (.sinceEpoch d) secret = .ok () ↔
          w.signature = (lib.hmacSha256 secret.bytes
            (U64.toBeBytes w.timestamp ++ w.nonce)).toList ∧ expired = false) ∧
        (t.verify lib (.sinceEpoch d) secret = .ok () ∨
          t.verify lib (.sinceEpoch d) secret = .error .invalidSignature ∨
          t.verify lib (.sinceEpoch d) secret = .error .expired)) := by
  have hflag := ht.expiring_eq hlib
  refine ⟨?_, fun hexpiring => ?_⟩
  · rw [AuthToken.isExpiring, hflag, Option.isSome_iff_exists]
    simp only [threeParts_iff_parse]
    exact ⟨fun ⟨w, hw⟩ => ⟨w.timestamp, w, hw, rfl⟩, fun ⟨_, w, hw, _⟩ => ⟨w, hw⟩⟩
  · have hexp : t.expiring := hexpiring
    obtain ⟨w, hw⟩ := Option.isSome_iff_exists.mp (hflag.symm.trans hexp)
    refine ⟨w, AuthToken.signedFields_eq_ok_iff.mpr hw, fun secret => ?_⟩
    have hsigned : w.Signed (lib.hmacSha256 secret.bytes) [] ↔ w.signature =
        (lib.hmacSha256 secret.bytes (U64.toBeBytes w.timestamp ++ w.nonce)).toList := by
      rw [Wire.Signed, Wire.message, List.append_nil]
    simp only [Ne, ← hsigned]
    refine ⟨fun now => ?_, fun d => ⟨_, AuthToken.isExpired_sinceEpoch hexp hw d, ?_⟩⟩
    · rw [AuthToken.verify_of_parse hexp hw]
      by_cases hsig : w.Signed (lib.hmacSha256 secret.bytes) []
      · cases now with
        | beforeEpoch => simp [hsig, AuthToken.isExpired_beforeEpoch hexp hw]
        | sinceEpoch d =>
          rw [AuthToken.isExpired_sinceEpoch hexp hw]
          by_cases hd : w.timestamp < d.secs <;> simp [hsig, hd]
      · simp [hsig]
    · rw [AuthToken.verify_sinceEpoch hexp hw]
      by_cases hsig : w.Signed (lib.hmacSha256 secret.bytes) [] <;>
        by_cases hd : w.timestamp < d.secs <;> simp [hsig, hd]

theorem expiring_flag_faithful_standard :
    (∃ timestamp, ThreeParts Crates.standard
      (AuthToken.ofWire Crates.standard Wire.minute).asStr timestamp) ∧
    ∃ expired, (AuthToken.ofWire Crates.standard Wire.minute).isExpired Crates.standard
        SystemTime.epoch = .ok expired ∧
      ((AuthToken.ofWire Crates.standard Wire.minute).verify Crates.standard SystemTime.epoch
          SecretKey.zeros = .ok () ∨
        (AuthToken.ofWire Crates.standard Wire.minute).verify Crates.standard SystemTime.epoch
          SecretKey.zeros = .error .invalidSignature ∨
        (AuthToken.ofWire Crates.standard Wire.minute).verify Crates.standard SystemTime.epoch
          SecretKey.zeros = .error .expired) := by
  obtain ⟨hflag, hfields⟩ := expiring_flag_faithful Crates.standard_base64Lawful
    (.build generate_minute)
  obtain ⟨w, -, hsecret⟩ := hfields rfl
  obtain ⟨expired, hexpired, -, -, hverify⟩ := (hsecret SecretKey.zeros).2 (Duration.fromSecs 0)
  exact ⟨hflag.mp rfl, expired, hexpired, hverify⟩

end TokenGen
