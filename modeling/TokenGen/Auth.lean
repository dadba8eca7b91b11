import TokenGen.Csrf

/-!
# Auth tokens (`src/token/auth.rs`)

A simple auth token is random bytes as text. An expiring one is
`timestamp.nonce.signature`, like a CSRF token with the expiry second in place of the
creation second and no session id in the signed message. Only the text travels; whether a
text is an expiring token is decided again when it is parsed (`AuthToken.fromStr`), and
`isExpired` and `verify` split and decode it once more.

`fromStr_eq_ok_iff` : a text is taken for an expiring token exactly when it is the text of a
signed token. `isExpired_sinceEpoch` and `verify_sinceEpoch` are the outcomes of the two
checks on such a text at a clock reading.
-/

namespace TokenGen

/-- Default token length in bytes. -/
def AuthToken.defaultLength : ℕ := 32

/-- Authentication token. -/
structure AuthToken where
  /-- The token string. -/
  inner : String
  /-- Whether this token is expiring (has timestamp/signature). -/
  expiring : Bool
  deriving DecidableEq

namespace AuthToken

variable (lib : Crates)

/-- Generate a new auth token. -/
def generate (length : ℕ) (format : Format) : EStateM (Abort TokenError) SysRng AuthToken := do
  let bytes ← generateBytes length
  let encoded := format.encode lib bytes
  return ⟨encoded, false⟩

/-- Generate a new auth token with a custom RNG. -/
def generateWithRng {R : Type} [TokenRng R] (length : ℕ) (format : Format) :
    EStateM (Abort TokenError) R AuthToken := do
  let bytes ← generateBytesWithRng length
  let encoded := format.encode lib bytes
  return ⟨encoded, false⟩

/-- The token as a string. -/
def asStr (self : AuthToken) : String :=
  self.inner

/-- Check if this token is an expiring token. -/
def isExpiring (self : AuthToken) : Bool :=
  self.expiring

/-- Check if an expiring token has expired at the clock reading `now`. -/
def isExpired (self : AuthToken) (now : SystemTime) : Except TokenError Bool :=
  if !self.expiring then
    return false
  else
    match Text.split '.' self.inner with
    | [part0, _, _] => do
      let tsBytes ← decodePart lib part0
      if tsBytes.length ≠ 8 then
        throw (.invalidFormat "invalid timestamp length")
      let timestamp := U64.fromBeBytes tsBytes
      let now ← now.unixSeconds
      return decide (now > timestamp)
    | _ => throw (.invalidFormat "expected 3 parts")

/-- The HMAC of timestamp and nonce. -/
def computeSignature (secret : SecretKey) (timestamp : UInt64) (nonce : Bytes) :
    Except TokenError Bytes := do
  let mac ← (HmacSha256.newFromSlice secret.bytes).mapError .cryptoError
  let mac := mac.update (U64.toBeBytes timestamp)
  let mac := mac.update nonce
  return (mac.finalize lib).toList

/-- Verify an expiring token against a secret key at the clock reading `now`. -/
def verify (self : AuthToken) (now : SystemTime) (secret : SecretKey) : Except TokenError Unit :=
  if !self.expiring then
    throw (.invalidFormat "token is not expiring")
  else
    match Text.split '.' self.inner with
    | [part0, part1, part2] => do
      let tsBytes ← decodePart lib part0
      if tsBytes.length ≠ 8 then
        throw (.invalidFormat "invalid timestamp")
      let timestamp := U64.fromBeBytes tsBytes
      let nonce ← decodePart lib part1
      let expectedSig ← decodePart lib part2
      let actualSig ← computeSignature lib secret timestamp nonce
      if !constantTimeCompare lib expectedSig actualSig then
        throw .invalidSignature
      if ← self.isExpired lib now then
        throw .expired
      return ()
    | _ => throw (.invalidFormat "expected 3 parts")

/-- The timestamp `isExpired` decodes : its steps before it reads the clock. -/
def expiryTimestamp (self : AuthToken) : Except TokenError UInt64 :=
  match Text.split '.' self.inner with
  | [part0, _, _] => do
    let tsBytes ← decodePart lib part0
    if tsBytes.length ≠ 8 then
      throw (.invalidFormat "invalid timestamp length")
    return U64.fromBeBytes tsBytes
  | _ => throw (.invalidFormat "expected 3 parts")

/-- The fields `verify` decodes : its steps before it computes the signature. -/
def signedFields (self : AuthToken) : Except TokenError Wire :=
  match Text.split '.' self.inner with
  | [part0, part1, part2] => do
    let tsBytes ← decodePart lib part0
    if tsBytes.length ≠ 8 then
      throw (.invalidFormat "invalid timestamp")
    let timestamp := U64.fromBeBytes tsBytes
    let nonce ← decodePart lib part1
    let expectedSig ← decodePart lib part2
    return ⟨timestamp, nonce, expectedSig⟩
  | _ => throw (.invalidFormat "expected 3 parts")

/-- Parse a token. It is taken for an expiring one if it is three Base64 parts, the first of
eight bytes, and for a simple one otherwise. -/
def fromStr (s : String) : Except TokenError AuthToken :=
  if s = "" then
    throw (.invalidFormat "token cannot be empty")
  else
    let parts := Text.split '.' s
    let expiring :=
      match parts with
      | [part0, _, _] =>
        let valid := parts.all fun p => (Base64Url.fromStr lib p).isOk
        if valid then
          match Base64Url.fromStr lib part0 with
          | .ok ts =>
            match ts.decode lib with
            | .ok decoded => decide (decoded.length = 8)
            | .error _ => false
          | .error _ => false
        else false
      | _ => false
    return ⟨s, expiring⟩

end AuthToken

/-! ## Generation -/

/-- Builder for `AuthToken` generation. -/
structure AuthTokenBuilder where
  length : ℕ
  format : Format
  expiresIn : Option Duration
  secretKey : Option SecretKey

namespace AuthTokenBuilder

/-- A builder with default values. -/
def new : AuthTokenBuilder :=
  ⟨AuthToken.defaultLength, .base64Url, none, none⟩

/-- Set the token length in bytes. -/
def withLength (self : AuthTokenBuilder) (length : ℕ) : AuthTokenBuilder :=
  { self with length := length }

/-- Set the output format. -/
def withFormat (self : AuthTokenBuilder) (format : Format) : AuthTokenBuilder :=
  { self with format := format }

/-- Set the expiration duration. -/
def withExpiresIn (self : AuthTokenBuilder) (duration : Duration) : AuthTokenBuilder :=
  { self with expiresIn := some duration }

/-- Set the secret key for signing expiring tokens. -/
def withSecretKey (self : AuthTokenBuilder) (key : SecretKey) : AuthTokenBuilder :=
  { self with secretKey := some key }

/-- Generate the auth token at the clock reading `now`. -/
def generate (lib : Crates) (self : AuthTokenBuilder) (now : SystemTime) :
    EStateM (Abort TokenError) SysRng AuthToken := do
  let bytes ← generateBytes self.length
  match self.expiresIn with
  | some duration =>
    match self.secretKey with
    | none => throw (.error (.invalidFormat "secret_key is required for expiring tokens"))
    | some secret =>
      let now ← orAbort now.unixSeconds
      match U64.checkedAdd now duration.secs with
      | none => throw (.error (.cryptoError "timestamp overflow"))
      | some timestamp =>
        let signature ← orAbort (AuthToken.computeSignature lib secret timestamp bytes)
        let tsEncoded := Base64Url.encode lib (U64.toBeBytes timestamp)
        let nonceEncoded := Base64Url.encode lib bytes
        let sigEncoded := Base64Url.encode lib signature
        return ⟨tsEncoded.text ++ "." ++ nonceEncoded.text ++ "." ++ sigEncoded.text, true⟩
  | none =>
    let encoded := self.format.encode lib bytes
    return ⟨encoded, false⟩

end AuthTokenBuilder

/-! ## The text of an expiring token -/

namespace AuthToken

variable {lib : Crates}

/-- An expiring token is the text of a signed one. -/
def ofWire (lib : Crates) (w : Wire) : AuthToken :=
  ⟨w.render lib, true⟩

/-- At the clock reading `now`, the second `expiry` has not passed. -/
def Unexpired (now : SystemTime) (expiry : UInt64) : Prop :=
  ∃ d, now = .sinceEpoch d ∧ d.secs ≤ expiry

theorem computeSignature_eq (secret : SecretKey) (timestamp : UInt64) (nonce : Bytes) :
    computeSignature lib secret timestamp nonce =
      .ok (lib.hmacSha256 secret.bytes (U64.toBeBytes timestamp ++ nonce)).toList :=
  rfl

/-- A nonempty text always parses, as an expiring token exactly when it is the text of a
signed one. -/
theorem fromStr_of_ne_empty {s : String} (h : s ≠ "") :
    fromStr lib s = .ok ⟨s, (Wire.parse lib s).isSome⟩ := by
  unfold fromStr
  rw [if_neg h]
  show Except.ok _ = Except.ok _
  congr 2
  rw [Bool.eq_iff_iff, Wire.isSome_parse_iff]
  split
  · rename_i p₀ p₁ p₂ hs
    simp only [hs, List.all_cons, List.all_nil, Bool.and_true, Base64Url.isOk_fromStr]
    cases h₀ : lib.base64.read p₀ with
    | none => simp [h₀]
    | some ts =>
      simp [h₀, Base64Url.fromStr_of_read h₀, Base64Url.decode, TextCodec.read_eq_some_iff.mp h₀,
        and_comm]
  · rename_i hs
    simp only [Bool.false_eq_true, false_iff]
    rintro ⟨p₀, p₁, p₂, h', -⟩
    exact hs _ _ _ h'

theorem fromStr_eq_ok_iff {s : String} {t : AuthToken} :
    fromStr lib s = .ok t ↔ s ≠ "" ∧ t = ⟨s, (Wire.parse lib s).isSome⟩ := by
  by_cases h : s = ""
  · subst h
    simp [fromStr]
  · rw [fromStr_of_ne_empty h, Except.ok.injEq, eq_comm]
    simp [h]

/-- The text of a signed token parses as an expiring token. -/
theorem fromStr_ofWire (hlib : lib.Base64Lawful) (w : Wire) :
    fromStr lib (ofWire lib w).asStr = .ok (ofWire lib w) := by
  have hparse := Wire.parse_render hlib w
  rw [ofWire, asStr, fromStr_of_ne_empty (Wire.ne_empty_of_parse hparse), hparse,
    Option.isSome_some]

/-- A nonempty text without a dot parses as a simple token. -/
theorem fromStr_of_not_mem {s : String} (hne : s ≠ "") (hdot : '.' ∉ s.toList) :
    fromStr lib s = .ok ⟨s, false⟩ := by
  rw [fromStr_of_ne_empty hne, Wire.parse_eq_none_of_not_mem hdot, Option.isSome_none]

theorem isExpired_of_simple {t : AuthToken} (ht : t.expiring = false) (now : SystemTime) :
    t.isExpired lib now = .ok false := by
  simp [isExpired, ht]
  rfl

/-- On the text of a signed token, the expiry second is compared with the clock. -/
theorem isExpired_sinceEpoch {t : AuthToken} {w : Wire} (ht : t.expiring)
    (hw : Wire.parse lib t.inner = some w) (d : Duration) :
    t.isExpired lib (.sinceEpoch d) = .ok (decide (w.timestamp < d.secs)) := by
  obtain ⟨p₀, p₁, p₂, hs, h₀, -, -⟩ := Wire.parse_eq_some_iff_split.mp hw
  simp [isExpired, ht, hs, decodePart_of_read h₀]

theorem isExpired_beforeEpoch {t : AuthToken} {w : Wire} (ht : t.expiring)
    (hw : Wire.parse lib t.inner = some w) : t.isExpired lib .beforeEpoch =
      .error (.cryptoError "second time provided was later than self") := by
  obtain ⟨p₀, p₁, p₂, hs, h₀, -, -⟩ := Wire.parse_eq_some_iff_split.mp hw
  simp [isExpired, ht, hs, decodePart_of_read h₀]

/-- An expiring token is checked by decoding its timestamp and comparing it with the clock. -/
theorem isExpired_eq {t : AuthToken} (ht : t.expiring) (now : SystemTime) :
    t.isExpired lib now = do
      let timestamp ← t.expiryTimestamp lib
      let now ← now.unixSeconds
      return decide (now > timestamp) := by
  simp only [isExpired, ht, expiryTimestamp, Bool.not_true, Bool.false_eq_true, if_false]
  split
  · simp only [bind_assoc]
    congr 1
    funext tsBytes
    split_ifs
    · rfl
    · simp
  · rfl

/-- An expiring token is verified by decoding its fields, then its signature is compared and its
expiry checked. -/
theorem verify_eq {t : AuthToken} (ht : t.expiring) (now : SystemTime) (secret : SecretKey) :
    t.verify lib now secret = do
      let fields ← t.signedFields lib
      let actualSig ← computeSignature lib secret fields.timestamp fields.nonce
      if !constantTimeCompare lib fields.signature actualSig then
        throw .invalidSignature
      if ← t.isExpired lib now then
        throw .expired
      return () := by
  simp only [verify, ht, signedFields, Bool.not_true, Bool.false_eq_true, if_false]
  split
  · simp only [bind_assoc]
    congr 1
    funext tsBytes
    split_ifs
    · rfl
    · simp
  · rfl

/-- The fields decode exactly on the text of a signed token. -/
theorem signedFields_eq_ok_iff {t : AuthToken} {w : Wire} :
    t.signedFields lib = .ok w ↔ Wire.parse lib t.inner = some w := by
  rw [Wire.parse_eq_some_iff_split]
  refine ⟨fun h => ?_, ?_⟩
  · unfold signedFields at h
    split at h
    · rename_i p₀ p₁ p₂ hs
      simp only [Except.bind_eq_ok_iff, decodePart_eq_ok_iff, Except.throw_bind,
        Except.ite_error_eq_ok_iff, Except.pure_eq_ok_iff, not_not] at h
      obtain ⟨ts, h₀, hlen, nonce, h₁, sig, h₂, rfl⟩ := h
      exact ⟨p₀, p₁, p₂, hs, by rwa [U64.toBeBytes_fromBeBytes hlen], h₁, h₂⟩
    · exact absurd h (by simp)
  · rintro ⟨p₀, p₁, p₂, hs, h₀, h₁, h₂⟩
    simp only [signedFields, hs, Except.bind_eq_ok_iff, decodePart_eq_ok_iff, Except.throw_bind,
      Except.ite_error_eq_ok_iff, Except.pure_eq_ok_iff, not_not]
    exact ⟨_, h₀, by simp, _, h₁, _, h₂, by simp⟩

theorem expiryTimestamp_of_parse {t : AuthToken} {w : Wire} (hw : Wire.parse lib t.inner = some w) :
    t.expiryTimestamp lib = .ok w.timestamp := by
  obtain ⟨p₀, p₁, p₂, hs, h₀, -, -⟩ := Wire.parse_eq_some_iff_split.mp hw
  simp only [expiryTimestamp, hs, decodePart_of_read h₀, Except.ok_bind, U64.length_toBeBytes,
    ne_eq, not_true_eq_false, if_false, U64.fromBeBytes_toBeBytes]
  rfl

/-- On the text of a signed token, the signature is checked first, then the expiry. -/
theorem verify_of_parse {t : AuthToken} {w : Wire} (ht : t.expiring)
    (hw : Wire.parse lib t.inner = some w) (now : SystemTime) (secret : SecretKey) :
    t.verify lib now secret =
      if w.Signed (lib.hmacSha256 secret.bytes) [] then
        t.isExpired lib now >>= fun expired => if expired then .error .expired else .ok ()
      else .error .invalidSignature := by
  have hfields := signedFields_eq_ok_iff.mpr hw
  have hcmp : constantTimeCompare lib w.signature
      (lib.hmacSha256 secret.bytes (U64.toBeBytes w.timestamp ++ w.nonce)).toList =
      decide (w.Signed (lib.hmacSha256 secret.bytes) []) := by
    rw [← Wire.constantTimeCompare_signature lib, Wire.message, List.append_nil]
  simp only [verify_eq ht, hfields, computeSignature_eq, hcmp, Except.ok_bind, Except.throw_bind]
  by_cases hsig : w.Signed (lib.hmacSha256 secret.bytes) []
  · rw [if_pos hsig, decide_eq_true hsig]
    rfl
  · rw [if_neg hsig, decide_eq_false hsig]
    rfl

theorem verify_sinceEpoch {t : AuthToken} {w : Wire} (ht : t.expiring)
    (hw : Wire.parse lib t.inner = some w) (d : Duration) (secret : SecretKey) :
    t.verify lib (.sinceEpoch d) secret =
      if w.Signed (lib.hmacSha256 secret.bytes) [] then
        if w.timestamp < d.secs then .error .expired else .ok ()
      else .error .invalidSignature := by
  simp only [verify_of_parse ht hw, isExpired_sinceEpoch ht hw, Except.ok_bind, decide_eq_true_eq]

theorem verify_ofWire (hlib : lib.Base64Lawful) (w : Wire) (d : Duration) (secret : SecretKey) :
    (ofWire lib w).verify lib (.sinceEpoch d) secret =
      if w.Signed (lib.hmacSha256 secret.bytes) [] then
        if w.timestamp < d.secs then .error .expired else .ok ()
      else .error .invalidSignature :=
  verify_sinceEpoch (t := ofWire lib w) rfl (Wire.parse_render hlib w) d secret

/-- Only the text of a signed token passes `verify`. -/
theorem exists_wire_of_verify {t : AuthToken} {now : SystemTime} {secret : SecretKey}
    (h : t.verify lib now secret = .ok ()) :
    t.expiring ∧ ∃ w, Wire.parse lib t.inner = some w := by
  cases ht : t.expiring with
  | false => simp [verify, ht] at h
  | true =>
    rw [verify_eq ht, Except.bind_eq_ok_iff] at h
    obtain ⟨w, hfields, -⟩ := h
    exact ⟨rfl, w, signedFields_eq_ok_iff.mp hfields⟩

/-- A token is accepted when it is the text of a signed one, unexpired. -/
theorem isOk_verify_iff {t : AuthToken} {now : SystemTime} {secret : SecretKey} :
    (t.verify lib now secret).isOk ↔ t.expiring ∧ ∃ w, Wire.parse lib t.inner = some w ∧
      Unexpired now w.timestamp ∧ w.Signed (lib.hmacSha256 secret.bytes) [] := by
  rw [Except.isOk_iff]
  refine ⟨?_, ?_⟩
  · rintro ⟨_, h⟩
    obtain ⟨ht, w, hw⟩ := exists_wire_of_verify h
    refine ⟨ht, w, hw, ?_⟩
    cases now with
    | beforeEpoch =>
      rw [verify_of_parse ht hw, isExpired_beforeEpoch ht hw] at h
      split_ifs at h
      simp at h
    | sinceEpoch d =>
      rw [verify_sinceEpoch ht hw] at h
      split_ifs at h with hsig hexp
      exact ⟨⟨d, rfl, UInt64.not_lt.mp hexp⟩, hsig⟩
  · rintro ⟨ht, w, hw, ⟨d, rfl, hd⟩, hsig⟩
    rw [verify_sinceEpoch ht hw, if_pos hsig, if_neg (UInt64.not_lt.mpr hd)]
    exact ⟨(), rfl⟩

/-- A text is accepted when it parses as a token that verifies. -/
def Accepts (lib : Crates) (s : String) (now : SystemTime) (secret : SecretKey) : Prop :=
  ∃ t, fromStr lib s = .ok t ∧ (t.verify lib now secret).isOk

theorem accepts_iff {s : String} {now : SystemTime} {secret : SecretKey} :
    Accepts lib s now secret ↔
      Wire.Accepted lib (lib.hmacSha256 secret.bytes) (Unexpired now) [] s := by
  simp only [Accepts, fromStr_eq_ok_iff, isOk_verify_iff]
  refine ⟨?_, ?_⟩
  · rintro ⟨t, ⟨-, rfl⟩, -, w, hw, hunexpired, hsig⟩
    exact ⟨w, hw, hunexpired, hsig⟩
  · rintro ⟨w, hw, hunexpired, hsig⟩
    exact ⟨_, ⟨Wire.ne_empty_of_parse hw, rfl⟩, by simp [hw], w, hw, hunexpired, hsig⟩

end AuthToken

/-! ## What generation returns -/

namespace AuthTokenBuilder

variable {lib : Crates} {length : ℕ} {format : Format}

theorem generate_panicsOnly (b : AuthTokenBuilder) (now : SystemTime) :
    PanicsOnly (isizeMax < b.length) (b.generate lib now) := by
  refine (generateBytes_panicsOnly b.length).bind fun bytes => ?_
  cases b.expiresIn with
  | none => exact .pure _
  | some duration =>
    cases b.secretKey with
    | none => exact .throw_error _
    | some secret =>
      refine (PanicsOnly.orAbort _).bind fun now => ?_
      cases U64.checkedAdd now duration.secs with
      | none => exact .throw_error _
      | some timestamp => exact (PanicsOnly.orAbort _).bind fun signature => .pure _

/-- Bytes are drawn first, whatever else is configured. -/
theorem generate_run_panic {b : AuthTokenBuilder} (hbig : isizeMax < b.length)
    (now : SystemTime) (os : SysRng) : (b.generate lib now).run os = .error .panic os := by
  show (generateBytes b.length >>= _).run os = _
  rw [EStateM.run_bind, generateBytes_run_panic hbig]

/-- A builder without an expiry issues the encoded bytes as a simple token. -/
theorem generate_run_simple (secretKey : Option SecretKey) (now : SystemTime) (os : SysRng) :
    (generate lib ⟨length, format, none, secretKey⟩ now).run os =
      match (generateBytes length).run os with
      | .ok bytes os' => .ok ⟨format.encode lib bytes, false⟩ os'
      | .error e os' => .error e os' := by
  cases hbytes : (generateBytes length).run os <;>
    simp only [generate, EStateM.run_bind, hbytes, EStateM.run_pure]

/-- An expiry without a secret is an error, and no token. -/
theorem generate_run_without_secret (duration : Duration) (now : SystemTime) (os : SysRng)
    (t : AuthToken) (os' : SysRng) :
    (generate lib ⟨length, format, some duration, none⟩ now).run os ≠ .ok t os' := by
  cases hbytes : (generateBytes length).run os <;> simp [generate, hbytes]

/-- A builder with an expiry and a secret, at a clock reading since the epoch : once the
random source gives a nonce, the token is the text of the signed fields, unless the expiry
second does not fit. -/
theorem generate_run_expiring (secret : SecretKey) (duration d : Duration) (os : SysRng) :
    (generate lib ⟨length, format, some duration, some secret⟩ (.sinceEpoch d)).run os =
      match (generateBytes length).run os with
      | .ok nonce os' =>
        match U64.checkedAdd d.secs duration.secs with
        | some timestamp => .ok (AuthToken.ofWire lib
            (Wire.sign (lib.hmacSha256 secret.bytes) timestamp nonce [])) os'
        | none => .error (.error (.cryptoError "timestamp overflow")) os'
      | .error e os' => .error e os' := by
  cases hbytes : (generateBytes length).run os with
  | error e os' => simp only [generate, EStateM.run_bind, hbytes]
  | ok nonce os' =>
    cases hsum : U64.checkedAdd d.secs duration.secs <;>
      simp [-bind_pure_comp, generate, hbytes, hsum, AuthToken.computeSignature_eq,
        AuthToken.ofWire, Wire.render_eq, Wire.sign, Base64Url.encode]

/-- The expiring tokens a builder with a secret issues. -/
theorem generate_run_expiring_eq_ok_iff {secret : SecretKey} {duration : Duration}
    {now : SystemTime} {os os' : SysRng} {t : AuthToken} :
    (generate lib ⟨length, format, some duration, some secret⟩ now).run os = .ok t os' ↔
      ∃ d nonce timestamp, now = .sinceEpoch d ∧
        (generateBytes length).run os = .ok nonce os' ∧
        U64.checkedAdd d.secs duration.secs = some timestamp ∧
        t = AuthToken.ofWire lib
          (Wire.sign (lib.hmacSha256 secret.bytes) timestamp nonce []) := by
  cases now with
  | beforeEpoch =>
    cases hbytes : (generateBytes length).run os <;>
      simp [-bind_pure_comp, generate, hbytes]
  | sinceEpoch d =>
    rw [generate_run_expiring]
    cases hbytes : (generateBytes length).run os with
    | error e os'' => simp
    | ok nonce os'' =>
      cases hsum : U64.checkedAdd d.secs duration.secs with
      | none => simp [hsum]
      | some timestamp =>
        refine ⟨fun h => ?_, ?_⟩
        · cases h
          exact ⟨d, nonce, timestamp, rfl, rfl, hsum, rfl⟩
        · rintro ⟨d', nonce', timestamp', hd, hnonce, hsum', rfl⟩
          cases hd
          cases hnonce
          cases hsum.symm.trans hsum'
          rfl

theorem generate_run_expiring_ok (lib : Crates) (format : Format) (secret : SecretKey)
    {duration d : Duration} {timestamp : UInt64}
    (hsum : U64.checkedAdd d.secs duration.secs = some timestamp) {os : SysRng}
    {nonce : Vector UInt8 length} (hlen : Drawable length)
    (hos : os.answer length = .ok nonce) :
    (generate lib ⟨length, format, some duration, some secret⟩ (.sinceEpoch d)).run os =
      .ok (AuthToken.ofWire lib (Wire.sign (lib.hmacSha256 secret.bytes) timestamp nonce.toList
        [])) os.next := by
  simp only [generate_run_expiring, generateBytes_run_ok hlen hos, hsum]

/-- A generated expiring token is the text of a signed one. -/
theorem exists_wire_of_generate {secret : SecretKey} {duration : Duration} {now : SystemTime}
    {os os' : SysRng} {t : AuthToken}
    (h : (generate lib ⟨length, format, some duration, some secret⟩ now).run os = .ok t os') :
    ∃ w, t = AuthToken.ofWire lib w ∧ w.Signed (lib.hmacSha256 secret.bytes) [] := by
  obtain ⟨d, nonce, timestamp, -, -, -, rfl⟩ := generate_run_expiring_eq_ok_iff.mp h
  exact ⟨_, rfl, Wire.signed_sign _ _ _ _⟩

end AuthTokenBuilder

/-- The simple tokens that are issued. -/
theorem AuthToken.generate_run_eq_ok_iff {lib : Crates} {length : ℕ} {format : Format}
    {os os' : SysRng} {t : AuthToken} : (AuthToken.generate lib length format).run os = .ok t os' ↔
      ∃ bytes, (generateBytes length).run os = .ok bytes os' ∧
        t = ⟨format.encode lib bytes, false⟩ := by
  simp only [AuthToken.generate, EStateM.run_bind_eq_ok_iff, EStateM.run_pure_eq_ok_iff]
  refine ⟨?_, ?_⟩
  · rintro ⟨bytes, _, hbytes, rfl, rfl⟩
    exact ⟨bytes, hbytes, rfl⟩
  · rintro ⟨bytes, hbytes, rfl⟩
    exact ⟨bytes, os', hbytes, rfl, rfl⟩

theorem AuthToken.generate_panicsOnly {lib : Crates} (length : ℕ) (format : Format) :
    PanicsOnly (isizeMax < length) (AuthToken.generate lib length format) :=
  (generateBytes_panicsOnly length).bind fun _ => .pure _

/-- Whatever a builder generates comes back from its text as it is, expiring or not. -/
theorem AuthToken.fromStr_of_generate {lib : Crates} (hlib : lib.Base64Lawful)
    {b : AuthTokenBuilder} {now : SystemTime} {os os' : SysRng} {t : AuthToken}
    (h : (b.generate lib now).run os = .ok t os') : AuthToken.fromStr lib t.asStr = .ok t := by
  obtain ⟨length, format, duration, secret⟩ := b
  cases duration with
  | none =>
    rw [AuthTokenBuilder.generate_run_simple] at h
    cases hbytes : (generateBytes length).run os with
    | error e os'' => simp [hbytes] at h
    | ok bytes os'' =>
      obtain ⟨hlen, nonce, -, rfl, -⟩ := generateBytes_run_eq_ok_iff.mp hbytes
      have hne : nonce.toList ≠ [] := by
        rw [← List.length_pos_iff, Vector.length_toList]
        exact Nat.lt_of_lt_of_le (by decide) hlen.floor
      simp only [hbytes, EStateM.Result.ok.injEq] at h
      obtain ⟨rfl, -⟩ := h
      exact AuthToken.fromStr_of_not_mem (Format.encode_ne_empty hlib format hne)
        (Format.dot_not_mem_encode hlib format _)
  | some duration =>
    cases secret with
    | none => exact absurd h (AuthTokenBuilder.generate_run_without_secret _ _ _ _ _)
    | some secret =>
      obtain ⟨w, rfl, -⟩ := AuthTokenBuilder.exists_wire_of_generate h
      exact AuthToken.fromStr_ofWire hlib w

/-- What an expiring builder with a key generates, as a signed token. -/
theorem AuthTokenBuilder.generate_eq (lib : Crates) (length : ℕ) (format : Format)
    (duration : Duration) (key : SecretKey) (now : SystemTime) :
    AuthTokenBuilder.generate lib ⟨length, format, some duration, some key⟩ now =
      generateBytes length >>= fun bytes => orAbort now.unixSeconds >>= fun now =>
        match U64.checkedAdd now duration.secs with
        | none => throw (.error (.cryptoError "timestamp overflow"))
        | some timestamp => pure (AuthToken.ofWire lib
            (Wire.sign (lib.hmacSha256 key.bytes) timestamp bytes [])) := by
  refine bind_congr fun bytes => bind_congr fun now => ?_
  cases U64.checkedAdd now duration.secs with
  | none => rfl
  | some timestamp =>
    simp only [AuthToken.computeSignature_eq, orAbort_ok, pure_bind,
      AuthToken.ofWire, Wire.render_eq, Wire.sign, Base64Url.encode, List.append_nil]

end TokenGen
