import TokenGen.Crypto
import TokenGen.Encoding
import TokenGen.Time
import TokenGen.Wire

/-!
# CSRF tokens (`src/token/csrf.rs`)

A CSRF token is `timestamp.nonce.signature`, each part URL-safe Base64 : the creation time
as eight big-endian bytes, a random nonce, and the HMAC of the timestamp bytes, the nonce,
and the session id, fed to it in that order. `CsrfTokenBuilder.generate` issues a token,
`CsrfToken.fromStr` parses one, and `CsrfToken.verify` checks its age and its signature.

`verify_sinceEpoch` is the whole outcome of `verify` as a function of the clock reading, and
`CsrfTokenBuilder.generate_run` that of `generate` for a configured builder.
-/

namespace TokenGen

/-- Default nonce length in bytes. -/
def defaultNonceLength : ℕ := 32

/-- Minimum nonce length in bytes. -/
def minNonceLength : ℕ := 16

/-- Minimum secret key length in bytes (128 bits). -/
def minSecretKeyLength : ℕ := 16

/-! ## Secret keys -/

/-- Secret key for signing tokens. -/
structure SecretKey where
  bytes : Bytes
  minLength_le : minSecretKeyLength ≤ bytes.length

namespace SecretKey

/-- Create a new secret key from bytes. -/
def new (bytes : Bytes) : Except TokenError SecretKey :=
  if h : bytes.length < minSecretKeyLength then
    .error (.invalidFormat ("secret key must be at least " ++ toString minSecretKeyLength ++
      " bytes, got " ++ toString bytes.length))
  else .ok ⟨bytes, Nat.le_of_not_lt h⟩

/-- Create a secret key from a string. -/
def fromString (s : String) : Except TokenError SecretKey :=
  let bytes := Text.bytes s
  if h : bytes.length < minSecretKeyLength then
    .error (.invalidFormat ("secret key must be at least " ++ toString minSecretKeyLength ++
      " bytes, got " ++ toString bytes.length))
  else .ok ⟨bytes, Nat.le_of_not_lt h⟩

theorem ext_bytes {k k' : SecretKey} (h : k.bytes = k'.bytes) : k = k' := by
  cases k
  cases k'
  simpa using h

/-- A string is a key exactly when its UTF-8 bytes are, and it is the same key. -/
theorem fromString_eq_new (s : String) : fromString s = new (Text.bytes s) :=
  rfl

theorem new_eq_ok_iff {bytes : Bytes} {k : SecretKey} : new bytes = .ok k ↔ k.bytes = bytes := by
  unfold new
  split_ifs with h
  · simp only [false_iff]
    rintro rfl
    have := k.minLength_le
    omega
  · rw [Except.ok.injEq]
    exact ⟨fun hk => hk ▸ rfl, fun hk => ext_bytes hk.symm⟩

end SecretKey

/-! ## HMAC, fed piece by piece -/

/-- A running HMAC-SHA256 (`hmac::Hmac<Sha256>`) : its key and what was fed to it. -/
structure HmacSha256 where
  key : Bytes
  message : Bytes

namespace HmacSha256

/-- `Mac::new_from_slice`; HMAC takes a key of any length. -/
def newFromSlice (key : Bytes) : Except String HmacSha256 :=
  .ok ⟨key, []⟩

/-- `Mac::update`. -/
def update (mac : HmacSha256) (data : Bytes) : HmacSha256 :=
  { mac with message := mac.message ++ data }

/-- `Mac::finalize().into_bytes()`. -/
def finalize (lib : Crates) (mac : HmacSha256) : Vector UInt8 32 :=
  lib.hmacSha256 mac.key mac.message

end HmacSha256

/-- Comparing the signature with the MAC of the message decides whether a token is signed. -/
theorem Wire.constantTimeCompare_signature (lib : Crates) (mac : Bytes → Vector UInt8 32)
    (w : Wire) (context : Bytes) :
    constantTimeCompare lib w.signature (mac (w.message context)).toList =
      decide (w.Signed mac context) := by
  rw [Bool.eq_iff_iff, constantTimeCompare_eq_true_iff, decide_eq_true_iff, Signed]

/-! ## Tokens -/

/-- Claims extracted from a verified CSRF token. -/
structure CsrfClaims where
  /-- Unix timestamp when the token was created. -/
  timestamp : UInt64
  /-- Age of the token as a duration. -/
  age : Duration
  /-- Session ID the token is bound to. -/
  sessionId : String
  deriving DecidableEq

/-- CSRF token with HMAC signature. -/
structure CsrfToken where
  token : String
  timestamp : UInt64
  nonce : Bytes
  signature : Bytes
  deriving DecidableEq

namespace CsrfToken

variable (lib : Crates)

/-- The HMAC of timestamp, nonce, and session id. -/
def computeSignature (secret : SecretKey) (timestamp : UInt64) (nonce : Bytes)
    (sessionId : String) : Except TokenError Bytes := do
  let mac ← (HmacSha256.newFromSlice secret.bytes).mapError .cryptoError
  let mac := mac.update (U64.toBeBytes timestamp)
  let mac := mac.update nonce
  let mac := mac.update (Text.bytes sessionId)
  return (mac.finalize lib).toList

/-- Verify a CSRF token at the clock reading `now` and return the claims. -/
def verify (self : CsrfToken) (now : SystemTime) (secret : SecretKey) (sessionId : String)
    (maxAgeSecs : UInt64) : Except TokenError CsrfClaims := do
  let now ← now.unixSeconds
  let ageSecs := U64.saturatingSub now self.timestamp
  if ageSecs > maxAgeSecs then
    throw .expired
  let actualSig ← computeSignature lib secret self.timestamp self.nonce sessionId
  if !constantTimeCompare lib self.signature actualSig then
    throw .invalidSignature
  return ⟨self.timestamp, Duration.fromSecs ageSecs, sessionId⟩

/-- The token as a string. -/
def asStr (self : CsrfToken) : String :=
  self.token

/-- Parse a token : three parts, the first of eight bytes. -/
def fromStr (s : String) : Except TokenError CsrfToken :=
  match Text.split '.' s with
  | [part0, part1, part2] => do
    let tsBytes ← decodePart lib part0
    if tsBytes.length ≠ 8 then
      throw (.invalidFormat "invalid timestamp")
    let timestamp := U64.fromBeBytes tsBytes
    let nonce ← decodePart lib part1
    let signature ← decodePart lib part2
    return ⟨s, timestamp, nonce, signature⟩
  | _ => throw (.invalidFormat "expected 3 parts")

end CsrfToken

namespace CsrfToken

/-- The decoded fields of a token. -/
def toWire (self : CsrfToken) : Wire :=
  ⟨self.timestamp, self.nonce, self.signature⟩

/-- The token whose text is that of its fields. -/
def ofWire (lib : Crates) (w : Wire) : CsrfToken :=
  ⟨w.render lib, w.timestamp, w.nonce, w.signature⟩

@[simp] theorem toWire_ofWire (lib : Crates) (w : Wire) : (ofWire lib w).toWire = w :=
  rfl

@[simp] theorem timestamp_ofWire (lib : Crates) (w : Wire) :
    (ofWire lib w).timestamp = w.timestamp :=
  rfl

@[simp] theorem signature_ofWire (lib : Crates) (w : Wire) :
    (ofWire lib w).signature = w.signature :=
  rfl

/-- At the clock reading `now`, a timestamp is at most `maxAgeSecs` old. A timestamp after
the reading has age `0`. -/
def Fresh (now : SystemTime) (timestamp maxAgeSecs : UInt64) : Prop :=
  ∃ d, now = .sinceEpoch d ∧ d.secs.toNat - timestamp.toNat ≤ maxAgeSecs.toNat

variable {lib : Crates}

theorem computeSignature_eq (secret : SecretKey) (timestamp : UInt64) (nonce : Bytes)
    (sessionId : String) :
    computeSignature lib secret timestamp nonce sessionId =
      .ok (lib.hmacSha256 secret.bytes
        (U64.toBeBytes timestamp ++ nonce ++ Text.bytes sessionId)).toList :=
  rfl

/-- Parsing reads the text as a signed token and keeps the text. -/
theorem fromStr_eq_ok_iff {s : String} {t : CsrfToken} :
    fromStr lib s = .ok t ↔ t.token = s ∧ Wire.parse lib s = some t.toWire := by
  rw [Wire.parse_eq_some_iff_split]
  refine ⟨fun h => ?_, ?_⟩
  · unfold fromStr at h
    split at h
    · rename_i p₀ p₁ p₂ hs
      simp only [Except.bind_eq_ok_iff, decodePart_eq_ok_iff, Except.throw_bind,
        Except.ite_error_eq_ok_iff, Except.pure_eq_ok_iff, not_not] at h
      obtain ⟨ts, h₀, hlen, nonce, h₁, sig, h₂, rfl⟩ := h
      exact ⟨rfl, p₀, p₁, p₂, hs, by rwa [toWire, U64.toBeBytes_fromBeBytes hlen], h₁, h₂⟩
    · exact absurd h (by simp)
  · rintro ⟨rfl, p₀, p₁, p₂, hs, h₀, h₁, h₂⟩
    simp only [fromStr, hs, Except.bind_eq_ok_iff, decodePart_eq_ok_iff, Except.throw_bind,
      Except.ite_error_eq_ok_iff, Except.pure_eq_ok_iff, not_not]
    exact ⟨_, h₀, by simp, _, h₁, _, h₂, by simp [toWire]⟩

/-- The text of a signed token parses as that token. -/
theorem fromStr_ofWire (hlib : lib.Base64Lawful) (w : Wire) :
    fromStr lib (ofWire lib w).asStr = .ok (ofWire lib w) :=
  fromStr_eq_ok_iff.mpr ⟨rfl, Wire.parse_render hlib w⟩

/-- The outcome of `verify` at a clock reading since the epoch : the age is checked first,
then the signature. -/
theorem verify_sinceEpoch (t : CsrfToken) (d : Duration) (secret : SecretKey)
    (sessionId : String) (maxAgeSecs : UInt64) :
    t.verify lib (.sinceEpoch d) secret sessionId maxAgeSecs =
      if maxAgeSecs.toNat < d.secs.toNat - t.timestamp.toNat then .error .expired
      else if t.toWire.Signed (lib.hmacSha256 secret.bytes) (Text.bytes sessionId) then
        .ok ⟨t.timestamp, Duration.fromSecs (U64.saturatingSub d.secs t.timestamp), sessionId⟩
      else .error .invalidSignature := by
  have hage : U64.saturatingSub d.secs t.timestamp > maxAgeSecs ↔
      maxAgeSecs.toNat < d.secs.toNat - t.timestamp.toNat := by
    rw [gt_iff_lt, UInt64.lt_iff_toNat_lt, U64.toNat_saturatingSub]
  have hcmp : constantTimeCompare lib t.signature (lib.hmacSha256 secret.bytes
      (U64.toBeBytes t.timestamp ++ t.nonce ++ Text.bytes sessionId)).toList =
      decide (t.toWire.Signed (lib.hmacSha256 secret.bytes) (Text.bytes sessionId)) :=
    Wire.constantTimeCompare_signature lib _ t.toWire _
  simp only [verify, SystemTime.unixSeconds_sinceEpoch, Except.ok_bind, computeSignature_eq, hage,
    hcmp, Except.throw_bind]
  congr 1
  by_cases hsig : t.toWire.Signed (lib.hmacSha256 secret.bytes) (Text.bytes sessionId)
  · rw [if_pos hsig, decide_eq_true hsig]
    rfl
  · rw [if_neg hsig, decide_eq_false hsig]
    rfl

theorem verify_beforeEpoch (t : CsrfToken) (secret : SecretKey) (sessionId : String)
    (maxAgeSecs : UInt64) : t.verify lib .beforeEpoch secret sessionId maxAgeSecs =
      .error (.cryptoError "second time provided was later than self") :=
  rfl

/-- A token is accepted when it is fresh and signed for the session. -/
theorem isOk_verify_iff {t : CsrfToken} {now : SystemTime} {secret : SecretKey}
    {sessionId : String} {maxAgeSecs : UInt64} :
    (t.verify lib now secret sessionId maxAgeSecs).isOk ↔ Fresh now t.timestamp maxAgeSecs ∧
      t.toWire.Signed (lib.hmacSha256 secret.bytes) (Text.bytes sessionId) := by
  cases now with
  | beforeEpoch => simp [verify_beforeEpoch, Fresh]
  | sinceEpoch d =>
    rw [verify_sinceEpoch]
    simp only [Fresh, SystemTime.sinceEpoch.injEq, exists_eq_left']
    split_ifs with h hsig
    · simp [Nat.not_le.mpr h]
    · simp [Nat.not_lt.mp h, hsig]
    · simp [hsig]

/-- A text is accepted when it parses as a token that verifies. -/
def Accepts (lib : Crates) (s : String) (now : SystemTime) (secret : SecretKey)
    (sessionId : String) (maxAgeSecs : UInt64) : Prop :=
  ∃ t, fromStr lib s = .ok t ∧ (t.verify lib now secret sessionId maxAgeSecs).isOk

theorem accepts_iff {s : String} {now : SystemTime} {secret : SecretKey} {sessionId : String}
    {maxAgeSecs : UInt64} : Accepts lib s now secret sessionId maxAgeSecs ↔
      Wire.Accepted lib (lib.hmacSha256 secret.bytes) (Fresh now · maxAgeSecs)
        (Text.bytes sessionId) s := by
  simp only [Accepts, fromStr_eq_ok_iff, isOk_verify_iff]
  refine ⟨?_, ?_⟩
  · rintro ⟨t, ⟨-, hparse⟩, hfresh, hsig⟩
    exact ⟨t.toWire, hparse, hfresh, hsig⟩
  · rintro ⟨w, hparse, hfresh, hsig⟩
    exact ⟨⟨s, w.timestamp, w.nonce, w.signature⟩, ⟨rfl, hparse⟩, hfresh, hsig⟩

end CsrfToken

/-! ## Generation -/

/-- Builder for constructing CSRF tokens with custom configuration. -/
structure CsrfTokenBuilder where
  length : ℕ
  secretKey : Option SecretKey
  sessionId : Option String

namespace CsrfTokenBuilder

/-- `CsrfTokenBuilder::default`. -/
def default : CsrfTokenBuilder :=
  ⟨defaultNonceLength, none, none⟩

/-- Set the nonce length in bytes. -/
def withLength (self : CsrfTokenBuilder) (length : ℕ) : CsrfTokenBuilder :=
  { self with length := length }

/-- Set the secret key for signing. -/
def withSecretKey (self : CsrfTokenBuilder) (key : SecretKey) : CsrfTokenBuilder :=
  { self with secretKey := some key }

/-- Set the session ID to bind the token to. -/
def withSessionId (self : CsrfTokenBuilder) (id : String) : CsrfTokenBuilder :=
  { self with sessionId := some id }

/-- Generate the CSRF token at the clock reading `now`. -/
def generate (lib : Crates) (self : CsrfTokenBuilder) (now : SystemTime) :
    EStateM (Abort TokenError) SysRng CsrfToken := do
  if self.length < minNonceLength then
    throw (.error (.insufficientEntropy self.length minNonceLength))
  let some secret := self.secretKey | throw (.error (.invalidFormat "secret key is required"))
  let some sessionId := self.sessionId | throw (.error (.invalidFormat "session_id is required"))
  let timestamp ← orAbort now.unixSeconds
  let nonce ← generateBytes self.length
  let signature ← orAbort (CsrfToken.computeSignature lib secret timestamp nonce sessionId)
  let tsEncoded := Base64Url.encode lib (U64.toBeBytes timestamp)
  let nonceEncoded := Base64Url.encode lib nonce
  let sigEncoded := Base64Url.encode lib signature
  let token := tsEncoded.text ++ "." ++ nonceEncoded.text ++ "." ++ sigEncoded.text
  return ⟨token, timestamp, nonce, signature⟩

end CsrfTokenBuilder

theorem CsrfTokenBuilder.generate_panicsOnly {lib : Crates} (b : CsrfTokenBuilder)
    (now : SystemTime) : PanicsOnly (isizeMax < b.length) (b.generate lib now) := by
  obtain ⟨length, secretKey, sessionId⟩ := b
  unfold generate
  split_ifs
  · exact .throw_error _
  cases secretKey with
  | none => exact .throw_error _
  | some secret =>
    cases sessionId with
    | none => exact .throw_error _
    | some sessionId =>
      exact (PanicsOnly.orAbort _).bind fun timestamp => (generateBytes_panicsOnly length).bind
        fun nonce => (PanicsOnly.orAbort _).bind fun signature => .pure _

/-- A builder with a secret and a session id, at a clock reading since the epoch : once the
random source gives a nonce, the token is the text of the signed fields. -/
theorem CsrfTokenBuilder.generate_run {lib : Crates} {length : ℕ} (secret : SecretKey)
    (sessionId : String) (d : Duration) (os : SysRng) :
    (CsrfTokenBuilder.generate lib ⟨length, some secret, some sessionId⟩ (.sinceEpoch d)).run os =
      match (generateBytes length).run os with
      | .ok nonce os' => .ok (CsrfToken.ofWire lib (Wire.sign (lib.hmacSha256 secret.bytes) d.secs
          nonce (Text.bytes sessionId))) os'
      | .error e os' => .error e os' := by
  by_cases hlen : length < minNonceLength
  · have hmin : length < minEntropyBytes := hlen
    rw [generateBytes_run, if_pos hmin]
    simp [CsrfTokenBuilder.generate, hlen]
    rfl
  · cases hbytes : (generateBytes length).run os with
    | error e os' => simp [CsrfTokenBuilder.generate, hlen, hbytes]
    | ok nonce os' =>
      simp only [CsrfTokenBuilder.generate, if_neg hlen, SystemTime.unixSeconds_sinceEpoch,
        orAbort_ok, EStateM.run_bind, EStateM.run_pure, hbytes,
        CsrfToken.computeSignature_eq, CsrfToken.ofWire, Wire.render_eq, Wire.sign,
        Base64Url.encode]

/-- Only a builder with a secret key and a session id generates. -/
theorem CsrfTokenBuilder.exists_config_of_generate {lib : Crates} {b : CsrfTokenBuilder}
    {now : SystemTime} {os os' : SysRng} {t : CsrfToken}
    (h : (b.generate lib now).run os = .ok t os') :
    ∃ secret sessionId, b.secretKey = some secret ∧ b.sessionId = some sessionId := by
  obtain ⟨length, secretKey, sessionId⟩ := b
  by_cases hlen : length < minNonceLength
  · simp [CsrfTokenBuilder.generate, hlen] at h
  · cases secretKey with
    | none => simp [CsrfTokenBuilder.generate, hlen] at h
    | some secret =>
      cases sessionId with
      | none => simp [CsrfTokenBuilder.generate, hlen] at h
      | some sessionId => exact ⟨secret, sessionId, rfl, rfl⟩

theorem CsrfTokenBuilder.generate_run_eq_ok_iff {lib : Crates} {length : ℕ} {secret : SecretKey}
    {sessionId : String} {now : SystemTime} {os os' : SysRng} {t : CsrfToken} :
    (CsrfTokenBuilder.generate lib ⟨length, some secret, some sessionId⟩ now).run os = .ok t os' ↔
      ∃ d nonce, now = .sinceEpoch d ∧ (generateBytes length).run os = .ok nonce os' ∧
        t = CsrfToken.ofWire lib (Wire.sign (lib.hmacSha256 secret.bytes) d.secs nonce
          (Text.bytes sessionId)) := by
  cases now with
  | beforeEpoch =>
    by_cases hlen : length < minNonceLength <;> simp [CsrfTokenBuilder.generate, hlen]
  | sinceEpoch d =>
    rw [generate_run]
    cases (generateBytes length).run os with
    | error e os'' => simp
    | ok nonce os'' =>
      refine ⟨fun h => ?_, ?_⟩
      · cases h
        exact ⟨d, nonce, rfl, rfl, rfl⟩
      · rintro ⟨d', nonce', hd, hnonce, rfl⟩
        cases hd
        cases hnonce
        rfl

theorem CsrfTokenBuilder.generate_run_ok (lib : Crates) {length : ℕ} (secret : SecretKey)
    (sessionId : String) (d : Duration) {os : SysRng} {nonce : Vector UInt8 length}
    (hlen : Drawable length) (hos : os.answer length = .ok nonce) :
    (CsrfTokenBuilder.generate lib ⟨length, some secret, some sessionId⟩ (.sinceEpoch d)).run os =
      .ok (CsrfToken.ofWire lib (Wire.sign (lib.hmacSha256 secret.bytes) d.secs nonce.toList
        (Text.bytes sessionId))) os.next := by
  rw [generate_run, generateBytes_run_ok hlen hos]

/-- A generated token is the text of a signed one. -/
theorem CsrfTokenBuilder.exists_wire_of_generate {lib : Crates} {length : ℕ} {secret : SecretKey}
    {sessionId : String} {now : SystemTime} {os os' : SysRng} {t : CsrfToken}
    (h : (CsrfTokenBuilder.generate lib ⟨length, some secret, some sessionId⟩ now).run os =
      .ok t os') :
    ∃ w, t = CsrfToken.ofWire lib w ∧
      w.Signed (lib.hmacSha256 secret.bytes) (Text.bytes sessionId) := by
  obtain ⟨d, nonce, -, -, rfl⟩ := generate_run_eq_ok_iff.mp h
  exact ⟨_, rfl, Wire.signed_sign _ _ _ _⟩

/-- Generate a new CSRF token. -/
def CsrfToken.generate (lib : Crates) (secret : SecretKey) (sessionId : String) (length : ℕ)
    (now : SystemTime) : EStateM (Abort TokenError) SysRng CsrfToken :=
  (((CsrfTokenBuilder.default.withSecretKey secret).withSessionId sessionId).withLength
    length).generate lib now

/-- What a builder with a key and a session generates, as a signed token. -/
theorem CsrfToken.generate_eq (lib : Crates) (key : SecretKey) (sessionId : String) (length : ℕ)
    (now : SystemTime) : CsrfToken.generate lib key sessionId length now =
      if length < minNonceLength then
        throw (.error (.insufficientEntropy length minNonceLength))
      else orAbort now.unixSeconds >>= fun timestamp => generateBytes length >>= fun nonce =>
        pure (CsrfToken.ofWire lib
          (Wire.sign (lib.hmacSha256 key.bytes) timestamp nonce (Text.bytes sessionId))) := by
  show CsrfTokenBuilder.generate lib ⟨length, some key, some sessionId⟩ now = _
  unfold CsrfTokenBuilder.generate
  by_cases hlen : length < minNonceLength
  · rw [if_pos hlen, if_pos hlen]
    rfl
  · rw [if_neg hlen, if_neg hlen]
    refine bind_congr fun timestamp => bind_congr fun nonce => ?_
    simp only [CsrfToken.computeSignature_eq, orAbort_ok, pure_bind, CsrfToken.ofWire,
      Wire.render_eq, Wire.sign, Base64Url.encode]

end TokenGen
