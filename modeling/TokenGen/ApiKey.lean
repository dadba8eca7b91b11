import TokenGen.Crypto
import TokenGen.Encoding
import TokenGen.Lib.Radix

/-!
# API keys (`src/token/api_key.rs`)

An API key is random bytes in Base64 after a key type and an environment,
`type_environment_body`, or any nonempty text that is parsed as one. For storage a key is
hashed into a record, `sha256:digest` or `scrypt:14:8:1:salt:derived`, and `ApiKey.verify`
checks a key against a record : the first kind is recomputed and compared as a whole, the
second is taken apart and the derivation repeated with what the record says, which may be
parameters scrypt panics on.

`verifyScrypt_of_split` and `verifyScrypt_eq_false` : the second check derives bytes for five parts
that can be read, and for no other text.
-/

namespace TokenGen

/-- API key type prefix. -/
inductive ApiKeyType where
  | api
  | secret
  | publicKey
  deriving DecidableEq

/-- The prefix string of a key type. -/
def ApiKeyType.prefixStr : ApiKeyType → String
  | .api => "api"
  | .secret => "sk"
  | .publicKey => "pk"

/-- Environment for API keys. -/
inductive Environment where
  | live
  | test
  | staging
  deriving DecidableEq

/-- The prefix string of an environment. -/
def Environment.prefixStr : Environment → String
  | .live => "live"
  | .test => "test"
  | .staging => "staging"

/-- Hash algorithm for API key storage. -/
inductive HashAlgorithm where
  | sha256
  | scrypt
  deriving DecidableEq

/-- API key with prefix. -/
structure ApiKey where
  inner : String
  ne_empty : inner ≠ ""
  deriving DecidableEq

namespace ApiKey

variable (lib : Crates)

theorem keyText_ne_empty (type env body : String) : type ++ "_" ++ env ++ "_" ++ body ≠ "" := by
  simp [String.append_eq_empty_iff]

/-- Generate a new API key. -/
def generate (keyType : ApiKeyType) (environment : Environment) (length : ℕ) :
    EStateM (Abort TokenError) SysRng ApiKey := do
  let bytes ← generateBytes length
  let encoded := Base64Url.encode lib bytes
  return ⟨keyType.prefixStr ++ "_" ++ environment.prefixStr ++ "_" ++ encoded.text,
    keyText_ne_empty _ _ _⟩

/-- The key as a string. -/
def asStr (self : ApiKey) : String :=
  self.inner

/-- Hash this key using SHA-256. -/
def hashSha256 (self : ApiKey) : String :=
  "sha256:" ++ lib.hex.encode (lib.sha256 (Text.bytes self.inner)).toList

/-- Hash this key using scrypt, with a fresh salt of 16 bytes. -/
def hashScrypt (self : ApiKey) : EStateM (Abort TokenError) SysRng String := do
  let params ← orPanic (lib.scryptParams 14 8 1)
  let params ← orAbort (params.mapError .cryptoError)
  let saltBytes ← generateBytes 16
  if saltBytes.length ≠ 16 then
    throw (.error (.cryptoError "failed to create salt array"))
  let scrypt ← orPanic (lib.scrypt params 32)
  let derived ← orAbort ((scrypt (Text.bytes self.inner) saltBytes).mapError .cryptoError)
  return "scrypt:14:8:1:" ++ lib.hex.encode saltBytes ++ ":" ++ lib.hex.encode derived.toList

/-- Hash this key using the specified algorithm. -/
def hash (self : ApiKey) (algorithm : HashAlgorithm) : EStateM (Abort TokenError) SysRng String :=
  match algorithm with
  | .sha256 => return self.hashSha256 lib
  | .scrypt => self.hashScrypt lib

/-- Derive a key with parameters and salt of a record and compare it with the expected one.
Parameters that are out of range and a derivation that fails give `false`, and `none` is a
panic of scrypt. -/
def checkDerived (self : ApiKey) (n : UInt8) (r p : UInt32) (salt expected : Bytes) :
    Option Bool :=
  match lib.scryptParams n r p with
  | none => none
  | some (.error _) => some false
  | some (.ok params) =>
    match lib.scrypt params expected.length with
    | none => none
    | some scrypt =>
      match scrypt (Text.bytes self.inner) salt with
      | .error _ => some false
      | .ok derived => some (constantTimeCompare lib derived.toList expected)

/-- Verify this key against what follows `scrypt:` in a record. A part that is not there, does
not parse or does not decode gives `false`. -/
def verifyScrypt (self : ApiKey) (hashPart : String) : Option Bool :=
  match Text.split ':' hashPart with
  | [part0, part1, part2, part3, part4] =>
    match Radix.parseU8 part0, Radix.parseU32 part1, Radix.parseU32 part2,
        lib.hex.decode part3, lib.hex.decode part4 with
    | .ok n, .ok r, .ok p, .ok salt, .ok expected => self.checkDerived lib n r p salt expected
    | _, _, _, _, _ => some false
  | _ => some false

/-- Verify this key against a stored hash. Without a result, the verification panics. -/
def verify (self : ApiKey) (storedHash : String) : Option Bool :=
  match Text.stripPrefix "sha256:" storedHash with
  | some _ =>
    let expected := self.hashSha256 lib
    some (constantTimeCompare lib (Text.bytes expected) (Text.bytes storedHash))
  | none =>
    match Text.stripPrefix "scrypt:" storedHash with
    | some hashPart => self.verifyScrypt lib hashPart
    | none => some false

/-- The key type from the prefix. -/
def keyType (self : ApiKey) : Option ApiKeyType :=
  match (Text.split '_' self.inner)[0]? with
  | some "api" => some .api
  | some "sk" => some .secret
  | some "pk" => some .publicKey
  | _ => none

/-- The environment from the prefix. -/
def environment (self : ApiKey) : Option Environment :=
  match (Text.split '_' self.inner)[1]? with
  | some "live" => some .live
  | some "test" => some .test
  | some "staging" => some .staging
  | _ => none

/-- Parse a key : any text but the empty one. -/
def fromStr (s : String) : Except TokenError ApiKey :=
  if h : s = "" then .error (.invalidFormat "API key cannot be empty") else .ok ⟨s, h⟩

end ApiKey

/-! ## Generation -/

/-- Generated API key with its hash. -/
structure GeneratedApiKey where
  key : ApiKey
  keyHash : String

namespace GeneratedApiKey

variable (lib : Crates)

/-- Generate a new API key with SHA-256 hash. -/
def generateSha256 (keyType : ApiKeyType) (environment : Environment) (length : ℕ) :
    EStateM (Abort TokenError) SysRng GeneratedApiKey := do
  let key ← ApiKey.generate lib keyType environment length
  let keyHash := key.hashSha256 lib
  return ⟨key, keyHash⟩

/-- Generate a new API key with scrypt hash. -/
def generateScrypt (keyType : ApiKeyType) (environment : Environment) (length : ℕ) :
    EStateM (Abort TokenError) SysRng GeneratedApiKey := do
  let key ← ApiKey.generate lib keyType environment length
  let keyHash ← key.hashScrypt lib
  return ⟨key, keyHash⟩

/-- Verify the key against the stored hash. -/
def verify (self : GeneratedApiKey) : Option Bool :=
  self.key.verify lib self.keyHash

end GeneratedApiKey

/-- Builder for constructing API keys with custom options. -/
structure ApiKeyBuilder where
  keyType : ApiKeyType
  environment : Environment
  length : ℕ
  hashAlgorithm : Option HashAlgorithm

namespace ApiKeyBuilder

/-- `ApiKeyBuilder::default`. -/
def default : ApiKeyBuilder :=
  ⟨.api, .live, 32, none⟩

/-- Set the key type. -/
def withKeyType (self : ApiKeyBuilder) (keyType : ApiKeyType) : ApiKeyBuilder :=
  { self with keyType := keyType }

/-- Set the environment. -/
def withEnvironment (self : ApiKeyBuilder) (environment : Environment) : ApiKeyBuilder :=
  { self with environment := environment }

/-- Set the key length in bytes. -/
def withLength (self : ApiKeyBuilder) (length : ℕ) : ApiKeyBuilder :=
  { self with length := length }

/-- Set the hash algorithm for generating a `GeneratedApiKey`. -/
def withHashAlgorithm (self : ApiKeyBuilder) (algorithm : HashAlgorithm) : ApiKeyBuilder :=
  { self with hashAlgorithm := some algorithm }

/-- Generate the API key. -/
def generate (lib : Crates) (self : ApiKeyBuilder) : EStateM (Abort TokenError) SysRng ApiKey :=
  ApiKey.generate lib self.keyType self.environment self.length

/-- Generate the API key with its hash. -/
def generateWithHash (lib : Crates) (self : ApiKeyBuilder) :
    EStateM (Abort TokenError) SysRng GeneratedApiKey := do
  let key ← ApiKey.generate lib self.keyType self.environment self.length
  let keyHash ←
    match self.hashAlgorithm with
    | some algorithm => key.hash lib algorithm
    | none => pure (key.hashSha256 lib)
  return ⟨key, keyHash⟩

end ApiKeyBuilder

/-- A new key and its hash under an algorithm, the common core of the three ways to generate
a key with its hash. -/
def GeneratedApiKey.generateHashed (lib : Crates) (keyType : ApiKeyType)
    (environment : Environment) (length : ℕ) (algorithm : HashAlgorithm) :
    EStateM (Abort TokenError) SysRng GeneratedApiKey := do
  let key ← ApiKey.generate lib keyType environment length
  let keyHash ← key.hash lib algorithm
  return ⟨key, keyHash⟩

theorem GeneratedApiKey.generateSha256_eq (lib : Crates) (keyType : ApiKeyType)
    (environment : Environment) (length : ℕ) :
    generateSha256 lib keyType environment length =
      generateHashed lib keyType environment length .sha256 := by
  simp [generateSha256, generateHashed, ApiKey.hash]

theorem GeneratedApiKey.generateScrypt_eq (lib : Crates) (keyType : ApiKeyType)
    (environment : Environment) (length : ℕ) :
    generateScrypt lib keyType environment length =
      generateHashed lib keyType environment length .scrypt :=
  rfl

theorem ApiKeyBuilder.generateWithHash_eq (lib : Crates) (b : ApiKeyBuilder) :
    b.generateWithHash lib = GeneratedApiKey.generateHashed lib b.keyType b.environment b.length
      (b.hashAlgorithm.getD .sha256) := by
  obtain ⟨keyType, environment, length, _ | algorithm⟩ := b
  · simp [generateWithHash, GeneratedApiKey.generateHashed, ApiKey.hash]
  · rfl

theorem ApiKey.generate_panicsOnly {lib : Crates} (keyType : ApiKeyType)
    (environment : Environment) (length : ℕ) :
    PanicsOnly (isizeMax < length) (ApiKey.generate lib keyType environment length) :=
  (generateBytes_panicsOnly length).bind fun _ => .pure _

/-- SHA-256 does not panic. -/
theorem ApiKeyBuilder.generateWithHash_panicsOnly {lib : Crates} (b : ApiKeyBuilder)
    (hb : b.hashAlgorithm = none) :
    PanicsOnly (isizeMax < b.length) (b.generateWithHash lib) := by
  rw [generateWithHash_eq, hb]
  exact (ApiKey.generate_panicsOnly _ _ _).bind fun _ => .pure _

theorem GeneratedApiKey.generateHashed_run_eq_ok_iff {lib : Crates} {keyType : ApiKeyType}
    {environment : Environment} {length : ℕ} {algorithm : HashAlgorithm} {os os' : SysRng}
    {g : GeneratedApiKey} :
    (generateHashed lib keyType environment length algorithm).run os = .ok g os' ↔
      ∃ os₁, (ApiKey.generate lib keyType environment length).run os = .ok g.key os₁ ∧
        (g.key.hash lib algorithm).run os₁ = .ok g.keyHash os' := by
  simp only [generateHashed, EStateM.run_bind_eq_ok_iff, EStateM.run_pure_eq_ok_iff]
  refine ⟨?_, ?_⟩
  · rintro ⟨key, os₁, hkey, keyHash, os₂, hhash, rfl, rfl⟩
    exact ⟨os₁, hkey, hhash⟩
  · rintro ⟨os₁, hkey, hhash⟩
    exact ⟨g.key, os₁, hkey, g.keyHash, os', hhash, rfl, rfl⟩

/-- The text of a key with the given body. -/
def ApiKey.keyText (keyType : ApiKeyType) (environment : Environment) (body : String) : String :=
  keyType.prefixStr ++ "_" ++ environment.prefixStr ++ "_" ++ body

/-- The keys generated from the answer of the random source. -/
theorem ApiKey.generate_run_eq_ok_iff {lib : Crates} {keyType : ApiKeyType}
    {environment : Environment} {length : ℕ} {os os' : SysRng} {k : ApiKey} :
    (generate lib keyType environment length).run os = .ok k os' ↔
      Drawable length ∧ ∃ bytes, os.answer length = .ok bytes ∧ os' = os.next ∧
        k.inner = keyText keyType environment (lib.base64.encode bytes.toList) := by
  simp only [generate, EStateM.run_bind_eq_ok_iff, EStateM.run_pure_eq_ok_iff,
    generateBytes_run_eq_ok_iff]
  refine ⟨?_, ?_⟩
  · rintro ⟨_, _, ⟨hlen, bytes, hos, rfl, rfl⟩, rfl, rfl⟩
    exact ⟨hlen, bytes, hos, rfl, rfl⟩
  · rintro ⟨hlen, bytes, hos, rfl, hk⟩
    refine ⟨_, _, ⟨hlen, bytes, hos, rfl, rfl⟩, ?_, rfl⟩
    cases k
    cases hk
    rfl

/-- Once the random source gives bytes, a key is generated. -/
theorem ApiKey.exists_generate_run (lib : Crates) (keyType : ApiKeyType)
    (environment : Environment) {length : ℕ} (hlen : Drawable length) {os : SysRng}
    {bytes : Vector UInt8 length} (hos : os.answer length = .ok bytes) :
    ∃ k, (ApiKey.generate lib keyType environment length).run os = .ok k os.next :=
  ⟨⟨_, keyText_ne_empty _ _ _⟩, generate_run_eq_ok_iff.mpr ⟨hlen, bytes, hos, rfl, rfl⟩⟩

/-! ## What verification asks for -/

namespace ApiKey

variable {lib : Crates}

theorem fromStr_asStr (k : ApiKey) : fromStr k.asStr = .ok k :=
  dif_neg k.ne_empty

theorem verify_sha256 (k : ApiKey) (t : String) : k.verify lib ("sha256:" ++ t) =
    some (decide (k.hashSha256 lib = "sha256:" ++ t)) := by
  simp only [verify, Text.stripPrefix_append]
  rw [Option.some.injEq, Bool.eq_iff_iff, constantTimeCompare_eq_true_iff, Text.bytes_inj,
    decide_eq_true_iff]

theorem scryptText_ne (t t' : String) : "scrypt:" ++ t ≠ "sha256:" ++ t' := by
  intro h
  have := congrArg String.toList h
  simp at this

theorem verify_scrypt (k : ApiKey) (t : String) :
    k.verify lib ("scrypt:" ++ t) = k.verifyScrypt lib t := by
  have hnone := Text.stripPrefix_eq_none_iff.mpr (scryptText_ne t)
  simp only [verify, hnone, Text.stripPrefix_append]

/-- A text that starts with neither prefix is no record. -/
theorem verify_eq_false {k : ApiKey} {s : String} (hsha : ∀ t, s ≠ "sha256:" ++ t)
    (hscrypt : ∀ t, s ≠ "scrypt:" ++ t) : k.verify lib s = some false := by
  simp only [verify, Text.stripPrefix_eq_none_iff.mpr hsha,
    Text.stripPrefix_eq_none_iff.mpr hscrypt]

/-- A derivation gives the expected bytes where the parameters are in range and scrypt returns
these bytes. -/
theorem checkDerived_eq_some_true_iff {k : ApiKey} {n : UInt8} {r p : UInt32}
    {salt expected : Bytes} : k.checkDerived lib n r p salt expected = some true ↔
      ∃ params scrypt derived, lib.scryptParams n r p = some (.ok params) ∧
        lib.scrypt params expected.length = some scrypt ∧
        scrypt (Text.bytes k.inner) salt = .ok derived ∧ derived.toList = expected := by
  unfold checkDerived
  rcases lib.scryptParams n r p with _ | _ | params
  · simp
  · simp
  · cases hscrypt : lib.scrypt params expected.length with
    | none => simp [hscrypt]
    | some scrypt =>
      cases hderived : scrypt (Text.bytes k.inner) salt <;> simp [hscrypt, hderived]

/-- Five parts that can be read are checked. -/
theorem verifyScrypt_of_split {k : ApiKey} {s p₀ p₁ p₂ p₃ p₄ : String}
    (hs : Text.split ':' s = [p₀, p₁, p₂, p₃, p₄]) {n : UInt8} {r p : UInt32}
    {salt expected : Bytes} (h₀ : Radix.parseU8 p₀ = .ok n) (h₁ : Radix.parseU32 p₁ = .ok r)
    (h₂ : Radix.parseU32 p₂ = .ok p) (h₃ : lib.hex.decode p₃ = .ok salt)
    (h₄ : lib.hex.decode p₄ = .ok expected) :
    k.verifyScrypt lib s = k.checkDerived lib n r p salt expected := by
  simp only [verifyScrypt, hs, h₀, h₁, h₂, h₃, h₄]

/-- Everything else is no record. -/
theorem verifyScrypt_eq_false {k : ApiKey} {s : String}
    (h : ¬∃ p₀ p₁ p₂ p₃ p₄, Text.split ':' s = [p₀, p₁, p₂, p₃, p₄] ∧ ∃ n r p salt expected,
      Radix.parseU8 p₀ = .ok n ∧ Radix.parseU32 p₁ = .ok r ∧ Radix.parseU32 p₂ = .ok p ∧
        lib.hex.decode p₃ = .ok salt ∧ lib.hex.decode p₄ = .ok expected) :
    k.verifyScrypt lib s = some false := by
  unfold verifyScrypt
  split
  · rename_i p₀ p₁ p₂ p₃ p₄ hs
    split
    · rename_i n r p salt expected h₀ h₁ h₂ h₃ h₄
      exact absurd ⟨_, _, _, _, _, hs, n, r, p, salt, expected, h₀, h₁, h₂, h₃, h₄⟩ h
    · rfl
  · rfl

end ApiKey

end TokenGen
