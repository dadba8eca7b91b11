import TokenGen.HashRecord
import TokenGen.HexDecode
import TokenGen.KeyFormat

/-!
# Entropy

Every generator asks its random source for `length` bytes once and writes them into the text it
returns. `KeepsEntropy` says what this is for : a length below 16 and a source that fails are
errors, and the bytes can be read back from the text, so two sources that produce different
bytes give different texts. `entropy_kept` : all generators keep the entropy they are given.
-/

namespace TokenGen

/-- The bytes a random source produces when asked for `length` of them, if it does not fail. -/
def TokenRng.produced {R : Type} [TokenRng R] (length : ℕ) (rng : R) : Option Bytes :=
  match (TokenRng.fillBytes (Vector.replicate length 0)).run rng with
  | .ok bytes _ => some bytes.toList
  | .error _ _ => none

/-- The bytes the operating system's source produces. -/
def SysRng.produced (length : ℕ) (os : SysRng) : Option Bytes :=
  (os.answer length).toOption.map Vector.toList

/-- A generator that asks a random source for `length` bytes keeps their entropy in what it
generates. -/
structure KeepsEntropy {R α β : Type} (length : ℕ) (produced : R → Option Bytes)
    (gen : EStateM (Abort TokenError) R α) (text : α → β) (randomPart : β → Option Bytes) :
    Prop where
  /-- A short length is rejected before anything else is looked at. -/
  floor : length < 16 →
    ∀ rng, gen.run rng = .error (.error (.insufficientEntropy length 16)) rng
  /-- A failure of the source is an error, and a panic only where no buffer has this length. -/
  fails : ∀ rng, produced rng = none →
    ∃ e rng', gen.run rng = .error e rng' ∧ (e = .panic → isizeMax < length)
  /-- The random part of the text decodes to the bytes, all of them. -/
  decodes : ∀ rng t rng', gen.run rng = .ok t rng' → ∃ bytes, produced rng = some bytes ∧
    bytes.length = length ∧ randomPart (text t) = some bytes
  /-- Different bytes give different texts. -/
  distinct : ∀ rng₁ rng₂ t₁ t₂ rng₁' rng₂', gen.run rng₁ = .ok t₁ rng₁' →
    gen.run rng₂ = .ok t₂ rng₂' → produced rng₁ ≠ produced rng₂ → text t₁ ≠ text t₂

namespace KeepsEntropy

variable {R α β γ δ : Type} {length : ℕ} {produced : R → Option Bytes}
  {gen : EStateM (Abort TokenError) R α} {text : α → β} {randomPart : β → Option Bytes}

/-- A floor, and a text the bytes can be read from, are enough. -/
theorem of_decodes
    (floor : length < 16 →
      ∀ rng, gen.run rng = .error (.error (.insufficientEntropy length 16)) rng)
    (panics : ∀ rng rng', produced rng = none → gen.run rng = .error .panic rng' →
      isizeMax < length)
    (decodes : ∀ rng t rng', gen.run rng = .ok t rng' → ∃ bytes, produced rng = some bytes ∧
      bytes.length = length ∧ randomPart (text t) = some bytes) :
    KeepsEntropy length produced gen text randomPart where
  floor := floor
  fails rng hnone := by
    cases hrun : gen.run rng with
    | error e rng' => exact ⟨e, rng', rfl, fun he => panics rng rng' hnone (he ▸ hrun)⟩
    | ok t rng' =>
      obtain ⟨bytes, hbytes, -⟩ := decodes rng t rng' hrun
      rw [hnone] at hbytes
      cases hbytes
  decodes := decodes
  distinct rng₁ rng₂ t₁ t₂ rng₁' rng₂' h₁ h₂ hne htext := by
    obtain ⟨bytes₁, hbytes₁, -, hpart₁⟩ := decodes rng₁ t₁ rng₁' h₁
    obtain ⟨bytes₂, hbytes₂, -, hpart₂⟩ := decodes rng₂ t₂ rng₂' h₂
    rw [htext] at hpart₁
    exact hne (hbytes₁.trans (hpart₁.symm.trans (hpart₂.trans hbytes₂.symm)))

/-- What comes after the bytes are drawn loses none of them if it can be read the same. -/
theorem bind (h : KeepsEntropy length produced gen text randomPart)
    {cont : α → EStateM (Abort TokenError) R γ} {text' : γ → δ} {randomPart' : δ → Option Bytes}
    (hcont : ∀ a rng b rng', (cont a).run rng = .ok b rng' →
      randomPart' (text' b) = randomPart (text a)) :
    KeepsEntropy length produced (gen >>= cont) text' randomPart' := by
  refine of_decodes (fun hlen rng => ?_) (fun rng rng' hnone hrun => ?_) fun rng b rng' hrun => ?_
  · rw [EStateM.run_bind, h.floor hlen]
  · obtain ⟨e, rng₁, he, hpanic⟩ := h.fails rng hnone
    rw [EStateM.run_bind, he] at hrun
    cases hrun
    exact hpanic rfl
  · obtain ⟨a, rng₁, ha, hb⟩ := EStateM.run_bind_eq_ok_iff.mp hrun
    obtain ⟨bytes, hproduced, hlength, hpart⟩ := h.decodes rng a rng₁ ha
    exact ⟨bytes, hproduced, hlength, (hcont a rng₁ b rng' hb).trans hpart⟩

end KeepsEntropy

/-! ## Random bytes -/

theorem generateBytesWithRng_keepsEntropy {R : Type} [TokenRng R] (length : ℕ) :
    KeepsEntropy length (TokenRng.produced length) (generateBytesWithRng (R := R) length) id
      some := by
  refine .of_decodes (fun hlen rng => ?_)
    (fun rng rng' _ => generateBytesWithRng_panicsOnly length rng rng') fun rng bs rng' h => ?_
  · rw [generateBytesWithRng_run, if_pos (show length < minEntropyBytes from hlen)]
    rfl
  · rw [generateBytesWithRng_run] at h
    split_ifs at h
    cases hfill : (TokenRng.fillBytes (Vector.replicate length 0)).run rng with
    | error e rng₁ => simp [hfill] at h
    | ok bytes rng₁ =>
      simp only [hfill, EStateM.Result.ok.injEq] at h
      obtain ⟨rfl, -⟩ := h
      exact ⟨_, by rw [TokenRng.produced, hfill], bytes.length_toList, rfl⟩

theorem generateBytes_keepsEntropy (length : ℕ) :
    KeepsEntropy length (SysRng.produced length) (generateBytes length) id some := by
  refine .of_decodes (fun hlen os => ?_)
    (fun os os' _ => generateBytes_panicsOnly length os os') fun os bs os' h => ?_
  · rw [generateBytes_run, if_pos (show length < minEntropyBytes from hlen)]
    rfl
  · obtain ⟨-, bytes, hos, rfl, -⟩ := generateBytes_run_eq_ok_iff.mp h
    exact ⟨_, by rw [SysRng.produced, hos]; rfl, bytes.length_toList, rfl⟩

/-! ## Reading the random part -/

/-- The bytes of a text in a format, as parser and decoder of the format return them. -/
def Format.read (lib : Crates) (self : Format) (s : String) : Option Bytes :=
  match self with
  | .base64Url => (Base64Url.fromStr lib s >>= Base64Url.decode lib).toOption
  | .hex => (Hex.fromStr s >>= Hex.decode).run >>= Except.toOption

variable {lib : Crates}

theorem Format.read_encode (hlib : lib.Base64Lawful) (format : Format) (bytes : Bytes) :
    format.read lib (format.encode lib bytes) = some bytes := by
  cases format with
  | base64Url =>
    have hread := TextCodec.read_encode hlib.decodes bytes
    simp only [Format.read, Format.encode, Base64Url.encode, Base64Url.fromStr_of_read hread,
      Except.ok_bind, Base64Url.decode]
    exact hread
  | hex =>
    simp only [Format.read, Format.encode, ExceptT.run_bind, Hex.fromStr_encode]
    simp [Hex.decode_encode, Except.toOption]

/-- The bytes behind the second underscore of a key. -/
def ApiKey.randomPart (lib : Crates) (s : String) : Option Bytes :=
  (Text.after '_' 2 s).bind lib.base64.read

/-- The bytes in a token of a builder : the token itself, or its second part. -/
def AuthTokenBuilder.randomPart (lib : Crates) (self : AuthTokenBuilder) :
    String → Option Bytes :=
  match self.expiresIn with
  | none => self.format.read lib
  | some _ => Wire.noncePart lib

/-! ## The generators -/

theorem AuthToken.generate_keepsEntropy (hlib : lib.Base64Lawful) (length : ℕ) (format : Format) :
    KeepsEntropy length (SysRng.produced length) (AuthToken.generate lib length format)
      AuthToken.asStr (format.read lib) := by
  refine (generateBytes_keepsEntropy length).bind fun bytes os t os' h => ?_
  obtain ⟨rfl, -⟩ := EStateM.run_pure_eq_ok_iff.mp h
  exact Format.read_encode hlib format bytes

theorem AuthToken.generateWithRng_keepsEntropy (hlib : lib.Base64Lawful) {R : Type} [TokenRng R]
    (length : ℕ) (format : Format) :
    KeepsEntropy length (TokenRng.produced length)
      (AuthToken.generateWithRng (R := R) lib length format) AuthToken.asStr
      (format.read lib) := by
  refine (generateBytesWithRng_keepsEntropy length).bind fun bytes rng t rng' h => ?_
  obtain ⟨rfl, -⟩ := EStateM.run_pure_eq_ok_iff.mp h
  exact Format.read_encode hlib format bytes

theorem AuthTokenBuilder.generate_keepsEntropy (hlib : lib.Base64Lawful) (b : AuthTokenBuilder)
    (now : SystemTime) :
    KeepsEntropy b.length (SysRng.produced b.length) (b.generate lib now) AuthToken.asStr
      (b.randomPart lib) := by
  have hbytes := generateBytes_keepsEntropy b.length
  refine .of_decodes (fun hlen os => ?_)
    (fun os os' _ => generate_panicsOnly b now os os') fun os t os' h => ?_
  · show (generateBytes b.length >>= _).run os = _
    rw [EStateM.run_bind, hbytes.floor hlen]
  obtain ⟨length, format, expiresIn, secretKey⟩ := b
  cases expiresIn with
  | none => exact (AuthToken.generate_keepsEntropy hlib length format).decodes os t os' h
  | some duration =>
    cases secretKey with
    | none => exact absurd h (generate_run_without_secret _ _ _ _ _)
    | some secret =>
      obtain ⟨d, nonce, timestamp, -, hnonce, -, rfl⟩ := generate_run_expiring_eq_ok_iff.mp h
      obtain ⟨bytes, hproduced, hlength, hid⟩ := hbytes.decodes os nonce os' hnonce
      refine ⟨bytes, hproduced, hlength, ?_⟩
      rw [← hid]
      exact Wire.noncePart_render hlib _

theorem ApiKey.generate_keepsEntropy (hlib : lib.Base64Lawful) (keyType : ApiKeyType)
    (environment : Environment) (length : ℕ) :
    KeepsEntropy length (SysRng.produced length)
      (ApiKey.generate lib keyType environment length) ApiKey.asStr (ApiKey.randomPart lib) := by
  refine (generateBytes_keepsEntropy length).bind fun bytes os t os' h => ?_
  obtain ⟨rfl, -⟩ := EStateM.run_pure_eq_ok_iff.mp h
  exact (carries_of_inner hlib (k := ⟨_, keyText_ne_empty _ _ _⟩) rfl).body

theorem ApiKeyBuilder.generateWithHash_keepsEntropy (hlib : lib.Base64Lawful)
    (b : ApiKeyBuilder) :
    KeepsEntropy b.length (SysRng.produced b.length) (b.generateWithHash lib) (·.key.asStr)
      (ApiKey.randomPart lib) := by
  rw [generateWithHash_eq]
  refine (ApiKey.generate_keepsEntropy hlib b.keyType b.environment b.length).bind
    fun key os g os' h => ?_
  simp only [EStateM.run_bind_eq_ok_iff, EStateM.run_pure_eq_ok_iff] at h
  obtain ⟨keyHash, _, -, rfl, -⟩ := h
  rfl

theorem CsrfTokenBuilder.generate_keepsEntropy (hlib : lib.Base64Lawful) (b : CsrfTokenBuilder)
    (now : SystemTime) :
    KeepsEntropy b.length (SysRng.produced b.length) (b.generate lib now) CsrfToken.asStr
      (Wire.noncePart lib) := by
  refine .of_decodes (fun hlen os => ?_)
    (fun os os' _ => generate_panicsOnly b now os os') fun os t os' h => ?_
  · rw [generate, if_pos (show b.length < minNonceLength from hlen)]
    rfl
  · obtain ⟨secret, sessionId, hsecret, hsession⟩ := exists_config_of_generate h
    obtain ⟨length, _, _⟩ := b
    obtain rfl := hsecret
    obtain rfl := hsession
    obtain ⟨d, nonce, -, hnonce, rfl⟩ := generate_run_eq_ok_iff.mp h
    obtain ⟨bytes, hproduced, hlength, hbytes⟩ :=
      (generateBytes_keepsEntropy length).decodes os nonce os' hnonce
    refine ⟨bytes, hproduced, hlength, ?_⟩
    rw [← hbytes]
    exact Wire.noncePart_render hlib _

/-- Without a salt, hashing does not get as far as scrypt. -/
theorem ApiKey.hashScrypt_panics_of_salt_fails {k : ApiKey} {os os' : SysRng}
    (hsalt : os.produced 16 = none) (h : (k.hashScrypt lib).run os = .error .panic os') :
    lib.scryptParams 14 8 1 = none := by
  have hbytes : ∃ e, (generateBytes 16).run os = .error (.error e) os.next := by
    cases hos : os.answer 16 with
    | ok salt => simp [SysRng.produced, hos, Except.toOption] at hsalt
    | error e =>
      rw [generateBytes_run, if_neg (by decide), if_neg (by decide), hos]
      exact ⟨_, rfl⟩
  obtain ⟨e, hbytes⟩ := hbytes
  rcases hparams : lib.scryptParams 14 8 1 with _ | e' | params
  · rfl
  · simp [ApiKey.hashScrypt, hparams, Except.mapError] at h
  · simp [ApiKey.hashScrypt, hparams, hbytes] at h

/-- With a scrypt hash, a failure to produce the salt is an error, too. -/
theorem ApiKeyBuilder.generateWithHash_salt_fails (b : ApiKeyBuilder)
    (hscrypt : b.hashAlgorithm = some .scrypt) {os : SysRng} (hsalt : os.next.produced 16 = none) :
    ∃ e os', (b.generateWithHash lib).run os = .error e os' ∧
      (e = .panic → isizeMax < b.length ∨ lib.scryptParams 14 8 1 = none) := by
  cases hrun : (b.generateWithHash lib).run os with
  | error e os' =>
    refine ⟨e, os', rfl, ?_⟩
    rintro rfl
    rw [generateWithHash_eq, hscrypt] at hrun
    unfold GeneratedApiKey.generateHashed at hrun
    rw [EStateM.run_bind] at hrun
    cases hkey : (ApiKey.generate lib b.keyType b.environment b.length).run os with
    | error e₁ os₁ =>
      rw [hkey] at hrun
      cases hrun
      exact Or.inl (ApiKey.generate_panicsOnly _ _ _ _ _ hkey)
    | ok k os₁ =>
      obtain ⟨-, -, -, rfl, -⟩ := ApiKey.generate_run_eq_ok_iff.mp hkey
      simp only [hkey, Option.getD_some, EStateM.run_bind] at hrun
      cases hhash : (k.hash lib .scrypt).run os.next with
      | ok text os₂ =>
        rw [hhash] at hrun
        cases hrun
      | error e₂ os₂ =>
        rw [hhash] at hrun
        cases hrun
        exact Or.inr (ApiKey.hashScrypt_panics_of_salt_fails hsalt hhash)
  | ok g os' =>
    rw [generateWithHash_eq, hscrypt] at hrun
    obtain ⟨os₁, hkey, hhash⟩ := GeneratedApiKey.generateHashed_run_eq_ok_iff.mp hrun
    obtain ⟨-, -, -, rfl, -⟩ := ApiKey.generate_run_eq_ok_iff.mp hkey
    obtain ⟨salt, -, hos, -⟩ := HashRecord.hash_run_scrypt_eq_ok_iff.mp hhash
    rw [SysRng.produced, hos] at hsalt
    cases hsalt

/-- All generators, in every configuration, at every clock reading and with every random source,
keep the entropy of the bytes they draw. -/
theorem entropy_kept (hlib : lib.Base64Lawful) :
    (∀ length format, KeepsEntropy length (SysRng.produced length)
      (AuthToken.generate lib length format) AuthToken.asStr (format.read lib)) ∧
    (∀ (R : Type) [TokenRng R] length format, KeepsEntropy length (TokenRng.produced length)
      (AuthToken.generateWithRng (R := R) lib length format) AuthToken.asStr
      (format.read lib)) ∧
    (∀ (b : AuthTokenBuilder) now, KeepsEntropy b.length (SysRng.produced b.length)
      (b.generate lib now) AuthToken.asStr (b.randomPart lib)) ∧
    (∀ keyType environment length, KeepsEntropy length (SysRng.produced length)
      (ApiKey.generate lib keyType environment length) ApiKey.asStr (ApiKey.randomPart lib)) ∧
    (∀ b : ApiKeyBuilder, KeepsEntropy b.length (SysRng.produced b.length) (b.generate lib)
      ApiKey.asStr (ApiKey.randomPart lib)) ∧
    (∀ b : ApiKeyBuilder, KeepsEntropy b.length (SysRng.produced b.length)
        (b.generateWithHash lib) (·.key.asStr) (ApiKey.randomPart lib) ∧
      (b.hashAlgorithm = some .scrypt → ∀ os : SysRng, os.next.produced 16 = none →
        ∃ e os', (b.generateWithHash lib).run os = .error e os' ∧
          (e = .panic → isizeMax < b.length ∨ lib.scryptParams 14 8 1 = none))) ∧
    (∀ secret sessionId length now, KeepsEntropy length (SysRng.produced length)
      (CsrfToken.generate lib secret sessionId length now) CsrfToken.asStr
      (Wire.noncePart lib)) ∧
    ∀ (b : CsrfTokenBuilder) now, KeepsEntropy b.length (SysRng.produced b.length)
      (b.generate lib now) CsrfToken.asStr (Wire.noncePart lib) :=
  ⟨AuthToken.generate_keepsEntropy hlib,
    fun _ _ => AuthToken.generateWithRng_keepsEntropy hlib,
    AuthTokenBuilder.generate_keepsEntropy hlib,
    ApiKey.generate_keepsEntropy hlib,
    fun b => ApiKey.generate_keepsEntropy hlib b.keyType b.environment b.length,
    fun b => ⟨ApiKeyBuilder.generateWithHash_keepsEntropy hlib b,
      fun hscrypt _ => ApiKeyBuilder.generateWithHash_salt_fails b hscrypt⟩,
    fun secret sessionId length => CsrfTokenBuilder.generate_keepsEntropy hlib
      ⟨length, some secret, some sessionId⟩,
    CsrfTokenBuilder.generate_keepsEntropy hlib⟩

theorem entropy_kept_standard :
    KeepsEntropy 16 (SysRng.produced 16) (AuthToken.generate Crates.standard 16 .hex)
      AuthToken.asStr (Format.read Crates.standard .hex) ∧
    KeepsEntropy 16 (TokenRng.produced 16)
      (AuthToken.generateWithRng (R := SystemRng) Crates.standard 16 .base64Url)
      AuthToken.asStr (Format.read Crates.standard .base64Url) ∧
    (∀ now, KeepsEntropy 16 (SysRng.produced 16)
      (CsrfToken.generate Crates.standard SecretKey.zeros "s" 16 now) CsrfToken.asStr
      (Wire.noncePart Crates.standard)) ∧
    KeepsEntropy 32 (SysRng.produced 32) (ApiKeyBuilder.default.generateWithHash Crates.standard)
      (·.key.asStr) (ApiKey.randomPart Crates.standard) := by
  obtain ⟨auth, withRng, -, -, -, key, csrf, -⟩ := entropy_kept Crates.standard_base64Lawful
  exact ⟨auth 16 .hex, withRng SystemRng 16 .base64Url, csrf SecretKey.zeros "s" 16,
    (key ApiKeyBuilder.default).1⟩

end TokenGen
