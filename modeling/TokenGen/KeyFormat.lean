import TokenGen.ApiKey
import TokenGen.Auth
import TokenGen.Standard

/-!
# The format of API keys

The underscore between the parts of a key is also a digit of URL-safe Base64, so a key splits
into any number of pieces. `key_format_unambiguous` : the first two still name the type and the
environment, what follows the second underscore decodes to the random bytes, so a text is
generated from one triple only; and without a dot it is taken for neither kind of signed token.
-/

namespace TokenGen

variable {lib : Crates}

/-! ## Reading a key -/

theorem ApiKeyType.underscore_not_mem (keyType : ApiKeyType) :
    '_' ∉ keyType.prefixStr.toList := by
  cases keyType <;> decide

theorem Environment.underscore_not_mem (environment : Environment) :
    '_' ∉ environment.prefixStr.toList := by
  cases environment <;> decide

namespace ApiKey

theorem keyText_eq (keyType : ApiKeyType) (environment : Environment) (body : String) :
    keyText keyType environment body = keyType.prefixStr ++ '_'.toString ++
      (environment.prefixStr ++ '_'.toString ++ body) := by
  rw [keyText, String.append_assoc, String.append_assoc, String.append_assoc,
    String.append_assoc, String.append_assoc]
  rfl

/-- The pieces of a key : type, environment, and however many the body has. -/
theorem split_keyText (keyType : ApiKeyType) (environment : Environment) (body : String) :
    Text.split '_' (keyText keyType environment body) =
      keyType.prefixStr :: environment.prefixStr :: Text.split '_' body := by
  rw [keyText_eq, Text.split_append keyType.underscore_not_mem,
    Text.split_append environment.underscore_not_mem]

theorem after_keyText (keyType : ApiKeyType) (environment : Environment) (body : String) :
    Text.after '_' 2 (keyText keyType environment body) = some body := by
  rw [keyText_eq, Text.after_succ_append keyType.underscore_not_mem,
    Text.after_succ_append environment.underscore_not_mem, Text.after_zero]

theorem dot_not_mem_keyText (keyType : ApiKeyType) (environment : Environment) {body : String}
    (hbody : '.' ∉ body.toList) : '.' ∉ (keyText keyType environment body).toList := by
  have htype : '.' ∉ keyType.prefixStr.toList := by cases keyType <;> decide
  have henv : '.' ∉ environment.prefixStr.toList := by cases environment <;> decide
  simp [keyText, htype, henv, hbody]

/-- A key that gives itself away as one of a type and an environment, with the given bytes
behind the second underscore. -/
structure Carries (lib : Crates) (k : ApiKey) (keyType : ApiKeyType) (environment : Environment)
    (bytes : Bytes) : Prop where
  keyType_eq : k.keyType = some keyType
  environment_eq : k.environment = some environment
  body : (Text.after '_' 2 k.asStr).bind lib.base64.read = some bytes

theorem carries_of_inner (hlib : lib.Base64Lawful) {k : ApiKey} {keyType : ApiKeyType}
    {environment : Environment} {bytes : Bytes}
    (h : k.inner = keyText keyType environment (lib.base64.encode bytes)) :
    k.Carries lib keyType environment bytes where
  keyType_eq := by
    rw [ApiKey.keyType, h, split_keyText]
    cases keyType <;> rfl
  environment_eq := by
    rw [ApiKey.environment, h, split_keyText]
    cases environment <;> rfl
  body := by
    rw [asStr, h, after_keyText, Option.bind_some, TextCodec.read_encode hlib.decodes]

/-- A key carries one triple. -/
theorem Carries.unique {k : ApiKey} {keyType keyType' : ApiKeyType}
    {environment environment' : Environment} {bytes bytes' : Bytes}
    (h : k.Carries lib keyType environment bytes)
    (h' : k.Carries lib keyType' environment' bytes') :
    keyType = keyType' ∧ environment = environment' ∧ bytes = bytes' :=
  ⟨Option.some.inj (h.keyType_eq.symm.trans h'.keyType_eq),
    Option.some.inj (h.environment_eq.symm.trans h'.environment_eq),
    Option.some.inj (h.body.symm.trans h'.body)⟩

/-- A generated key carries what it was generated from. -/
theorem carries_of_generate (hlib : lib.Base64Lawful) {keyType : ApiKeyType}
    {environment : Environment} {length : ℕ} {os os' : SysRng} {k : ApiKey}
    (h : (generate lib keyType environment length).run os = .ok k os') :
    ∃ bytes, os.answer length = .ok bytes ∧ k.Carries lib keyType environment bytes.toList ∧
      '.' ∉ k.asStr.toList := by
  obtain ⟨-, bytes, hos, -, hk⟩ := generate_run_eq_ok_iff.mp h
  refine ⟨bytes, hos, carries_of_inner hlib hk, ?_⟩
  rw [asStr, hk]
  exact dot_not_mem_keyText keyType environment (hlib.avoids_dot bytes.toList)

end ApiKey

/-! ## The format -/

/-- For all random bytes of a length that can be drawn, the key generated from them is parsed back
as itself, carries type, environment and bytes, and is taken neither for an expiring auth token nor
for a CSRF token. Two generated keys with one text carry the same. -/
theorem key_format_unambiguous (hlib : lib.Base64Lawful) :
    (∀ (keyType : ApiKeyType) (environment : Environment) (length : ℕ)
        (bytes : Vector UInt8 length) (os : SysRng), Drawable length →
      os.answer length = .ok bytes →
      ∃ k, (ApiKey.generate lib keyType environment length).run os = .ok k os.next ∧
        ApiKey.fromStr k.asStr = .ok k ∧ k.keyType = some keyType ∧
        k.environment = some environment ∧
        (Text.after '_' 2 k.asStr).bind lib.base64.read = some bytes.toList ∧
        '.' ∉ k.asStr.toList ∧ AuthToken.fromStr lib k.asStr = .ok ⟨k.asStr, false⟩ ∧
        ∀ c, CsrfToken.fromStr lib k.asStr ≠ .ok c) ∧
    ∀ (keyType keyType' : ApiKeyType) (environment environment' : Environment)
        (length length' : ℕ) (os os₁ os' os₁' : SysRng) (k k' : ApiKey),
      (ApiKey.generate lib keyType environment length).run os = .ok k os₁ →
      (ApiKey.generate lib keyType' environment' length').run os' = .ok k' os₁' →
      k.asStr = k'.asStr →
      keyType = keyType' ∧ environment = environment' ∧ ∃ bytes bytes',
        os.answer length = .ok bytes ∧ os'.answer length' = .ok bytes' ∧
          bytes.toList = bytes'.toList := by
  refine ⟨fun keyType environment length bytes os hlen hos => ?_, ?_⟩
  · obtain ⟨k, hk⟩ := ApiKey.exists_generate_run lib keyType environment hlen hos
    obtain ⟨bytes', hos', hcarries, hdot⟩ := ApiKey.carries_of_generate hlib hk
    obtain rfl := Except.ok.inj (hos.symm.trans hos')
    refine ⟨k, hk, k.fromStr_asStr, hcarries.keyType_eq, hcarries.environment_eq, hcarries.body,
      hdot, AuthToken.fromStr_of_not_mem k.ne_empty hdot, fun c hc => ?_⟩
    have hparse := (CsrfToken.fromStr_eq_ok_iff.mp hc).2
    rw [Wire.parse_eq_none_of_not_mem hdot] at hparse
    cases hparse
  · intro keyType keyType' environment environment' length length' os os₁ os' os₁' k k' h h' hstr
    obtain ⟨bytes, hos, hcarries, -⟩ := ApiKey.carries_of_generate hlib h
    obtain ⟨bytes', hos', hcarries', -⟩ := ApiKey.carries_of_generate hlib h'
    obtain rfl : k = k' := by
      cases k
      cases k'
      cases hstr
      rfl
    obtain ⟨htype, henv, hbytes⟩ := hcarries.unique hcarries'
    exact ⟨htype, henv, bytes, bytes', hos, hos', hbytes⟩

theorem key_format_unambiguous_standard :
    ∃ k, (ApiKey.generate Crates.standard .secret .test 16).run SysRng.zeros =
        .ok k SysRng.zeros.next ∧
      ApiKey.fromStr k.asStr = .ok k ∧ k.keyType = some .secret ∧ k.environment = some .test := by
  obtain ⟨k, hk, hparse, htype, henv, -⟩ :=
    (key_format_unambiguous Crates.standard_base64Lawful).1 .secret .test 16 _ SysRng.zeros
      drawable_sixteen (SysRng.zeros_answer 16)
  exact ⟨k, hk, hparse, htype, henv⟩

end TokenGen
