import TokenGen.HashRecord
import TokenGen.Standard

/-!
# What a stored hash says about a key

`hash_verifies` : a key verifies against every record made of it, and every generator of a
key with its hash returns a pair that verifies.

The converse has two gaps, both on the scrypt side. scrypt uses a key as an HMAC key, so
zero bytes after a short key, or the digest in place of a long one, are not seen :
`verify_other_key_iff` is the exact condition under which a different key is told apart.
And the output width is taken from the record, so a record cut off after some whole bytes of
the derived key still verifies : `verify_proper_prefix_iff` lists the lengths that do not.
-/

namespace TokenGen

variable {lib : Crates}

/-! ## The key a record was made of -/

/-- Whatever `gen` returns verifies, and it returns once the random source gives `length`
bytes for the key and a salt. -/
def GeneratedApiKey.Verified (lib : Crates) (length : ℕ)
    (gen : EStateM (Abort TokenError) SysRng GeneratedApiKey) : Prop :=
  (∀ os os' g, gen.run os = .ok g os' → g.verify lib = some true) ∧
    ∀ (os : SysRng) (bytes : Vector UInt8 length) (salt : Vector UInt8 16),
      Drawable length → os.answer length = .ok bytes →
      os.next.answer 16 = .ok salt → ∃ g os', gen.run os = .ok g os'

theorem HashRecord.verify_of_hash (hhex : lib.HexLawful) {k : ApiKey}
    {algorithm : HashAlgorithm} {os os' : SysRng} {text : String}
    (h : (k.hash lib algorithm).run os = .ok text os') : k.verify lib text = some true := by
  obtain ⟨r, rfl, -, hr⟩ := HashRecord.exists_of_hash h
  exact (HashRecord.verify_render_iff hhex r).mpr hr

theorem GeneratedApiKey.verified_generateHashed (hhex : lib.HexLawful)
    (hacc : lib.ScryptAccepts) (keyType : ApiKeyType) (environment : Environment) (length : ℕ)
    (algorithm : HashAlgorithm) :
    Verified lib length (generateHashed lib keyType environment length algorithm) := by
  refine ⟨fun os os' g hg => ?_, fun os bytes salt hlen hbytes hsalt => ?_⟩
  · obtain ⟨os₁, -, hhash⟩ := generateHashed_run_eq_ok_iff.mp hg
    exact HashRecord.verify_of_hash hhex hhash
  · obtain ⟨k, hk⟩ := ApiKey.exists_generate_run lib keyType environment hlen hbytes
    obtain ⟨text, os', htext⟩ := HashRecord.exists_hash_run hacc k algorithm hsalt
    exact ⟨⟨k, text⟩, os', generateHashed_run_eq_ok_iff.mpr ⟨os.next, hk, htext⟩⟩

/-- A key, and what its own text parses to, verify against every record of the key; and so do
the pairs of the three generators. -/
theorem hash_verifies (hhex : lib.HexLawful) (hacc : lib.ScryptAccepts) :
    (∀ (k : ApiKey) (algorithm : HashAlgorithm) (os os' : SysRng) (text : String),
      (k.hash lib algorithm).run os = .ok text os' → k.verify lib text = some true ∧
        ∃ k', ApiKey.fromStr k.asStr = .ok k' ∧ k'.verify lib text = some true) ∧
    (∀ b : ApiKeyBuilder, GeneratedApiKey.Verified lib b.length (b.generateWithHash lib)) ∧
    (∀ keyType environment length, GeneratedApiKey.Verified lib length
      (GeneratedApiKey.generateSha256 lib keyType environment length)) ∧
    ∀ keyType environment length, GeneratedApiKey.Verified lib length
      (GeneratedApiKey.generateScrypt lib keyType environment length) := by
  refine ⟨fun k algorithm os os' text h => ?_, fun b => ?_, fun keyType environment length => ?_,
    fun keyType environment length => ?_⟩
  · have hk := HashRecord.verify_of_hash hhex h
    exact ⟨hk, k, k.fromStr_asStr, hk⟩
  · rw [ApiKeyBuilder.generateWithHash_eq]
    exact GeneratedApiKey.verified_generateHashed hhex hacc _ _ _ _
  · rw [GeneratedApiKey.generateSha256_eq]
    exact GeneratedApiKey.verified_generateHashed hhex hacc _ _ _ _
  · rw [GeneratedApiKey.generateScrypt_eq]
    exact GeneratedApiKey.verified_generateHashed hhex hacc _ _ _ _

theorem hash_verifies_standard :
    GeneratedApiKey.Verified Crates.standard 32
      (ApiKeyBuilder.default.generateWithHash Crates.standard) ∧
    ∃ text os', ((⟨"a", by decide⟩ : ApiKey).hash Crates.standard .scrypt).run SysRng.zeros =
        .ok text os' ∧
      (⟨"a", by decide⟩ : ApiKey).verify Crates.standard text = some true := by
  obtain ⟨hash, builder, -, -⟩ :=
    hash_verifies Crates.standard_hexLawful Crates.standard_scryptAccepts
  obtain ⟨text, os', h⟩ := HashRecord.exists_hash_run Crates.standard_scryptAccepts
    ⟨"a", by decide⟩ .scrypt (SysRng.zeros_answer 16)
  exact ⟨builder ApiKeyBuilder.default, text, os', h, (hash _ _ _ _ _ h).1⟩

/-! ## Another key -/

/-- A record of a key rejects a different key, up to a collision of what the algorithm makes
of the two, exactly under SHA-256, or for keys with different HMAC key blocks, or for two keys
that HMAC digests. -/
theorem verify_other_key_iff (hhex : lib.HexLawful) (hrfc : lib.ScryptRfc7914) {k k' : ApiKey}
    (hne : k.asStr ≠ k'.asStr) {algorithm : HashAlgorithm} {os os' : SysRng} {text : String}
    (h : (k.hash lib algorithm).run os = .ok text os') :
    ∃ r : HashRecord, text = r.render lib ∧
      (k'.verify lib text = some false ∨
          r.KeyCollision lib (Text.bytes k.asStr) (Text.bytes k'.asStr) ↔
        algorithm = .sha256 ∨
          lib.shaHash.keyBlock (Text.bytes k.asStr) ≠ lib.shaHash.keyBlock (Text.bytes k'.asStr) ∨
          (64 < (Text.bytes k.asStr).length ∧ 64 < (Text.bytes k'.asStr).length)) := by
  obtain ⟨r, rfl, rfl, hr⟩ := HashRecord.exists_of_hash h
  refine ⟨r, rfl, ?_⟩
  rw [← HashRecord.separated_iff,
    ← HashRecord.matches_other_iff hrfc (Text.bytes_injective.ne hne) hr,
    Option.eq_some_false_iff (HashRecord.verify_render_ne_none hhex hr k'), Ne,
    HashRecord.verify_render_iff hhex, ApiKey.asStr, ApiKey.asStr]

theorem verify_other_key_standard : ∃ text os',
    ((⟨"a", by decide⟩ : ApiKey).hash Crates.standard .scrypt).run SysRng.zeros = .ok text os' ∧
    ∃ r : HashRecord, text = r.render Crates.standard ∧
      ((⟨"b", by decide⟩ : ApiKey).verify Crates.standard text = some false ∨
          r.KeyCollision Crates.standard (Text.bytes "a") (Text.bytes "b") ↔
        HashAlgorithm.scrypt = .sha256 ∨
          Crates.standard.shaHash.keyBlock (Text.bytes "a") ≠
            Crates.standard.shaHash.keyBlock (Text.bytes "b") ∨
          (64 < (Text.bytes "a").length ∧ 64 < (Text.bytes "b").length)) := by
  obtain ⟨text, os', h⟩ := HashRecord.exists_hash_run Crates.standard_scryptAccepts
    ⟨"a", by decide⟩ .scrypt (SysRng.zeros_answer 16)
  have hne : (⟨"a", by decide⟩ : ApiKey).asStr ≠ (⟨"b", by decide⟩ : ApiKey).asStr := by decide
  exact ⟨text, os', h, verify_other_key_iff Crates.standard_hexLawful
    Crates.standard_scryptRfc7914 hne h⟩

/-- A zero byte after a key is not seen : the record of `a` accepts `a` followed by a zero
byte, and nothing collides. -/
theorem verify_key_with_zero_byte : ∃ text os' r,
    ((⟨"a", by decide⟩ : ApiKey).hash Crates.standard .scrypt).run SysRng.zeros = .ok text os' ∧
    text = HashRecord.render Crates.standard r ∧
    (⟨"a\x00", by decide⟩ : ApiKey).verify Crates.standard text = some true ∧
    ¬r.KeyCollision Crates.standard (Text.bytes "a") (Text.bytes "a\x00") := by
  obtain ⟨text, os', h⟩ := HashRecord.exists_hash_run Crates.standard_scryptAccepts
    ⟨"a", by decide⟩ .scrypt (SysRng.zeros_answer 16)
  obtain ⟨r, rfl, halg, hr⟩ := HashRecord.exists_of_hash h
  have hblock : Crates.standard.shaHash.keyBlock (Text.bytes "a\x00") =
      Crates.standard.shaHash.keyBlock (Text.bytes "a") :=
    BlockHash.keyBlock_append_zeros (Text.bytes "a") 1 (by decide)
  have hsep : ¬r.Separated Crates.standard (Text.bytes "a") (Text.bytes "a\x00") := by
    rw [HashRecord.separated_iff, halg, hblock]
    decide
  obtain ⟨hmatch, hcoll⟩ := not_or.mp
    ((HashRecord.matches_other_iff Crates.standard_scryptRfc7914 (by decide) hr).not.mpr hsep)
  exact ⟨_, os', r, h, rfl,
    (HashRecord.verify_render_iff Crates.standard_hexLawful r).mpr (not_not.mp hmatch), hcoll⟩

/-! ## A record that breaks off -/

/-- A proper prefix of a record is rejected exactly under SHA-256, or if it ends before the
derived key, or in the middle of a byte of it. -/
theorem verify_proper_prefix_iff (hhex : lib.HexLawful) (hout : lib.ScryptOutput) {k : ApiKey}
    {algorithm : HashAlgorithm} {os os' : SysRng} {s rest : String}
    (h : (k.hash lib algorithm).run os = .ok (s ++ rest) os') (hrest : rest ≠ "") :
    k.verify lib s = some false ↔ algorithm = .sha256 ∨ s.length ≤ 47 ∨ s.length % 2 = 0 := by
  obtain ⟨r, hs, rfl, hr⟩ := HashRecord.exists_of_hash h
  cases r with
  | sha256 digest => simp [HashRecord.verify_sha256_prefix hr hs.symm hrest, HashRecord.algorithm]
  | scrypt salt derived =>
    rw [HashRecord.verify_scrypt_prefix_iff hhex hout hr hs.symm]
    simp [HashRecord.algorithm]

/-- Half a derived key, or any other whole number of its bytes, is enough : a record of `a`
cut off after `n` bytes of the derived key. -/
theorem exists_truncated_record {n : ℕ} (hn : n < 32) : ∃ s rest os',
    ((⟨"a", by decide⟩ : ApiKey).hash Crates.standard .scrypt).run SysRng.zeros =
      .ok (s ++ rest) os' ∧ rest ≠ "" ∧
    (⟨"a", by decide⟩ : ApiKey).verify Crates.standard s = some (decide (n ≠ 0)) := by
  obtain ⟨text, os', h⟩ := HashRecord.exists_hash_run Crates.standard_scryptAccepts
    ⟨"a", by decide⟩ .scrypt (SysRng.zeros_answer 16)
  obtain ⟨salt, derived, -, hderived, -, rfl⟩ := HashRecord.hash_run_scrypt_eq_ok_iff.mp h
  rw [HashRecord.render_scrypt_eq_append Crates.standard_hexLawful salt derived n] at h
  refine ⟨_, _, os', h, ?_, HashRecord.verify_take Crates.standard_hexLawful
    Crates.standard_scryptOutput hderived (by omega)⟩
  intro hempty
  have hlen := congrArg String.length hempty
  rw [Crates.standard_hexLawful.encode_eq, Hexadecimal.length_encode, List.length_drop,
    Vector.length_toList, String.length_empty] at hlen
  omega

theorem verify_truncated_record : ∃ s rest os',
    ((⟨"a", by decide⟩ : ApiKey).hash Crates.standard .scrypt).run SysRng.zeros =
      .ok (s ++ rest) os' ∧ rest ≠ "" ∧
    (⟨"a", by decide⟩ : ApiKey).verify Crates.standard s = some true := by
  obtain ⟨s, rest, os', h, hrest, hverify⟩ := exists_truncated_record (n := 1) (by decide)
  exact ⟨s, rest, os', h, hrest, hverify⟩

theorem verify_proper_prefix_standard : ∃ s rest os',
    ((⟨"a", by decide⟩ : ApiKey).hash Crates.standard .scrypt).run SysRng.zeros =
      .ok (s ++ rest) os' ∧ rest ≠ "" ∧
    ((⟨"a", by decide⟩ : ApiKey).verify Crates.standard s = some false ↔
      HashAlgorithm.scrypt = .sha256 ∨ s.length ≤ 47 ∨ s.length % 2 = 0) := by
  obtain ⟨s, rest, os', h, hrest, -⟩ := exists_truncated_record (n := 1) (by decide)
  exact ⟨s, rest, os', h, hrest, verify_proper_prefix_iff Crates.standard_hexLawful
    Crates.standard_scryptOutput h hrest⟩

end TokenGen
