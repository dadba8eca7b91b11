import TokenGen.ApiKey
import TokenGen.Lib.Mac

/-!
# Stored hashes, abstractly

What a stored hash says, apart from any text : the SHA-256 digest of a key, or a salt and
the key scrypt derives from it (`HashRecord`). A key matches a record when recomputing
gives what the record holds (`Matches`). `render` is the text of a record.

`hash_run_sha256` and `hash_run_scrypt_eq_ok_iff` : hashing a key writes the text of a
record the key matches. `verify_render_iff` : on the text of a record, `ApiKey.verify`
decides `Matches`. `verify_sha256_prefix` and `verify_scrypt_prefix_iff` : what it decides when
the text of a record breaks off.

For two keys, `matches_other_iff` is the abstract account of when the second one fails to
match a record of the first.
-/

namespace TokenGen

/-- A stored hash. -/
inductive HashRecord where
  | sha256 (digest : Vector UInt8 32)
  | scrypt (salt : Vector UInt8 16) (derived : Vector UInt8 32)

namespace HashRecord

variable (lib : Crates)

/-- The algorithm of a record. -/
def algorithm : HashRecord → HashAlgorithm
  | .sha256 _ => .sha256
  | .scrypt _ _ => .scrypt

/-- The key scrypt derives from a password with the parameters of the library. -/
def derive (salt password : Bytes) : Option (Except String (Vector UInt8 32)) :=
  match lib.scryptParams 14 8 1 with
  | none => none
  | some (.error e) => some (.error e)
  | some (.ok params) => (lib.scrypt params 32).map fun scrypt => scrypt password salt

/-- Recomputing from the password gives what the record holds. -/
def Matches (password : Bytes) : HashRecord → Prop
  | .sha256 digest => lib.sha256 password = digest
  | .scrypt salt derived => derive lib salt.toList password = some (.ok derived)

/-- The text of a scrypt record, up to the text of the derived key. -/
def scryptHead (salt : Bytes) : String :=
  "scrypt:14:8:1:" ++ lib.hex.encode salt

/-- The text of a record. -/
def render : HashRecord → String
  | .sha256 digest => "sha256:" ++ lib.hex.encode digest.toList
  | .scrypt salt derived =>
    scryptHead lib salt.toList ++ ":" ++ lib.hex.encode derived.toList

variable {lib}

theorem derive_eq_ok_iff {salt password : Bytes} {derived : Vector UInt8 32} :
    derive lib salt password = some (.ok derived) ↔ ∃ params scrypt,
      lib.scryptParams 14 8 1 = some (.ok params) ∧ lib.scrypt params 32 = some scrypt ∧
        scrypt password salt = .ok derived := by
  unfold derive
  rcases lib.scryptParams 14 8 1 with _ | _ | params
  · simp
  · simp
  · cases hscrypt : lib.scrypt params 32 <;> simp [hscrypt]

/-- Under scrypt a password is its HMAC key block. -/
theorem derive_keyBlock (hrfc : lib.ScryptRfc7914) (salt password : Bytes) :
    derive lib salt (lib.shaHash.keyBlock password) = derive lib salt password := by
  unfold derive
  rcases lib.scryptParams 14 8 1 with _ | _ | params
  · rfl
  · rfl
  · cases hscrypt : lib.scrypt params 32 with
    | none => simp only [hscrypt, Option.map_none]
    | some scrypt => simp only [hscrypt, Option.map_some, ← hrfc hscrypt]

/-! ## Two keys -/

/-- The hash functions map the passwords, or the key blocks scrypt uses in their place, to
one value where they differ. -/
def KeyCollision (lib : Crates) (password password' : Bytes) : HashRecord → Prop
  | .sha256 _ => Collision lib.sha256 password password'
  | .scrypt salt _ =>
    (64 < password.length ∧ 64 < password'.length ∧
      Collision lib.sha256 password password') ∨
    Collision (derive lib salt.toList) (lib.shaHash.keyBlock password)
      (lib.shaHash.keyBlock password')

/-- The passwords are told apart by what the record's algorithm takes from them. -/
def Separated (lib : Crates) (password password' : Bytes) : HashRecord → Prop
  | .sha256 _ => True
  | .scrypt _ _ => lib.shaHash.keyBlock password ≠ lib.shaHash.keyBlock password' ∨
      (64 < password.length ∧ 64 < password'.length)

theorem keyCollision_of_matches (hrfc : lib.ScryptRfc7914) {password password' : Bytes}
    (hne : password ≠ password') {r : HashRecord} (h : r.Matches lib password)
    (h' : r.Matches lib password') (hsep : r.Separated lib password password') :
    r.KeyCollision lib password password' := by
  cases r with
  | sha256 digest => exact ⟨hne, h.trans h'.symm⟩
  | scrypt salt derived =>
    by_cases hb : lib.shaHash.keyBlock password = lib.shaHash.keyBlock password'
    · obtain ⟨hlong, hlong'⟩ := hsep.resolve_left fun h => h hb
      exact Or.inl ⟨hlong, hlong', hne, BlockHash.digest_eq_of_keyBlock_eq hlong hlong' hb⟩
    · refine Or.inr ⟨hb, ?_⟩
      rw [derive_keyBlock hrfc, derive_keyBlock hrfc]
      exact h.trans h'.symm

theorem not_separated {password password' : Bytes} {r : HashRecord}
    (h : ¬r.Separated lib password password') :
    ∃ salt derived, r = .scrypt salt derived ∧
      lib.shaHash.keyBlock password = lib.shaHash.keyBlock password' ∧
      ¬(64 < password.length ∧ 64 < password'.length) := by
  cases r with
  | sha256 digest => exact absurd trivial h
  | scrypt salt derived =>
    obtain ⟨hb, hlong⟩ := not_or.mp h
    exact ⟨salt, derived, rfl, not_not.mp hb, hlong⟩

theorem separated_iff {password password' : Bytes} {r : HashRecord} :
    r.Separated lib password password' ↔ r.algorithm = .sha256 ∨
      lib.shaHash.keyBlock password ≠ lib.shaHash.keyBlock password' ∨
      (64 < password.length ∧ 64 < password'.length) := by
  cases r <;> simp [Separated, algorithm]

/-- A second password fails to match a record of the first, up to a collision, exactly when
the algorithm tells the two apart. -/
theorem matches_other_iff (hrfc : lib.ScryptRfc7914) {password password' : Bytes}
    (hne : password ≠ password') {r : HashRecord} (h : r.Matches lib password) :
    ¬r.Matches lib password' ∨ r.KeyCollision lib password password' ↔
      r.Separated lib password password' := by
  refine ⟨fun hor => ?_, fun hsep => ?_⟩
  · by_contra hsep
    obtain ⟨salt, derived, rfl, hb, hlong⟩ := not_separated hsep
    rcases hor with hmatch | hcoll
    · refine hmatch ?_
      rw [Matches, ← derive_keyBlock hrfc, ← hb, derive_keyBlock hrfc]
      exact h
    · rcases hcoll with ⟨hl, hl', -⟩ | hcoll
      · exact hlong ⟨hl, hl'⟩
      · exact hcoll.ne hb
  · by_cases h' : r.Matches lib password'
    · exact Or.inr (keyCollision_of_matches hrfc hne h h' hsep)
    · exact Or.inl h'

/-! ## Writing records -/

theorem hash_run_sha256 (k : ApiKey) (os : SysRng) : (k.hash lib .sha256).run os =
    .ok ((HashRecord.sha256 (lib.sha256 (Text.bytes k.inner))).render lib) os :=
  rfl

/-- The scrypt records of a key : one for each salt, if scrypt derives a key. -/
theorem hash_run_scrypt_eq_ok_iff {k : ApiKey} {os os' : SysRng} {text : String} :
    (k.hash lib .scrypt).run os = .ok text os' ↔ ∃ salt derived, os.answer 16 = .ok salt ∧
      derive lib salt.toList (Text.bytes k.inner) = some (.ok derived) ∧ os' = os.next ∧
      text = (HashRecord.scrypt salt derived).render lib := by
  simp only [ApiKey.hash, ApiKey.hashScrypt, EStateM.run_bind_eq_ok_iff, run_orPanic_eq_ok_iff,
    run_orAbort_eq_ok_iff, Except.mapError_eq_ok_iff, generateBytes_run_eq_ok_iff,
    derive_eq_ok_iff]
  refine ⟨?_, ?_⟩
  · rintro ⟨_, _, ⟨hparams, rfl⟩, params, os₁, ⟨rfl, rfl⟩, saltBytes, os₂,
      ⟨-, salt, hsalt, rfl, rfl⟩, h⟩
    simp only [Vector.length_toList, ne_eq, not_true_eq_false, if_false,
      EStateM.run_bind_eq_ok_iff, run_orPanic_eq_ok_iff, run_orAbort_eq_ok_iff,
      Except.mapError_eq_ok_iff, EStateM.run_pure_eq_ok_iff] at h
    obtain ⟨scrypt, _, ⟨hscrypt, rfl⟩, derived, _, ⟨hderived, rfl⟩, rfl, rfl⟩ := h
    exact ⟨salt, derived, hsalt, ⟨params, scrypt, hparams, hscrypt, hderived⟩, rfl, rfl⟩
  · rintro ⟨salt, derived, hsalt, ⟨params, scrypt, hparams, hscrypt, hderived⟩, rfl, rfl⟩
    refine ⟨_, os, ⟨hparams, rfl⟩, params, os, ⟨rfl, rfl⟩, salt.toList, os.next,
      ⟨drawable_sixteen, salt, hsalt, rfl, rfl⟩, ?_⟩
    simp only [Vector.length_toList, ne_eq, not_true_eq_false, if_false,
      EStateM.run_bind_eq_ok_iff, run_orPanic_eq_ok_iff, run_orAbort_eq_ok_iff,
      Except.mapError_eq_ok_iff, EStateM.run_pure_eq_ok_iff]
    exact ⟨scrypt, os.next, ⟨hscrypt, rfl⟩, derived, os.next, ⟨hderived, rfl⟩, rfl, rfl⟩

theorem exists_derive (hacc : lib.ScryptAccepts) (salt password : Bytes) :
    ∃ derived, derive lib salt password = some (.ok derived) := by
  obtain ⟨params, scrypt, hparams, hscrypt, hreturns⟩ := hacc
  obtain ⟨derived, hderived⟩ := hreturns password salt
  exact ⟨derived, derive_eq_ok_iff.mpr ⟨params, scrypt, hparams, hscrypt, hderived⟩⟩

/-- With a salt from the random source, `hash` returns. -/
theorem exists_hash_run (hacc : lib.ScryptAccepts) (k : ApiKey) (algorithm : HashAlgorithm)
    {os : SysRng} {salt : Vector UInt8 16} (hos : os.answer 16 = .ok salt) :
    ∃ text os', (k.hash lib algorithm).run os = .ok text os' := by
  cases algorithm with
  | sha256 => exact ⟨_, _, hash_run_sha256 k os⟩
  | scrypt =>
    obtain ⟨derived, hderived⟩ := exists_derive hacc salt.toList (Text.bytes k.inner)
    exact ⟨_, _, hash_run_scrypt_eq_ok_iff.mpr ⟨salt, derived, hos, hderived, rfl, rfl⟩⟩

/-- Whatever `hash` returns is the text of a record the key matches. -/
theorem exists_of_hash {k : ApiKey} {algorithm : HashAlgorithm} {os os' : SysRng}
    {text : String} (h : (k.hash lib algorithm).run os = .ok text os') :
    ∃ r : HashRecord, text = r.render lib ∧ r.algorithm = algorithm ∧
      r.Matches lib (Text.bytes k.inner) := by
  cases algorithm with
  | sha256 =>
    rw [hash_run_sha256] at h
    cases h
    exact ⟨_, rfl, rfl, rfl⟩
  | scrypt =>
    obtain ⟨salt, derived, -, hderived, -, rfl⟩ := hash_run_scrypt_eq_ok_iff.mp h
    exact ⟨_, rfl, rfl, hderived⟩

/-! ## Reading records -/

theorem not_mem_encode (hhex : lib.HexLawful) (b : Bytes) : ':' ∉ (lib.hex.encode b).toList := by
  rw [hhex.encode_eq]
  exact fun h => absurd (Hexadecimal.mem_digits_of_mem_encode h) (by decide)

theorem split_scryptText (hhex : lib.HexLawful) (salt : Bytes) {t : String}
    (ht : ':' ∉ t.toList) : Text.split ':' ("14:8:1:" ++ lib.hex.encode salt ++ ":" ++ t) =
      ["14", "8", "1", lib.hex.encode salt, t] := by
  have hjoin : "14:8:1:" ++ lib.hex.encode salt ++ ":" ++ t =
      Text.join ':' ["14", "8", "1", lib.hex.encode salt, t] := by
    apply String.toList_injective
    simp
  rw [hjoin, Text.split_join (by simp)]
  simp only [List.forall_mem_cons, List.not_mem_nil, false_imp_iff, implies_true, and_true]
  exact ⟨by decide, by decide, by decide, not_mem_encode hhex salt, ht⟩

theorem scryptHead_append (salt : Bytes) (t : String) : scryptHead lib salt ++ ":" ++ t =
    "scrypt:" ++ ("14:8:1:" ++ lib.hex.encode salt ++ ":" ++ t) := by
  apply String.toList_injective
  simp [scryptHead]

theorem parse_fourteen : Radix.parseU8 "14" = .ok 14 := by
  decide

theorem parse_eight : Radix.parseU32 "8" = .ok 8 := by
  decide

theorem parse_one : Radix.parseU32 "1" = .ok 1 := by
  decide

/-- Against the beginning of a scrypt record and a text after it that decodes, a key is checked
with the parameters of the library. -/
theorem verify_scryptHead (hhex : lib.HexLawful) {k : ApiKey} {salt expected : Bytes} {t : String}
    (ht : ':' ∉ t.toList) (hexpected : lib.hex.decode t = .ok expected) :
    k.verify lib (scryptHead lib salt ++ ":" ++ t) =
      k.checkDerived lib 14 8 1 salt expected := by
  rw [scryptHead_append, ApiKey.verify_scrypt,
    ApiKey.verifyScrypt_of_split (split_scryptText hhex salt ht) parse_fourteen parse_eight
      parse_one (hhex.decodes salt) hexpected]

/-- A text after it that does not decode. -/
theorem verify_scryptHead_eq_false (hhex : lib.HexLawful) {k : ApiKey} {salt : Bytes} {t e : String}
    (ht : ':' ∉ t.toList) (he : lib.hex.decode t = .error e) :
    k.verify lib (scryptHead lib salt ++ ":" ++ t) = some false := by
  rw [scryptHead_append, ApiKey.verify_scrypt, ApiKey.verifyScrypt_eq_false]
  rintro ⟨p₀, p₁, p₂, p₃, p₄, hparts, n, r, p, _, expected, -, -, -, -, hexpected⟩
  rw [split_scryptText hhex salt ht] at hparts
  simp only [List.cons.injEq, and_true] at hparts
  obtain ⟨-, -, -, -, rfl⟩ := hparts
  cases he.symm.trans hexpected

/-- With parameters in range, as many bytes are derived as are expected. -/
theorem checkDerived_of_length {k : ApiKey} {logN : UInt8} {r p : UInt32} {params : ScryptParams}
    (hparams : lib.scryptParams logN r p = some (.ok params)) {salt expected : Bytes} {n : ℕ}
    (hlen : expected.length = n) : k.checkDerived lib logN r p salt expected =
      (lib.scrypt params n).map fun scrypt =>
        (scrypt (Text.bytes k.inner) salt).toOption.any fun out => out.toList = expected := by
  subst hlen
  simp only [ApiKey.checkDerived, hparams]
  cases hscrypt : lib.scrypt params expected.length with
  | none => rfl
  | some scrypt =>
    cases hout : scrypt (Text.bytes k.inner) salt with
    | error e => simp [hout, Except.toOption]
    | ok out =>
      have hverdict : constantTimeCompare lib out.toList expected =
          decide (out.toList = expected) := by
        rw [Bool.eq_iff_iff, constantTimeCompare_eq_true_iff, decide_eq_true_iff]
      simp [hout, Except.toOption, hverdict]

/-- A key is checked against as many bytes as the library derives by deriving them again. -/
theorem checkDerived_thirtyTwo {k : ApiKey} {salt : Bytes} (derived : Vector UInt8 32) :
    k.checkDerived lib 14 8 1 salt derived.toList =
      (derive lib salt (Text.bytes k.inner)).map fun result =>
        decide (result = .ok derived) := by
  rcases hparams : lib.scryptParams 14 8 1 with _ | e | params
  · simp [ApiKey.checkDerived, derive, hparams]
  · simp [ApiKey.checkDerived, derive, hparams]
  · rw [checkDerived_of_length hparams (Vector.length_toList), derive, hparams]
    simp only [Option.map_map]
    refine Option.map_congr fun scrypt _ => ?_
    cases hout : scrypt (Text.bytes k.inner) salt <;>
      simp [hout, Except.toOption, Vector.toList_inj]

/-- Against the text of a record, `verify` decides whether the key matches it. -/
theorem verify_render_iff (hhex : lib.HexLawful) {k : ApiKey} (r : HashRecord) :
    k.verify lib (r.render lib) = some true ↔ r.Matches lib (Text.bytes k.inner) := by
  cases r with
  | sha256 digest =>
    rw [render, ApiKey.verify_sha256, Option.some.injEq, decide_eq_true_iff, ApiKey.hashSha256,
      String.append_right_inj, hhex.decodes.encode_injective.eq_iff, Vector.toList_inj, Matches]
  | scrypt salt derived =>
    rw [render, verify_scryptHead hhex (not_mem_encode hhex _) (hhex.decodes _),
      checkDerived_thirtyTwo, Matches]
    simp

/-- A record that some password matches is one `verify` does not panic on. -/
theorem verify_render_ne_none (hhex : lib.HexLawful) {r : HashRecord} {password : Bytes}
    (h : r.Matches lib password) (k : ApiKey) : k.verify lib (r.render lib) ≠ none := by
  cases r with
  | sha256 digest => simp [render, ApiKey.verify_sha256]
  | scrypt salt derived =>
    obtain ⟨params, scrypt, hparams, hscrypt, -⟩ := derive_eq_ok_iff.mp h
    rw [render, verify_scryptHead hhex (not_mem_encode hhex _) (hhex.decodes _),
      checkDerived_thirtyTwo]
    simp [derive, hparams, hscrypt]

/-! ## Records that break off -/

/-- A SHA-256 record that breaks off anywhere is rejected : it is compared as a whole. -/
theorem verify_sha256_prefix {k : ApiKey} {digest : Vector UInt8 32}
    (h : (HashRecord.sha256 digest).Matches lib (Text.bytes k.inner)) {s rest : String}
    (hs : (HashRecord.sha256 digest).render lib = s ++ rest) (hrest : rest ≠ "") :
    k.verify lib s = some false := by
  by_cases hsha : ∃ t, s = "sha256:" ++ t
  · obtain ⟨t, rfl⟩ := hsha
    rw [ApiKey.verify_sha256, Option.some.injEq, decide_eq_false_iff_not]
    intro hfull
    rw [render, ← h, ← ApiKey.hashSha256, hfull] at hs
    exact hrest (String.append_eq_left_iff.mp hs.symm)
  · refine ApiKey.verify_eq_false (not_exists.mp hsha) ?_
    rintro t rfl
    rw [render, String.append_assoc] at hs
    exact ApiKey.scryptText_ne _ _ hs.symm

/-- Fewer than five colons are not five parts after `scrypt:`. -/
theorem verify_eq_false_of_count {k : ApiKey} {s : String} (hsha : ∀ t, s ≠ "sha256:" ++ t)
    (hcount : s.toList.count ':' ≤ 4) : k.verify lib s = some false := by
  by_cases hscrypt : ∃ t, s = "scrypt:" ++ t
  · obtain ⟨t, rfl⟩ := hscrypt
    rw [ApiKey.verify_scrypt, ApiKey.verifyScrypt_eq_false]
    rintro ⟨p₀, p₁, p₂, p₃, p₄, hparts, -⟩
    have hlen := Text.length_split ':' t
    rw [hparts] at hlen
    simp only [String.toList_append, List.count_append] at hcount
    simp at hlen hcount
    omega
  · exact ApiKey.verify_eq_false hsha (not_exists.mp hscrypt)

theorem count_scryptHead (hhex : lib.HexLawful) (salt : Bytes) :
    (scryptHead lib salt).toList.count ':' = 4 := by
  simp [scryptHead, List.count_eq_zero.mpr (not_mem_encode hhex salt)]

/-- A scrypt record that breaks off before the colon in front of the derived key. -/
theorem verify_scryptHead_prefix (hhex : lib.HexLawful) {k : ApiKey} {salt : Bytes}
    {s rest tail : String} (hs : s ++ rest = scryptHead lib salt ++ tail)
    (hlen : s.length ≤ (scryptHead lib salt).length) : k.verify lib s = some false := by
  obtain ⟨t, hhead, -⟩ := Text.exists_of_append_eq_append hs hlen
  refine verify_eq_false_of_count ?_ ?_
  · rintro t' rfl
    rw [scryptHead, String.append_assoc, String.append_assoc] at hs
    have := congrArg String.toList hs
    simp at this
  · rw [← count_scryptHead hhex salt, hhead, String.toList_append, List.count_append]
    exact Nat.le_add_right _ _

/-- An odd number of digits of the derived key. -/
theorem verify_odd (hhex : lib.HexLawful) {k : ApiKey} {salt : Bytes} {t : String}
    (ht : ':' ∉ t.toList) (hodd : t.length % 2 = 1) :
    k.verify lib (scryptHead lib salt ++ ":" ++ t) = some false := by
  obtain ⟨e, he⟩ := hhex.odd t hodd
  exact verify_scryptHead_eq_false hhex ht he

/-- Whole bytes of the derived key : any but none of them verify. -/
theorem verify_take (hhex : lib.HexLawful) (hout : lib.ScryptOutput) {k : ApiKey}
    {salt : Vector UInt8 16} {derived : Vector UInt8 32}
    (h : (HashRecord.scrypt salt derived).Matches lib (Text.bytes k.inner)) {n : ℕ}
    (hn : n ≤ 32) : k.verify lib (scryptHead lib salt.toList ++ ":" ++
      lib.hex.encode (derived.toList.take n)) = some (decide (n ≠ 0)) := by
  have hlen : (derived.toList.take n).length = n := by simp [hn]
  obtain ⟨params, scrypt, hparams, hscrypt, hderived⟩ := derive_eq_ok_iff.mp h
  obtain ⟨short, hshort⟩ := hout.returns hscrypt n hn
  rw [verify_scryptHead hhex (not_mem_encode hhex _) (hhex.decodes _),
    checkDerived_of_length hparams hlen, hshort, Option.map_some, Option.some.injEq]
  rcases Nat.eq_zero_or_pos n with rfl | hpos
  · obtain ⟨e, he⟩ := hout.reject_empty hshort (Text.bytes k.inner) salt.toList
    simp [he, Except.toOption]
  · obtain ⟨bytes, hbytes, htake⟩ := hout.take hscrypt hshort hpos hn hderived
    simp [hbytes, Except.toOption, htake, Nat.pos_iff_ne_zero.mp hpos]

theorem length_scryptHead (hhex : lib.HexLawful) (salt : Vector UInt8 16) :
    (scryptHead lib salt.toList).length = 46 := by
  rw [scryptHead, String.length_append, hhex.encode_eq, Hexadecimal.length_encode,
    Vector.length_toList]
  decide

/-- A scrypt record, broken off after `n` bytes of the derived key. -/
theorem render_scrypt_eq_append (hhex : lib.HexLawful) (salt : Vector UInt8 16)
    (derived : Vector UInt8 32) (n : ℕ) : (HashRecord.scrypt salt derived).render lib =
      scryptHead lib salt.toList ++ ":" ++ lib.hex.encode (derived.toList.take n) ++
        lib.hex.encode (derived.toList.drop n) := by
  have hsplit : lib.hex.encode derived.toList =
      lib.hex.encode (derived.toList.take n) ++ lib.hex.encode (derived.toList.drop n) := by
    rw [hhex.encode_eq, hhex.encode_eq, hhex.encode_eq, ← Hexadecimal.encode_append,
      List.take_append_drop]
  rw [render, hsplit]
  simp only [String.append_assoc]

/-- The first digits of the derived key are whole bytes of it, if there is an even number of
them. -/
theorem eq_encode_take (hhex : lib.HexLawful) {derived : Bytes} {t rest : String} {n : ℕ}
    (ht : lib.hex.encode derived = t ++ rest) (hn : t.length = 2 * n) :
    t = lib.hex.encode (derived.take n) := by
  rw [hhex.encode_eq] at ht ⊢
  apply String.toList_injective
  rw [← Hexadecimal.take_encode, ht, String.toList_append, ← hn, ← String.length_toList,
    List.take_left]

/-- The beginnings of a scrypt record that a key it matches does not verify against. -/
theorem verify_scrypt_prefix_iff (hhex : lib.HexLawful) (hout : lib.ScryptOutput) {k : ApiKey}
    {salt : Vector UInt8 16} {derived : Vector UInt8 32}
    (h : (HashRecord.scrypt salt derived).Matches lib (Text.bytes k.inner)) {s rest : String}
    (hs : (HashRecord.scrypt salt derived).render lib = s ++ rest) :
    k.verify lib s = some false ↔ s.length ≤ 47 ∨ s.length % 2 = 0 := by
  have hhead := length_scryptHead hhex salt
  rw [render] at hs
  by_cases hlen : s.length ≤ 46
  · rw [String.append_assoc] at hs
    have hshort := verify_scryptHead_prefix hhex (k := k) hs.symm (by omega)
    rw [hshort]
    simp only [true_iff]
    omega
  · have hcolon : (scryptHead lib salt.toList ++ ":").length = 47 := by
      rw [String.length_append, hhead]
      rfl
    obtain ⟨t, rfl, ht⟩ := Text.exists_of_append_eq_append hs (by omega)
    have htmem : ':' ∉ t.toList := by
      intro hmem
      refine not_mem_encode hhex derived.toList ?_
      rw [ht, String.toList_append]
      exact List.mem_append_left _ hmem
    have htlen : t.length ≤ 64 := by
      have := congrArg String.length ht
      rw [hhex.encode_eq, Hexadecimal.length_encode, Vector.length_toList,
        String.length_append] at this
      omega
    rw [String.length_append, hcolon]
    rcases Nat.mod_two_eq_zero_or_one t.length with heven | hodd
    · have htwo : t.length = 2 * (t.length / 2) := by omega
      have hbytes := verify_take hhex hout h (n := t.length / 2) (by omega)
      rw [← eq_encode_take hhex ht htwo] at hbytes
      rw [hbytes, Option.some.injEq, decide_eq_false_iff_not, not_not]
      omega
    · rw [verify_odd hhex htmem hodd]
      simp only [true_iff]
      omega

end HashRecord

end TokenGen
