import TokenGen.Session

/-!
# Printed by one process, read by another

What a generating process prints is handed to a later process of the same command, in any world :
with another random source, another clock and other output before it. The `i`-th token of a batch
is created at the `i`-th clock reading (`exists_created`).

`printed_csrf_verifies` : a printed CSRF token is valid up to `maxAge` seconds after its reading.
`printed_auth_expires` : a printed auth token expires as many seconds after its reading as was
asked for, or never. `printed_key_verifies` : a printed hash is that of its key, and another key
is taken for it only in a collision of SHA-256.
-/

namespace TokenGen

open EStateM (Advances Batch)

variable {lib : Crates}

/-! ## The clock of a batch -/

/-- A call uses up one clock reading. -/
theorem call_advances_clock {α : Type} (f : SystemTime → EStateM (Abort TokenError) SysRng α) :
    Advances World.clock Stream'.tail 1 (call f) where
  ok h := by
    obtain ⟨rng, -, rfl⟩ := call_run_eq_ok_iff.mp h
    rfl
  error {w _ _} h := by
    simp only [call, EStateM.run] at h
    split at h
    · cases h
    · cases h
      exact ⟨1, le_rfl, rfl⟩

theorem authResult_advances_clock (env : Option String) (args : AuthArgs) :
    Advances World.clock Stream'.tail 1 (authResult lib env args) := by
  unfold authResult
  split
  · exact Advances.orAbort_bind fun secret => (call_advances_clock _).bind_pure _
  · exact (call_advances_clock _).bind_pure _

/-- The `i`-th result of a batch is that of a run at the `i`-th clock reading. -/
theorem exists_created {gen : EStateM (Abort String) World String}
    (hgen : Advances World.clock Stream'.tail 1 gen) {w w' : World} {tokens : List String}
    (hbatch : Batch gen w tokens w') {i : ℕ} (hi : i < tokens.length) :
    ∃ wᵢ wᵢ', wᵢ.clock.head = w.clock.get i ∧ gen.run wᵢ = .ok tokens[i] wᵢ' := by
  obtain ⟨wᵢ, wᵢ', hclock, hrun⟩ := hbatch.exists_run hgen hi
  rw [Nat.one_mul] at hclock
  exact ⟨wᵢ, wᵢ', by rw [hclock, Stream'.head_iterate_tail], hrun⟩

/-! ## CSRF tokens -/

/-- A CSRF token is signed over the second of the clock reading. -/
theorem exists_sign_of_csrfResult {key : SecretKey} {args : CsrfArgs} {w w' : World}
    {token : String} (h : (csrfResult lib key args).run w = .ok token w') :
    ∃ created nonce, w.clock.head = .sinceEpoch created ∧
      token = (Wire.sign (lib.hmacSha256 key.bytes) created.secs nonce
        (Text.bytes args.sessionId)).render lib := by
  obtain ⟨t, _, ht, rfl, -⟩ := csrfResult_run_eq_ok_iff.mp h
  obtain ⟨created, nonce, hclock, -, rfl⟩ := CsrfTokenBuilder.generate_run_eq_ok_iff.mp ht
  exact ⟨created, nonce, hclock, rfl⟩

/-- The tokens of a `csrf` process, and a later process that verifies one of them, with the same
secret and for the same session : it finds the `i`-th token valid as long as its age, counted from
the `i`-th clock reading of the first process, is at most the maximum asked for. -/
theorem printed_csrf_verifies (hlib : lib.Base64Lawful) {env : Option String} {cli : Cli}
    {args : CsrfArgs} (hcli : cli.command = .csrf args) (hverify : args.verify = none)
    {key : SecretKey} (hkey : getSecret env args.secret = .ok key) {w w' : World}
    (hmain : main lib env cli w = (.code .success "", w')) :
    ∃ tokens, tokens.length = args.count ∧
      w'.stdout = w.stdout ++ Text.unlines
        (reportLines lib args.count (fun token => [token]) tokenJson args.output tokens) ∧
      ∀ i (hi : i < tokens.length), ∃ created, w.clock.get i = .sinceEpoch created ∧
        ∀ env' cli' args' later, cli'.command = .csrf args' → args'.verify = some tokens[i] →
          args'.sessionId = args.sessionId → getSecret env' args'.secret = .ok key →
          ∃ valid : Bool,
            (valid = true ↔ CsrfToken.Fresh later.clock.head created.secs args'.maxAge) ∧
            main lib env' cli' later = (.code .success "", { later with
              clock := later.clock.tail
              stdout := later.stdout ++ Text.unlines
                [fieldLine lib args'.output "valid" (.bool valid) (toString valid)] }) := by
  rw [main_eq_success_iff, hcli] at hmain
  obtain ⟨tokens, w₁, hlen, hbatch, rfl⟩ :=
    (runCsrf_generates hverify hkey).run_eq_ok_iff.mp hmain
  refine ⟨tokens, hlen, rfl, fun i hi => ?_⟩
  obtain ⟨wᵢ, wᵢ', hclock, hrun⟩ := exists_created ((call_advances_clock _).bind_pure _) hbatch hi
  obtain ⟨created, nonce, hcreated, htoken⟩ := exists_sign_of_csrfResult hrun
  refine ⟨created, hclock ▸ hcreated, fun env' cli' args' later hcli' hargs' hsession hkey' => ?_⟩
  have hparse : Wire.parse lib tokens[i] = some _ := htoken ▸ Wire.parse_render hlib _
  obtain ⟨valid, hvalid, hrun'⟩ := runCsrf_verify_parsed hargs' hkey' hparse later
  refine ⟨valid, hvalid.trans ?_, ?_⟩
  · rw [hsession, Wire.timestamp_sign]
    exact and_iff_left (Wire.signed_sign _ _ _ _)
  · rw [main_eq_success_iff, hcli']
    exact hrun'

theorem printed_csrf_verifies_standard : ∃ (tokens : List String) (w' : World),
    main Crates.standard (some "0123456789abcdef") (Cli.inSessionS none) World.atEpoch =
      (.code .success "", w') ∧ tokens.length = 1 ∧ w'.stdout = "" ++ Text.unlines
        (reportLines Crates.standard 1 (fun token => [token]) tokenJson .plain tokens) := by
  have hkey : getSecret (some "0123456789abcdef") none = .ok _ := rfl
  have hmain : main Crates.standard (some "0123456789abcdef") (Cli.inSessionS none)
    World.atEpoch = (.code .success "", _) := rfl
  obtain ⟨tokens, hlen, hstdout, -⟩ :=
    printed_csrf_verifies Crates.standard_base64Lawful rfl rfl hkey hmain
  exact ⟨tokens, _, hmain, hlen, hstdout⟩

/-! ## Auth tokens -/

/-- An expiring auth token is signed over the second it was asked to expire in. -/
theorem exists_sign_of_authResult {env : Option String} {args : AuthArgs} {expiresSecs : UInt64}
    (hexpires : args.expiresIn = some expiresSecs) {w w' : World} {token : String}
    (h : (authResult lib env args).run w = .ok token w') :
    ∃ (created : Duration) (wire : Wire), w.clock.head = .sinceEpoch created ∧
      wire.timestamp.toNat = created.secs.toNat + expiresSecs.toNat ∧ token = wire.render lib := by
  obtain ⟨key, -, t, _, ht, rfl, -⟩ := (authResult_run_expiring_eq_ok_iff hexpires).mp h
  obtain ⟨created, nonce, timestamp, hclock, -, hsum, rfl⟩ :=
    AuthTokenBuilder.generate_run_expiring_eq_ok_iff.mp ht
  have hadd : U64.checkedAdd created.secs expiresSecs = some timestamp := hsum
  exact ⟨created, _, hclock, U64.checkedAdd_eq_some_iff.mp hadd, rfl⟩

/-- A simple auth token has no dot. -/
theorem not_mem_of_authResult (hlib : lib.Base64Lawful) {env : Option String} {args : AuthArgs}
    (hexpires : args.expiresIn = none) {w w' : World} {token : String}
    (h : (authResult lib env args).run w = .ok token w') : '.' ∉ token.toList := by
  obtain ⟨t, _, ht, rfl, -⟩ := (authResult_run_simple_eq_ok_iff hexpires).mp h
  obtain ⟨bytes, -, rfl⟩ := AuthToken.generate_run_eq_ok_iff.mp ht
  exact args.format.toFormat.dot_not_mem_encode hlib bytes

/-- A text without a dot is reported as not expired, whatever the clock says. -/
theorem runAuth_check_plain {env : Option String} {args : AuthArgs} {s : String}
    (hargs : args.checkExpiry = some s) (hdot : '.' ∉ s.toList) (w : World) :
    (runAuth lib env args).run w =
      .ok () { w with stdout := w.stdout ++ expiryReport lib args.output false } := by
  simp only [runAuth, hargs, hdot, if_false, pure_bind]
  cases args.output <;>
    simp [outputJson, outputPlainDict, println_run, expiryReport, String.append_assoc]

/-- A text that parses is reported as expired after its second. -/
theorem runAuth_check_parsed {env : Option String} {args : AuthArgs} {s : String} {wire : Wire}
    (hargs : args.checkExpiry = some s) (hparse : Wire.parse lib s = some wire) {w : World}
    {now : Duration} (hnow : w.clock.head = .sinceEpoch now) :
    (runAuth lib env args).run w = .ok () { w with
      clock := w.clock.tail
      stdout := w.stdout ++
        expiryReport lib args.output (decide (wire.timestamp < now.secs)) } := by
  have hdot : '.' ∈ s.toList := by
    by_contra hdot
    rw [Wire.parse_eq_none_of_not_mem hdot] at hparse
    cases hparse
  rw [runAuth_check_dotted hargs hdot, hparse, Option.isSome_some, hnow,
    AuthToken.isExpired_sinceEpoch (t := ⟨s, true⟩) rfl hparse]

/-- The tokens of an `auth` process, and a later process that inspects one of them : if an expiry
was asked for, it reports the `i`-th token as expired from the next second on after so many seconds
after the `i`-th clock reading of the first process; if none was, it reports it as not expired. -/
theorem printed_auth_expires (hlib : lib.Base64Lawful) {env : Option String} {cli : Cli}
    {args : AuthArgs} (hcli : cli.command = .auth args) (hcheck : args.checkExpiry = none)
    {w w' : World} (hmain : main lib env cli w = (.code .success "", w')) :
    ∃ tokens, tokens.length = args.count ∧
      w'.stdout = w.stdout ++ Text.unlines
        (reportLines lib args.count (fun token => [token]) tokenJson args.output tokens) ∧
      (∀ expiresSecs, args.expiresIn = some expiresSecs → ∀ i (hi : i < tokens.length),
        ∃ created, w.clock.get i = .sinceEpoch created ∧
          ∀ env' cli' args' later now, cli'.command = .auth args' →
            args'.checkExpiry = some tokens[i] → later.clock.head = .sinceEpoch now →
            main lib env' cli' later = (.code .success "", { later with
              clock := later.clock.tail
              stdout := later.stdout ++ expiryReport lib args'.output
                (decide (created.secs.toNat + expiresSecs.toNat < now.secs.toNat)) })) ∧
      (args.expiresIn = none → ∀ token ∈ tokens, ∀ env' cli' args' later,
        cli'.command = .auth args' → args'.checkExpiry = some token →
        main lib env' cli' later = (.code .success "", { later with
          stdout := later.stdout ++ expiryReport lib args'.output false })) := by
  rw [main_eq_success_iff, hcli] at hmain
  obtain ⟨tokens, w₁, hlen, hbatch, rfl⟩ := (runAuth_generates hcheck).run_eq_ok_iff.mp hmain
  refine ⟨tokens, hlen, rfl, fun expiresSecs hexpires i hi => ?_, fun hexpires token htoken => ?_⟩
  · obtain ⟨wᵢ, wᵢ', hclock, hrun⟩ := exists_created (authResult_advances_clock env args) hbatch hi
    obtain ⟨created, wire, hcreated, hsum, htoken⟩ := exists_sign_of_authResult hexpires hrun
    refine ⟨created, hclock ▸ hcreated, fun env' cli' args' later now hcli' hargs' hnow => ?_⟩
    rw [main_eq_success_iff, hcli', ← hsum]
    simp only [← UInt64.lt_iff_toNat_lt]
    exact runAuth_check_parsed hargs' (htoken ▸ Wire.parse_render hlib wire) hnow
  · intro env' cli' args' later hcli' hargs'
    have hdot := hbatch.forall_mem (P := fun token => '.' ∉ token.toList)
      (fun _ _ _ => not_mem_of_authResult hlib hexpires) token htoken
    rw [main_eq_success_iff, hcli']
    exact runAuth_check_plain hargs' hdot later

/-- A check of a text by a process that needs no secret. -/
def Cli.checkExpiry (text : String) : Cli :=
  ⟨.auth { checkExpiry := some text }, nofun⟩

/-- A world that starts so many seconds after the epoch. -/
def World.after (secs : UInt64) : World :=
  { World.atEpoch with clock := Stream'.const (.sinceEpoch (Duration.fromSecs secs)) }

/-- A token that expires after a minute, checked after 60 seconds and after 61. -/
theorem printed_auth_expires_standard : ∃ (token : String) (w' : World),
    main Crates.standard (some "0123456789abcdef") ⟨.auth { expiresIn := some 60 }, nofun⟩
        World.atEpoch = (.code .success "", w') ∧
      w'.stdout = "" ++ Text.unlines [token] ∧
      (main Crates.standard none (Cli.checkExpiry token) (World.after 60)).2.stdout =
        "" ++ expiryReport Crates.standard .plain false ∧
      (main Crates.standard none (Cli.checkExpiry token) (World.after 61)).2.stdout =
        "" ++ expiryReport Crates.standard .plain true := by
  have hmain : main Crates.standard (some "0123456789abcdef")
    ⟨.auth { expiresIn := some 60 }, nofun⟩ World.atEpoch = (.code .success "", _) := rfl
  obtain ⟨tokens, hlen, hstdout, hexpires, -⟩ :=
    printed_auth_expires Crates.standard_base64Lawful rfl rfl hmain
  obtain ⟨token, rfl⟩ := List.length_eq_one_iff.mp hlen
  obtain ⟨created, hcreated, hcheck⟩ := hexpires 60 rfl 0 Nat.one_pos
  obtain rfl : Duration.fromSecs 0 = created := SystemTime.sinceEpoch.inj hcreated
  refine ⟨token, _, hmain, hstdout, ?_, ?_⟩
  · rw [hcheck none (Cli.checkExpiry token) _ (World.after 60) (Duration.fromSecs 60) rfl rfl rfl]
    rfl
  · rw [hcheck none (Cli.checkExpiry token) _ (World.after 61) (Duration.fromSecs 61) rfl rfl rfl]
    rfl

/-! ## API keys -/

/-- A result of `api` is a key and its SHA-256 hash. -/
theorem exists_key_of_apiResult {args : ApiArgs} {w w' : World} {result : String × String}
    (h : (apiResult lib args).run w = .ok result w') :
    ∃ key : ApiKey, result = (key.asStr, key.hashSha256 lib) := by
  obtain ⟨key, _, -, rfl, -⟩ := apiResult_run_eq_ok_iff.mp h
  exact ⟨key, rfl⟩

theorem ApiKey.hashSha256_inj (hhex : lib.HexLawful) {k k' : ApiKey} :
    k.hashSha256 lib = k'.hashSha256 lib ↔
      lib.sha256 (Text.bytes k.inner) = lib.sha256 (Text.bytes k'.inner) := by
  rw [hashSha256, hashSha256, String.append_right_inj, hhex.decodes.encode_injective.eq_iff,
    Vector.toList_inj]

/-- `api --hash` prints the hash of the key. -/
theorem runApi_hash_run {args : ApiArgs} {key : ApiKey} (hargs : args.hash = some key.asStr)
    (w : World) : (runApi lib args).run w = .ok () { w with
      stdout := w.stdout ++ Text.unlines
        [fieldLine lib args.output "hash" (.str (key.hashSha256 lib)) (key.hashSha256 lib)] } := by
  rw [runApi_hash hargs, key.fromStr_asStr]
  exact outputField_run _ _ _ _ _

/-- `api --verify` prints what verification says. -/
theorem runApi_verify_run (key : ApiKey) {args : ApiArgs} {storedHash : String}
    {rest : List String} (hhash : args.hash = none)
    (hargs : args.verify = some (key.asStr :: storedHash :: rest)) {valid : Bool}
    (hvalid : key.verify lib storedHash = some valid) (w : World) :
    (runApi lib args).run w = .ok () { w with
      stdout := w.stdout ++
        Text.unlines [fieldLine lib args.output "valid" (.bool valid) (toString valid)] } := by
  rw [runApi_verify hhash hargs, key.fromStr_asStr, Except.mapError_ok, orAbort_ok, pure_bind,
    hvalid]
  exact outputField_run _ _ _ _ _

/-- The keys and hashes of an `api` process, and a later process that hashes one of the keys or
verifies any text against one of the hashes : hashing prints the printed hash, and verifying finds
a text valid exactly if SHA-256 does not tell it from the key of the hash. -/
theorem printed_key_verifies (hhex : lib.HexLawful) {env : Option String} {cli : Cli}
    {args : ApiArgs} (hcli : cli.command = .api args) (hhash : args.hash = none)
    (hverify : args.verify = none) {w w' : World}
    (hmain : main lib env cli w = (.code .success "", w')) :
    ∃ results, results.length = args.count ∧
      w'.stdout = w.stdout ++ Text.unlines
        (reportLines lib args.count keyLines keyJson args.output results) ∧
      ∀ r ∈ results,
        (∀ env' cli' args' later, cli'.command = .api args' → args'.hash = some r.1 →
          main lib env' cli' later = (.code .success "", { later with
            stdout := later.stdout ++
              Text.unlines [fieldLine lib args'.output "hash" (.str r.2) r.2] })) ∧
        ∀ env' cli' args' later s rest, cli'.command = .api args' → args'.hash = none →
          args'.verify = some (s :: r.2 :: rest) → s ≠ "" → ∃ valid : Bool,
            (valid = true ↔ lib.sha256 (Text.bytes s) = lib.sha256 (Text.bytes r.1)) ∧
            main lib env' cli' later = (.code .success "", { later with
              stdout := later.stdout ++ Text.unlines
                [fieldLine lib args'.output "valid" (.bool valid) (toString valid)] }) := by
  rw [main_eq_success_iff, hcli] at hmain
  obtain ⟨results, w₁, hlen, hbatch, rfl⟩ :=
    (runApi_generates hhash hverify).run_eq_ok_iff.mp hmain
  refine ⟨results, hlen, rfl, fun r hr => ?_⟩
  obtain ⟨key, rfl⟩ := hbatch.forall_mem
    (P := fun r => ∃ key : ApiKey, r = (key.asStr, key.hashSha256 lib))
    (fun _ _ _ => exists_key_of_apiResult) r hr
  refine ⟨fun env' cli' args' later hcli' hhash' => ?_,
    fun env' cli' args' later s rest hcli' hhash' hargs' hs =>
      ⟨decide ((⟨s, hs⟩ : ApiKey).hashSha256 lib = key.hashSha256 lib), ?_, ?_⟩⟩
  · rw [main_eq_success_iff, hcli']
    exact runApi_hash_run hhash' later
  · rw [decide_eq_true_iff]
    exact ApiKey.hashSha256_inj hhex
  · rw [main_eq_success_iff, hcli']
    exact runApi_verify_run ⟨s, hs⟩ hhash' hargs' (ApiKey.verify_sha256 ⟨s, hs⟩ _) later

theorem printed_key_verifies_standard : ∃ (results : List (String × String)) (w' : World),
    main Crates.standard none Cli.oneKey World.atEpoch = (.code .success "", w') ∧
      results.length = 1 ∧ w'.stdout = "" ++ Text.unlines
        (reportLines Crates.standard 1 keyLines keyJson .plain results) := by
  have hmain : main Crates.standard none Cli.oneKey World.atEpoch = (.code .success "", _) := rfl
  obtain ⟨results, hlen, hstdout, -⟩ :=
    printed_key_verifies Crates.standard_hexLawful rfl rfl rfl hmain
  exact ⟨results, _, hmain, hlen, hstdout⟩

end TokenGen
