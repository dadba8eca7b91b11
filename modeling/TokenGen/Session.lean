import TokenGen.Process

/-!
# What a session accepts

`csrf --verify` looks at the clock, the secret and the text, and at nothing that was done before.
`account` is the record the commands do not keep : the tokens that the processes of a session have
signed and printed, each under its key and for its session id.

`csrf_verify_sound` : at any point of any session, `csrf --verify` finds a fresh text valid exactly
if the account explains its signature, and every text in the account stands in the output. So a
text that was not printed is valid only if its signature is spliced from one that was, or a forgery
of the MAC.
-/

namespace TokenGen

open EStateM (Batch)

variable {lib : Crates}

/-! ## Verification -/

/-- With a secret, a text that parses is verified at the next clock reading. -/
theorem runCsrf_verify_run {env : Option String} {args : CsrfArgs} {s : String}
    (hargs : args.verify = some s) {key : SecretKey} (hkey : getSecret env args.secret = .ok key)
    {token : CsrfToken} (htoken : CsrfToken.fromStr lib s = .ok token) {w : World} {valid : Bool}
    (hvalid : (token.verify lib w.clock.head key args.sessionId args.maxAge).isOk = valid) :
    (runCsrf lib env args).run w = .ok () { w with
      clock := w.clock.tail
      stdout := w.stdout ++
        Text.unlines [fieldLine lib args.output "valid" (.bool valid) (toString valid)] } := by
  have hcall : (call fun now =>
      pure (token.verify lib now key args.sessionId args.maxAge).isOk).run w =
      .ok valid { w with clock := w.clock.tail } := by
    rw [← hvalid]
    rfl
  rw [runCsrf_verify hargs, hkey, htoken, Except.mapError_ok]
  simp only [orAbort_ok, pure_bind]
  rw [EStateM.run_bind, hcall]
  exact outputField_run _ _ _ _ _

/-- It is found valid exactly if it is fresh and signed. -/
theorem runCsrf_verify_parsed {env : Option String} {args : CsrfArgs} {s : String}
    (hargs : args.verify = some s) {key : SecretKey} (hkey : getSecret env args.secret = .ok key)
    {wire : Wire} (hwire : Wire.parse lib s = some wire) (w : World) :
    ∃ valid : Bool, (valid = true ↔ CsrfToken.Fresh w.clock.head wire.timestamp args.maxAge ∧
        wire.Signed (lib.hmacSha256 key.bytes) (Text.bytes args.sessionId)) ∧
      (runCsrf lib env args).run w = .ok () { w with
        clock := w.clock.tail
        stdout := w.stdout ++
          Text.unlines [fieldLine lib args.output "valid" (.bool valid) (toString valid)] } :=
  ⟨_, CsrfToken.isOk_verify_iff (t := ⟨s, wire.timestamp, wire.nonce, wire.signature⟩),
    runCsrf_verify_run hargs hkey (CsrfToken.fromStr_eq_ok_iff.mpr ⟨rfl, hwire⟩) rfl⟩

/-! ## The account of a session -/

/-- What a batch returns, and nothing if it fails. -/
def results (batch : EStateM (Abort String) World (List String)) (w : World) : List String :=
  match batch.run w with
  | .ok tokens _ => tokens
  | .error _ _ => []

variable (lib)

/-- The tokens a command signs and prints. -/
def Commands.handouts (env : Option String) (w : World) : Commands → List Handout
  | .auth args =>
    match args.checkExpiry, args.expiresIn, getSecret env args.secret with
    | none, some _, .ok key =>
      (results ((List.range args.count).mapM fun _ => authResult lib env args) w).map
        fun text => ⟨key, none, text⟩
    | _, _, _ => []
  | .api _ => []
  | .csrf args =>
    match args.verify, getSecret env args.secret with
    | none, .ok key =>
      (results ((List.range args.count).mapM fun _ => csrfResult lib key args) w).map
        fun text => ⟨key, some args.sessionId, text⟩
    | _, _ => []

/-- The tokens the processes of a session sign and print. -/
def account : List (Option String × Cli) → World → List Handout
  | [], _ => []
  | (env, cli) :: rest, w =>
    cli.command.handouts lib env w ++ account rest (main lib env cli w).2

variable {lib}

/-- What is in the results of a batch was returned by one of its runs. -/
theorem forall_results {gen : EStateM (Abort String) World String} {count : ℕ} {P : String → Prop}
    (hgen : ∀ w token w', gen.run w = .ok token w' → P token) (w : World) :
    ∀ token ∈ results ((List.range count).mapM fun _ => gen) w, P token := by
  unfold results
  rcases EStateM.batch_or_error gen count w with
    ⟨tokens, w', hlen, hbatch⟩ | ⟨tokens, w₁, e, w₂, hlen, hbatch, he⟩
  · rw [EStateM.run_mapM_of_batch hbatch (by simpa using hlen)]
    exact hbatch.forall_mem hgen
  · rw [EStateM.run_mapM_of_error hbatch (by simpa using hlen) he]
    simp

/-- One run. -/
theorem results_of_run {gen : EStateM (Abort String) World String} {w w' : World} {token : String}
    (h : gen.run w = .ok token w') : results ((List.range 1).mapM fun _ => gen) w = [token] := by
  have hrun : ((List.range 1).mapM fun _ => gen).run w = .ok [token] w' :=
    EStateM.run_mapM_of_batch (.cons h (.nil _)) rfl
  rw [results, hrun]

theorem csrfResult_run_ok {key : SecretKey} {args : CsrfArgs} {w : World} {created : Duration}
    {nonce : Vector UInt8 args.length} (hclock : w.clock.head = .sinceEpoch created)
    (hlen : Drawable args.length) (hnonce : w.rng.answer args.length = .ok nonce) :
    (csrfResult lib key args).run w =
      .ok ((Wire.sign (lib.hmacSha256 key.bytes) created.secs nonce.toList
        (Text.bytes args.sessionId)).render lib)
        { w with rng := w.rng.next, clock := w.clock.tail } := by
  have hgenerate : (CsrfToken.generate lib key args.sessionId args.length w.clock.head).run
      w.rng = .ok (CsrfToken.ofWire lib (Wire.sign (lib.hmacSha256 key.bytes) created.secs
        nonce.toList (Text.bytes args.sessionId))) w.rng.next := by
    rw [hclock]
    exact CsrfTokenBuilder.generate_run_ok lib key args.sessionId created hlen hnonce
  exact csrfResult_run_eq_ok_iff.mpr ⟨_, _, hgenerate, rfl, rfl⟩

/-! ## What is in the account is genuine -/

theorem genuine_of_authResult {env : Option String} {args : AuthArgs} {expiresSecs : UInt64}
    (hexpires : args.expiresIn = some expiresSecs) {key : SecretKey}
    (hkey : getSecret env args.secret = .ok key) {w w' : World} {token : String}
    (h : (authResult lib env args).run w = .ok token w') :
    Handout.Genuine lib ⟨key, none, token⟩ := by
  obtain ⟨key', hkey', t, _, ht, rfl, -⟩ := (authResult_run_expiring_eq_ok_iff hexpires).mp h
  obtain rfl := Except.ok.inj (hkey'.symm.trans hkey)
  obtain ⟨wire, rfl, hsigned⟩ := AuthTokenBuilder.exists_wire_of_generate ht
  exact ⟨wire, rfl, hsigned⟩

theorem genuine_of_csrfResult {key : SecretKey} {args : CsrfArgs} {w w' : World} {token : String}
    (h : (csrfResult lib key args).run w = .ok token w') :
    Handout.Genuine lib ⟨key, some args.sessionId, token⟩ := by
  obtain ⟨t, _, ht, rfl, -⟩ := csrfResult_run_eq_ok_iff.mp h
  obtain ⟨wire, rfl, hsigned⟩ := CsrfTokenBuilder.exists_wire_of_generate ht
  exact ⟨wire, rfl, hsigned⟩

theorem Commands.handouts_genuine (env : Option String) (w : World) (command : Commands) :
    ∀ h ∈ command.handouts lib env w, h.Genuine lib := by
  cases command with
  | auth args =>
    rw [handouts]
    split
    · rename_i hcheck hexpires hkey
      exact List.forall_mem_map.mpr (forall_results
        (fun _ _ _ => genuine_of_authResult hexpires hkey) w)
    · simp
  | api args => simp [handouts]
  | csrf args =>
    rw [handouts]
    split
    · exact List.forall_mem_map.mpr (forall_results (fun _ _ _ => genuine_of_csrfResult) w)
    · simp

theorem account_genuine (script : List (Option String × Cli)) (w : World) :
    ∀ h ∈ account lib script w, h.Genuine lib := by
  induction script generalizing w with
  | nil => simp [account]
  | cons process script ih =>
    obtain ⟨env, cli⟩ := process
    exact List.forall_mem_append.mpr ⟨cli.command.handouts_genuine env w, ih _⟩

/-! ## What is in the account was printed -/

/-- A token stands in its JSON object. -/
theorem occurs_tokenJson (hjson : lib.JsonLawful) {token : String} (h : Graphic token) :
    Text.Occurs token (lib.toJson (tokenJson token)) := by
  have hquote : Text.Occurs token (lib.toJson (.str token)) := by
    rw [hjson.str h]
    exact (Text.occurs_append_right "\"" token).trans (Text.occurs_append_left _ _)
  refine hquote.trans ?_
  rw [tokenJson, hjson.obj, List.map_singleton, String.intercalate_singleton]
  exact (Text.occurs_append_right _ _).trans ((Text.occurs_append_right _ _).trans
    (Text.occurs_append_left _ _))

/-- Every token of a report stands in it. -/
theorem occurs_reportLines (hjson : lib.JsonLawful) {count : ℕ} {tokens : List String}
    (hgraphic : ∀ token ∈ tokens, Graphic token) (output : OutputFormat) :
    ∀ token ∈ tokens, Text.Occurs token (Text.unlines
      (reportLines lib count (fun token => [token]) tokenJson output tokens)) := by
  intro token htoken
  cases output with
  | plain =>
    refine Text.occurs_unlines ?_
    rw [reportLines, List.flatMap_singleton']
    exact htoken
  | json =>
    have hobject := occurs_tokenJson hjson (hgraphic token htoken)
    rw [reportLines]
    split_ifs
    · exact hobject.trans (Text.occurs_unlines (List.mem_map_of_mem htoken))
    · refine hobject.trans (.trans ?_ (Text.occurs_unlines (List.mem_singleton_self _)))
      have hitem := Text.occurs_intercalate "," (List.mem_map_of_mem
        (f := lib.toJson ∘ tokenJson) htoken)
      rw [hjson.obj, List.map_singleton, String.intercalate_singleton, hjson.arr, List.map_map]
      exact hitem.trans ((Text.occurs_append_right _ _).trans ((Text.occurs_append_left _ _).trans
        ((Text.occurs_append_right _ _).trans ((Text.occurs_append_right _ _).trans
          (Text.occurs_append_left _ _)))))

/-- Where a generating command returns, it has printed its results, and where it fails it has
none. -/
theorem GeneratesAll.occurs_results (hjson : lib.JsonLawful) {length count : ℕ}
    {gen : EStateM (Abort String) World String}
    {cmd : OutputFormat → EStateM (Abort String) World PUnit}
    (h : GeneratesAll lib length count gen (fun token => [token]) tokenJson cmd)
    (hgraphic : ∀ w token w', gen.run w = .ok token w' → Graphic token) (output : OutputFormat)
    {w : World} {result : EStateM.Result (Abort String) World PUnit}
    (hrun : (cmd output).run w = result) :
    ∀ token ∈ results ((List.range count).mapM fun _ => gen) w, ∃ lines w',
      result = .ok () w' ∧ w'.stdout = w.stdout ++ Text.unlines lines ∧
        Text.Occurs token (Text.unlines lines) := by
  intro token htoken
  unfold results at htoken
  rcases h.exhaustive w with ⟨tokens, w', hlen, hbatch⟩ | ⟨tokens, w₁, e, w₂, hlen, hbatch, he⟩
  · rw [EStateM.run_mapM_of_batch hbatch (by simpa using hlen)] at htoken
    exact ⟨_, _, hrun.symm.trans (h.run_of_batch hlen hbatch output), rfl,
      occurs_reportLines hjson (hbatch.forall_mem hgraphic) output token htoken⟩
  · rw [EStateM.run_mapM_of_error hbatch (by simpa using hlen) he] at htoken
    simp at htoken

/-- A process that signs a token has printed it. -/
theorem Commands.handouts_printed (hlib : lib.Base64Lawful) (hjson : lib.JsonLawful)
    (env : Option String) (w : World) (command : Commands) :
    ∀ h ∈ command.handouts lib env w, ∃ lines w',
      (command.run lib env).run w = .ok () w' ∧ w'.stdout = w.stdout ++ Text.unlines lines ∧
        Text.Occurs h.text (Text.unlines lines) := by
  cases command with
  | auth args =>
    rw [handouts]
    split
    · rename_i hcheck hexpires hkey
      exact List.forall_mem_map.mpr ((runAuth_generates hcheck).occurs_results hjson
        (fun _ _ _ => graphic_of_authResult hlib) args.output rfl)
    · simp
  | api args => simp [handouts]
  | csrf args =>
    rw [handouts]
    split
    · rename_i hverify hkey
      exact List.forall_mem_map.mpr ((runCsrf_generates hverify hkey).occurs_results hjson
        (fun _ _ _ => graphic_of_csrfResult hlib) args.output rfl)
    · simp

/-- What a session prints, and that every token in its account stands there. -/
theorem account_printed (hlib : lib.Base64Lawful) (hjson : lib.JsonLawful)
    (script : List (Option String × Cli)) (w : World) :
    ∃ printed, (session lib script w).2.stdout = w.stdout ++ printed ∧
      ∀ h ∈ account lib script w, Text.Occurs h.text printed := by
  induction script generalizing w with
  | nil => exact ⟨"", by simp [session], by simp [account]⟩
  | cons process script ih =>
    obtain ⟨env, cli⟩ := process
    obtain ⟨rng, clock, stdout⟩ := w
    obtain ⟨exit, lines, k, j, -, -, -, hmain⟩ := main_ends lib env cli rng clock
    obtain ⟨printed, hstdout, hlater⟩ := ih (main lib env cli ⟨rng, clock, stdout⟩).2
    refine ⟨Text.unlines lines ++ printed, ?_, ?_⟩
    · rw [session, hstdout, hmain, String.append_assoc]
    · refine List.forall_mem_append.mpr ⟨fun h hh => ?_, fun h hh => ?_⟩
      · obtain ⟨lines', w', hrun, hstdout', hoccurs⟩ :=
          cli.command.handouts_printed hlib hjson env ⟨rng, clock, stdout⟩ h hh
        have hsame : stdout ++ Text.unlines lines = stdout ++ Text.unlines lines' := by
          have hresult := hmain stdout
          rw [main, hrun, Prod.mk.injEq] at hresult
          rw [← hstdout', hresult.2]
        rw [(String.append_right_inj _).mp hsame]
        exact hoccurs.trans (Text.occurs_append_left _ _)
      · exact (hlater h hh).trans (Text.occurs_append_right _ _)

/-! ## Soundness -/

/-- At any point of any session, `csrf --verify` finds a text that parses valid exactly if it is
fresh and in the account of the session, under this secret and for this session id, or spliced
from what is, or carries a forgery; and what is in the account stands in the output. -/
theorem csrf_verify_sound (hlib : lib.Base64Lawful) (hstrict : lib.Base64Strict)
    (hjson : lib.JsonLawful) (script : List (Option String × Cli)) (w : World)
    {env : Option String} {cli : Cli} {args : CsrfArgs} (hcli : cli.command = .csrf args)
    {s : String} (hargs : args.verify = some s) {key : SecretKey}
    (hkey : getSecret env args.secret = .ok key) {wire : Wire}
    (hwire : Wire.parse lib s = some wire) :
    ∃ (printed : String) (valid : Bool), (session lib script w).2.stdout = w.stdout ++ printed ∧
      (∀ h ∈ account lib script w, Text.Occurs h.text printed) ∧
      (valid = true ↔
        CsrfToken.Fresh (session lib script w).2.clock.head wire.timestamp args.maxAge ∧
        (⟨key, some args.sessionId, s⟩ ∈ account lib script w ∨
          Spliced lib (account lib script w) key (some args.sessionId) wire ∨
          Forged lib (account lib script w) key (some args.sessionId) wire)) ∧
      (main lib env cli (session lib script w).2).1 = .code .success "" ∧
      (main lib env cli (session lib script w).2).2.stdout = w.stdout ++ printed ++
        Text.unlines [fieldLine lib args.output "valid" (.bool valid) (toString valid)] := by
  obtain ⟨printed, hstdout, hoccurs⟩ := account_printed hlib hjson script w
  obtain ⟨valid, hvalid, hrun⟩ :=
    runCsrf_verify_parsed hargs hkey hwire (session lib script w).2
  have hsigned : wire.Signed (lib.hmacSha256 key.bytes) (contextOf (some args.sessionId)) ↔ _ :=
    signed_iff hlib hstrict (account_genuine script w) hwire
  have hmain := main_eq_success_iff.mpr (show (cli.command.run lib env).run _ = _ from by
    rw [hcli]
    exact hrun)
  refine ⟨printed, valid, hstdout, hoccurs, ?_, ?_, ?_⟩
  · rw [hvalid, ← hsigned]
    rfl
  · rw [hmain]
  · rw [hmain, hstdout]

/-- The secret `0123456789abcdef`. -/
def SecretKey.hexDigits : SecretKey :=
  ⟨Text.bytes "0123456789abcdef", by decide⟩

/-- The fields of the token that is printed under it for the session `s` at the epoch. -/
def Wire.inSessionS : Wire :=
  Wire.sign (Crates.standard.hmacSha256 SecretKey.hexDigits.bytes) 0 (List.replicate 32 0)
    (Text.bytes "s")

/-- A process prints it, if its first reading is the epoch. -/
theorem account_inSessionS {w : World} (hrng : w.rng = SysRng.zeros)
    (hclock : w.clock.head = .sinceEpoch (Duration.fromSecs 0)) :
    account Crates.standard [(some "0123456789abcdef", Cli.inSessionS none)] w =
      [⟨SecretKey.hexDigits, some "s", Wire.inSessionS.render Crates.standard⟩] := by
  have hkey : getSecret (some "0123456789abcdef") none = .ok SecretKey.hexDigits := rfl
  have hanswer : w.rng.answer 32 = .ok (Vector.replicate 32 0) := by
    rw [hrng, SysRng.zeros_answer]
  have hresult : (csrfResult Crates.standard SecretKey.hexDigits
      { sessionId := "s", sessionId_ne_empty := sessionS_ne_empty }).run w = _ :=
    csrfResult_run_ok hclock ⟨by decide, by decide⟩ hanswer
  rw [account, account, List.append_nil, Cli.inSessionS, Commands.handouts]
  simp only [hkey, results_of_run hresult]
  rfl

/-- A later process finds the printed token valid. -/
theorem csrf_verify_sound_standard : ∃ printed : String,
    (session Crates.standard [(some "0123456789abcdef", Cli.inSessionS none)]
      World.atEpoch).2.stdout = "" ++ printed ∧
    Text.Occurs (Wire.inSessionS.render Crates.standard) printed ∧
    (main Crates.standard (some "0123456789abcdef")
      (Cli.inSessionS (some (Wire.inSessionS.render Crates.standard)))
      (session Crates.standard [(some "0123456789abcdef", Cli.inSessionS none)]
        World.atEpoch).2).2.stdout =
      "" ++ printed ++ Text.unlines
        [fieldLine Crates.standard .plain "valid" (.bool true) (toString true)] := by
  have hkey : getSecret (some "0123456789abcdef") none = .ok SecretKey.hexDigits := rfl
  have haccount := account_inSessionS (w := World.atEpoch) rfl rfl
  obtain ⟨printed, valid, hstdout, hoccurs, hvalid, -, hout⟩ :=
    csrf_verify_sound Crates.standard_base64Lawful Crates.standard_base64Strict
      Crates.standard_jsonLawful [(some "0123456789abcdef", Cli.inSessionS none)] World.atEpoch
      (rfl : (Cli.inSessionS (some _)).command = .csrf _) rfl hkey
      (Wire.parse_render Crates.standard_base64Lawful Wire.inSessionS)
  rw [haccount] at hoccurs hvalid
  have hfresh : CsrfToken.Fresh (session Crates.standard
      [(some "0123456789abcdef", Cli.inSessionS none)] World.atEpoch).2.clock.head
      Wire.inSessionS.timestamp 3600 := ⟨Duration.fromSecs 0, rfl, Nat.zero_le _⟩
  obtain rfl : valid = true := hvalid.mpr ⟨hfresh, Or.inl (List.mem_singleton_self _)⟩
  have htext := hoccurs _ (List.mem_singleton_self _)
  exact ⟨printed, hstdout, htext, hout⟩

end TokenGen
