import TokenGen.ExpiryCheck
import TokenGen.KeyFormat
import TokenGen.Lib.Batch
import TokenGen.Lib.Lines

/-!
# What the commands print

In generate mode each command runs one generation `count` times and then prints the results,
plain or as JSON. `GeneratesAll` says what this comes to : all results are printed, in the order
they were generated, or none. `cli_all_or_nothing` : the three commands do so, once `csrf` has
its secret, and what they print plainly can be read back.
-/

namespace TokenGen

open EStateM (Batch)

/-! ## Programs that write nothing -/

/-- A program that writes nothing to standard output, and panics only where `P` holds. -/
structure Quiet {α : Type} (P : Prop) (m : EStateM (Abort String) World α) : Prop where
  ok : ∀ {w a w'}, m.run w = .ok a w' → w'.stdout = w.stdout
  error : ∀ {w e w'}, m.run w = .error e w' → w'.stdout = w.stdout
  panics : PanicsOnly P m

namespace Quiet

variable {α β : Type} {P : Prop}

theorem pure (a : α) : Quiet P (pure a : EStateM (Abort String) World α) where
  ok h := by
    obtain ⟨-, rfl⟩ := EStateM.run_pure_eq_ok_iff.mp h
    rfl
  error h := by simp at h
  panics := .pure a

theorem bind {m : EStateM (Abort String) World α} {f : α → EStateM (Abort String) World β}
    (hm : Quiet P m) (hf : ∀ a, Quiet P (f a)) : Quiet P (m >>= f) where
  ok h := by
    obtain ⟨a, w₁, ha, hb⟩ := EStateM.run_bind_eq_ok_iff.mp h
    rw [(hf a).ok hb, hm.ok ha]
  error {w _ _} h := by
    rw [EStateM.run_bind] at h
    cases hrun : m.run w with
    | ok a w₁ =>
      rw [hrun] at h
      exact ((hf a).error h).trans (hm.ok hrun)
    | error e w₁ =>
      rw [hrun] at h
      cases h
      exact hm.error hrun
  panics := hm.panics.bind fun a => (hf a).panics

/-- A call panics only if what it calls does. -/
theorem call {f : SystemTime → EStateM (Abort TokenError) SysRng α}
    (hf : ∀ now, PanicsOnly P (f now)) : Quiet P (call f) where
  ok {w _ _} h := by
    simp only [TokenGen.call, EStateM.run] at h
    split at h
    · cases h
      rfl
    · cases h
  error {w _ _} h := by
    simp only [TokenGen.call, EStateM.run] at h
    split at h
    · cases h
    · cases h
      rfl
  panics w w' h := by
    simp only [TokenGen.call, EStateM.run] at h
    split at h
    · cases h
    · rename_i e rng hrun
      cases e with
      | error e => simp [Abort.map] at h
      | panic => exact hf _ _ _ hrun

theorem orAbort (x : Except String α) : Quiet P (orAbort x) := by
  cases x with
  | ok a => exact pure a
  | error message =>
    refine ⟨fun h => ?_, fun h => ?_, .throw_error message⟩ <;> cases h
    rfl

end Quiet

theorem call_run_eq_ok_iff {α : Type} {f : SystemTime → EStateM (Abort TokenError) SysRng α}
    {w w' : World} {a : α} : (call f).run w = .ok a w' ↔
      ∃ rng, (f w.clock.head).run w.rng = .ok a rng ∧
        w' = { w with rng := rng, clock := w.clock.tail } := by
  simp only [call, EStateM.run]
  cases f w.clock.head w.rng <;> simp [eq_comm]

theorem call_bind_pure_run_eq_ok_iff {α β : Type}
    {f : SystemTime → EStateM (Abort TokenError) SysRng α} {g : α → β} {w w' : World} {b : β} :
    (call f >>= fun a => pure (g a)).run w = .ok b w' ↔
      ∃ a rng, (f w.clock.head).run w.rng = .ok a rng ∧ b = g a ∧
        w' = { w with rng := rng, clock := w.clock.tail } := by
  simp only [EStateM.run_bind_eq_ok_iff, EStateM.run_pure_eq_ok_iff, call_run_eq_ok_iff]
  refine ⟨?_, ?_⟩
  · rintro ⟨a, _, ⟨rng, ha, rfl⟩, rfl, rfl⟩
    exact ⟨a, rng, ha, rfl, rfl⟩
  · rintro ⟨a, rng, ha, rfl, rfl⟩
    exact ⟨a, _, ⟨rng, ha, rfl⟩, rfl, rfl⟩

/-! ## Reporting -/

/-- What a command does with its results : the lines of each of them, or their JSON objects,
alone if `count` is one and in an array otherwise. -/
def report {α : Type} (lib : Crates) (count : ℕ) (plain : α → List String) (json : α → Json)
    (output : OutputFormat) (results : List α) : EStateM (Abort String) World PUnit :=
  match output with
  | .json =>
    if count = 1 then do
      let r ← indexFirst results
      outputJson lib (json r)
    else println (lib.toJson (.obj [("tokens", .arr (results.map json))]))
  | .plain => printLines (results.flatMap plain)

theorem printLines_run (lines : List String) (w : World) :
    (printLines lines).run w = .ok () { w with stdout := w.stdout ++ Text.unlines lines } := by
  induction lines generalizing w with
  | nil => simp [printLines]
  | cons line lines ih =>
    simp only [printLines, EStateM.run_bind, println_run, ih, Text.unlines_cons,
      String.append_assoc]

theorem outputPlainDict_eq (items : List (String × String)) :
    outputPlainDict items = printLines (items.map fun item => item.1 ++ ": " ++ item.2) := by
  induction items with
  | nil => rfl
  | cons item items ih => rw [outputPlainDict, List.map_cons, printLines, ih]

/-- A command that reports `count` results of one generation of `length` random bytes, all of
them or none. -/
structure GeneratesAll {α : Type} (lib : Crates) (length count : ℕ)
    (gen : EStateM (Abort String) World α) (plain : α → List String) (json : α → Json)
    (cmd : OutputFormat → EStateM (Abort String) World PUnit) : Prop where
  /-- All generations return a result, or one of them is the first that fails. -/
  exhaustive : ∀ w, (∃ results w', results.length = count ∧ Batch gen w results w') ∨
    ∃ results w₁ e w₂, results.length < count ∧ Batch gen w results w₁ ∧
      gen.run w₁ = .error e w₂
  /-- If one fails, the command ends in its error, or in a panic where no buffer has this
  length, and nothing is written. -/
  fails : ∀ {w results w₁ e w₂}, results.length < count → Batch gen w results w₁ →
    gen.run w₁ = .error e w₂ →
      ((∃ message, e = .error message) ∨ e = .panic ∧ isizeMax < length) ∧
      w₂.stdout = w.stdout ∧ ∀ output, (cmd output).run w = .error e w₂
  /-- If all return, the plain form is their lines. -/
  plain : ∀ {w results w'}, results.length = count → Batch gen w results w' →
    (cmd .plain).run w =
      .ok () { w' with stdout := w.stdout ++ Text.unlines (results.flatMap plain) }
  /-- The JSON form of one result is its object. -/
  single : ∀ {w r w'}, count = 1 → Batch gen w [r] w' →
    (cmd .json).run w = .ok () { w' with stdout := w.stdout ++ (lib.toJson (json r) ++ "\n") }
  /-- The JSON form of any other number of results is an array of their objects. -/
  tokens : ∀ {w results w'}, count ≠ 1 → results.length = count → Batch gen w results w' →
    (cmd .json).run w = .ok () { w' with stdout := w.stdout ++
      (lib.toJson (.obj [("tokens", .arr (results.map json))]) ++ "\n") }

theorem GeneratesAll.of_report {α : Type} {lib : Crates} {length count : ℕ}
    {gen : EStateM (Abort String) World α} {plain : α → List String} {json : α → Json}
    {cmd : OutputFormat → EStateM (Abort String) World PUnit}
    (hgen : Quiet (isizeMax < length) gen)
    (hcmd : ∀ output, cmd output =
      (List.range count).mapM (fun _ => gen) >>= report lib count plain json output) :
    GeneratesAll lib length count gen plain json cmd := by
  have hquiet : ∀ {w results w'}, Batch gen w results w' → w'.stdout = w.stdout :=
    fun {w _ _} h => h.preserves (P := fun w' => w'.stdout = w.stdout)
      (fun _ _ _ hs hrun => (hgen.ok hrun).trans hs) rfl
  have hrun : ∀ {w results w'} (output : OutputFormat), results.length = count →
      Batch gen w results w' → (cmd output).run w =
        (report lib count plain json output results).run w' := by
    intro w results w' output hlen h
    have hlist : results.length = (List.range count).length := by simpa using hlen
    rw [hcmd, EStateM.run_bind, EStateM.run_mapM_of_batch h hlist]
  refine ⟨EStateM.batch_or_error gen count, ?_, ?_, ?_, ?_⟩
  · intro w results w₁ e w₂ hlen h he
    refine ⟨?_, (hgen.error he).trans (hquiet h), fun output => ?_⟩
    · cases e with
      | error message => exact Or.inl ⟨message, rfl⟩
      | panic => exact Or.inr ⟨rfl, hgen.panics _ _ he⟩
    have hlist : results.length < (List.range count).length := by simpa using hlen
    rw [hcmd, EStateM.run_bind, EStateM.run_mapM_of_error h hlist he]
  · intro w results w' hlen h
    rw [hrun .plain hlen h, report, printLines_run, hquiet h]
  · intro w r w' hcount h
    have hlen : [r].length = count := hcount.symm
    rw [hrun .json hlen h, report, if_pos hcount, indexFirst, EStateM.run_bind]
    simp [outputJson, println_run, hquiet h, String.append_assoc]
  · intro w results w' hcount hlen h
    rw [hrun .json hlen h, report, if_neg hcount, println_run, hquiet h, String.append_assoc]

/-! ## One generation of each command -/

variable (lib : Crates)

/-- One generation of `auth`. -/
def authResult (env : Option String) (args : AuthArgs) : EStateM (Abort String) World String :=
  match args.expiresIn with
  | some expiresSecs => do
    let secret ← orAbort (getSecret env args.secret)
    let token ← call ((((AuthTokenBuilder.new.withLength args.length).withFormat
      args.format.toFormat).withExpiresIn (Duration.fromSecs expiresSecs)).withSecretKey secret
      |>.generate lib)
    pure token.asStr
  | none => do
    let token ← call fun _ => AuthToken.generate lib args.length args.format.toFormat
    pure token.asStr

/-- One generation of `api`. -/
def apiResult (args : ApiArgs) : EStateM (Abort String) World (String × String) := do
  let generated ← call fun _ => (((ApiKeyBuilder.default.withKeyType
    args.keyType.toApiKeyType).withEnvironment args.env.toEnvironment).withLength
    args.length).generateWithHash lib
  pure (generated.key.asStr, generated.keyHash)

/-- One generation of `csrf`. -/
def csrfResult (secret : SecretKey) (args : CsrfArgs) : EStateM (Abort String) World String := do
  let token ← call (CsrfToken.generate lib secret args.sessionId args.length)
  pure token.asStr

/-- The JSON object of a token. -/
def tokenJson (token : String) : Json :=
  .obj [("token", .str token)]

/-- The JSON object of a key and its hash. -/
def keyJson (result : String × String) : Json :=
  .obj [("key", .str result.1), ("key_hash", .str result.2)]

/-- The lines of a key and its hash. -/
def keyLines (result : String × String) : List String :=
  ["key: " ++ result.1, "key_hash: " ++ result.2]

variable {lib}

theorem authResult_run_simple_eq_ok_iff {env : Option String} {args : AuthArgs}
    (hexpires : args.expiresIn = none) {w w' : World} {token : String} :
    (authResult lib env args).run w = .ok token w' ↔
      ∃ t rng, (AuthToken.generate lib args.length args.format.toFormat).run w.rng = .ok t rng ∧
        token = t.asStr ∧ w' = { w with rng := rng, clock := w.clock.tail } := by
  simp only [authResult, hexpires]
  exact call_bind_pure_run_eq_ok_iff

theorem authResult_run_expiring_eq_ok_iff {env : Option String} {args : AuthArgs}
    {expiresSecs : UInt64} (hexpires : args.expiresIn = some expiresSecs) {w w' : World}
    {token : String} : (authResult lib env args).run w = .ok token w' ↔
      ∃ key, getSecret env args.secret = .ok key ∧
        ∃ t rng, (AuthTokenBuilder.generate lib ⟨args.length, args.format.toFormat,
            some (Duration.fromSecs expiresSecs), some key⟩ w.clock.head).run w.rng = .ok t rng ∧
          token = t.asStr ∧ w' = { w with rng := rng, clock := w.clock.tail } := by
  simp only [authResult, hexpires]
  cases getSecret env args.secret with
  | error message => simp
  | ok key =>
    simp only [orAbort_ok, pure_bind, Except.ok.injEq, exists_eq_left']
    exact call_bind_pure_run_eq_ok_iff

/-- A key comes with its SHA-256 hash. -/
theorem apiResult_run_eq_ok_iff {args : ApiArgs} {w w' : World} {result : String × String} :
    (apiResult lib args).run w = .ok result w' ↔
      ∃ key rng, (ApiKey.generate lib args.keyType.toApiKeyType args.env.toEnvironment
          args.length).run w.rng = .ok key rng ∧ result = (key.asStr, key.hashSha256 lib) ∧
        w' = { w with rng := rng, clock := w.clock.tail } := by
  refine call_bind_pure_run_eq_ok_iff.trans ⟨?_, ?_⟩
  · rintro ⟨g, rng, hg, rfl, rfl⟩
    rw [ApiKeyBuilder.generateWithHash_eq] at hg
    obtain ⟨rng', hkey, hhash⟩ := GeneratedApiKey.generateHashed_run_eq_ok_iff.mp hg
    obtain ⟨htext, rfl⟩ := EStateM.run_pure_eq_ok_iff.mp hhash
    exact ⟨g.key, rng', hkey, by rw [htext], rfl⟩
  · rintro ⟨key, rng, hkey, rfl, rfl⟩
    refine ⟨⟨key, key.hashSha256 lib⟩, rng, ?_, rfl, rfl⟩
    rw [ApiKeyBuilder.generateWithHash_eq]
    exact GeneratedApiKey.generateHashed_run_eq_ok_iff.mpr ⟨rng, hkey, rfl⟩

theorem csrfResult_run_eq_ok_iff {secret : SecretKey} {args : CsrfArgs} {w w' : World}
    {token : String} : (csrfResult lib secret args).run w = .ok token w' ↔
      ∃ t rng, (CsrfToken.generate lib secret args.sessionId args.length w.clock.head).run w.rng =
          .ok t rng ∧ token = t.asStr ∧ w' = { w with rng := rng, clock := w.clock.tail } :=
  call_bind_pure_run_eq_ok_iff

theorem quiet_authResult (env : Option String) (args : AuthArgs) :
    Quiet (isizeMax < args.length) (authResult lib env args) := by
  unfold authResult
  split
  · refine (Quiet.orAbort _).bind fun secret => (Quiet.call fun now => ?_).bind fun _ => .pure _
    exact AuthTokenBuilder.generate_panicsOnly _ now
  · exact (Quiet.call fun _ => AuthToken.generate_panicsOnly _ _).bind fun _ => Quiet.pure _

theorem quiet_apiResult (args : ApiArgs) :
    Quiet (isizeMax < args.length) (apiResult lib args) := by
  refine (Quiet.call fun _ => ?_).bind fun _ => .pure _
  exact ApiKeyBuilder.generateWithHash_panicsOnly _ rfl

theorem quiet_csrfResult (secret : SecretKey) (args : CsrfArgs) :
    Quiet (isizeMax < args.length) (csrfResult lib secret args) := by
  refine (Quiet.call fun now => ?_).bind fun _ => .pure _
  exact CsrfTokenBuilder.generate_panicsOnly _ now

theorem runAuth_generate {env : Option String} {args : AuthArgs} (hargs : args.checkExpiry = none)
    (output : OutputFormat) : runAuth lib env { args with output := output } =
      (List.range args.count).mapM (fun _ => authResult lib env args) >>=
        report lib args.count (fun token => [token]) tokenJson output := by
  simp only [runAuth, hargs]
  refine bind_congr fun results => ?_
  cases output with
  | json => rfl
  | plain => simp only [report, List.flatMap_singleton']

theorem runApi_generate {args : ApiArgs} (hhash : args.hash = none) (hverify : args.verify = none)
    (output : OutputFormat) : runApi lib { args with output := output } =
      (List.range args.count).mapM (fun _ => apiResult lib args) >>=
        report lib args.count keyLines keyJson output := by
  simp only [runApi, hhash, hverify]
  refine bind_congr fun results => ?_
  cases output with
  | json => rfl
  | plain =>
    rw [outputPlainDict_eq, List.map_flatMap]
    rfl

theorem runCsrf_generate {env : Option String} {args : CsrfArgs} (hverify : args.verify = none)
    (output : OutputFormat) : runCsrf lib env { args with output := output } =
      orAbort (getSecret env args.secret) >>= fun secret =>
        (List.range args.count).mapM (fun _ => csrfResult lib secret args) >>=
          report lib args.count (fun token => [token]) tokenJson output := by
  simp only [runCsrf, hverify]
  refine bind_congr fun secret => bind_congr fun results => ?_
  cases output with
  | json => rfl
  | plain => simp only [report, List.flatMap_singleton']

theorem runAuth_generates {env : Option String} {args : AuthArgs}
    (hargs : args.checkExpiry = none) :
    GeneratesAll lib args.length args.count (authResult lib env args) (fun token => [token])
      tokenJson (fun output => runAuth lib env { args with output := output }) :=
  .of_report (quiet_authResult env args) (runAuth_generate hargs)

theorem runApi_generates {args : ApiArgs} (hhash : args.hash = none)
    (hverify : args.verify = none) :
    GeneratesAll lib args.length args.count (apiResult lib args) keyLines keyJson
      (fun output => runApi lib { args with output := output }) :=
  .of_report (quiet_apiResult args) (runApi_generate hhash hverify)

theorem runCsrf_generates {env : Option String} {args : CsrfArgs} {secret : SecretKey}
    (hverify : args.verify = none) (hsecret : getSecret env args.secret = .ok secret) :
    GeneratesAll lib args.length args.count (csrfResult lib secret args) (fun token => [token])
      tokenJson (fun output => runCsrf lib env { args with output := output }) := by
  refine .of_report (quiet_csrfResult secret args) fun output => ?_
  rw [runCsrf_generate hverify, hsecret]
  rfl

/-- Without a secret, nothing is generated. -/
theorem runCsrf_without_secret {args : CsrfArgs} (hverify : args.verify = none)
    {env : Option String} {message : String} (hkey : getSecret env args.secret = .error message)
    (w : World) : (runCsrf lib env args).run w = .error (.error message) w := by
  have hrun := @runCsrf_generate lib env args hverify args.output
  rw [hkey] at hrun
  exact congrArg (fun cmd => cmd.run w) hrun

/-! ## Reading the output back -/

namespace Graphic

theorem iff_forall {s : String} :
    Graphic s ↔ ∀ c ∈ s.toList, 32 < c.toNat ∧ c ≠ '"' ∧ c ≠ '\\' := by
  simp only [Graphic, List.all_eq_true, isGraphic, decide_eq_true_eq]

theorem append {s t : String} (hs : Graphic s) (ht : Graphic t) : Graphic (s ++ t) := by
  rw [Graphic, String.toList_append, List.all_append, hs, ht]
  rfl

theorem not_mem {s : String} (hs : Graphic s) {c : Char} (hc : c.toNat ≤ 32) : c ∉ s.toList :=
  fun hmem => absurd (iff_forall.mp hs c hmem).1 (Nat.not_lt.mpr hc)

theorem base64 (hlib : lib.Base64Lawful) (b : Bytes) : Graphic (lib.base64.encode b) := by
  have halphabet : Base64.alphabet.all isGraphic = true := by decide
  exact List.all_eq_true.mpr fun c hc => List.all_eq_true.mp halphabet c (hlib.alphabet b c hc)

theorem hexadecimal (b : Bytes) : Graphic (Hexadecimal.encode b) := by
  have hdigits : Hexadecimal.digits.all isGraphic = true := by decide
  exact List.all_eq_true.mpr fun c hc =>
    List.all_eq_true.mp hdigits c (Hexadecimal.mem_digits_of_mem_encode hc)

theorem format (hlib : lib.Base64Lawful) (format : Format) (b : Bytes) :
    Graphic (format.encode lib b) := by
  cases format with
  | base64Url => exact base64 hlib b
  | hex =>
    rw [Format.encode, Hex.encode_text]
    exact hexadecimal b

theorem render (hlib : lib.Base64Lawful) (w : Wire) : Graphic (w.render lib) := by
  have hdot : Graphic "." := by rfl
  rw [Wire.render_eq]
  exact ((((base64 hlib _).append hdot).append (base64 hlib _)).append hdot).append
    (base64 hlib _)

theorem keyText (keyType : ApiKeyType) (environment : Environment) {body : String}
    (hbody : Graphic body) : Graphic (ApiKey.keyText keyType environment body) := by
  have hprefix : Graphic (keyType.prefixStr ++ "_" ++ environment.prefixStr ++ "_") := by
    cases keyType <;> cases environment <;> rfl
  exact hprefix.append hbody

end Graphic

/-- The results of `auth` are graphic. -/
theorem graphic_of_authResult (hlib : lib.Base64Lawful) {env : Option String} {args : AuthArgs}
    {w w' : World} {token : String} (h : (authResult lib env args).run w = .ok token w') :
    Graphic token := by
  cases hexpires : args.expiresIn with
  | some expiresSecs =>
    obtain ⟨key, -, t, _, ht, rfl, -⟩ := (authResult_run_expiring_eq_ok_iff hexpires).mp h
    obtain ⟨wire, rfl, -⟩ := AuthTokenBuilder.exists_wire_of_generate ht
    exact .render hlib wire
  | none =>
    obtain ⟨t, _, ht, rfl, -⟩ := (authResult_run_simple_eq_ok_iff hexpires).mp h
    obtain ⟨bytes, -, rfl⟩ := AuthToken.generate_run_eq_ok_iff.mp ht
    exact .format hlib _ bytes

/-- The results of `csrf` are graphic. -/
theorem graphic_of_csrfResult (hlib : lib.Base64Lawful) {secret : SecretKey} {args : CsrfArgs}
    {w w' : World} {token : String} (h : (csrfResult lib secret args).run w = .ok token w') :
    Graphic token := by
  obtain ⟨t, _, ht, rfl, -⟩ := csrfResult_run_eq_ok_iff.mp h
  obtain ⟨wire, rfl, -⟩ := CsrfTokenBuilder.exists_wire_of_generate ht
  exact .render hlib wire

/-- The results of `api` are graphic, key and hash. -/
theorem graphic_of_apiResult (hlib : lib.Base64Lawful) (hhex : lib.HexLawful) {args : ApiArgs}
    {w w' : World} {result : String × String}
    (h : (apiResult lib args).run w = .ok result w') : Graphic result.1 ∧ Graphic result.2 := by
  obtain ⟨key, _, hkey, rfl, -⟩ := apiResult_run_eq_ok_iff.mp h
  obtain ⟨-, bytes, -, -, hinner⟩ := ApiKey.generate_run_eq_ok_iff.mp hkey
  refine ⟨?_, ?_⟩
  · rw [ApiKey.asStr, hinner]
    exact .keyText _ _ (.base64 hlib _)
  · have hsha : Graphic "sha256:" := by rfl
    rw [ApiKey.hashSha256, hhex.encode_eq]
    exact hsha.append (.hexadecimal _)

/-- The lines of graphic tokens are the tokens. -/
theorem lines_tokens {tokens : List String} (h : ∀ token ∈ tokens, Graphic token) :
    Text.lines (Text.unlines (tokens.flatMap fun token => [token])) = tokens := by
  rw [List.flatMap_singleton']
  exact Text.lines_unlines fun token htoken => (h token htoken).not_mem (by decide)

/-- The lines of keys and hashes, taken apart at the colons with a blank, are names and
values. -/
theorem pieces_keyLines {results : List (String × String)}
    (h : ∀ r ∈ results, Graphic r.1 ∧ Graphic r.2) :
    (Text.lines (Text.unlines (results.flatMap keyLines))).map (Text.splitOnPair ':' ' ') =
      results.flatMap fun r => [["key", r.1], ["key_hash", r.2]] := by
  have hline : ∀ line ∈ results.flatMap keyLines, '\n' ∉ line.toList := by
    intro line hmem
    obtain ⟨r, hr, hline⟩ := List.mem_flatMap.mp hmem
    have hkey := (h r hr).1.not_mem (c := '\n') (by decide)
    have hhash := (h r hr).2.not_mem (c := '\n') (by decide)
    simp only [keyLines, List.mem_cons, List.not_mem_nil, or_false] at hline
    rcases hline with rfl | rfl
    · simpa using hkey
    · simpa using hhash
  rw [Text.lines_unlines hline, List.map_flatMap]
  refine List.flatMap_congr fun r hr => ?_
  have hkey : Text.splitOnPair ':' ' ' ("key" ++ ':'.toString ++ ' '.toString ++ r.1) =
      ["key", r.1] :=
    Text.splitOnPair_append (by decide) ((h r hr).1.not_mem (by decide))
  have hhash : Text.splitOnPair ':' ' ' ("key_hash" ++ ':'.toString ++ ' '.toString ++ r.2) =
      ["key_hash", r.2] :=
    Text.splitOnPair_append (by decide) ((h r hr).2.not_mem (by decide))
  rw [← hkey, ← hhash]
  rfl

/-! ## All or nothing -/

/-- In generate mode each command reports the results of `count` generations, all of them or
none, and what it prints gives them back. `csrf` first asks for its secret : without one it ends
in an error and writes nothing, even for a `count` of zero. -/
theorem cli_all_or_nothing (hlib : lib.Base64Lawful) (hhex : lib.HexLawful)
    (hjson : lib.JsonLawful) :
    (∀ (env : Option String) (args : AuthArgs), args.checkExpiry = none →
      GeneratesAll lib args.length args.count (authResult lib env args) (fun token => [token])
        tokenJson (fun output => runAuth lib env { args with output := output }) ∧
      ∀ w tokens w', Batch (authResult lib env args) w tokens w' →
        Text.lines (Text.unlines (tokens.flatMap fun token => [token])) = tokens ∧
        ∀ token ∈ tokens, lib.toJson (.str token) = "\"" ++ token ++ "\"") ∧
    (∀ args : ApiArgs, args.hash = none → args.verify = none →
      GeneratesAll lib args.length args.count (apiResult lib args) keyLines keyJson
        (fun output => runApi lib { args with output := output }) ∧
      ∀ w results w', Batch (apiResult lib args) w results w' →
        (Text.lines (Text.unlines (results.flatMap keyLines))).map (Text.splitOnPair ':' ' ') =
          results.flatMap (fun r => [["key", r.1], ["key_hash", r.2]]) ∧
        ∀ r ∈ results, lib.toJson (.str r.1) = "\"" ++ r.1 ++ "\"" ∧
          lib.toJson (.str r.2) = "\"" ++ r.2 ++ "\"") ∧
    ∀ (env : Option String) (args : CsrfArgs), args.verify = none →
      (∀ message, getSecret env args.secret = .error message → ∀ output w,
        (runCsrf lib env { args with output := output }).run w = .error (.error message) w) ∧
      ∀ secret, getSecret env args.secret = .ok secret →
        GeneratesAll lib args.length args.count (csrfResult lib secret args)
          (fun token => [token]) tokenJson
          (fun output => runCsrf lib env { args with output := output }) ∧
        ∀ w tokens w', Batch (csrfResult lib secret args) w tokens w' →
          Text.lines (Text.unlines (tokens.flatMap fun token => [token])) = tokens ∧
          ∀ token ∈ tokens, lib.toJson (.str token) = "\"" ++ token ++ "\"" := by
  refine ⟨fun env args hargs => ⟨?_, fun w tokens w' h => ?_⟩,
    fun args hhash hverify => ⟨?_, fun w results w' h => ?_⟩,
    fun env args hverify => ⟨fun message hsecret output w => ?_,
      fun secret hsecret => ⟨?_, fun w tokens w' h => ?_⟩⟩⟩
  · exact runAuth_generates hargs
  · have hgraphic := h.forall_mem fun _ _ _ => graphic_of_authResult hlib
    exact ⟨lines_tokens hgraphic, fun token htoken => hjson.str (hgraphic token htoken)⟩
  · exact runApi_generates hhash hverify
  · have hgraphic := h.forall_mem (P := fun r => Graphic r.1 ∧ Graphic r.2)
      fun _ _ _ => graphic_of_apiResult hlib hhex
    exact ⟨pieces_keyLines hgraphic,
      fun r hr => ⟨hjson.str (hgraphic r hr).1, hjson.str (hgraphic r hr).2⟩⟩
  · exact @runCsrf_without_secret lib { args with output := output } hverify env message hsecret w
  · exact runCsrf_generates hverify hsecret
  · have hgraphic := h.forall_mem fun _ _ _ => graphic_of_csrfResult hlib
    exact ⟨lines_tokens hgraphic, fun token htoken => hjson.str (hgraphic token htoken)⟩

theorem cli_all_or_nothing_standard :
    GeneratesAll Crates.standard 32 2 (authResult Crates.standard none { count := 2 })
      (fun token => [token]) tokenJson
      (fun output => runAuth Crates.standard none { count := 2, output := output }) :=
  ((cli_all_or_nothing Crates.standard_base64Lawful Crates.standard_hexLawful
    Crates.standard_jsonLawful).1 none { count := 2 } rfl).1

/-- Arguments that ask for no tokens, as JSON. -/
def CsrfArgs.countZero : CsrfArgs where
  count := 0
  output := .json
  sessionId := "s"
  sessionId_ne_empty := by decide

/-- Without a secret, `csrf` ends in an error where there is nothing to generate that could
fail. -/
theorem csrf_needs_secret_for_none :
    CsrfArgs.countZero.count = 0 ∧
      (runCsrf Crates.standard none CsrfArgs.countZero).run World.atEpoch =
        .error (.error "Secret required. Use -s/--secret or set TOKEN_GEN_SECRET env var.")
          World.atEpoch :=
  ⟨rfl, rfl⟩

end TokenGen
