import TokenGen.Lib.Lockstep
import TokenGen.Process

/-!
# What depends on the secret

Two processes that differ in their secrets only, where neither secret is short or both are
equally long (`SecretsAlike`), are run in lockstep. They leave the random source and the clock
in the same place and end with the same exit code and the same standard error. Their outputs
differ in the signatures of the tokens and in the verdict of `csrf --verify`, and the commands
that neither sign nor verify write the same (`Commands.OutputsAlike`).

`secret_noninterference` : so it is for sessions of any length.
-/

namespace TokenGen

open EStateM (Lockstep)

/-! ## Processes that differ in their secrets -/

/-- Texts that look the same as secrets : both are long enough, or both are equally long. -/
def SecretsAlike (s s' : String) : Prop :=
  (Text.bytes s).length = (Text.bytes s').length ∨
    minSecretKeyLength ≤ (Text.bytes s).length ∧ minSecretKeyLength ≤ (Text.bytes s').length

/-- The same arguments with another secret. -/
def AuthArgs.withSecret (args : AuthArgs) (secret : Option String) : AuthArgs :=
  { args with secret := secret }

/-- The same arguments with another secret. -/
def CsrfArgs.withSecret (args : CsrfArgs) (secret : Option String) : CsrfArgs :=
  { args with secret := secret }

/-- Commands that differ in their secrets. -/
inductive Commands.Alike : Commands → Commands → Prop
  | auth (args : AuthArgs) {secret : Option String}
    (h : Option.Rel SecretsAlike args.secret secret) :
    Alike (.auth args) (.auth (args.withSecret secret))
  | api (args : ApiArgs) : Alike (.api args) (.api args)
  | csrf (args : CsrfArgs) {secret : Option String}
    (h : Option.Rel SecretsAlike args.secret secret) :
    Alike (.csrf args) (.csrf (args.withSecret secret))

/-- Processes that differ in their secrets. -/
structure ProcessesAlike (process process' : Option String × Cli) : Prop where
  env : Option.Rel SecretsAlike process.1 process'.1
  command : process.2.command.Alike process'.2.command

variable (lib : Crates)

/-- Texts of signed tokens that differ in their signatures, which are equally long. -/
def UnsignedEq (s s' : String) : Prop :=
  ∃ w w' : Wire, s = w.render lib ∧ s' = w'.render lib ∧ w.timestamp = w'.timestamp ∧
    w.nonce = w'.nonce ∧ w.signature.length = w'.signature.length

/-- Reports of tokens that differ in their signatures. -/
def TokensAlike (count : ℕ) (output : OutputFormat) (lines lines' : List String) : Prop :=
  ∃ tokens tokens', List.Forall₂ (UnsignedEq lib) tokens tokens' ∧
    lines = reportLines lib count (fun token => [token]) tokenJson output tokens ∧
    lines' = reportLines lib count (fun token => [token]) tokenJson output tokens'

/-- How the outputs of a command may differ : in the signatures where it signs, in the verdict
where it verifies, and not at all otherwise. -/
def Commands.OutputsAlike : Commands → List String → List String → Prop
  | .auth args, lines, lines' =>
    if args.checkExpiry = none ∧ args.expiresIn.isSome then
      TokensAlike lib args.count args.output lines lines'
    else lines = lines'
  | .api _, lines, lines' => lines = lines'
  | .csrf args, lines, lines' =>
    if args.verify = none then TokensAlike lib args.count args.output lines lines'
    else ∃ valid valid',
      lines = [fieldLine lib args.output "valid" (.bool valid) (toString valid)] ∧
      lines' = [fieldLine lib args.output "valid" (.bool valid') (toString valid')]

variable {lib}

/-! ## Parts of a command in lockstep -/

/-- The random source and the clock are the same, and the outputs are these two. -/
structure World.Beside (stdout stdout' : String) (w w' : World) : Prop where
  rng : w.rng = w'.rng
  clock : w.clock = w'.clock
  stdout_left : w.stdout = stdout
  stdout_right : w'.stdout = stdout'

/-- Two commands, whatever was written before, both return, with outputs related by `out`, or both
fail with one error and write nothing, and leave the random source and the clock in one state. -/
def RunAlike (out : List String → List String → Prop)
    (m m' : EStateM (Abort String) World PUnit) : Prop :=
  ∀ rng clock stdout stdout',
    (∃ lines lines' rng' clock', out lines lines' ∧
      m.run ⟨rng, clock, stdout⟩ = .ok () ⟨rng', clock', stdout ++ Text.unlines lines⟩ ∧
      m'.run ⟨rng, clock, stdout'⟩ = .ok () ⟨rng', clock', stdout' ++ Text.unlines lines'⟩) ∨
    ∃ e rng' clock', m.run ⟨rng, clock, stdout⟩ = .error e ⟨rng', clock', stdout⟩ ∧
      m'.run ⟨rng, clock, stdout'⟩ = .error e ⟨rng', clock', stdout'⟩

section Lockstep

variable {α α' : Type} {A : α → α' → Prop} {stdout stdout' : String}

theorem call_lockstep {f : SystemTime → EStateM (Abort TokenError) SysRng α}
    {f' : SystemTime → EStateM (Abort TokenError) SysRng α'}
    (h : ∀ now, Lockstep Eq A (f now) (f' now)) :
    Lockstep (World.Beside stdout stdout') A (call f) (call f') := by
  rintro ⟨rng, clock, _⟩ ⟨_, _, _⟩ ⟨rfl, rfl, rfl, rfl⟩
  have hresult := h clock.head (rfl : rng = rng)
  simp only [call, EStateM.run] at hresult ⊢
  generalize f clock.head rng = result, f' clock.head rng = result' at hresult ⊢
  cases hresult with
  | ok value state =>
    subst state
    exact .ok value ⟨rfl, rfl, rfl, rfl⟩
  | error e state =>
    subst state
    exact .error _ ⟨rfl, rfl, rfl, rfl⟩

theorem orAbort_lockstep {x : Except String α} {x' : Except String α'}
    (h : (∃ a a', x = .ok a ∧ x' = .ok a' ∧ A a a') ∨
      ∃ message, x = .error message ∧ x' = .error message) :
    Lockstep (World.Beside stdout stdout') A (orAbort x) (orAbort x') := by
  rcases h with ⟨a, a', rfl, rfl, hA⟩ | ⟨message, rfl, rfl⟩
  · exact Lockstep.pure hA
  · exact Lockstep.throw _

/-- Programs in lockstep, and then lines for what comes of them. -/
theorem RunAlike.of_lockstep {out : List String → List String → Prop}
    {m : EStateM (Abort String) World α} {m' : EStateM (Abort String) World α'}
    (h : ∀ stdout stdout', Lockstep (World.Beside stdout stdout') A m m')
    {f : α → EStateM (Abort String) World PUnit} {f' : α' → EStateM (Abort String) World PUnit}
    (hf : ∀ {a a'}, A a a' → ∃ lines lines', out lines lines' ∧
      (∀ w, (f a).run w = .ok () { w with stdout := w.stdout ++ Text.unlines lines }) ∧
      ∀ w, (f' a').run w = .ok () { w with stdout := w.stdout ++ Text.unlines lines' }) :
    RunAlike out (m >>= f) (m' >>= f') := by
  intro rng clock stdout stdout'
  have hbeside : World.Beside stdout stdout' ⟨rng, clock, stdout⟩ ⟨rng, clock, stdout'⟩ :=
    ⟨rfl, rfl, rfl, rfl⟩
  have hresult := h stdout stdout' hbeside
  rw [EStateM.run_bind, EStateM.run_bind]
  generalize m.run ⟨rng, clock, stdout⟩ = result, m'.run ⟨rng, clock, stdout'⟩ = result'
    at hresult ⊢
  cases hresult with
  | @ok a a' w w' value state =>
    obtain ⟨rng', clock', _⟩ := w
    obtain ⟨_, _, _⟩ := w'
    obtain ⟨rfl, rfl, rfl, rfl⟩ := state
    obtain ⟨lines, lines', hout, hlines, hlines'⟩ := hf value
    exact Or.inl ⟨lines, lines', rng', clock', hout, hlines _, hlines' _⟩
  | @error e w w' state =>
    obtain ⟨rng', clock', _⟩ := w
    obtain ⟨_, _, _⟩ := w'
    obtain ⟨rfl, rfl, rfl, rfl⟩ := state
    exact Or.inr ⟨e, rng', clock', rfl, rfl⟩

end Lockstep

/-- A command that does not look at its output runs as it runs. -/
theorem Discovers.runAlike {P : Prop} {n : ℕ} {finds : Finding → Prop}
    {cmd : OutputFormat → EStateM (Abort String) World PUnit} (h : Discovers lib P n finds cmd)
    (output : OutputFormat) : RunAlike Eq (cmd output) (cmd output) := by
  intro rng clock stdout stdout'
  rcases h rng clock with ⟨finding, j, -, hrun⟩ | ⟨e, k, j, -, -, hrun⟩
  · exact Or.inl ⟨_, _, _, _, rfl, hrun output stdout, hrun output stdout'⟩
  · exact Or.inr ⟨_, _, _, hrun output stdout, hrun output stdout'⟩

theorem RunAlike.mono {out out' : List String → List String → Prop}
    {m m' : EStateM (Abort String) World PUnit} (h : RunAlike out m m')
    (hout : ∀ {lines lines'}, out lines lines' → out' lines lines') : RunAlike out' m m' := by
  intro rng clock stdout stdout'
  rcases h rng clock stdout stdout' with ⟨lines, lines', rng', clock', hlines, hrun⟩ | herr
  · exact Or.inl ⟨lines, lines', rng', clock', hout hlines, hrun⟩
  · exact Or.inr herr

/-! ## Generation -/

/-- Secrets that look the same are both usable, or unusable for one reason. -/
theorem fromString_alike {s s' : String} (h : SecretsAlike s s') :
    (∃ key key', SecretKey.fromString s = .ok key ∧ SecretKey.fromString s' = .ok key') ∨
      ∃ e, SecretKey.fromString s = .error e ∧ SecretKey.fromString s' = .error e := by
  unfold SecretKey.fromString
  by_cases hs : (Text.bytes s).length < minSecretKeyLength
  · have hlen : (Text.bytes s).length = (Text.bytes s').length :=
      h.resolve_right fun hlong => Nat.not_lt.mpr hlong.1 hs
    simp only [hlen ▸ hs, dif_pos, hlen]
    exact Or.inr ⟨_, rfl, rfl⟩
  · have hs' : ¬(Text.bytes s').length < minSecretKeyLength := by
      rcases h with hlen | ⟨-, hlong⟩
      · rwa [← hlen]
      · exact Nat.not_lt.mpr hlong
    simp only [hs, hs', dif_neg, not_false_eq_true]
    exact Or.inl ⟨_, _, rfl, rfl⟩

theorem getSecret_alike {env env' arg arg' : Option String}
    (henv : Option.Rel SecretsAlike env env') (harg : Option.Rel SecretsAlike arg arg') :
    (∃ key key', getSecret env arg = .ok key ∧ getSecret env' arg' = .ok key' ∧ True) ∨
      ∃ message, getSecret env arg = .error message ∧ getSecret env' arg' = .error message := by
  have hfrom : ∀ {s s'}, SecretsAlike s s' →
      (∃ key key', (SecretKey.fromString s).mapError (fun e => "Invalid secret: " ++ e.display) =
          .ok key ∧ (SecretKey.fromString s').mapError
            (fun e => "Invalid secret: " ++ e.display) = .ok key' ∧ True) ∨
        ∃ message, (SecretKey.fromString s).mapError (fun e => "Invalid secret: " ++ e.display) =
          .error message ∧ (SecretKey.fromString s').mapError
            (fun e => "Invalid secret: " ++ e.display) = .error message := by
    intro s s' h
    rcases fromString_alike h with ⟨key, key', hs, hs'⟩ | ⟨e, hs, hs'⟩
    · exact Or.inl ⟨key, key', by rw [hs, Except.mapError_ok], by rw [hs', Except.mapError_ok],
        trivial⟩
    · exact Or.inr ⟨_, by rw [hs]; rfl, by rw [hs']; rfl⟩
  cases harg with
  | some h => exact hfrom h
  | none =>
    cases henv with
    | some h => exact hfrom h
    | none => exact Or.inr ⟨_, rfl, rfl⟩

/-- Signing the same fields under two keys gives texts that differ in the signature. -/
theorem UnsignedEq.sign (key key' : SecretKey) (timestamp : UInt64) (nonce context : Bytes) :
    UnsignedEq lib ((Wire.sign (lib.hmacSha256 key.bytes) timestamp nonce context).render lib)
      ((Wire.sign (lib.hmacSha256 key'.bytes) timestamp nonce context).render lib) :=
  ⟨_, _, rfl, rfl, rfl, rfl, by simp [Wire.sign]⟩

theorem AuthTokenBuilder.generate_lockstep (length : ℕ) (format : Format) (duration : Duration)
    (key key' : SecretKey) (now : SystemTime) :
    Lockstep Eq (fun t t' => UnsignedEq lib t.asStr t'.asStr)
      (AuthTokenBuilder.generate lib ⟨length, format, some duration, some key⟩ now)
      (AuthTokenBuilder.generate lib ⟨length, format, some duration, some key'⟩ now) := by
  rw [generate_eq, generate_eq]
  refine (Lockstep.refl (generateBytes length)).bind fun {bytes _} hbytes => ?_
  subst hbytes
  refine Lockstep.bind (.orAbort_refl now.unixSeconds) fun {now _} hnow => ?_
  subst hnow
  cases U64.checkedAdd now duration.secs with
  | none => exact .throw _
  | some timestamp => exact .pure (.sign key key' timestamp bytes [])

theorem CsrfToken.generate_lockstep (key key' : SecretKey) (sessionId : String) (length : ℕ)
    (now : SystemTime) : Lockstep Eq (fun t t' => UnsignedEq lib t.asStr t'.asStr)
      (CsrfToken.generate lib key sessionId length now)
      (CsrfToken.generate lib key' sessionId length now) := by
  rw [generate_eq, generate_eq]
  split_ifs
  · exact .throw _
  · refine Lockstep.bind (.orAbort_refl now.unixSeconds) fun {timestamp _} htimestamp => ?_
    subst htimestamp
    refine (Lockstep.refl (generateBytes length)).bind fun {nonce _} hnonce => ?_
    subst hnonce
    exact .pure (.sign key key' timestamp nonce (Text.bytes sessionId))

/-! ## Commands -/

/-- Batches in lockstep, and their reports. -/
theorem RunAlike.of_generate {gen gen' : EStateM (Abort String) World String}
    (hgen : ∀ stdout stdout', Lockstep (World.Beside stdout stdout') (UnsignedEq lib) gen gen')
    (count : ℕ) (output : OutputFormat) : RunAlike (TokensAlike lib count output)
      ((List.range count).mapM (fun _ => gen) >>=
        report lib count (fun token => [token]) tokenJson output)
      ((List.range count).mapM (fun _ => gen') >>=
        report lib count (fun token => [token]) tokenJson output) := by
  refine of_lockstep (fun stdout stdout' => (hgen stdout stdout').mapM (List.range count)) ?_
  rintro tokens tokens' ⟨hlen, htokens⟩
  rw [List.length_range] at hlen
  exact ⟨_, _, ⟨tokens, tokens', htokens, rfl, rfl⟩, report_run hlen _ _ output,
    report_run (htokens.length_eq ▸ hlen) _ _ output⟩

theorem authResult_lockstep {env env' : Option String} (henv : Option.Rel SecretsAlike env env')
    {args : AuthArgs} {secret : Option String}
    (hsecret : Option.Rel SecretsAlike args.secret secret) {expiresSecs : UInt64}
    (hexpires : args.expiresIn = some expiresSecs)
    (stdout stdout' : String) :
    Lockstep (World.Beside stdout stdout') (UnsignedEq lib) (authResult lib env args)
      (authResult lib env' (args.withSecret secret)) := by
  unfold authResult
  simp only [AuthArgs.withSecret, hexpires]
  refine (orAbort_lockstep (getSecret_alike henv hsecret)).bind fun {key key'} _ => ?_
  exact (call_lockstep fun now => AuthTokenBuilder.generate_lockstep _ _ _ key key' now).bind
    fun htokens => .pure htokens

theorem csrfResult_lockstep (key key' : SecretKey) (args : CsrfArgs) (secret : Option String)
    (stdout stdout' : String) :
    Lockstep (World.Beside stdout stdout') (UnsignedEq lib) (csrfResult lib key args)
      (csrfResult lib key' (args.withSecret secret)) :=
  (call_lockstep fun now => CsrfToken.generate_lockstep key key' _ _ now).bind
    fun htokens => .pure htokens

theorem runAuth_alike {env env' : Option String} (henv : Option.Rel SecretsAlike env env')
    (args : AuthArgs) {secret : Option String}
    (hsecret : Option.Rel SecretsAlike args.secret secret) :
    RunAlike (Commands.OutputsAlike lib (.auth args)) (runAuth lib env args)
      (runAuth lib env' (args.withSecret secret)) := by
  -- Where nothing is signed, the secret is not asked for.
  have hsame : ¬(args.checkExpiry = none ∧ args.expiresIn.isSome) →
      runAuth lib env' (args.withSecret secret) = runAuth lib env args →
      RunAlike (Commands.OutputsAlike lib (.auth args)) (runAuth lib env args)
        (runAuth lib env' (args.withSecret secret)) := by
    intro hplain hsame
    rw [hsame]
    refine ((runAuth_discovers env args).runAlike args.output).mono fun h => ?_
    rwa [Commands.OutputsAlike, if_neg hplain]
  cases hcheck : args.checkExpiry with
  | some s =>
    have hrun' : runAuth lib env' (args.withSecret secret) = _ := runAuth_check hcheck
    exact hsame (by simp [hcheck]) (hrun'.trans (runAuth_check hcheck).symm)
  | none =>
    have hrun : runAuth lib env args = _ := runAuth_eq_generate hcheck
    have hrun' : runAuth lib env' (args.withSecret secret) = _ := runAuth_eq_generate hcheck
    cases hexpires : args.expiresIn with
    | none =>
      refine hsame (by simp [hexpires]) ?_
      rw [hrun, hrun']
      simp only [authResult, AuthArgs.withSecret, hexpires]
    | some expiresSecs =>
      rw [hrun, hrun']
      refine (RunAlike.of_generate (authResult_lockstep henv hsecret hexpires) args.count
        args.output).mono fun h => ?_
      rwa [Commands.OutputsAlike, if_pos (by simp [hcheck, hexpires])]

theorem runCsrf_alike {env env' : Option String} (henv : Option.Rel SecretsAlike env env')
    (args : CsrfArgs) {secret : Option String}
    (hsecret : Option.Rel SecretsAlike args.secret secret) :
    RunAlike (Commands.OutputsAlike lib (.csrf args)) (runCsrf lib env args)
      (runCsrf lib env' (args.withSecret secret)) := by
  have halike := getSecret_alike henv hsecret
  cases hverify : args.verify with
  | some s =>
    have hrun : runCsrf lib env args = _ := runCsrf_verify hverify
    have hrun' : runCsrf lib env' (args.withSecret secret) = _ := runCsrf_verify hverify
    rw [hrun, hrun']
    refine RunAlike.of_lockstep (A := fun _ _ => True) (fun stdout stdout' => ?_) ?_
    · refine (orAbort_lockstep halike).bind fun {key key'} _ => ?_
      exact (Lockstep.orAbort_refl _).bind fun _ => call_lockstep fun now => .pure trivial
    · intro valid valid' _
      refine ⟨_, _, ?_, outputField_run _ _ _ _, outputField_run _ _ _ _⟩
      rw [Commands.OutputsAlike, if_neg (by simp [hverify])]
      exact ⟨valid, valid', rfl, rfl⟩
  | none =>
    have hrun : runCsrf lib env args = _ := runCsrf_eq_generate hverify
    have hrun' : runCsrf lib env' (args.withSecret secret) = _ := runCsrf_eq_generate hverify
    rw [hrun, hrun']
    rcases halike with ⟨key, key', hkey, hkey', -⟩ | ⟨message, hkey, hkey'⟩
    · rw [hkey, show getSecret env' (args.withSecret secret).secret = .ok key' from hkey']
      refine (RunAlike.of_generate (csrfResult_lockstep key key' args secret) args.count
        args.output).mono fun h => ?_
      rwa [Commands.OutputsAlike, if_pos hverify]
    · rw [hkey, show getSecret env' (args.withSecret secret).secret = .error message from hkey']
      exact fun rng clock stdout stdout' => Or.inr ⟨_, rng, clock, rfl, rfl⟩

variable (lib) in
/-- A command, with other secrets that look the same. -/
theorem Commands.Alike.runAlike {env env' : Option String}
    (henv : Option.Rel SecretsAlike env env') {cli cli' : Cli}
    (h : cli.command.Alike cli'.command) :
    RunAlike (cli.command.OutputsAlike lib) (cli.command.run lib env)
      (cli'.command.run lib env') := by
  obtain ⟨command, hargs⟩ := cli
  obtain ⟨command', hargs'⟩ := cli'
  cases h with
  | auth args hsecret => exact runAuth_alike henv args hsecret
  | api args => exact (runApi_discovers (hargs rfl)).runAlike args.output
  | csrf args hsecret => exact runCsrf_alike henv args hsecret

/-! ## Sessions -/

variable (lib)

/-- Two processes with secrets that look the same, from one random source and clock. -/
theorem main_alike {process process' : Option String × Cli} (h : ProcessesAlike process process')
    (rng : SysRng) (clock : Stream' SystemTime) (stdout stdout' : String) :
    ∃ exit lines lines' rng' clock',
      (lines = [] ∧ lines' = [] ∨ process.2.command.OutputsAlike lib lines lines') ∧
      main lib process.1 process.2 ⟨rng, clock, stdout⟩ =
        (exit, ⟨rng', clock', stdout ++ Text.unlines lines⟩) ∧
      main lib process'.1 process'.2 ⟨rng, clock, stdout'⟩ =
        (exit, ⟨rng', clock', stdout' ++ Text.unlines lines'⟩) := by
  rcases h.command.runAlike lib h.env rng clock stdout stdout' with
    ⟨lines, lines', rng', clock', hout, hrun, hrun'⟩ | ⟨e, rng', clock', hrun, hrun'⟩
  · refine ⟨.code .success "", lines, lines', rng', clock', Or.inr hout, ?_, ?_⟩
    · rw [main, hrun]
    · rw [main, hrun']
  · cases e with
    | error message =>
      refine ⟨.code .failure ("Error: " ++ message ++ "\n"), [], [], rng', clock',
        Or.inl ⟨rfl, rfl⟩, ?_, ?_⟩
      · rw [main, hrun, Text.unlines_nil, String.append_empty]
      · rw [main, hrun', Text.unlines_nil, String.append_empty]
    | panic =>
      refine ⟨.panic, [], [], rng', clock', Or.inl ⟨rfl, rfl⟩, ?_, ?_⟩
      · rw [main, hrun, Text.unlines_nil, String.append_empty]
      · rw [main, hrun', Text.unlines_nil, String.append_empty]

/-- Two scripts whose processes differ in their secrets, where these look the same, leave the
random source and the clock in one state and end, process by process, with the same exit code and
the same standard error. The outputs differ in the signatures of tokens and in the verdicts of
`csrf --verify`, and in nothing else. -/
theorem secret_noninterference {script script' : List (Option String × Cli)}
    (hscript : List.Forall₂ ProcessesAlike script script') (rng : SysRng)
    (clock : Stream' SystemTime) (stdout stdout' : String) :
    ∃ exits outputs rng' clock',
      List.Forall₂ (fun process output => output = ([], []) ∨
        process.2.command.OutputsAlike lib output.1 output.2) script outputs ∧
      session lib script ⟨rng, clock, stdout⟩ =
        (exits, ⟨rng', clock', stdout ++ Text.unlines (outputs.flatMap Prod.fst)⟩) ∧
      session lib script' ⟨rng, clock, stdout'⟩ =
        (exits, ⟨rng', clock', stdout' ++ Text.unlines (outputs.flatMap Prod.snd)⟩) := by
  induction hscript generalizing rng clock stdout stdout' with
  | nil => exact ⟨[], [], rng, clock, .nil, by simp [session], by simp [session]⟩
  | @cons process process' script script' hprocess _ ih =>
    obtain ⟨exit, lines, lines', rng₁, clock₁, hout, hmain, hmain'⟩ :=
      main_alike lib hprocess rng clock stdout stdout'
    obtain ⟨exits, outputs, rng₂, clock₂, houts, hsession, hsession'⟩ :=
      ih rng₁ clock₁ (stdout ++ Text.unlines lines) (stdout' ++ Text.unlines lines')
    refine ⟨exit :: exits, (lines, lines') :: outputs, rng₂, clock₂, .cons ?_ houts, ?_, ?_⟩
    · exact hout.imp (fun h => Prod.ext h.1 h.2) id
    · simp only [session, hmain, hsession, List.flatMap_cons, Text.unlines_append,
        String.append_assoc]
    · simp only [session, hmain', hsession', List.flatMap_cons, Text.unlines_append,
        String.append_assoc]

/-- Secrets of sixteen and of seventeen characters. -/
theorem secret_noninterference_standard :
    ∃ exits outputs rng' clock',
      List.Forall₂ (fun process output => output = ([], []) ∨
        process.2.command.OutputsAlike Crates.standard output.1 output.2)
        [(some "0123456789abcdef", Cli.inSessionS none)] outputs ∧
      session Crates.standard [(some "0123456789abcdef", Cli.inSessionS none)]
          ⟨.zeros, Stream'.const .epoch, ""⟩ =
        (exits, ⟨rng', clock', "" ++ Text.unlines (outputs.flatMap Prod.fst)⟩) ∧
      session Crates.standard [(some "fedcba9876543210!", Cli.inSessionS none)]
          ⟨.zeros, Stream'.const .epoch, "\n"⟩ =
        (exits, ⟨rng', clock', "\n" ++ Text.unlines (outputs.flatMap Prod.snd)⟩) := by
  have halike : SecretsAlike "0123456789abcdef" "fedcba9876543210!" :=
    Or.inr ⟨by decide, by decide⟩
  have hprocess : ProcessesAlike (some "0123456789abcdef", Cli.inSessionS none)
      (some "fedcba9876543210!", Cli.inSessionS none) :=
    ⟨.some halike, .csrf _ .none⟩
  exact secret_noninterference Crates.standard (.cons hprocess .nil) _ _ _ _

end TokenGen
