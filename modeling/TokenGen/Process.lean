import TokenGen.CliOutput
import TokenGen.Ledger

/-!
# Processes (`main` of `src/bin/token-gen.rs`)

`main` runs one command and turns what comes of it into an exit code. `Cli` is what `clap` hands
over, so the two values of `api --verify` are there; repeating the option adds values that are not
used. `session` runs one process after another,
in one world, each with an environment of its own.

A `Finding` is what comes of a command before anything is written : a verdict, a hash, or the
results of a generation. `Cli.discovers` : a command comes to the same finding or error in every
output format.

`main_ends` : a process succeeds and has written to standard output the lines its command is to
write, or it fails and has written one error to standard error and nothing else, or it panics, for
one of two reasons (`Commands.Panics`), and has written nothing to standard output; it takes at most
one answer of the random source for each token it is to print. `session_contract` : so the output of
a session is the output of its successful processes, one after the other, and no process keeps a
later one from running.
-/

namespace TokenGen

open EStateM (Advances)

/-! ## Commands -/

/-- The subcommands. -/
inductive Commands where
  | auth (args : AuthArgs)
  | api (args : ApiArgs)
  | csrf (args : CsrfArgs)

/-- A parsed command line. `--verify` of `api` has two values each time it is given. -/
structure Cli where
  command : Commands
  numArgs : ∀ {args values}, command = .api args → args.verify = some values → 2 ≤ values.length

/-- The exit codes. -/
inductive ExitCode where
  | success
  | failure
  deriving DecidableEq

/-- How a process ends : with an exit code and what it has written to standard error, or in a
panic, for which the exit code is 101. -/
inductive Exit where
  | code (exitCode : ExitCode) (stderr : String)
  | panic
  deriving DecidableEq

/-- The output format a command is asked for. -/
def Commands.output : Commands → OutputFormat
  | .auth args => args.output
  | .api args => args.output
  | .csrf args => args.output

/-- The command generates, and does not inspect. -/
def Commands.Generates : Commands → Prop
  | .auth args => args.checkExpiry = none
  | .api args => args.hash = none ∧ args.verify = none
  | .csrf args => args.verify = none

variable (lib : Crates)

/-- Run a subcommand. -/
def Commands.run (env : Option String) : Commands → EStateM (Abort String) World PUnit
  | .auth args => runAuth lib env args
  | .api args => runApi lib args
  | .csrf args => runCsrf lib env args

/-- `main`. -/
def main (env : Option String) (cli : Cli) (w : World) : Exit × World :=
  match (cli.command.run lib env).run w with
  | .ok () w' => (.code .success "", w')
  | .error (.error e) w' => (.code .failure ("Error: " ++ e ++ "\n"), w')
  | .error .panic w' => (.panic, w')

/-- One process after another. -/
def session : List (Option String × Cli) → World → List Exit × World
  | [], w => ([], w)
  | (env, cli) :: rest, w =>
    let result := main lib env cli w
    let later := session rest result.2
    (result.1 :: later.1, later.2)

/-! ## What a command writes -/

/-- What is printed of one finding : a JSON object with one field, or the field and its text. -/
def fieldLine (output : OutputFormat) (name : String) (json : Json) (text : String) : String :=
  match output with
  | .json => lib.toJson (.obj [(name, json)])
  | .plain => name ++ ": " ++ text

/-- Print one finding. -/
def outputField (output : OutputFormat) (name : String) (json : Json) (text : String) :
    EStateM (Abort String) World PUnit :=
  match output with
  | .json => outputJson lib (.obj [(name, json)])
  | .plain => outputPlainDict [(name, text)]

variable {lib} in
theorem outputField_run (output : OutputFormat) (name : String) (json : Json) (text : String)
    (w : World) : (outputField lib output name json text).run w = .ok () { w with
      stdout := w.stdout ++ Text.unlines [fieldLine lib output name json text] } := by
  cases output with
  | json => simp [outputField, outputJson, println_run, fieldLine, String.append_assoc]
  | plain => rw [outputField, outputPlainDict_eq, printLines_run, fieldLine, List.map_singleton]

/-- The lines a command reports its results in. -/
def reportLines {α : Type} (count : ℕ) (plain : α → List String) (json : α → Json)
    (output : OutputFormat) (results : List α) : List String :=
  match output with
  | .plain => results.flatMap plain
  | .json =>
    if count = 1 then results.map fun r => lib.toJson (json r)
    else [lib.toJson (.obj [("tokens", .arr (results.map json))])]

/-- The lines of a report of `count` results. -/
def ReportLines {α : Type} (count : ℕ) (plain : α → List String) (json : α → Json)
    (output : OutputFormat) (lines : List String) : Prop :=
  ∃ results, results.length = count ∧ lines = reportLines lib count plain json output results

section Generate

variable {lib} {α : Type} {length count : ℕ} {gen : EStateM (Abort String) World α}
  {plain : α → List String} {json : α → Json}
  {cmd : OutputFormat → EStateM (Abort String) World PUnit}

/-- Once all results are there, their lines are written. -/
theorem GeneratesAll.run_of_batch (h : GeneratesAll lib length count gen plain json cmd)
    {w w' : World} {results : List α} (hlen : results.length = count)
    (hbatch : EStateM.Batch gen w results w') (output : OutputFormat) :
    (cmd output).run w = .ok () { w' with
      stdout := w.stdout ++ Text.unlines (reportLines lib count plain json output results) } := by
  cases output with
  | plain => exact h.plain hlen hbatch
  | json =>
    by_cases hcount : count = 1
    · obtain ⟨r, rfl⟩ := List.length_eq_one_iff.mp (hlen.trans hcount)
      rw [h.single hcount hbatch]
      simp [reportLines, hcount]
    · rw [h.tokens hcount hlen hbatch]
      simp [reportLines, hcount]

/-- A command that reports all its results or none returns exactly with all of them. -/
theorem GeneratesAll.run_eq_ok_iff (h : GeneratesAll lib length count gen plain json cmd)
    {output : OutputFormat} {w w' : World} : (cmd output).run w = .ok () w' ↔
      ∃ results w₁, results.length = count ∧ EStateM.Batch gen w results w₁ ∧
        w' = { w₁ with stdout :=
          w.stdout ++ Text.unlines (reportLines lib count plain json output results) } := by
  refine ⟨fun hok => ?_, ?_⟩
  · rcases h.exhaustive w with ⟨results, w₁, hlen, hbatch⟩ | ⟨results, w₁, e, w₂, hlen, hbatch, he⟩
    · have hrun := (h.run_of_batch hlen hbatch output).symm.trans hok
      exact ⟨results, w₁, hlen, hbatch, (EStateM.Result.ok.inj hrun).2.symm⟩
    · obtain ⟨-, -, hcmd⟩ := h.fails hlen hbatch he
      cases (hcmd output).symm.trans hok
  · rintro ⟨results, w₁, hlen, hbatch, rfl⟩
    exact h.run_of_batch hlen hbatch output

end Generate

variable {lib}

theorem runAuth_eq_generate {env : Option String} {args : AuthArgs}
    (hargs : args.checkExpiry = none) : runAuth lib env args =
      (List.range args.count).mapM (fun _ => authResult lib env args) >>=
        report lib args.count (fun token => [token]) tokenJson args.output :=
  runAuth_generate hargs args.output

theorem runApi_eq_generate {args : ApiArgs} (hhash : args.hash = none)
    (hverify : args.verify = none) : runApi lib args =
      (List.range args.count).mapM (fun _ => apiResult lib args) >>=
        report lib args.count keyLines keyJson args.output :=
  runApi_generate hhash hverify args.output

theorem runCsrf_eq_generate {env : Option String} {args : CsrfArgs}
    (hverify : args.verify = none) : runCsrf lib env args =
      orAbort (getSecret env args.secret) >>= fun secret =>
        (List.range args.count).mapM (fun _ => csrfResult lib secret args) >>=
          report lib args.count (fun token => [token]) tokenJson args.output :=
  runCsrf_generate hverify args.output

/-- `auth --check-expiry` inspects a text and prints what it finds. -/
theorem runAuth_check {env : Option String} {args : AuthArgs} {s : String}
    (hargs : args.checkExpiry = some s) : runAuth lib env args =
      (if '.' ∈ s.toList then
        orAbort ((AuthToken.fromStr lib s).mapError
          fun e => "Failed to parse token: " ++ e.display) >>= fun token =>
          call fun now => orAbort (token.isExpired lib now)
      else pure false) >>= fun expired =>
        outputField lib args.output "expired" (.bool expired) (toString expired) := by
  unfold runAuth
  rw [hargs]
  by_cases hdot : '.' ∈ s.toList
  · simp only [hdot, if_true, bind_assoc]
    rfl
  · simp only [hdot, if_false, pure_bind]
    rfl

/-- `api --hash` prints the hash of a key. -/
theorem runApi_hash {args : ApiArgs} {s : String} (hargs : args.hash = some s) :
    runApi lib args = orAbort ((ApiKey.fromStr s).mapError TokenError.display) >>= fun key =>
      outputField lib args.output "hash" (.str (key.hashSha256 lib)) (key.hashSha256 lib) := by
  unfold runApi
  rw [hargs]
  rfl

/-- `api --verify` prints whether a key is that of a stored hash. -/
theorem runApi_verify {args : ApiArgs} {s storedHash : String} {rest : List String}
    (hhash : args.hash = none) (hargs : args.verify = some (s :: storedHash :: rest)) :
    runApi lib args = (orAbort ((ApiKey.fromStr s).mapError TokenError.display) >>= fun key =>
      orPanic (key.verify lib storedHash)) >>= fun valid =>
        outputField lib args.output "valid" (.bool valid) (toString valid) := by
  unfold runApi
  rw [hhash, hargs]
  simp only [bind_assoc]
  rfl

/-- `csrf --verify` asks for its secret and prints whether a token is valid. -/
theorem runCsrf_verify {env : Option String} {args : CsrfArgs} {s : String}
    (hargs : args.verify = some s) : runCsrf lib env args =
      (orAbort (getSecret env args.secret) >>= fun secret =>
        orAbort ((CsrfToken.fromStr lib s).mapError
          fun e => "Failed to parse token: " ++ e.display) >>= fun token =>
        call fun now => pure (token.verify lib now secret args.sessionId args.maxAge).isOk) >>=
        fun valid => outputField lib args.output "valid" (.bool valid) (toString valid) := by
  unfold runCsrf
  rw [hargs]
  simp only [bind_assoc]
  rfl

/-! ## Outcomes -/

/-- A part of a command that calls the library, whatever was written before : it returns a value
with `post` once it has taken `n` answers of the random source, or ends in an error after at most
as many, or in a panic where `P` holds. It writes nothing. -/
def Calls {α : Type} (P : Prop) (n : ℕ) (post : α → Prop) (m : EStateM (Abort String) World α) :
    Prop :=
  ∀ rng clock,
    (∃ a j, post a ∧ ∀ stdout,
      m.run ⟨rng, clock, stdout⟩ = .ok a ⟨SysRng.next^[n] rng, clock.drop j, stdout⟩) ∨
    ∃ e k j, k ≤ n ∧ (e = .panic → P) ∧ ∀ stdout, m.run ⟨rng, clock, stdout⟩ =
      .error e ⟨SysRng.next^[k] rng, clock.drop j, stdout⟩

namespace Calls

variable {α β : Type} {P Q : Prop} {n k : ℕ} {post : α → Prop} {post' : β → Prop}
  {m : EStateM (Abort String) World α}

theorem pure {a : α} (ha : post a) : Calls P 0 post (pure a : EStateM (Abort String) World α) :=
  fun _ _ => Or.inl ⟨a, 0, ha, fun _ => rfl⟩

theorem mono (hm : Calls P n post m) (h : P → Q) : Calls Q n post m :=
  fun rng clock => (hm rng clock).imp_right fun ⟨e, l, i, hl, hpanic, hrun⟩ =>
    ⟨e, l, i, hl, fun he => h (hpanic he), hrun⟩

theorem bind (hm : Calls P n post m) {f : α → EStateM (Abort String) World β}
    (hf : ∀ a, post a → Calls P k post' (f a)) : Calls P (n + k) post' (m >>= f) := by
  intro rng clock
  rcases hm rng clock with ⟨a, i, ha, hrun⟩ | ⟨e, l, i, hl, hpanic, hrun⟩
  · rcases hf a ha (SysRng.next^[n] rng) (clock.drop i) with
      ⟨b, j, hb, hrun₂⟩ | ⟨e, l, j, hl, hpanic, hrun₂⟩
    · refine Or.inl ⟨b, i + j, hb, fun stdout => ?_⟩
      rw [EStateM.run_bind, hrun]
      simp only [hrun₂, ← Function.iterate_add_apply, Stream'.drop_drop, Nat.add_comm]
    · refine Or.inr ⟨e, l + n, i + j, by omega, hpanic, fun stdout => ?_⟩
      rw [EStateM.run_bind, hrun]
      simp only [hrun₂, ← Function.iterate_add_apply, Stream'.drop_drop]
  · refine Or.inr ⟨e, l, i, by omega, hpanic, fun stdout => ?_⟩
    rw [EStateM.run_bind, hrun]

theorem orAbort_bind {γ : Type} {x : Except String γ} {f : γ → EStateM (Abort String) World α}
    (hf : ∀ a, x = .ok a → Calls P n post (f a)) : Calls P n post (orAbort x >>= f) := by
  cases x with
  | ok a => exact hf a rfl
  | error message =>
    exact fun _ _ => Or.inr ⟨.error message, 0, 0, n.zero_le, nofun, fun _ => rfl⟩

theorem orPanic {o : Option α} (ho : o = none → P) :
    Calls P 0 (fun _ => True) (orPanic o : EStateM (Abort String) World α) := by
  cases o with
  | some a => exact pure trivial
  | none => exact fun _ _ => Or.inr ⟨.panic, 0, 0, le_rfl, fun _ => ho rfl, fun _ => rfl⟩

/-- What is done with a value calls nothing. -/
theorem bind_pure (hm : Calls P n post m) (f : α → β) :
    Calls P n (fun _ => True) (m >>= fun a => Pure.pure (f a)) :=
  hm.bind (k := 0) fun _ _ => pure trivial

theorem call {f : SystemTime → EStateM (Abort TokenError) SysRng α}
    (hf : ∀ now, Advances id SysRng.next n (f now)) (hpanics : ∀ now, PanicsOnly P (f now)) :
    Calls P n (fun _ => True) (call f) := by
  intro rng clock
  cases hrun : (f clock.head).run rng with
  | ok a rng' =>
    obtain rfl : rng' = SysRng.next^[n] rng := (hf _).ok hrun
    refine Or.inl ⟨a, 1, trivial, fun stdout => ?_⟩
    simp only [TokenGen.call, EStateM.run] at hrun ⊢
    rw [hrun]
    rfl
  | error e rng' =>
    obtain ⟨k, hk, rfl : rng' = SysRng.next^[k] rng⟩ := (hf _).error hrun
    refine Or.inr ⟨e.map TokenError.display, k, 1, hk, fun he => ?_, fun stdout => ?_⟩
    · cases e with
      | error e => cases he
      | panic => exact hpanics _ _ _ hrun
    · simp only [TokenGen.call, EStateM.run] at hrun ⊢
      rw [hrun]
      rfl

/-- As many runs as the list is long give a list as long, and there is one to panic. -/
theorem mapM {γ : Type} (hm : Calls P n post m) (l : List γ) :
    Calls (0 < l.length ∧ P) (n * l.length) (fun as : List α => as.length = l.length)
      (l.mapM fun _ => m) := by
  induction l with
  | nil => exact pure rfl
  | cons x l ih =>
    have hpos : 0 < (x :: l).length := List.length_pos_of_mem List.mem_cons_self
    rw [List.mapM_cons, List.length_cons, Nat.mul_succ, Nat.add_comm (n * l.length)]
    exact (hm.mono fun hP => ⟨hpos, hP⟩).bind fun a _ =>
      (ih.mono fun hP => ⟨hpos, hP.2⟩).bind (k := 0) fun as has => pure (by simp [has])

end Calls

/-- The values of `api --verify` that are used. -/
theorem exists_two_values {values : List String} (h : 2 ≤ values.length) :
    ∃ s storedHash rest, values = s :: storedHash :: rest := by
  match values, h with
  | s :: storedHash :: rest, _ => exact ⟨s, storedHash, rest, rfl⟩

/-- As many results as were asked for are written in the lines of a report. -/
theorem report_run {α : Type} {count : ℕ} {results : List α} (hlen : results.length = count)
    (plain : α → List String) (json : α → Json) (output : OutputFormat) (w : World) :
    (report lib count plain json output results).run w = .ok () { w with
      stdout := w.stdout ++ Text.unlines (reportLines lib count plain json output results) } := by
  cases output with
  | plain => exact printLines_run _ w
  | json =>
    rw [report, reportLines]
    split_ifs with hcount
    · obtain ⟨r, rfl⟩ := List.length_eq_one_iff.mp (hlen.trans hcount)
      simp [indexFirst, outputJson, println_run, String.append_assoc]
    · simp [println_run, String.append_assoc]

theorem calls_authResult (env : Option String) (args : AuthArgs) :
    Calls (isizeMax < args.length) 1 (fun _ => True) (authResult lib env args) := by
  unfold authResult
  split
  · refine Calls.orAbort_bind fun secret _ => (Calls.call (fun now => ?_) fun now => ?_).bind_pure _
    · exact AuthTokenBuilder.generate_advances _ now
    · exact AuthTokenBuilder.generate_panicsOnly _ now
  · exact (Calls.call (fun _ => (generateBytes_advances _).bind_pure _)
      fun _ => AuthToken.generate_panicsOnly _ _).bind_pure _

theorem calls_apiResult (args : ApiArgs) :
    Calls (isizeMax < args.length) 1 (fun _ => True) (apiResult lib args) := by
  refine (Calls.call (fun _ => ?_) fun _ => ?_).bind_pure _
  · -- Without an algorithm of its own the builder hashes with SHA-256, which takes no salt.
    exact (((ApiKeyBuilder.default.withKeyType args.keyType.toApiKeyType).withEnvironment
      args.env.toEnvironment).withLength args.length).generateWithHash_advances
  · exact ApiKeyBuilder.generateWithHash_panicsOnly _ rfl

theorem calls_csrfResult (secret : SecretKey) (args : CsrfArgs) :
    Calls (isizeMax < args.length) 1 (fun _ => True) (csrfResult lib secret args) := by
  refine (Calls.call (fun now => ?_) fun now => ?_).bind_pure _
  · exact CsrfTokenBuilder.generate_advances _ now
  · exact CsrfTokenBuilder.generate_panicsOnly _ now

/-- Whether a text is expired, which one without a dot never is. -/
theorem calls_expired {P : Prop} (s : String) : Calls P 0 (fun _ => True) (if '.' ∈ s.toList then
    orAbort ((AuthToken.fromStr lib s).mapError
      fun e => "Failed to parse token: " ++ e.display) >>= fun token =>
      call fun now => orAbort (token.isExpired lib now)
    else pure false) := by
  split_ifs
  · exact Calls.orAbort_bind fun token _ =>
      Calls.call (fun now => .orAbort _) fun now => .orAbort _
  · exact Calls.pure trivial

theorem calls_parsedKey {P : Prop} (s : String) :
    Calls P 0 (fun _ => True) (orAbort ((ApiKey.fromStr s).mapError TokenError.display)) := by
  rw [← bind_pure (orAbort _)]
  exact Calls.orAbort_bind fun key _ => Calls.pure trivial

/-- Whether a text is a key of a stored hash, unless it says something scrypt panics on. -/
theorem calls_matches (s storedHash : String) :
    Calls (∃ key, ApiKey.fromStr s = .ok key ∧ key.verify lib storedHash = none) 0
      (fun _ => True) (orAbort ((ApiKey.fromStr s).mapError TokenError.display) >>= fun key =>
        orPanic (key.verify lib storedHash)) :=
  Calls.orAbort_bind fun key hkey => Calls.orPanic fun hnone =>
    ⟨key, Except.mapError_eq_ok_iff.mp hkey, hnone⟩

/-- Whether a text is a valid token, once there is a secret. -/
theorem calls_valid {P : Prop} (env : Option String) (args : CsrfArgs) (s : String) :
    Calls P 0 (fun _ => True) (orAbort (getSecret env args.secret) >>= fun secret =>
      orAbort ((CsrfToken.fromStr lib s).mapError
        fun e => "Failed to parse token: " ++ e.display) >>= fun token =>
      call fun now => pure (token.verify lib now secret args.sessionId args.maxAge).isOk) :=
  Calls.orAbort_bind fun _ _ => Calls.orAbort_bind fun _ _ =>
    Calls.call (fun _ => .pure _) fun _ => .pure _

variable (lib) in
/-- The lines a command writes : one finding where it inspects, and where it generates the
results, as many as it was asked for. -/
def Commands.Writes : Commands → List String → Prop
  | .auth args =>
    match args.checkExpiry with
    | some _ => fun lines => ∃ expired : Bool,
      lines = [fieldLine lib args.output "expired" (.bool expired) (toString expired)]
    | none => ReportLines lib args.count (fun token => [token]) tokenJson args.output
  | .api args =>
    match args.hash, args.verify with
    | some _, _ => fun lines => ∃ hash : String,
      lines = [fieldLine lib args.output "hash" (.str hash) hash]
    | none, some _ => fun lines => ∃ valid : Bool,
      lines = [fieldLine lib args.output "valid" (.bool valid) (toString valid)]
    | none, none => ReportLines lib args.count keyLines keyJson args.output
  | .csrf args =>
    match args.verify with
    | some _ => fun lines => ∃ valid : Bool,
      lines = [fieldLine lib args.output "valid" (.bool valid) (toString valid)]
    | none => ReportLines lib args.count (fun token => [token]) tokenJson args.output

/-- The number of answers of the random source a command takes : one for each token it prints. -/
def Commands.draws : Commands → ℕ
  | .auth args =>
    match args.checkExpiry with
    | some _ => 0
    | none => args.count
  | .api args =>
    match args.hash, args.verify with
    | some _, _ => 0
    | none, some _ => 0
    | none, none => args.count
  | .csrf args =>
    match args.verify with
    | some _ => 0
    | none => args.count

/-! ## Findings -/

variable (lib) in
/-- Why a command can panic : it is to generate tokens of a length that no buffer has, or to verify
a key against a stored hash that says something scrypt panics on. -/
def Commands.Panics : Commands → Prop
  | .auth args => args.checkExpiry = none ∧ 0 < args.count ∧ isizeMax < args.length
  | .api args =>
    match args.hash, args.verify with
    | some _, _ => False
    | none, some values => ∃ s storedHash rest, values = s :: storedHash :: rest ∧
      ∃ key, ApiKey.fromStr s = .ok key ∧ key.verify lib storedHash = none
    | none, none => 0 < args.count ∧ isizeMax < args.length
  | .csrf args => args.verify = none ∧ 0 < args.count ∧ isizeMax < args.length

/-- What comes of a command. -/
inductive Finding where
  | expired (b : Bool)
  | hash (s : String)
  | valid (b : Bool)
  | tokens (results : List String)
  | keys (results : List (String × String))

variable (lib) in
/-- The lines a finding is written in. -/
def Finding.lines (output : OutputFormat) : Finding → List String
  | .expired b => [fieldLine lib output "expired" (.bool b) (toString b)]
  | .hash s => [fieldLine lib output "hash" (.str s) s]
  | .valid b => [fieldLine lib output "valid" (.bool b) (toString b)]
  | .tokens results =>
    reportLines lib results.length (fun token => [token]) tokenJson output results
  | .keys results => reportLines lib results.length keyLines keyJson output results

/-- What a command can find : what it was asked to inspect, or as many results as it was asked
for. -/
def Commands.Finds : Commands → Finding → Prop
  | .auth args =>
    match args.checkExpiry with
    | some _ => fun finding => ∃ b, finding = .expired b
    | none => fun finding => ∃ results, finding = .tokens results ∧ results.length = args.count
  | .api args =>
    match args.hash, args.verify with
    | some _, _ => fun finding => ∃ s, finding = .hash s
    | none, some _ => fun finding => ∃ b, finding = .valid b
    | none, none => fun finding => ∃ results, finding = .keys results ∧ results.length = args.count
  | .csrf args =>
    match args.verify with
    | some _ => fun finding => ∃ b, finding = .valid b
    | none => fun finding => ∃ results, finding = .tokens results ∧ results.length = args.count

/-- What a command finds, in its own format, is what it is to write. -/
theorem Commands.Finds.writes {command : Commands} {finding : Finding}
    (h : command.Finds finding) : command.Writes lib (finding.lines lib command.output) := by
  cases command with
  | auth args =>
    obtain ⟨_, count, output, _, _, checkExpiry, _⟩ := args
    cases checkExpiry with
    | some s =>
      obtain ⟨expired, rfl⟩ := h
      exact ⟨expired, rfl⟩
    | none =>
      obtain ⟨results, rfl, rfl⟩ := h
      exact ⟨results, rfl, rfl⟩
  | api args =>
    obtain ⟨_, count, output, _, _, hash, verify⟩ := args
    cases hash with
    | some s =>
      obtain ⟨hash, rfl⟩ := h
      exact ⟨hash, rfl⟩
    | none =>
      cases verify with
      | some values =>
        obtain ⟨valid, rfl⟩ := h
        exact ⟨valid, rfl⟩
      | none =>
        obtain ⟨results, rfl, rfl⟩ := h
        exact ⟨results, rfl, rfl⟩
  | csrf args =>
    obtain ⟨_, count, output, _, _, verify, _, _⟩ := args
    cases verify with
    | some s =>
      obtain ⟨valid, rfl⟩ := h
      exact ⟨valid, rfl⟩
    | none =>
      obtain ⟨results, rfl, rfl⟩ := h
      exact ⟨results, rfl, rfl⟩

/-- The same command with another output format. -/
def Commands.withOutput (output : OutputFormat) : Commands → Commands
  | .auth args => .auth { args with output := output }
  | .api args => .api { args with output := output }
  | .csrf args => .csrf { args with output := output }

@[simp] theorem Commands.withOutput_output (command : Commands) :
    command.withOutput command.output = command := by
  cases command <;> rfl

variable (lib) in
/-- A command in every format, whatever was written before : once it has taken `n` answers of the
random source, it returns and writes the lines of one finding, or it ends in one error after at
most as many, or in a panic where `P` holds. The format decides the lines only. -/
def Discovers (P : Prop) (n : ℕ) (finds : Finding → Prop)
    (cmd : OutputFormat → EStateM (Abort String) World PUnit) : Prop :=
  ∀ rng clock,
    (∃ finding j, finds finding ∧ ∀ output stdout, (cmd output).run ⟨rng, clock, stdout⟩ =
      .ok () ⟨SysRng.next^[n] rng, clock.drop j,
        stdout ++ Text.unlines (finding.lines lib output)⟩) ∨
    ∃ e k j, k ≤ n ∧ (e = .panic → P) ∧ ∀ output stdout,
      (cmd output).run ⟨rng, clock, stdout⟩ =
        .error e ⟨SysRng.next^[k] rng, clock.drop j, stdout⟩

namespace Calls

variable {α : Type} {P : Prop} {n : ℕ} {post : α → Prop} {m : EStateM (Abort String) World α}
  {finds : Finding → Prop}

/-- A command that calls the library and writes what comes of it. -/
theorem discovers (hm : Calls P n post m) (finding : α → Finding)
    (hfinds : ∀ a, post a → finds (finding a))
    {f : OutputFormat → α → EStateM (Abort String) World PUnit}
    (hf : ∀ output a, post a → ∀ w, (f output a).run w = .ok () { w with
      stdout := w.stdout ++ Text.unlines ((finding a).lines lib output) }) :
    Discovers lib P n finds (fun output => m >>= f output) := by
  intro rng clock
  rcases hm rng clock with ⟨a, j, ha, hrun⟩ | ⟨e, k, j, hk, hpanic, hrun⟩
  · refine Or.inl ⟨finding a, j, hfinds a ha, fun output stdout => ?_⟩
    rw [EStateM.run_bind, hrun]
    simp only [hf output a ha]
  · refine Or.inr ⟨e, k, j, hk, hpanic, fun output stdout => ?_⟩
    rw [EStateM.run_bind, hrun]

/-- A batch of `count` runs, each of which takes one answer, and its report. -/
theorem discovers_report {count : ℕ} (hm : Calls P 1 post m) (finding : List α → Finding)
    {plain : α → List String} {json : α → Json}
    (hlines : ∀ output results, (finding results).lines lib output =
      reportLines lib results.length plain json output results)
    (hfinds : ∀ results, results.length = count → finds (finding results)) :
    Discovers lib (0 < count ∧ P) count finds (fun output =>
      (List.range count).mapM (fun _ => m) >>= report lib count plain json output) := by
  have hbatch := hm.mapM (List.range count)
  rw [List.length_range, Nat.one_mul] at hbatch
  refine hbatch.discovers finding hfinds fun output results hlen w => ?_
  rw [report_run hlen, hlines, hlen]

end Calls

theorem runAuth_discovers (env : Option String) (args : AuthArgs) :
    Discovers lib ((Commands.auth args).Panics lib) (Commands.auth args).draws
      (Commands.auth args).Finds
      (fun output => runAuth lib env { args with output := output }) := by
  rcases Option.eq_none_or_eq_some args.checkExpiry with hcheck | ⟨s, hcheck⟩
  · rw [funext (runAuth_generate hcheck)]
    simp only [Commands.Panics, Commands.draws, Commands.Finds, hcheck, true_and]
    exact (calls_authResult env args).discovers_report .tokens (fun _ _ => rfl)
      fun results hlen => ⟨results, rfl, hlen⟩
  · rw [funext fun output => @runAuth_check lib env { args with output := output } s hcheck]
    simp only [Commands.Panics, Commands.draws, Commands.Finds, hcheck]
    exact (calls_expired s).discovers .expired (fun expired _ => ⟨expired, rfl⟩)
      fun output expired _ w => outputField_run output _ _ _ w

theorem runApi_discovers {args : ApiArgs}
    (hargs : ∀ {values}, args.verify = some values → 2 ≤ values.length) :
    Discovers lib ((Commands.api args).Panics lib) (Commands.api args).draws
      (Commands.api args).Finds (fun output => runApi lib { args with output := output }) := by
  rcases Option.eq_none_or_eq_some args.hash with hhash | ⟨s, hhash⟩
  · rcases Option.eq_none_or_eq_some args.verify with hverify | ⟨values, hverify⟩
    · rw [funext (runApi_generate hhash hverify)]
      simp only [Commands.Panics, Commands.draws, Commands.Finds, hhash, hverify]
      exact (calls_apiResult args).discovers_report .keys (fun _ _ => rfl)
        fun results hlen => ⟨results, rfl, hlen⟩
    · obtain ⟨s, storedHash, rest, rfl⟩ := exists_two_values (hargs hverify)
      rw [funext fun output =>
        @runApi_verify lib { args with output := output } s storedHash rest hhash hverify]
      simp only [Commands.Panics, Commands.draws, Commands.Finds, hhash, hverify]
      exact ((calls_matches s storedHash).mono fun h => ⟨s, storedHash, rest, rfl, h⟩).discovers
        .valid (fun valid _ => ⟨valid, rfl⟩) fun output valid _ w => outputField_run output _ _ _ w
  · rw [funext fun output => @runApi_hash lib { args with output := output } s hhash]
    simp only [Commands.Panics, Commands.draws, Commands.Finds, hhash]
    exact (calls_parsedKey s).discovers (fun key => .hash (key.hashSha256 lib))
      (fun key _ => ⟨_, rfl⟩) fun output key _ w => outputField_run output _ _ _ w

theorem runCsrf_discovers (env : Option String) (args : CsrfArgs) :
    Discovers lib ((Commands.csrf args).Panics lib) (Commands.csrf args).draws
      (Commands.csrf args).Finds
      (fun output => runCsrf lib env { args with output := output }) := by
  rcases Option.eq_none_or_eq_some args.verify with hverify | ⟨s, hverify⟩
  · rw [funext (runCsrf_generate hverify)]
    simp only [Commands.Panics, Commands.draws, Commands.Finds, hverify, true_and]
    cases getSecret env args.secret with
    | ok secret =>
      exact (calls_csrfResult secret args).discovers_report .tokens (fun _ _ => rfl)
        fun results hlen => ⟨results, rfl, hlen⟩
    | error message =>
      exact fun _ _ => Or.inr ⟨.error message, 0, 0, args.count.zero_le, nofun, fun _ _ => rfl⟩
  · rw [funext fun output => @runCsrf_verify lib env { args with output := output } s hverify]
    simp only [Commands.Panics, Commands.draws, Commands.Finds, hverify]
    exact (calls_valid env args s).discovers .valid (fun valid _ => ⟨valid, rfl⟩)
      fun output valid _ w => outputField_run output _ _ _ w

variable (lib) in
/-- In every format a command comes to the same finding, error or panic. -/
theorem Cli.discovers (env : Option String) (cli : Cli) :
    Discovers lib (cli.command.Panics lib) cli.command.draws cli.command.Finds
      (fun output => (cli.command.withOutput output).run lib env) := by
  obtain ⟨command, hargs⟩ := cli
  cases command with
  | auth args => exact runAuth_discovers env args
  | api args => exact runApi_discovers (hargs rfl)
  | csrf args => exact runCsrf_discovers env args

variable (lib) in
/-- In its own format a command writes the lines of one finding, or it ends in an error or a
panic. -/
theorem Cli.run_cases (env : Option String) (cli : Cli) (rng : SysRng)
    (clock : Stream' SystemTime) :
    (∃ finding j, cli.command.Finds finding ∧ ∀ stdout,
      (cli.command.run lib env).run ⟨rng, clock, stdout⟩ =
        .ok () ⟨SysRng.next^[cli.command.draws] rng, clock.drop j,
          stdout ++ Text.unlines (finding.lines lib cli.command.output)⟩) ∨
    ∃ e k j, k ≤ cli.command.draws ∧ (e = .panic → cli.command.Panics lib) ∧ ∀ stdout,
      (cli.command.run lib env).run ⟨rng, clock, stdout⟩ =
        .error e ⟨SysRng.next^[k] rng, clock.drop j, stdout⟩ := by
  rcases cli.discovers lib env rng clock with
    ⟨finding, j, hfinds, hrun⟩ | ⟨e, k, j, hk, hpanic, hrun⟩
  · refine Or.inl ⟨finding, j, hfinds, fun stdout => ?_⟩
    simpa only [Commands.withOutput_output] using hrun cli.command.output stdout
  · refine Or.inr ⟨e, k, j, hk, hpanic, fun stdout => ?_⟩
    simpa only [Commands.withOutput_output] using hrun cli.command.output stdout

/-! ## Processes and sessions -/

/-- How a process ends that has written `lines` to standard output : well, and these are what its
command writes, or with an error on standard error, or in a panic its command can end in, and no
lines. -/
inductive Commands.Ends (lib : Crates) (command : Commands) : Exit → List String → Prop
  | success {lines : List String} (h : command.Writes lib lines) :
    Ends lib command (.code .success "") lines
  | failure (message : String) :
    Ends lib command (.code .failure ("Error: " ++ message ++ "\n")) []
  | panic (h : command.Panics lib) : Ends lib command .panic []

variable (lib)

variable {lib} in
/-- A process ends well exactly if its command returns. -/
theorem main_eq_success_iff {env : Option String} {cli : Cli} {w w' : World} :
    main lib env cli w = (.code .success "", w') ↔ (cli.command.run lib env).run w = .ok () w' := by
  unfold main
  split
  · rename_i w'' hrun
    simp [hrun]
  · rename_i e w'' hrun
    simp [hrun]
  · rename_i w'' hrun
    simp [hrun]

variable {lib} in
/-- A process whose command ends in an error or a panic. -/
theorem main_of_error {env : Option String} {cli : Cli} {w w' : World} {e : Abort String}
    (h : (cli.command.run lib env).run w = .error e w') :
    ∃ exit, cli.command.Ends lib exit [] ∧ exit ≠ .code .success "" ∧
      main lib env cli w = (exit, w') := by
  cases e with
  | error message => exact ⟨_, .failure message, by simp, by rw [main, h]⟩
  | panic =>
    refine ⟨.panic, .panic ?_, nofun, by rw [main, h]⟩
    rcases cli.run_cases lib env w.rng w.clock with ⟨_, j, -, hrun⟩ | ⟨e, k, j, -, hpanic, hrun⟩
    · cases (hrun w.stdout).symm.trans h
    · exact hpanic (EStateM.Result.error.inj ((hrun w.stdout).symm.trans h)).1

/-- One process. -/
theorem main_ends (env : Option String) (cli : Cli) (rng : SysRng)
    (clock : Stream' SystemTime) :
    ∃ exit lines k j, cli.command.Ends lib exit lines ∧ k ≤ cli.command.draws ∧
      (exit = .code .success "" → k = cli.command.draws) ∧
      ∀ stdout, main lib env cli ⟨rng, clock, stdout⟩ =
        (exit, ⟨SysRng.next^[k] rng, clock.drop j, stdout ++ Text.unlines lines⟩) := by
  rcases cli.run_cases lib env rng clock with
    ⟨finding, j, hfinds, hrun⟩ | ⟨e, k, j, hk, hpanic, hrun⟩
  · refine ⟨_, _, _, j, .success hfinds.writes, le_rfl, fun _ => rfl, fun stdout => ?_⟩
    rw [main, hrun]
  · cases e with
    | error message =>
      refine ⟨_, [], k, j, .failure message, hk, fun h => by simp at h, fun stdout => ?_⟩
      rw [main, hrun, Text.unlines_nil, String.append_empty]
    | panic =>
      refine ⟨_, [], k, j, .panic (hpanic rfl), hk, nofun, fun stdout => ?_⟩
      rw [main, hrun, Text.unlines_nil, String.append_empty]

/-- In any script, every process ends well or with one error, or it panics for a reason of its
command's, and none keeps a later one from running. The output is what it was, then the findings
and results of the processes that ended well, in order and unchanged by what was there before. Each
process takes at most one answer of the random source for each token it is to print, and exactly
that many if it ends well. -/
theorem session_contract (script : List (Option String × Cli)) (rng : SysRng)
    (clock : Stream' SystemTime) :
    ∃ (outcomes : List (Exit × List String)) (k j : ℕ),
      List.Forall₂ (fun process outcome => process.2.command.Ends lib outcome.1 outcome.2)
        script outcomes ∧
      k ≤ (script.map fun process => process.2.command.draws).sum ∧
      ((∀ outcome ∈ outcomes, outcome.1 = .code .success "") →
        k = (script.map fun process => process.2.command.draws).sum) ∧
      ∀ stdout, session lib script ⟨rng, clock, stdout⟩ = (outcomes.map Prod.fst,
        ⟨SysRng.next^[k] rng, clock.drop j,
          stdout ++ Text.unlines (outcomes.flatMap Prod.snd)⟩) := by
  induction script generalizing rng clock with
  | nil => exact ⟨[], 0, 0, .nil, le_rfl, fun _ => rfl, fun stdout => by simp [session]⟩
  | cons process script ih =>
    obtain ⟨env, cli⟩ := process
    obtain ⟨exit, lines, k, j, hends, hk, hexact, hmain⟩ := main_ends lib env cli rng clock
    obtain ⟨outcomes, k', j', hlater, hk', hexactLater, hsession⟩ :=
      ih (SysRng.next^[k] rng) (clock.drop j)
    refine ⟨(exit, lines) :: outcomes, k' + k, j + j', .cons hends hlater, ?_, fun hall => ?_,
      fun stdout => ?_⟩
    · rw [List.map_cons, List.sum_cons, Nat.add_comm]
      exact Nat.add_le_add hk hk'
    · obtain ⟨hhead, htail⟩ := List.forall_mem_cons.mp hall
      rw [List.map_cons, List.sum_cons, hexact hhead, hexactLater htail, Nat.add_comm]
    · simp only [session, hmain, hsession, List.map_cons, List.flatMap_cons, Text.unlines_append,
        String.append_assoc, ← Function.iterate_add_apply, Stream'.drop_drop]

theorem sessionS_ne_empty : "s" ≠ "" := by
  decide

/-- One token for the session `s`, or the verification of one, for closed examples. -/
def Cli.inSessionS (verify : Option String) : Cli :=
  ⟨.csrf { sessionId := "s", verify := verify, sessionId_ne_empty := sessionS_ne_empty }, nofun⟩

/-- One API key. -/
def Cli.oneKey : Cli :=
  ⟨.api {}, fun h hverify => by cases h; cases hverify⟩

end TokenGen
