import TokenGen.Process

/-!
# One process or several

A process that is asked for `count` results runs one generation `count` times. Several processes
that are asked for the same results between them do it in turns, each with what the one before it
left of the random source and the clock.

`repetition` : in plain mode it comes to the same, if all succeed. If a generation fails, one
process writes nothing, and several processes write what those before the failing one generated.
-/

namespace TokenGen

open EStateM (Batch)

/-! ## Batches and standard output -/

section Batch

variable {α : Type} {P : Prop} {n : ℕ} {post : α → Prop} {gen : EStateM (Abort String) World α}

/-- What was written before makes no difference to a part that calls the library. -/
theorem Calls.run_stdout (hgen : Calls P n post gen) {w w' : World} {a : α}
    (h : gen.run w = .ok a w') (stdout : String) : w'.stdout = w.stdout ∧
      gen.run { w with stdout := stdout } = .ok a { w' with stdout := stdout } := by
  rcases hgen w.rng w.clock with ⟨b, j, -, hrun⟩ | ⟨e, k, j, -, -, hrun⟩
  · obtain ⟨rfl, rfl⟩ := EStateM.Result.ok.inj (h.symm.trans (hrun w.stdout))
    exact ⟨rfl, hrun stdout⟩
  · cases h.symm.trans (hrun w.stdout)

theorem Calls.batch_stdout (hgen : Calls P n post gen) {w w' : World} {results : List α}
    (h : Batch gen w results w') (stdout : String) : w'.stdout = w.stdout ∧
      Batch gen { w with stdout := stdout } results { w' with stdout := stdout } := by
  induction h with
  | nil w => exact ⟨rfl, .nil _⟩
  | cons head tail ih =>
    obtain ⟨hstdout, hrun⟩ := hgen.run_stdout head stdout
    exact ⟨ih.1.trans hstdout, .cons hrun ih.2⟩

/-- A command that runs `gen` as often as it is asked to, and then writes lines for each result. -/
structure Repeats (gen : EStateM (Abort String) World α) (plain : α → List String)
    (cmd : ℕ → EStateM (Abort String) World PUnit) : Prop where
  run_eq_ok_iff : ∀ {count w w'}, (cmd count).run w = .ok () w' ↔
    ∃ results w₁, results.length = count ∧ Batch gen w results w₁ ∧
      w' = { w₁ with stdout := w.stdout ++ Text.unlines (results.flatMap plain) }

variable {plain : α → List String} {cmd : ℕ → EStateM (Abort String) World PUnit}

/-- Asked for `k + l` results, such a command does what it does asked for `k` of them and then for
`l` of them. -/
theorem Repeats.run_add (hcmd : Repeats gen plain cmd) (hgen : Calls P n post gen) {k l : ℕ}
    {w w' : World} : (cmd (k + l)).run w = .ok () w' ↔
      ∃ w₁, (cmd k).run w = .ok () w₁ ∧ (cmd l).run w₁ = .ok () w' := by
  refine ⟨fun h => ?_, ?_⟩
  · obtain ⟨results, w₂, hlen, hbatch, rfl⟩ := hcmd.run_eq_ok_iff.mp h
    rw [← List.take_append_drop k results, EStateM.batch_append_iff] at hbatch
    obtain ⟨w₁, hfirst, hthen⟩ := hbatch
    let first := w.stdout ++ Text.unlines ((results.take k).flatMap plain)
    refine ⟨{ w₁ with stdout := first },
      hcmd.run_eq_ok_iff.mpr ⟨results.take k, w₁, by simp; omega, hfirst, rfl⟩,
      hcmd.run_eq_ok_iff.mpr ⟨results.drop k, { w₂ with stdout := first }, by simp; omega,
        (hgen.batch_stdout hthen first).2, ?_⟩⟩
    simp only [first, String.append_assoc, ← Text.unlines_append, ← List.flatMap_append,
      List.take_append_drop]
  · rintro ⟨_, hfirst, hthen⟩
    obtain ⟨results, w₁, hlen, hbatch, rfl⟩ := hcmd.run_eq_ok_iff.mp hfirst
    obtain ⟨results', w₂, hlen', hbatch', rfl⟩ := hcmd.run_eq_ok_iff.mp hthen
    have hbatch₂ := (hgen.batch_stdout hbatch' w₁.stdout).2
    refine hcmd.run_eq_ok_iff.mpr ⟨results ++ results', { w₂ with stdout := w₁.stdout },
      by simp [hlen, hlen'], EStateM.batch_append_iff.mpr ⟨w₁, hbatch, hbatch₂⟩, ?_⟩
    simp only [List.flatMap_append, Text.unlines_append, String.append_assoc]

end Batch

/-! ## Commands asked for other numbers of results -/

/-- The same command, asked for `count` results. -/
def Commands.withCount (count : ℕ) : Commands → Commands
  | .auth args => .auth { args with count := count }
  | .api args => .api { args with count := count }
  | .csrf args => .csrf { args with count := count }

/-- The same command line, asked for `count` results. -/
def Cli.withCount (count : ℕ) (cli : Cli) : Cli where
  command := cli.command.withCount count
  numArgs {args values} h hverify := by
    cases hcommand : cli.command with
    | auth args' => simp [hcommand, Commands.withCount] at h
    | csrf args' => simp [hcommand, Commands.withCount] at h
    | api args' =>
      simp only [hcommand, Commands.withCount, Commands.api.injEq] at h
      subst h
      exact cli.numArgs hcommand hverify

variable {lib : Crates}

theorem runAuth_repeats {args : AuthArgs} (hcheck : args.checkExpiry = none)
    (hplain : args.output = .plain) (env : Option String) :
    Repeats (authResult lib env args) (fun token => [token])
      (fun count => runAuth lib env { args with count := count }) := by
  obtain ⟨length, _, output, format, expiresIn, checkExpiry, secret⟩ := args
  obtain rfl : output = .plain := hplain
  exact ⟨fun {count _ _} => (@runAuth_generates lib env
    ⟨length, count, .plain, format, expiresIn, checkExpiry, secret⟩ hcheck).run_eq_ok_iff⟩

theorem runApi_repeats {args : ApiArgs} (hhash : args.hash = none) (hverify : args.verify = none)
    (hplain : args.output = .plain) : Repeats (apiResult lib args) keyLines
      (fun count => runApi lib { args with count := count }) := by
  obtain ⟨length, _, output, env, keyType, hash, verify⟩ := args
  obtain rfl : output = .plain := hplain
  exact ⟨fun {count _ _} => (@runApi_generates lib
    ⟨length, count, .plain, env, keyType, hash, verify⟩ hhash hverify).run_eq_ok_iff⟩

theorem runCsrf_repeats {args : CsrfArgs} (hverify : args.verify = none)
    (hplain : args.output = .plain) {env : Option String} {key : SecretKey}
    (hkey : getSecret env args.secret = .ok key) :
    Repeats (csrfResult lib key args) (fun token => [token])
      (fun count => runCsrf lib env { args with count := count }) := by
  obtain ⟨length, _, output, secret, sessionId, verify, maxAge, hsession⟩ := args
  obtain rfl : output = .plain := hplain
  exact ⟨fun {count _ _} => (@runCsrf_generates lib env
    ⟨length, count, .plain, secret, sessionId, verify, maxAge, hsession⟩ key hverify
    hkey).run_eq_ok_iff⟩

theorem Commands.run_withCount_add {command : Commands} (hgenerates : command.Generates)
    (hplain : command.output = .plain) (env : Option String) {k l : ℕ} {w w' : World} :
    ((command.withCount (k + l)).run lib env).run w = .ok () w' ↔
      ∃ w₁, ((command.withCount k).run lib env).run w = .ok () w₁ ∧
        ((command.withCount l).run lib env).run w₁ = .ok () w' := by
  cases command with
  | auth args => exact (runAuth_repeats hgenerates hplain env).run_add (calls_authResult env args)
  | api args =>
    exact (runApi_repeats hgenerates.1 hgenerates.2 hplain).run_add (calls_apiResult args)
  | csrf args =>
    cases hkey : getSecret env args.secret with
    | ok key => exact (runCsrf_repeats hgenerates hplain hkey).run_add (calls_csrfResult key args)
    | error message =>
      have hfails : ∀ count w, ((Commands.csrf args).withCount count |>.run lib env).run w =
          .error (.error message) w :=
        fun count => @runCsrf_without_secret lib { args with count := count } hgenerates env
          message hkey
      simp [hfails]

/-! ## Processes -/

/-- A session goes well exactly if its first process does, and the others do after it. -/
theorem session_cons_iff {process : Option String × Cli} {script : List (Option String × Cli)}
    {exits : List Exit} {exit : Exit} {w w' : World} :
    session lib (process :: script) w = (exit :: exits, w') ↔
      ∃ w₁, main lib process.1 process.2 w = (exit, w₁) ∧ session lib script w₁ = (exits, w') := by
  obtain ⟨env, cli⟩ := process
  simp only [session, Prod.mk.injEq, List.cons.injEq]
  refine ⟨?_, ?_⟩
  · rintro ⟨⟨rfl, rfl⟩, rfl⟩
    exact ⟨_, rfl, rfl⟩
  · rintro ⟨w₁, hmain, hsession⟩
    rw [hmain, hsession]
    exact ⟨⟨rfl, rfl⟩, rfl⟩

variable (lib)

/-- In plain mode, one process that is asked for as many results as several processes between
them ends well exactly if these all do, and then it leaves the same output, the same random source
and the same clock behind. -/
theorem repetition {cli : Cli} (hgenerates : cli.command.Generates)
    (hplain : cli.command.output = .plain) (env : Option String) (count : ℕ) (counts : List ℕ)
    (w w' : World) :
    main lib env (cli.withCount (count :: counts).sum) w = (.code .success "", w') ↔
      session lib ((count :: counts).map fun count => (env, cli.withCount count)) w =
        ((count :: counts).map fun _ => .code .success "", w') := by
  induction counts generalizing count w with
  | nil =>
    simp only [List.map_cons, List.map_nil, session_cons_iff]
    simp [session, Prod.ext_iff]
  | cons count' counts ih =>
    rw [List.map_cons (l := count' :: counts), List.map_cons (l := count' :: counts),
      session_cons_iff]
    simp only [← ih, main_eq_success_iff]
    exact Commands.run_withCount_add hgenerates hplain env

/-- Three tokens, and one token and two tokens. -/
theorem repetition_standard : ∃ w' : World,
    session Crates.standard ([1, 2].map fun count =>
      (some "0123456789abcdef", (Cli.inSessionS none).withCount count)) World.atEpoch =
        ([.code .success "", .code .success ""], w') := by
  have hmain : main Crates.standard (some "0123456789abcdef")
    ((Cli.inSessionS none).withCount [1, 2].sum) World.atEpoch = (.code .success "", _) := rfl
  have hgenerates : (Cli.inSessionS none).command.Generates := rfl
  exact ⟨_, (repetition Crates.standard hgenerates rfl _ 1 [2] _ _).mp hmain⟩

end TokenGen
