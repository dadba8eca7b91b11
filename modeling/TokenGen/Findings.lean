import TokenGen.Session

/-!
# What a process finds, and how it writes it

`--output` decides the lines a finding is written in and nothing else. `main_finishes` : in every
format a process takes the same answers and clock readings and comes to the same finding, or fails
with the same error, or panics. `output_format_immaterial` : so it is for sessions whose processes
are given other formats, and where all formats are JSON, the lines of the output are the JSON texts
of the findings.
-/

namespace TokenGen

/-! ## Findings in JSON -/

/-- The object of the only result, or an array of the objects of all results. -/
def resultsJson {α : Type} (json : α → Json) : List α → Json
  | [r] => json r
  | results => .obj [("tokens", .arr (results.map json))]

/-- A finding as a JSON value. -/
def Finding.json : Finding → Json
  | .expired b => .obj [("expired", .bool b)]
  | .hash s => .obj [("hash", .str s)]
  | .valid b => .obj [("valid", .bool b)]
  | .tokens results => resultsJson tokenJson results
  | .keys results => resultsJson keyJson results

variable {lib : Crates}

theorem reportLines_json {α : Type} (plain : α → List String) (json : α → Json)
    (results : List α) :
    reportLines lib results.length plain json .json results =
      [lib.toJson (resultsJson json results)] := by
  match results with
  | [] => rfl
  | [r] => rfl
  | r :: r' :: results => simp [reportLines, resultsJson]

/-- In JSON a finding is one line, the text of its value. -/
theorem Finding.lines_json (finding : Finding) :
    finding.lines lib .json = [lib.toJson finding.json] := by
  cases finding with
  | expired b => rfl
  | hash s => rfl
  | valid b => rfl
  | tokens results => exact reportLines_json (fun token => [token]) tokenJson results
  | keys results => exact reportLines_json keyLines keyJson results

/-- How a process ends : well, with a finding, or with an error and none, or in a panic. -/
inductive Commands.Finishes (lib : Crates) (command : Commands) : Exit → Option Finding → Prop
  | success {finding : Finding} (h : command.Finds finding) :
    Finishes lib command (.code .success "") (some finding)
  | failure (message : String) :
    Finishes lib command (.code .failure ("Error: " ++ message ++ "\n")) none
  | panic (h : command.Panics lib) : Finishes lib command .panic none

/-! ## Output formats -/

/-- Processes that differ in their output formats. -/
structure UpToOutput (process process' : Option String × Cli) : Prop where
  env : process'.1 = process.1
  command : process'.2.command = process.2.command.withOutput process'.2.command.output

variable (lib)

/-- The lines of a finding, if there is one. -/
def findingLines (output : OutputFormat) : Option Finding → List String
  | some finding => finding.lines lib output
  | none => []

/-- The lines the processes of a script write, each in its own format. -/
def writtenLines (script : List (Option String × Cli)) (outcomes : List (Exit × Option Finding)) :
    List String :=
  (List.zipWith (fun process outcome => findingLines lib process.2.command.output outcome.2)
    script outcomes).flatten

/-! ## Processes and sessions -/

/-- One process, in every format. -/
theorem main_finishes (env : Option String) (cli : Cli) (rng : SysRng)
    (clock : Stream' SystemTime) :
    ∃ exit finding k j, cli.command.Finishes lib exit finding ∧
      ∀ process', UpToOutput (env, cli) process' →
        ∀ stdout, main lib process'.1 process'.2 ⟨rng, clock, stdout⟩ =
          (exit, ⟨SysRng.next^[k] rng, clock.drop j,
            stdout ++ Text.unlines (findingLines lib process'.2.command.output finding)⟩) := by
  rcases cli.discovers lib env rng clock with
    ⟨finding, j, hfinds, hrun⟩ | ⟨e, k, j, -, hpanic, hrun⟩
  · refine ⟨_, some finding, cli.command.draws, j, .success hfinds, fun process' h stdout => ?_⟩
    rw [main, h.env, h.command, hrun, ← h.command, findingLines]
  · cases e with
    | error message =>
      refine ⟨_, none, k, j, .failure message, fun process' h stdout => ?_⟩
      rw [main, h.env, h.command, hrun, findingLines, Text.unlines_nil, String.append_empty]
    | panic =>
      refine ⟨_, none, k, j, .panic (hpanic rfl), fun process' h stdout => ?_⟩
      rw [main, h.env, h.command, hrun, findingLines, Text.unlines_nil, String.append_empty]

variable {lib} in
/-- Where all formats are JSON, the findings are written one a line. -/
theorem writtenLines_json {script : List (Option String × Cli)}
    (hjson : ∀ process ∈ script, process.2.command.output = .json)
    {outcomes : List (Exit × Option Finding)} (hlen : script.length = outcomes.length) :
    writtenLines lib script outcomes =
      (outcomes.filterMap Prod.snd).map fun finding => lib.toJson finding.json := by
  induction script generalizing outcomes with
  | nil =>
    obtain rfl := List.length_eq_zero_iff.mp hlen.symm
    rfl
  | cons process script ih =>
    obtain ⟨⟨exit, finding⟩, outcomes, rfl⟩ := List.exists_cons_of_length_eq_add_one hlen.symm
    obtain ⟨hhead, htail⟩ := List.forall_mem_cons.mp hjson
    have hrest := ih htail (Nat.succ_inj.mp hlen)
    rw [writtenLines] at hrest ⊢
    rw [List.zipWith_cons_cons, List.flatten_cons, hrest, hhead]
    cases finding with
    | none => rfl
    | some finding => simp [findingLines, finding.lines_json]

/-- One process after another, each in any format. -/
theorem session_finishes (script : List (Option String × Cli)) (rng : SysRng)
    (clock : Stream' SystemTime) :
    ∃ (outcomes : List (Exit × Option Finding)) (k j : ℕ),
      List.Forall₂ (fun process outcome => process.2.command.Finishes lib outcome.1 outcome.2)
        script outcomes ∧
      ∀ script', List.Forall₂ UpToOutput script script' → ∀ stdout,
        session lib script' ⟨rng, clock, stdout⟩ = (outcomes.map Prod.fst,
          ⟨SysRng.next^[k] rng, clock.drop j,
            stdout ++ Text.unlines (writtenLines lib script' outcomes)⟩) := by
  induction script generalizing rng clock with
  | nil =>
    refine ⟨[], 0, 0, .nil, fun script' h stdout => ?_⟩
    obtain rfl := List.forall₂_nil_left_iff.mp h
    simp [session, writtenLines]
  | cons process script ih =>
    obtain ⟨env, cli⟩ := process
    obtain ⟨exit, finding, k, j, hfinishes, hmain⟩ := main_finishes lib env cli rng clock
    obtain ⟨outcomes, k', j', hlater, hsession⟩ := ih (SysRng.next^[k] rng) (clock.drop j)
    refine ⟨(exit, finding) :: outcomes, k' + k, j + j', .cons hfinishes hlater,
      fun script' h stdout => ?_⟩
    obtain ⟨process', later', hprocess, hrest, rfl⟩ := List.forall₂_cons_left_iff.mp h
    have hfirst := hmain process' hprocess stdout
    obtain ⟨env', cli'⟩ := process'
    simp only [session, hfirst, hsession later' hrest, List.map_cons, writtenLines,
      List.zipWith_cons_cons, List.flatten_cons, Text.unlines_append, String.append_assoc,
      ← Function.iterate_add_apply, Stream'.drop_drop]

/-- In any script the processes finish with the same exit codes, standard errors and findings,
and leave the random source and the clock in one state, whatever their output formats are; the
formats decide the lines the findings are written in. Where all formats are JSON, the lines of the
output are the JSON texts of the findings, in order. -/
theorem output_format_immaterial (script : List (Option String × Cli)) (rng : SysRng)
    (clock : Stream' SystemTime) :
    ∃ (outcomes : List (Exit × Option Finding)) (k j : ℕ),
      List.Forall₂ (fun process outcome => process.2.command.Finishes lib outcome.1 outcome.2)
        script outcomes ∧
      ∀ script', List.Forall₂ UpToOutput script script' →
        (∀ stdout, session lib script' ⟨rng, clock, stdout⟩ = (outcomes.map Prod.fst,
          ⟨SysRng.next^[k] rng, clock.drop j,
            stdout ++ Text.unlines (writtenLines lib script' outcomes)⟩)) ∧
        (lib.JsonLawful → (∀ process ∈ script', process.2.command.output = .json) →
          Text.lines (session lib script' ⟨rng, clock, ""⟩).2.stdout =
            (outcomes.filterMap Prod.snd).map fun finding => lib.toJson finding.json) := by
  obtain ⟨outcomes, k, j, houtcomes, hsession⟩ := session_finishes lib script rng clock
  refine ⟨outcomes, k, j, houtcomes, fun script' h =>
    ⟨hsession script' h, fun hlawful hjson => ?_⟩⟩
  have hwritten : writtenLines lib script' outcomes = _ :=
    writtenLines_json hjson (h.length_eq.symm.trans houtcomes.length_eq)
  have hlines : ∀ line ∈ writtenLines lib script' outcomes, '\n' ∉ line.toList := by
    rw [hwritten]
    exact List.forall_mem_map.mpr fun finding _ => hlawful.line finding.json
  rw [hsession script' h, String.empty_append, Text.lines_unlines hlines, hwritten]

/-- Two tokens, and then the check of a text. -/
def Cli.tokensThenCheck (output : OutputFormat) : List (Option String × Cli) :=
  [(none, ⟨.auth { count := 2, output := output }, nofun⟩),
    (none, ⟨.auth { checkExpiry := some "a.b", output := output }, nofun⟩)]

/-- Printed plainly and in JSON. -/
theorem output_format_immaterial_standard : ∃ outcomes : List (Exit × Option Finding),
    (session Crates.standard (Cli.tokensThenCheck .plain) World.atEpoch).1 =
      outcomes.map Prod.fst ∧
    (session Crates.standard (Cli.tokensThenCheck .json) World.atEpoch).1 =
      outcomes.map Prod.fst ∧
    Text.lines (session Crates.standard (Cli.tokensThenCheck .json) World.atEpoch).2.stdout =
      (outcomes.filterMap Prod.snd).map fun finding => Crates.standard.toJson finding.json := by
  obtain ⟨outcomes, k, j, -, hsession⟩ := output_format_immaterial Crates.standard
    (Cli.tokensThenCheck .plain) SysRng.zeros (Stream'.const (.sinceEpoch (Duration.fromSecs 0)))
  have hformats : ∀ output, List.Forall₂ UpToOutput (Cli.tokensThenCheck .plain)
      (Cli.tokensThenCheck output) := fun output => .cons ⟨rfl, rfl⟩ (.cons ⟨rfl, rfl⟩ .nil)
  have hplain := (hsession _ (hformats .plain)).1 ""
  obtain ⟨hall, hlines⟩ := hsession _ (hformats .json)
  have hjson : ∀ process ∈ Cli.tokensThenCheck .json, process.2.command.output = .json := by
    simp [Cli.tokensThenCheck, Commands.output]
  exact ⟨outcomes, congrArg Prod.fst hplain, congrArg Prod.fst (hall ""),
    hlines Crates.standard_jsonLawful hjson⟩

end TokenGen
