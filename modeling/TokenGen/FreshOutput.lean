import TokenGen.Process

/-!
# The random bytes in what is printed

Every text a generating process prints carries the bytes of an answer of the random source, as many
as `--length` asks for. The texts of a process carry successive answers, and no
other process of the session has them.

`printed_texts_fresh` : in any session, the answers the processes print are intervals of the
source, one after the other. Texts of one kind are read in one way, so as long as the answers
behind them are different, no text of this kind is printed twice, whatever else the session does.
-/

namespace TokenGen

open EStateM (Advances Batch)

/-! ## Results and their random parts -/

/-- The number of random bytes a command asks for. -/
def Commands.length : Commands → ℕ
  | .auth args => args.length
  | .api args => args.length
  | .csrf args => args.length

/-- The kinds of texts. -/
inductive TextKind where
  | simple (format : Format)
  | signed
  | key
  deriving DecidableEq

/-- The kind of the texts a command prints. -/
def Commands.kind : Commands → TextKind
  | .auth args =>
    match args.expiresIn with
    | none => .simple args.format.toFormat
    | some _ => .signed
  | .api _ => .key
  | .csrf _ => .signed

variable (lib : Crates)

/-- The random part of a text. -/
def TextKind.randomPart : TextKind → String → Option Bytes
  | .simple format => format.read lib
  | .signed => Wire.noncePart lib
  | .key => ApiKey.randomPart lib

/-- The lines of a report, and the tokens or keys in it. -/
def Commands.Reports : Commands → List String → List String → Prop
  | .auth args, texts, lines =>
    lines = reportLines lib args.count (fun token => [token]) tokenJson args.output texts
  | .api args, texts, lines => ∃ results : List (String × String),
    texts = results.map Prod.fst ∧
      lines = reportLines lib args.count keyLines keyJson args.output results
  | .csrf args, texts, lines =>
    lines = reportLines lib args.count (fun token => [token]) tokenJson args.output texts

variable {lib}

theorem carries_of_authResult (hlib : lib.Base64Lawful) {env : Option String} {args : AuthArgs}
    {w w' : World} {token : String} (h : (authResult lib env args).run w = .ok token w') :
    CarriesAnswer args.length w.rng ((Commands.auth args).kind.randomPart lib token) := by
  unfold Commands.kind
  cases hexpires : args.expiresIn with
  | some expiresSecs =>
    obtain ⟨key, -, t, _, ht, rfl, -⟩ := (authResult_run_expiring_eq_ok_iff hexpires).mp h
    simp only [hexpires]
    exact (AuthTokenBuilder.generate_keepsEntropy hlib _ _).carriesAnswer ht
  | none =>
    obtain ⟨t, _, ht, rfl, -⟩ := (authResult_run_simple_eq_ok_iff hexpires).mp h
    simp only [hexpires]
    exact (AuthToken.generate_keepsEntropy hlib _ _).carriesAnswer ht

theorem carries_of_csrfResult (hlib : lib.Base64Lawful) {key : SecretKey} {args : CsrfArgs}
    {w w' : World} {token : String} (h : (csrfResult lib key args).run w = .ok token w') :
    CarriesAnswer args.length w.rng (Wire.noncePart lib token) := by
  obtain ⟨t, _, ht, rfl, -⟩ := csrfResult_run_eq_ok_iff.mp h
  exact (CsrfTokenBuilder.generate_keepsEntropy hlib _ _).carriesAnswer ht

theorem carries_of_apiResult (hlib : lib.Base64Lawful) {args : ApiArgs} {w w' : World}
    {result : String × String} (h : (apiResult lib args).run w = .ok result w') :
    CarriesAnswer args.length w.rng (ApiKey.randomPart lib result.1) := by
  obtain ⟨key, _, hkey, rfl, -⟩ := apiResult_run_eq_ok_iff.mp h
  exact (ApiKey.generate_keepsEntropy hlib _ _ _).carriesAnswer hkey

/-! ## Batches -/

section Batch

variable {α : Type} {P : Prop} {n : ℕ} {post : α → Prop} {gen : EStateM (Abort String) World α}

/-- A part that calls the library moves on in the random source. -/
theorem Calls.advances (hgen : Calls P n post gen) : Advances World.rng SysRng.next n gen where
  ok {w _ _} h := by
    rcases hgen w.rng w.clock with ⟨a, j, -, hrun⟩ | ⟨e, k, j, -, -, hrun⟩
    · obtain ⟨-, rfl⟩ := EStateM.Result.ok.inj (h.symm.trans (hrun w.stdout))
      rfl
    · cases h.symm.trans (hrun w.stdout)
  error {w _ _} h := by
    rcases hgen w.rng w.clock with ⟨a, j, -, hrun⟩ | ⟨e, k, j, hk, -, hrun⟩
    · cases h.symm.trans (hrun w.stdout)
    · obtain ⟨-, rfl⟩ := EStateM.Result.error.inj (h.symm.trans (hrun w.stdout))
      exact ⟨k, hk, rfl⟩

/-- The `i`-th result of a batch carries the `i`-th answer. -/
theorem carries_of_batch (hgen : Calls P 1 post gen) {length : ℕ} {part : α → Option Bytes}
    (hpart : ∀ {w a w'}, gen.run w = .ok a w' → CarriesAnswer length w.rng (part a))
    {w w' : World} {results : List α} (h : Batch gen w results w') {i : ℕ}
    (hi : i < results.length) :
    CarriesAnswer length (SysRng.next^[i] w.rng) (part results[i]) := by
  obtain ⟨wᵢ, wᵢ', hrng, hrun⟩ := h.exists_run hgen.advances hi
  rw [Nat.one_mul] at hrng
  exact hrng ▸ hpart hrun

end Batch

/-- A generating command that returns has printed as many texts as it was asked for, and the `i`-th
carries the `i`-th answer of the random source. -/
theorem Commands.exists_texts (hlib : lib.Base64Lawful) {command : Commands}
    (hgenerates : command.Generates) {env : Option String} {w w' : World}
    (hrun : (command.run lib env).run w = .ok () w') :
    ∃ texts lines, texts.length = command.draws ∧ command.Reports lib texts lines ∧
      w'.stdout = w.stdout ++ Text.unlines lines ∧
      ∀ i (hi : i < texts.length), CarriesAnswer command.length (SysRng.next^[i] w.rng)
        (command.kind.randomPart lib texts[i]) := by
  cases command with
  | auth args =>
    have hcheck : args.checkExpiry = none := hgenerates
    obtain ⟨tokens, w₁, hlen, hbatch, rfl⟩ := (runAuth_generates hcheck).run_eq_ok_iff.mp hrun
    refine ⟨tokens, _, ?_, rfl, rfl, fun i hi => ?_⟩
    · simp only [draws, hcheck, hlen]
    · exact carries_of_batch (calls_authResult env args) (carries_of_authResult hlib) hbatch hi
  | api args =>
    obtain ⟨hhash, hverify⟩ := hgenerates
    obtain ⟨results, w₁, hlen, hbatch, rfl⟩ :=
      (runApi_generates hhash hverify).run_eq_ok_iff.mp hrun
    refine ⟨results.map Prod.fst, _, ?_, ⟨results, rfl, rfl⟩, rfl, fun i hi => ?_⟩
    · simp only [draws, hhash, hverify, List.length_map, hlen]
    · rw [List.getElem_map]
      exact carries_of_batch (calls_apiResult args) (carries_of_apiResult hlib) hbatch
        (by simpa using hi)
  | csrf args =>
    have hverify : args.verify = none := hgenerates
    cases hkey : getSecret env args.secret with
    | error message => cases (runCsrf_without_secret hverify hkey w).symm.trans hrun
    | ok key =>
      obtain ⟨tokens, w₁, hlen, hbatch, rfl⟩ :=
        (runCsrf_generates hverify hkey).run_eq_ok_iff.mp hrun
      refine ⟨tokens, _, ?_, rfl, rfl, fun i hi => ?_⟩
      · simp only [draws, hverify, hlen]
      · exact carries_of_batch (calls_csrfResult key args) (carries_of_csrfResult hlib) hbatch hi

/-! ## Sessions -/

/-- How a process of a session ended, what it printed, and the number of the answer its first text
carries. -/
structure Outcome where
  exit : Exit
  first : ℕ
  texts : List String
  lines : List String

variable (lib) in
/-- What a process does that shares the random source `rng` with others : it prints texts that
carry successive answers, or it inspects, fails or panics and prints no texts. -/
inductive Commands.EndsFresh (rng : SysRng) (command : Commands) : Outcome → Prop
  | generated {first : ℕ} {texts lines : List String} (hgenerates : command.Generates)
    (hlen : texts.length = command.draws) (hlines : command.Reports lib texts lines)
    (hfresh : ∀ i (hi : i < texts.length), CarriesAnswer command.length
      (SysRng.next^[first + i] rng) (command.kind.randomPart lib texts[i])) :
    EndsFresh rng command ⟨.code .success "", first, texts, lines⟩
  | inspected {first : ℕ} {lines : List String} (hinspects : ¬command.Generates)
    (hlines : command.Writes lib lines) :
    EndsFresh rng command ⟨.code .success "", first, [], lines⟩
  | failed {first : ℕ} (message : String) :
    EndsFresh rng command ⟨.code .failure ("Error: " ++ message ++ "\n"), first, [], []⟩
  | panicked {first : ℕ} (hpanics : command.Panics lib) :
    EndsFresh rng command ⟨.panic, first, [], []⟩

/-- The answers the texts of a process carry, by their numbers. -/
def Outcome.slots (o : Outcome) : List (Unit × ℕ) :=
  (List.range o.texts.length).map fun i => ((), o.first + i)

variable (lib) in
/-- The random parts of the texts of a process. -/
def Commands.parts (command : Commands) (o : Outcome) : List (RandomPart Unit) :=
  o.texts.map fun text => ⟨(), command.length, command.kind.randomPart lib text⟩

/-- The processes of a script whose commands print texts of one kind, and how they ended. -/
def ofKind (kind : TextKind) (script : List (Option String × Cli)) (outcomes : List Outcome) :
    List (Commands × Outcome) :=
  ((script.map fun process => process.2.command).zip outcomes).filter fun p => p.1.kind = kind

/-- One process, `first` answers into the random source. -/
theorem main_endsFresh (hlib : lib.Base64Lawful) (env : Option String) (cli : Cli) (rng : SysRng)
    (first : ℕ) (clock : Stream' SystemTime) :
    ∃ outcome k j, cli.command.EndsFresh lib rng outcome ∧ outcome.first = first ∧
      outcome.texts.length ≤ k ∧ k ≤ cli.command.draws ∧
      ∀ stdout, main lib env cli ⟨SysRng.next^[first] rng, clock, stdout⟩ = (outcome.exit,
        ⟨SysRng.next^[first + k] rng, clock.drop j, stdout ++ Text.unlines outcome.lines⟩) := by
  obtain ⟨exit, lines, k, j, hends, hk, hexact, hmain⟩ :=
    main_ends lib env cli (SysRng.next^[first] rng) clock
  have hfrom : ∀ stdout, main lib env cli ⟨SysRng.next^[first] rng, clock, stdout⟩ = (exit,
      ⟨SysRng.next^[first + k] rng, clock.drop j, stdout ++ Text.unlines lines⟩) := by
    intro stdout
    rw [hmain, ← Function.iterate_add_apply, Nat.add_comm]
  cases hends with
  | failure message =>
    exact ⟨⟨_, first, [], []⟩, k, j, .failed message, rfl, k.zero_le, hk, hfrom⟩
  | panic hpanics =>
    exact ⟨⟨_, first, [], []⟩, k, j, .panicked hpanics, rfl, k.zero_le, hk, hfrom⟩
  | success hwrites =>
    by_cases hgenerates : cli.command.Generates
    · obtain ⟨texts, lines', hlen, hreports, hstdout, hfresh⟩ :=
        Commands.exists_texts hlib hgenerates (main_eq_success_iff.mp (hfrom ""))
      have hunlines : Text.unlines lines = Text.unlines lines' :=
        (String.append_right_inj _).mp hstdout
      refine ⟨⟨_, first, texts, lines'⟩, k, j, .generated hgenerates hlen hreports ?_, rfl,
        (hlen.trans (hexact rfl).symm).le, hk, hunlines ▸ hfrom⟩
      intro i hi
      rw [Nat.add_comm, Function.iterate_add_apply]
      exact hfresh i hi
    · exact ⟨⟨_, first, [], lines⟩, k, j, .inspected hgenerates hwrites, rfl, k.zero_le, hk, hfrom⟩

/-- The texts of a process are drawn from its slots. -/
theorem Commands.EndsFresh.drawn {rng : SysRng} {command : Commands} {o : Outcome}
    (h : command.EndsFresh lib rng o) :
    List.Forall₂ (RandomPart.DrawnAt fun _ => rng) o.slots (command.parts lib o) := by
  cases h with
  | @generated first texts lines _ _ _ hfresh =>
    refine List.forall₂_iff_get.mpr ⟨by simp [Outcome.slots, parts], fun i hi hi' => ?_⟩
    simp only [Outcome.slots, parts, List.get_eq_getElem, List.getElem_map, List.getElem_range]
    exact ⟨rfl, hfresh i (by simpa [parts] using hi')⟩
  | inspected => exact .nil
  | failed => exact .nil
  | panicked => exact .nil

theorem Outcome.mem_slots_iff {o : Outcome} {slot : Unit × ℕ} :
    slot ∈ o.slots ↔ o.first ≤ slot.2 ∧ slot.2 < o.first + o.texts.length := by
  rw [slots, List.mem_map]
  refine ⟨?_, fun ⟨hle, hlt⟩ => ⟨slot.2 - o.first, ?_, Prod.ext rfl ?_⟩⟩
  · rintro ⟨i, hi, rfl⟩
    exact ⟨Nat.le_add_right _ _, Nat.add_lt_add_left (List.mem_range.mp hi) _⟩
  · rw [List.mem_range]
    omega
  · exact Nat.add_sub_cancel' hle

/-- Intervals that come one after the other have no slot twice. -/
theorem nodup_slots {outcomes : List Outcome}
    (hordered : outcomes.Pairwise fun o o' => o.first + o.texts.length ≤ o'.first) :
    (outcomes.flatMap Outcome.slots).Nodup := by
  refine List.nodup_flatMap.mpr ⟨fun o _ => ?_, hordered.imp fun {o o'} hlt => ?_⟩
  · exact List.nodup_range.map fun i j hij => Nat.add_left_cancel (Prod.ext_iff.mp hij).2
  · intro slot hslot hslot'
    obtain ⟨-, hbefore⟩ := Outcome.mem_slots_iff.mp hslot
    obtain ⟨hafter, -⟩ := Outcome.mem_slots_iff.mp hslot'
    omega

/-- Texts of one kind that carry different answers are different. -/
theorem nodup_texts {kind : TextKind} {rng : SysRng} {printed : List (Commands × Outcome)}
    (hkind : ∀ p ∈ printed, p.1.kind = kind) (hends : ∀ p ∈ printed, p.1.EndsFresh lib rng p.2)
    (hordered : printed.Pairwise fun p p' => p.2.first + p.2.texts.length ≤ p'.2.first)
    (hrng : AnswersDistinct (fun _ => rng) (printed.flatMap fun p => p.2.slots)
      (printed.flatMap fun p => p.1.parts lib p.2)) :
    (printed.flatMap fun p => p.2.texts).Nodup := by
  have hslots : (printed.flatMap fun p => p.2.slots).Nodup := by
    rw [← List.flatMap_map Prod.snd]
    exact nodup_slots (List.pairwise_map.mpr hordered)
  have hparts := nodup_parts hslots (List.forall₂_flatMap fun p hp => (hends p hp).drawn) hrng
  have hread : (printed.flatMap fun p => p.1.parts lib p.2).map RandomPart.bytes =
      (printed.flatMap fun p => p.2.texts).map (kind.randomPart lib) := by
    rw [List.map_flatMap, List.map_flatMap]
    refine List.flatMap_congr fun p hp => ?_
    rw [Commands.parts, List.map_map, hkind p hp]
    rfl
  rw [hread] at hparts
  exact hparts.of_map

variable (lib)

/-- Any script : the processes that end well after generating print as many texts as they were
asked for, and the `i`-th text of a process carries the bytes of the `i`-th answer from its first
one on. The answers of a process come after those of the processes before it. So no text of a kind
is printed twice, as long as the answers that the texts of this kind carry are different. -/
theorem printed_texts_fresh (hlib : lib.Base64Lawful) (script : List (Option String × Cli))
    (rng : SysRng) (clock : Stream' SystemTime) :
    ∃ outcomes : List Outcome,
      List.Forall₂ (fun process outcome => process.2.command.EndsFresh lib rng outcome)
        script outcomes ∧
      outcomes.Pairwise (fun o o' => o.first + o.texts.length ≤ o'.first) ∧
      (∀ o ∈ outcomes, o.first + o.texts.length ≤
        (script.map fun process => process.2.command.draws).sum) ∧
      (∀ stdout, (session lib script ⟨rng, clock, stdout⟩).1 = outcomes.map Outcome.exit ∧
        (session lib script ⟨rng, clock, stdout⟩).2.stdout =
          stdout ++ Text.unlines (outcomes.flatMap Outcome.lines)) ∧
      ∀ kind : TextKind,
        let printed := ofKind kind script outcomes
        AnswersDistinct (fun _ => rng) (printed.flatMap fun p => p.2.slots)
          (printed.flatMap fun p => p.1.parts lib p.2) →
        (printed.flatMap fun p => p.2.texts).Nodup := by
  -- The induction is on the script, over the number of answers taken before it.
  have hfrom : ∀ first clock, ∃ outcomes : List Outcome,
      List.Forall₂ (fun process outcome => process.2.command.EndsFresh lib rng outcome)
        script outcomes ∧
      (∀ o ∈ outcomes, first ≤ o.first ∧ o.first + o.texts.length ≤
        first + (script.map fun process => process.2.command.draws).sum) ∧
      outcomes.Pairwise (fun o o' => o.first + o.texts.length ≤ o'.first) ∧
      ∀ stdout, (session lib script ⟨SysRng.next^[first] rng, clock, stdout⟩).1 =
          outcomes.map Outcome.exit ∧
        (session lib script ⟨SysRng.next^[first] rng, clock, stdout⟩).2.stdout =
          stdout ++ Text.unlines (outcomes.flatMap Outcome.lines) := by
    induction script with
    | nil => exact fun first clock => ⟨[], .nil, by simp, .nil, fun stdout => by simp [session]⟩
    | cons process script ih =>
      intro first clock
      obtain ⟨env, cli⟩ := process
      obtain ⟨outcome, k, j, hends, hfirst, hk, hdraws, hmain⟩ :=
        main_endsFresh hlib env cli rng first clock
      obtain ⟨outcomes, hlater, hle, hordered, hsession⟩ := ih (first + k) (clock.drop j)
      refine ⟨outcome :: outcomes, .cons hends hlater, ?_, ?_, fun stdout => ⟨?_, ?_⟩⟩
      · simp only [List.map_cons, List.sum_cons]
        refine List.forall_mem_cons.mpr ⟨⟨hfirst.ge, by omega⟩, fun o ho => ?_⟩
        have := hle o ho
        omega
      · refine List.pairwise_cons.mpr ⟨fun o ho => ?_, hordered⟩
        have := hle o ho
        omega
      · simp only [session, hmain, (hsession _).1, List.map_cons]
      · simp only [session, hmain, (hsession _).2, List.flatMap_cons, Text.unlines_append,
          String.append_assoc]
  obtain ⟨outcomes, hends, hle, hordered, hsession⟩ := hfrom 0 clock
  refine ⟨outcomes, hends, hordered, fun o ho => by simpa using (hle o ho).2, hsession,
    ?_⟩
  intro kind printed hrng
  obtain ⟨hlen, hzip⟩ := List.forall₂_iff_zip.mp (List.forall₂_map_left_iff.mpr hends :
    List.Forall₂ (fun command outcome => Commands.EndsFresh lib rng command outcome)
      (script.map fun process => process.2.command) outcomes)
  have hpairs : ((script.map fun process => process.2.command).zip outcomes).Pairwise
      fun p p' => p.2.first + p.2.texts.length ≤ p'.2.first := by
    rw [← List.map_snd_zip hlen.ge] at hordered
    exact List.pairwise_map.mp hordered
  have hkind : ∀ p ∈ printed, p.1.kind = kind := fun p hp => by
    simpa using (List.mem_filter.mp hp).2
  exact nodup_texts hkind (fun p hp => hzip (List.mem_filter.mp hp).1) (hpairs.filter _) hrng

/-- One simple token. -/
def Cli.oneToken : Cli :=
  ⟨.auth {}, nofun⟩

/-- A token, a key and another token. -/
def Cli.tokenKeyToken : List (Option String × Cli) :=
  [(none, Cli.oneToken), (none, Cli.oneKey), (none, Cli.oneToken)]

variable {lib} in
/-- A process that generates and ends well has printed what it was asked for. -/
theorem Commands.EndsFresh.length_texts {rng : SysRng} {command : Commands} {o : Outcome}
    (h : command.EndsFresh lib rng o) (hgenerates : command.Generates)
    (hexit : o.exit = .code .success "") : o.texts.length = command.draws := by
  cases h with
  | generated _ hlen => exact hlen
  | inspected hinspects => exact absurd hgenerates hinspects
  | failed message => simp at hexit
  | panicked => cases hexit

/-- The two tokens are different, with a key between them. -/
theorem printed_texts_fresh_standard : ∃ outcomes : List Outcome,
    (session Crates.standard Cli.tokenKeyToken
      ⟨SysRng.counting, Stream'.const .epoch, ""⟩).1 = outcomes.map Outcome.exit ∧
    ((ofKind (.simple .base64Url) Cli.tokenKeyToken outcomes).flatMap
      fun p => p.2.texts).length = 2 ∧
    ((ofKind (.simple .base64Url) Cli.tokenKeyToken outcomes).flatMap
      fun p => p.2.texts).Nodup := by
  obtain ⟨outcomes, hends, -, hle, hsession, hnodup⟩ :=
    printed_texts_fresh Crates.standard Crates.standard_base64Lawful Cli.tokenKeyToken
      SysRng.counting (Stream'.const .epoch)
  rcases hends with _ | ⟨h₁, _ | ⟨-, _ | ⟨h₃, _ | _⟩⟩⟩
  rename_i o₁ o₂ o₃
  have hexits : (session Crates.standard Cli.tokenKeyToken
      ⟨SysRng.counting, Stream'.const .epoch, ""⟩).1 =
        List.replicate 3 (.code .success "") := rfl
  rw [(hsession "").1] at hexits
  simp only [List.map_cons, List.map_nil, List.replicate, List.cons.injEq] at hexits
  have hlen₁ : o₁.texts.length = 1 := h₁.length_texts rfl hexits.1
  have hlen₃ : o₃.texts.length = 1 := h₃.length_texts rfl hexits.2.2.1
  have hkind : ofKind (.simple .base64Url) Cli.tokenKeyToken [o₁, o₂, o₃] =
      [(Cli.oneToken.command, o₁), (Cli.oneToken.command, o₃)] := rfl
  refine ⟨_, (hsession "").1, ?_, hnodup _ (distinct_counting ?_ ?_)⟩
  · simp [hkind, hlen₁, hlen₃]
  · intro slot hslot
    obtain ⟨p, hp, hslot⟩ := List.mem_flatMap.mp hslot
    have hmem : p.2 ∈ [o₁, o₂, o₃] := (List.of_mem_zip (List.mem_filter.mp hp).1).2
    have hbefore := (Outcome.mem_slots_iff.mp hslot).2.trans_le (hle _ hmem)
    exact hbefore.trans (show 3 < 256 by decide)
  · intro part hpart
    obtain ⟨p, hp, hpart⟩ := List.mem_flatMap.mp hpart
    obtain ⟨text, -, rfl⟩ := List.mem_map.mp hpart
    rw [hkind] at hp
    simp only [List.mem_cons, List.not_mem_nil, or_false] at hp
    rcases hp with rfl | rfl
    · exact show 0 < 32 by decide
    · exact show 0 < 32 by decide

end TokenGen
