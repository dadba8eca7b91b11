import TokenGen.Fleet
import TokenGen.FreshOutput

/-!
# Sessions as runs of the library

A session of the command line is one process of a fleet. Each result a command generates is a
request to the library (`Commands.request`), served with the random source of the session at a
clock reading of it, and the text it prints is the text the library returned.

`session_simulated` : for any script there is a run of a fleet of one process that ends with the
same random source and issues exactly the texts the commands generate, those included that are
thrown away because a later one fails. So what holds of every run of the library holds of what the
commands print.
-/

namespace TokenGen

open EStateM (Batch)

/-! ## What a command asks of the library -/

/-- The request a command makes for each of its results, if it generates and has the secret it
needs. -/
def Commands.request (env : Option String) : Commands → Option Request
  | .auth args =>
    match args.checkExpiry, args.expiresIn with
    | some _, _ => none
    | none, none => some (.auth ⟨args.length, args.format.toFormat, none, none⟩)
    | none, some expiresSecs => (getSecret env args.secret).toOption.map fun key =>
      .auth ⟨args.length, args.format.toFormat, some (Duration.fromSecs expiresSecs), some key⟩
  | .api args =>
    match args.hash, args.verify with
    | none, none => some (.apiKeyWithHash (((ApiKeyBuilder.default.withKeyType
        args.keyType.toApiKeyType).withEnvironment args.env.toEnvironment).withLength args.length))
    | _, _ => none
  | .csrf args =>
    match args.verify with
    | some _ => none
    | none => (getSecret env args.secret).toOption.map fun key =>
      .csrf ⟨args.length, some key, some args.sessionId⟩

/-- A request and the text it was answered with. -/
def Issue.served {lib : Crates} {ι : Type} (i : Issue lib ι) : Request × String :=
  (i.event.request, i.reply.text)

/-! ## Simulation -/

variable (lib : Crates)

/-- What happens between two worlds, a fleet of one process can do that has their random source :
it meets requests with `P` at clock readings of the first world, in order, and answers them with
these texts. -/
structure Simulated (P : Request → Prop) (w w' : World) (replies : List (Request × String)) :
    Prop where
  requested : ∀ reply ∈ replies, P reply.1
  exists_run : ∀ s : Fleet lib Unit, s.rng () = w.rng → ∃ (events : List (Event Unit))
    (issues : List (Issue lib Unit)) (j : ℕ),
    (∀ e ∈ events, P e.request) ∧ (events.map Event.now).Sublist (w.clock.take j) ∧
      w'.clock = w.clock.drop j ∧ (s.run events).rng () = w'.rng ∧
      (s.run events).issued = s.issued ++ issues ∧ issues.map Issue.served = replies

/-- A part of a command that makes the request, if it has one, and gives back the text of the
reply. -/
structure Serves {α : Type} (request : Option Request) (gen : EStateM (Abort String) World α)
    (text : α → String) : Prop where
  ok : ∀ {w a w'}, gen.run w = .ok a w' →
    ∃ r, Simulated lib (request = some ·) w w' [(r, text a)]
  error : ∀ {w e w'}, gen.run w = .error e w' → Simulated lib (request = some ·) w w' []

variable {lib}

namespace Simulated

variable {P Q : Request → Prop} {w w₁ w' : World} {replies later : List (Request × String)}

theorem mono (h : Simulated lib P w w' replies) (hPQ : ∀ r, P r → Q r) :
    Simulated lib Q w w' replies where
  requested reply hreply := hPQ _ (h.requested reply hreply)
  exists_run s hs := by
    obtain ⟨events, issues, j, hevents, hrest⟩ := h.exists_run s hs
    exact ⟨events, issues, j, fun e he => hPQ _ (hevents e he), hrest⟩

/-- Reading the clock is no request. -/
theorem idle (j : ℕ) (stdout : String) :
    Simulated lib P w ⟨w.rng, w.clock.drop j, stdout⟩ [] where
  requested := by simp
  exists_run s hs := ⟨[], [], j, by simp, by simp, rfl, hs, (List.append_nil _).symm, rfl⟩

/-- Writing is no request. -/
theorem write (h : Simulated lib P w w' replies) (stdout : String) :
    Simulated lib P w { w' with stdout := stdout } replies :=
  ⟨h.requested, h.exists_run⟩

theorem trans (h : Simulated lib P w w₁ replies) (hlater : Simulated lib P w₁ w' later) :
    Simulated lib P w w' (replies ++ later) where
  requested := List.forall_mem_append.mpr ⟨h.requested, hlater.requested⟩
  exists_run s hs := by
    obtain ⟨events, issues, i, hevents, hnow, hclock, hrng, hissued, hreplies⟩ :=
      h.exists_run s hs
    obtain ⟨events', issues', j, hevents', hnow', hclock', hrng', hissued', hreplies'⟩ :=
      hlater.exists_run (s.run events) hrng
    have hrun : s.run (events ++ events') = (s.run events).run events' := List.foldl_append
    refine ⟨events ++ events', issues ++ issues', i + j, ?_, ?_, ?_, ?_, ?_, ?_⟩
    · exact List.forall_mem_append.mpr ⟨hevents, hevents'⟩
    · rw [List.map_append, Stream'.take_add, ← hclock]
      exact hnow.append hnow'
    · rw [hclock', hclock, Stream'.drop_drop]
    · rw [hrun, hrng']
    · rw [hrun, hissued', hissued, List.append_assoc]
    · rw [List.map_append, hreplies, hreplies']

/-- A request that is served. -/
theorem served {r : Request} (hr : P r) {reply : Reply} {rng : SysRng} {stdout : String}
    (h : (r.run lib w.clock.head).run w.rng = .ok reply rng) :
    Simulated lib P w ⟨rng, w.clock.tail, stdout⟩ [(r, reply.text)] where
  requested := by simpa using hr
  exists_run s hs := by
    rcases s.step_cases (⟨(), w.clock.head, r⟩ : Event Unit) with
      ⟨i, hevent, hbefore, hstep⟩ | ⟨e, _, herr, -⟩
    · have hreturned := i.returned
      rw [hevent, hbefore, hs, h] at hreturned
      obtain ⟨hreply, hafter⟩ := EStateM.Result.ok.inj hreturned
      have hrun : s.run [⟨(), w.clock.head, r⟩] = _ := hstep
      refine ⟨[⟨(), w.clock.head, r⟩], [i], 1, by simpa using hr, .refl _, rfl, ?_, ?_, ?_⟩
      · rw [hrun, hafter]
        exact Function.update_self () i.after s.rng
      · rw [hrun]
      · rw [List.map_singleton, Issue.served, hevent, hreply]
    · rw [hs, h] at herr
      cases herr

/-- A request that fails. -/
theorem refused {r : Request} (hr : P r) {e : Abort TokenError} {rng : SysRng} {stdout : String}
    (h : (r.run lib w.clock.head).run w.rng = .error e rng) :
    Simulated lib P w ⟨rng, w.clock.tail, stdout⟩ [] where
  requested := by simp
  exists_run s hs := by
    rcases s.step_cases (⟨(), w.clock.head, r⟩ : Event Unit) with
      ⟨i, hevent, hbefore, -⟩ | ⟨e', _, herr, hstep⟩
    · have hreturned := i.returned
      rw [hevent, hbefore, hs, h] at hreturned
      cases hreturned
    · rw [hs, h] at herr
      obtain ⟨-, rfl⟩ := EStateM.Result.error.inj herr
      have hrun : s.run [⟨(), w.clock.head, r⟩] = _ := hstep
      refine ⟨[⟨(), w.clock.head, r⟩], [], 1, by simpa using hr, .refl _, rfl, ?_, ?_, rfl⟩
      · rw [hrun]
        exact Function.update_self () rng s.rng
      · rw [hrun, List.append_nil]

end Simulated

/-! ## Generation -/

namespace Serves

variable {α : Type} {request : Option Request} {gen : EStateM (Abort String) World α}
  {text : α → String}

/-- A call of the library that is a request. -/
theorem call {β : Type} {r : Request} {f : SystemTime → EStateM (Abort TokenError) SysRng β}
    (reply : β → Reply) (hr : ∀ now, r.run lib now = f now >>= fun b => pure (reply b))
    {out : β → α} (htext : ∀ b, (reply b).text = text (out b)) :
    Serves lib (some r) (TokenGen.call f >>= fun b => pure (out b)) text where
  ok {w a w'} h := by
    obtain ⟨b, rng, hb, rfl, rfl⟩ := call_bind_pure_run_eq_ok_iff.mp h
    have hrun : (r.run lib w.clock.head).run w.rng = .ok (reply b) rng := by
      rw [hr, EStateM.run_bind, hb]
      rfl
    exact ⟨r, htext b ▸ Simulated.served (P := (some r = some ·)) rfl hrun⟩
  error {w e w'} h := by
    rw [EStateM.run_bind] at h
    cases hrun : (f w.clock.head).run w.rng with
    | ok b rng =>
      rw [call_run_eq_ok_iff.mpr ⟨rng, hrun, rfl⟩] at h
      cases h
    | error e' rng =>
      have hcall : (TokenGen.call f).run w =
          .error (e'.map TokenError.display) ⟨rng, w.clock.tail, w.stdout⟩ := by
        simp only [TokenGen.call, EStateM.run] at hrun ⊢
        rw [hrun]
      rw [hcall] at h
      obtain ⟨-, rfl⟩ := EStateM.Result.error.inj h
      refine Simulated.refused (P := (some r = some ·)) rfl (e := e') ?_
      rw [hr, EStateM.run_bind, hrun]

/-- A batch is as many requests as it has results. -/
theorem batch (hgen : Serves lib request gen text) {w w' : World} {results : List α}
    (h : Batch gen w results w') : ∃ replies, replies.map Prod.snd = results.map text ∧
      Simulated lib (request = some ·) w w' replies := by
  induction h with
  | nil w => exact ⟨[], rfl, Simulated.idle 0 w.stdout⟩
  | @cons w w₁ w₂ a results head _ ih =>
    obtain ⟨r, hfirst⟩ := hgen.ok head
    obtain ⟨replies, htexts, hlater⟩ := ih
    exact ⟨(r, text a) :: replies, by rw [List.map_cons, List.map_cons, htexts],
      hfirst.trans hlater⟩

end Serves

variable (lib)

theorem serves_authResult {env : Option String} {args : AuthArgs}
    (hcheck : args.checkExpiry = none) :
    Serves lib ((Commands.auth args).request env) (authResult lib env args) id := by
  unfold authResult
  simp only [Commands.request, hcheck]
  cases args.expiresIn with
  | none => exact Serves.call Reply.auth (fun now => rfl) fun t => rfl
  | some expiresSecs =>
    cases hkey : getSecret env args.secret with
    | ok key => exact Serves.call Reply.auth (fun now => rfl) fun t => rfl
    | error message =>
      -- The command fails before it asks for anything.
      refine ⟨fun {w a w'} h => ?_, fun {w e w'} h => ?_⟩
      · cases h
      · obtain ⟨-, rfl⟩ := EStateM.Result.error.inj h
        exact Simulated.idle 0 w.stdout

theorem serves_apiResult {args : ApiArgs} (env : Option String) (hhash : args.hash = none)
    (hverify : args.verify = none) :
    Serves lib ((Commands.api args).request env) (apiResult lib args) Prod.fst := by
  simp only [Commands.request, hhash, hverify]
  exact Serves.call Reply.apiKeyWithHash (fun now => rfl) fun g => rfl

theorem serves_csrfResult {env : Option String} {args : CsrfArgs} (hverify : args.verify = none)
    {key : SecretKey} (hkey : getSecret env args.secret = .ok key) :
    Serves lib ((Commands.csrf args).request env) (csrfResult lib key args) id := by
  simp only [Commands.request, hverify, hkey]
  exact Serves.call Reply.csrf (fun now => rfl) fun t => rfl

/-! ## Processes -/

/-- What is left of a process : how it ended, the lines it wrote, and the requests it had served,
with the texts of the replies. -/
structure Transcript where
  exit : Exit
  lines : List String
  replies : List (Request × String)

/-- The transcript of a process. What it asks for is the request of its command, and if it generates
and ends well, the texts it prints are those of the replies. -/
structure Commands.Leaves (env : Option String) (command : Commands) (t : Transcript) : Prop where
  ends : command.Ends lib t.exit t.lines
  requested : ∀ reply ∈ t.replies, command.request env = some reply.1
  printed : command.Generates → t.exit = .code .success "" →
    t.replies.length = command.draws ∧ command.Reports lib (t.replies.map Prod.snd) t.lines

/-- A command that inspects takes no answer of the random source. -/
theorem Commands.draws_eq_zero (command : Commands) (h : ¬command.Generates) :
    command.draws = 0 := by
  cases command with
  | auth args =>
    obtain ⟨s, hs⟩ := Option.ne_none_iff_exists'.mp h
    simp only [draws, hs]
  | api args =>
    cases hhash : args.hash with
    | some s => simp only [draws, hhash]
    | none =>
      obtain ⟨values, hvalues⟩ := Option.ne_none_iff_exists'.mp fun hverify => h ⟨hhash, hverify⟩
      simp only [draws, hhash, hvalues]
  | csrf args =>
    obtain ⟨s, hs⟩ := Option.ne_none_iff_exists'.mp h
    simp only [draws, hs]

variable {lib} in
/-- As many texts as were asked for are the results of a report. -/
theorem Commands.Reports.writes {command : Commands} (hgenerates : command.Generates)
    {texts lines : List String} (hlen : texts.length = command.draws)
    (h : command.Reports lib texts lines) : command.Writes lib lines := by
  cases command with
  | auth args =>
    have hcheck : args.checkExpiry = none := hgenerates
    simp only [draws, Writes, hcheck] at hlen ⊢
    exact ⟨texts, hlen, h⟩
  | api args =>
    obtain ⟨hhash, hverify⟩ := hgenerates
    obtain ⟨results, rfl, hlines⟩ := h
    simp only [draws, Writes, hhash, hverify, List.length_map] at hlen ⊢
    exact ⟨results, hlen, hlines⟩
  | csrf args =>
    have hverify : args.verify = none := hgenerates
    simp only [draws, Writes, hverify] at hlen ⊢
    exact ⟨texts, hlen, h⟩

variable {lib} in
/-- A command that generates : all its requests are served and it reports the replies, or one fails
and those before it are thrown away. -/
theorem GeneratesAll.simulated {α : Type} {length count : ℕ} {gen : EStateM (Abort String) World α}
    {plain : α → List String} {json : α → Json}
    {cmd : OutputFormat → EStateM (Abort String) World PUnit}
    (h : GeneratesAll lib length count gen plain json cmd) {request : Option Request}
    {text : α → String} (hgen : Serves lib request gen text) (output : OutputFormat) (w : World) :
    (∃ results replies w', results.length = count ∧ replies.map Prod.snd = results.map text ∧
      Simulated lib (request = some ·) w w' replies ∧ (cmd output).run w = .ok () w' ∧
      w'.stdout = w.stdout ++ Text.unlines (reportLines lib count plain json output results)) ∨
    ∃ e replies w', Simulated lib (request = some ·) w w' replies ∧
      (cmd output).run w = .error e w' ∧ w'.stdout = w.stdout := by
  rcases h.exhaustive w with ⟨results, w', hlen, hbatch⟩ | ⟨results, w₁, e, w₂, hlen, hbatch, he⟩
  · obtain ⟨replies, htexts, hsim⟩ := hgen.batch hbatch
    exact Or.inl ⟨results, replies, _, hlen, htexts, hsim.write _,
      h.run_of_batch hlen hbatch output, rfl⟩
  · obtain ⟨replies, -, hsim⟩ := hgen.batch hbatch
    obtain ⟨-, hstdout, hrun⟩ := h.fails hlen hbatch he
    exact Or.inr ⟨e, replies, w₂, List.append_nil replies ▸ hsim.trans (hgen.error he),
      hrun output, hstdout⟩

/-- One command that generates. -/
theorem Commands.simulated (command : Commands) (hgenerates : command.Generates)
    (env : Option String) (w : World) :
    (∃ lines replies w', replies.length = command.draws ∧
      command.Reports lib (replies.map Prod.snd) lines ∧
      Simulated lib (command.request env = some ·) w w' replies ∧
      (command.run lib env).run w = .ok () w' ∧ w'.stdout = w.stdout ++ Text.unlines lines) ∨
    ∃ e replies w', Simulated lib (command.request env = some ·) w w' replies ∧
      (command.run lib env).run w = .error e w' ∧ w'.stdout = w.stdout := by
  cases command with
  | auth args =>
    have hcheck : args.checkExpiry = none := hgenerates
    refine ((runAuth_generates hcheck).simulated (serves_authResult lib hcheck)
      args.output w).imp_left ?_
    rintro ⟨results, replies, w', hlen, htexts, hrest⟩
    rw [List.map_id] at htexts
    refine ⟨_, replies, w', ?_, congrArg _ htexts.symm, hrest⟩
    simp only [draws, hcheck, ← hlen, ← htexts, List.length_map]
  | api args =>
    obtain ⟨hhash, hverify⟩ := hgenerates
    refine ((runApi_generates hhash hverify).simulated
      (serves_apiResult lib env hhash hverify) args.output w).imp_left ?_
    rintro ⟨results, replies, w', hlen, htexts, hrest⟩
    refine ⟨_, replies, w', ?_, ⟨results, htexts, rfl⟩, hrest⟩
    simp only [draws, hhash, hverify, ← hlen]
    rw [← List.length_map Prod.snd, htexts, List.length_map]
  | csrf args =>
    have hverify : args.verify = none := hgenerates
    cases hkey : getSecret env args.secret with
    | error message =>
      exact Or.inr ⟨.error message, [], w, Simulated.idle 0 w.stdout,
        runCsrf_without_secret hverify hkey w, rfl⟩
    | ok key =>
      refine ((runCsrf_generates hverify hkey).simulated
        (serves_csrfResult lib hverify hkey) args.output w).imp_left ?_
      rintro ⟨results, replies, w', hlen, htexts, hrest⟩
      rw [List.map_id] at htexts
      refine ⟨_, replies, w', ?_, congrArg _ htexts.symm, hrest⟩
      simp only [draws, hverify, ← hlen, ← htexts, List.length_map]

/-- One process. -/
theorem main_simulated (env : Option String) (cli : Cli) (w : World) : ∃ t w',
    cli.command.Leaves lib env t ∧
      Simulated lib (cli.command.request env = some ·) w w' t.replies ∧
      main lib env cli w = (t.exit, w') ∧ w'.stdout = w.stdout ++ Text.unlines t.lines := by
  by_cases hgenerates : cli.command.Generates
  · rcases cli.command.simulated lib hgenerates env w with
      ⟨lines, replies, w', hlen, hreports, hsim, hrun, hstdout⟩ |
        ⟨e, replies, w', hsim, hrun, hstdout⟩
    · have hwrites : cli.command.Writes lib lines :=
        hreports.writes hgenerates (by rw [List.length_map, hlen])
      exact ⟨⟨_, lines, replies⟩, w',
        ⟨.success hwrites, hsim.requested, fun _ _ => ⟨hlen, hreports⟩⟩, hsim,
        main_eq_success_iff.mpr hrun, hstdout⟩
    · obtain ⟨exit, hends, hexit, hmain⟩ := main_of_error hrun
      exact ⟨⟨exit, [], replies⟩, w', ⟨hends, hsim.requested, fun _ h => absurd h hexit⟩, hsim,
        hmain, by rw [hstdout, Text.unlines_nil, String.append_empty]⟩
  · obtain ⟨exit, lines, k, j, hends, hk, -, hmain⟩ := main_ends lib env cli w.rng w.clock
    rw [cli.command.draws_eq_zero hgenerates, Nat.le_zero] at hk
    subst hk
    exact ⟨⟨exit, lines, []⟩, _, ⟨hends, by simp, fun h => absurd h hgenerates⟩,
      Simulated.idle j _, hmain w.stdout, rfl⟩

/-! ## Sessions -/

/-- Any script is a run of a fleet of one process : the fleet ends with the random source of the
session, it has met requests of the commands at clock readings of the session, in order, and what it
has issued is what the commands generated. -/
theorem session_simulated (script : List (Option String × Cli)) (w : World) :
    ∃ (transcripts : List Transcript) (events : List (Event Unit)) (j : ℕ),
      List.Forall₂ (fun process t => process.2.command.Leaves lib process.1 t) script transcripts ∧
      (∀ e ∈ events, ∃ process ∈ script,
        process.2.command.request process.1 = some e.request) ∧
      (events.map Event.now).Sublist (w.clock.take j) ∧
      let fleet := (Fleet.start fun _ => w.rng : Fleet lib Unit).run events
      fleet.issued.map Issue.served = transcripts.flatMap Transcript.replies ∧
      session lib script w = (transcripts.map Transcript.exit, ⟨fleet.rng (), w.clock.drop j,
        w.stdout ++ Text.unlines (transcripts.flatMap Transcript.lines)⟩) := by
  have hsession : ∃ transcripts w',
      List.Forall₂ (fun process t => process.2.command.Leaves lib process.1 t) script transcripts ∧
      Simulated lib (fun r => ∃ process ∈ script, process.2.command.request process.1 = some r) w w'
        (transcripts.flatMap Transcript.replies) ∧
      session lib script w = (transcripts.map Transcript.exit, w') ∧
      w'.stdout = w.stdout ++ Text.unlines (transcripts.flatMap Transcript.lines) := by
    induction script generalizing w with
    | nil => exact ⟨[], w, .nil, Simulated.idle 0 w.stdout, rfl, by simp⟩
    | cons process script ih =>
      obtain ⟨env, cli⟩ := process
      obtain ⟨t, w₁, hleaves, hsim, hmain, hstdout⟩ := main_simulated lib env cli w
      obtain ⟨transcripts, w', hlater, hsimLater, hsession, hstdoutLater⟩ := ih w₁
      refine ⟨t :: transcripts, w', .cons hleaves hlater, ?_, ?_, ?_⟩
      · refine (hsim.mono fun r hr => ?_).trans (hsimLater.mono fun r hr => ?_)
        · exact ⟨_, List.mem_cons_self, hr⟩
        · obtain ⟨process, hprocess, hr⟩ := hr
          exact ⟨process, List.mem_cons_of_mem _ hprocess, hr⟩
      · simp only [session, hmain, hsession, List.map_cons]
      · rw [hstdoutLater, hstdout, List.flatMap_cons, Text.unlines_append, String.append_assoc]
  obtain ⟨transcripts, w', hleaves, hsim, hsession, hstdout⟩ := hsession
  obtain ⟨events, issues, j, hevents, hnow, hclock, hrng, hissued, hreplies⟩ :=
    hsim.exists_run (Fleet.start fun _ => w.rng) rfl
  refine ⟨transcripts, events, j, hleaves, hevents, hnow, ?_, ?_⟩
  · rw [hissued]
    exact hreplies
  · rw [hsession, hrng, ← hclock, ← hstdout]

end TokenGen
