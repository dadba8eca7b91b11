import TokenGen.Lib.Foretold
import TokenGen.Process

/-!
# Exit codes

A process fails or panics for reasons that can be told before it runs, from its arguments, the
answers of the random source, and the clock readings. `Commands.fault` finds the first one : what is
wrong with the request itself, or with the first of its generations that cannot succeed, the `i`-th
of which meets the `i`-th answer and the `i`-th reading.

`exit_of_fault` : a process ends well exactly if there is no such reason, and otherwise the first
one is its error, or its panic.
-/

namespace TokenGen

open EStateM (Foretold)

/-! ## Generators -/

/-- Why no bytes are drawn : too few are asked for, or more than a buffer can have, or the random
source fails. -/
def bytesFault (length : ℕ) (os : SysRng) : Option (Abort TokenError) :=
  if length < minEntropyBytes then some (.error (.insufficientEntropy length minEntropyBytes))
  else if isizeMax < length then some .panic
  else (os.answer length).fault.map fun e => .error (.cryptoError e)

/-- The second a token expires in, if the clock can be read and the second fits. -/
def expirySecond (duration : Duration) (now : SystemTime) : Except TokenError UInt64 :=
  now.unixSeconds >>= fun now =>
    match U64.checkedAdd now duration.secs with
    | none => .error (.cryptoError "timestamp overflow")
    | some timestamp => .ok timestamp

/-- Why no CSRF token is generated : the length, the clock, the random source. -/
def csrfFault (length : ℕ) (os : SysRng) (now : SystemTime) : Option (Abort TokenError) :=
  if length < minNonceLength then some (.error (.insufficientEntropy length minNonceLength))
  else (now.unixSeconds.fault.map .error).or (bytesFault length os)

variable {lib : Crates}

theorem generateBytes_foretold (length : ℕ) :
    Foretold id SysRng.next (bytesFault length) (generateBytes length) := by
  refine ⟨fun os h => ?_, fun os e h => ?_⟩
  · rw [generateBytes_run]
    unfold bytesFault at h
    split_ifs at h ⊢
    cases ha : os.answer length with
    | ok bytes => exact ⟨_, _, rfl, rfl⟩
    | error e => simp [ha] at h
  · rw [generateBytes_run]
    unfold bytesFault at h
    split_ifs at h ⊢
    · obtain rfl := Option.some.inj h
      exact ⟨_, rfl⟩
    · obtain rfl := Option.some.inj h
      exact ⟨_, rfl⟩
    · cases ha : os.answer length with
      | ok bytes => simp [ha] at h
      | error e' =>
        rw [id, ha, Except.fault_error, Option.map_some, Option.some.injEq] at h
        subst h
        exact ⟨_, rfl⟩

theorem AuthToken.generate_foretold (length : ℕ) (format : Format) :
    Foretold id SysRng.next (bytesFault length) (AuthToken.generate lib length format) :=
  (generateBytes_foretold length).bind_pure _

theorem AuthTokenBuilder.generate_foretold (length : ℕ) (format : Format) (duration : Duration)
    (key : SecretKey) (now : SystemTime) :
    Foretold id SysRng.next
      (fun os => (bytesFault length os).or ((expirySecond duration now).fault.map .error))
      (AuthTokenBuilder.generate lib ⟨length, format, some duration, some key⟩ now) := by
  rw [generate_eq]
  refine (generateBytes_foretold length).bind_still fun {_ bytes _} _ => ?_
  unfold expirySecond
  cases now.unixSeconds with
  | error e => exact .throw (Abort.error e)
  | ok now =>
    simp only [orAbort_ok, pure_bind, Except.ok_bind]
    cases U64.checkedAdd now duration.secs with
    | none => exact .throw _
    | some timestamp => exact .pure _

theorem CsrfToken.generate_foretold (key : SecretKey) (sessionId : String) (length : ℕ)
    (now : SystemTime) : Foretold id SysRng.next (fun os => csrfFault length os now)
      (CsrfToken.generate lib key sessionId length now) := by
  rw [generate_eq]
  unfold csrfFault
  split_ifs
  · exact .throw _
  · exact .orAbort_bind fun timestamp _ => (generateBytes_foretold length).bind_pure _

theorem ApiKeyBuilder.generateWithHash_foretold (b : ApiKeyBuilder)
    (hb : b.hashAlgorithm = none) :
    Foretold id SysRng.next (bytesFault b.length) (b.generateWithHash lib) := by
  rw [generateWithHash_eq, hb]
  have hkey : Foretold id SysRng.next (bytesFault b.length)
      (ApiKey.generate lib b.keyType b.environment b.length) :=
    (generateBytes_foretold b.length).bind_pure _
  exact hkey.bind_pure _

/-- The clock is read for a text that parses. -/
theorem AuthToken.fault_isExpired (s : String) (now : SystemTime) :
    (AuthToken.isExpired lib ⟨s, (Wire.parse lib s).isSome⟩ now).fault =
      match Wire.parse lib s with
      | some _ => now.unixSeconds.fault
      | none => none := by
  cases hwire : Wire.parse lib s with
  | none => rw [isExpired_of_simple rfl, Except.fault_ok]
  | some wire =>
    rw [Option.isSome_some]
    cases now with
    | beforeEpoch =>
      rw [isExpired_beforeEpoch (t := ⟨s, true⟩) rfl hwire]
      rfl
    | sinceEpoch d =>
      rw [isExpired_sinceEpoch (t := ⟨s, true⟩) rfl hwire]
      rfl

/-! ## Commands -/

/-- What a command reads. -/
def World.sources (w : World) : SysRng × Stream' SystemTime :=
  (w.rng, w.clock)

/-- The next answer and the next reading. -/
def nextSources : SysRng × Stream' SystemTime → SysRng × Stream' SystemTime :=
  Prod.map SysRng.next Stream'.tail

/-- A part of a command whose end is told from what it reads, where it does not end well. -/
def FailsWith {α : Type} (next : SysRng × Stream' SystemTime → SysRng × Stream' SystemTime)
    (fault : SysRng × Stream' SystemTime → Option (Abort String))
    (m : EStateM (Abort String) World α) : Prop :=
  Foretold World.sources next fault m

/-- Why a generation of `auth` fails : the secret, the length, the random source, the clock. -/
def AuthArgs.fault (env : Option String) (args : AuthArgs) (rng : SysRng) (now : SystemTime) :
    Option (Abort String) :=
  match args.expiresIn with
  | some expiresSecs => ((getSecret env args.secret).fault.map .error).or
      (((bytesFault args.length rng).or
        ((expirySecond (Duration.fromSecs expiresSecs) now).fault.map .error)).map
          (Abort.map TokenError.display))
  | none => (bytesFault args.length rng).map (Abort.map TokenError.display)

/-- Why a generation of `api` fails. -/
def ApiArgs.fault (args : ApiArgs) (rng : SysRng) : Option (Abort String) :=
  (bytesFault args.length rng).map (Abort.map TokenError.display)

/-- Why a generation of `csrf` fails, once it has its secret. -/
def CsrfArgs.fault (args : CsrfArgs) (rng : SysRng) (now : SystemTime) : Option (Abort String) :=
  (csrfFault args.length rng now).map (Abort.map TokenError.display)

/-- Why a text is no key. -/
def keyFault (s : String) : Option (Abort String) :=
  (ApiKey.fromStr s).fault.map fun e => .error e.display

/-- Why a key is not verified against a stored hash : it is none, or scrypt panics. -/
def verifyFault (lib : Crates) (s storedHash : String) : Option (Abort String) :=
  match ApiKey.fromStr s with
  | .error e => some (.error e.display)
  | .ok key =>
    match key.verify lib storedHash with
    | none => some .panic
    | some _ => none

variable (lib) in
/-- The first reason why a command fails or panics, if it does. -/
def Commands.fault (env : Option String) (rng : SysRng) (clock : Stream' SystemTime) :
    Commands → Option (Abort String)
  | .auth args =>
    match args.checkExpiry with
    | some s =>
      match Wire.parse lib s with
      | some _ => clock.head.unixSeconds.fault.map fun e => .error e.display
      | none => none
    | none => (List.range args.count).findSome? fun i =>
        args.fault env (SysRng.next^[i] rng) (clock.get i)
  | .api args =>
    match args.hash, args.verify with
    | some s, _ => keyFault s
    | none, some values =>
      match values with
      | s :: storedHash :: _ => verifyFault lib s storedHash
      | _ => some .panic
    | none, none => (List.range args.count).findSome? fun i => args.fault (SysRng.next^[i] rng)
  | .csrf args => ((getSecret env args.secret).fault.map .error).or <|
    match args.verify with
    | some s => (CsrfToken.fromStr lib s).fault.map fun e =>
        .error ("Failed to parse token: " ++ e.display)
    | none => (List.range args.count).findSome? fun i =>
        args.fault (SysRng.next^[i] rng) (clock.get i)

namespace FailsWith

variable {α : Type} {next : SysRng × Stream' SystemTime → SysRng × Stream' SystemTime}
  {fault : SysRng × Stream' SystemTime → Option (Abort String)}
  {m : EStateM (Abort String) World α}

theorem pure (a : α) : FailsWith id (fun _ => none) (pure a : EStateM (Abort String) World α) :=
  Foretold.pure a

/-- A call fails as what it calls, at the next clock reading. -/
theorem call {f : SystemTime → EStateM (Abort TokenError) SysRng α} {next : SysRng → SysRng}
    (fault : SysRng → SystemTime → Option (Abort TokenError))
    (hf : ∀ now, Foretold id next (fun os => fault os now) (f now)) :
    FailsWith (Prod.map next Stream'.tail)
      (fun s => (fault s.1 s.2.head).map (Abort.map TokenError.display)) (TokenGen.call f) := by
  refine ⟨fun w h => ?_, fun w e h => ?_⟩
  · have hnone : fault w.rng w.clock.head = none := by simpa [World.sources] using h
    obtain ⟨a, os, hrun, hnext⟩ := (hf w.clock.head).ok w.rng hnone
    refine ⟨a, _, call_run_eq_ok_iff.mpr ⟨os, hrun, rfl⟩, ?_⟩
    rw [show os = next w.rng from hnext]
    rfl
  · obtain ⟨e, he, rfl⟩ := Option.map_eq_some_iff.mp h
    obtain ⟨os, hrun⟩ := (hf w.clock.head).error w.rng e he
    refine ⟨{ w with rng := os, clock := w.clock.tail }, ?_⟩
    simp only [TokenGen.call, EStateM.run] at hrun ⊢
    rw [hrun]

/-- What is written afterwards does not fail. -/
theorem bind_writes (hm : FailsWith next fault m) {f : α → EStateM (Abort String) World PUnit}
    (hf : ∀ {w a w'}, m.run w = .ok a w' → ∀ v, ∃ stdout,
      (f a).run v = .ok () { v with stdout := stdout }) : FailsWith next fault (m >>= f) := by
  have hwrites : ∀ {w a w'}, m.run w = .ok a w' →
      Foretold World.sources id (fun _ => none) (f a) := by
    intro w a w' hrun
    refine ⟨fun v _ => ?_, fun v e h => by simp at h⟩
    obtain ⟨stdout, hv⟩ := hf hrun v
    exact ⟨_, _, hv, rfl⟩
  have hbind := Foretold.bind_still hm hwrites
  rw [FailsWith]
  simpa only [Option.or_none] using hbind

/-- Generations fail as the first one that fails. -/
theorem mapM {fault : SysRng → SystemTime → Option (Abort String)}
    (hm : FailsWith nextSources (fun s => fault s.1 s.2.head) m) (count : ℕ) :
    FailsWith nextSources^[count]
      (fun s => (List.range count).findSome? fun i => fault (SysRng.next^[i] s.1) (s.2.get i))
      ((List.range count).mapM fun _ => m) := by
  have h := Foretold.mapM hm (List.range count)
  rw [List.length_range] at h
  have hiterate : ∀ s i, nextSources^[i] s = (SysRng.next^[i] s.1, Stream'.tail^[i] s.2) := by
    intro s i
    rw [nextSources, Prod.map_iterate]
    rfl
  simpa only [FailsWith, hiterate, Stream'.head_iterate_tail] using h

theorem congr {fault' : SysRng × Stream' SystemTime → Option (Abort String)}
    (hm : FailsWith next fault m) (h : ∀ s, fault s = fault' s) : FailsWith next fault' m := by
  obtain rfl : fault = fault' := funext h
  exact hm

end FailsWith

theorem authResult_failsWith (env : Option String) (args : AuthArgs) :
    FailsWith nextSources (fun s => args.fault env s.1 s.2.head) (authResult lib env args) := by
  unfold authResult AuthArgs.fault
  cases args.expiresIn with
  | some expiresSecs =>
    exact Foretold.orAbort_bind fun key _ => Foretold.bind_pure (FailsWith.call _ fun now =>
      AuthTokenBuilder.generate_foretold _ _ _ key now) _
  | none =>
    exact Foretold.bind_pure (FailsWith.call _ fun _ => AuthToken.generate_foretold _ _) _

theorem apiResult_failsWith (args : ApiArgs) :
    FailsWith nextSources (fun s => args.fault s.1) (apiResult lib args) :=
  Foretold.bind_pure (FailsWith.call _ fun _ =>
    (((ApiKeyBuilder.default.withKeyType args.keyType.toApiKeyType).withEnvironment
      args.env.toEnvironment).withLength args.length).generateWithHash_foretold rfl) _

theorem csrfResult_failsWith (key : SecretKey) (args : CsrfArgs) :
    FailsWith nextSources (fun s => args.fault s.1 s.2.head) (csrfResult lib key args) :=
  Foretold.bind_pure (FailsWith.call _ fun now => CsrfToken.generate_foretold key _ _ now) _

/-- A batch of generations and its report. -/
theorem failsWith_report {α : Type} {gen : EStateM (Abort String) World α}
    (fault : SysRng → SystemTime → Option (Abort String))
    (hgen : FailsWith nextSources (fun s => fault s.1 s.2.head) gen) (count : ℕ)
    (plain : α → List String) (json : α → Json) (output : OutputFormat) :
    ∃ next, FailsWith next
      (fun s => (List.range count).findSome? fun i => fault (SysRng.next^[i] s.1) (s.2.get i))
      ((List.range count).mapM (fun _ => gen) >>= report lib count plain json output) := by
  refine ⟨_, (hgen.mapM count).bind_writes fun {w results w'} hrun v => ?_⟩
  have hlen := EStateM.length_of_run_mapM hrun
  rw [List.length_range] at hlen
  exact ⟨_, report_run hlen plain json output v⟩

theorem failsWith_outputField {α : Type}
    {next : SysRng × Stream' SystemTime → SysRng × Stream' SystemTime}
    {fault : SysRng × Stream' SystemTime → Option (Abort String)}
    {m : EStateM (Abort String) World α} (hm : FailsWith next fault m) (output : OutputFormat)
    (name : String) (json : α → Json) (text : α → String) :
    FailsWith next fault (m >>= fun a => outputField lib output name (json a) (text a)) :=
  hm.bind_writes fun _ v => ⟨_, outputField_run output name _ _ v⟩

theorem runAuth_failsWith (env : Option String) (args : AuthArgs) :
    ∃ next, FailsWith next (fun s => (Commands.auth args).fault lib env s.1 s.2)
      (runAuth lib env args) := by
  cases hcheck : args.checkExpiry with
  | none =>
    simp only [Commands.fault, hcheck]
    rw [runAuth_eq_generate hcheck]
    exact failsWith_report _ (authResult_failsWith env args) _ _ _ _
  | some s =>
    simp only [Commands.fault, hcheck]
    rw [runAuth_check hcheck]
    by_cases hdot : '.' ∈ s.toList
    · refine ⟨Prod.map id Stream'.tail, failsWith_outputField ?_ _ _ _ _⟩
      have hne : s ≠ "" := fun h => by simp [h] at hdot
      rw [if_pos hdot, AuthToken.fromStr_of_ne_empty hne, Except.mapError_ok]
      refine FailsWith.congr (Foretold.orAbort_bind fun token htoken => ?_) fun _ => Option.none_or
      obtain rfl := Except.ok.inj htoken
      refine (FailsWith.call _ fun now => .orAbort _).congr fun sources => ?_
      rw [AuthToken.fault_isExpired, Option.map_map]
      cases Wire.parse lib s <;> rfl
    · rw [if_neg hdot, Wire.parse_eq_none_of_not_mem hdot]
      exact ⟨id, failsWith_outputField (FailsWith.pure false) _ _ _ _⟩

theorem failsWith_parsedKey (s : String) : FailsWith id (fun _ => keyFault s)
    (orAbort ((ApiKey.fromStr s).mapError TokenError.display)) := by
  refine FailsWith.congr (Foretold.orAbort _) fun _ => ?_
  rw [Except.fault_mapError, Option.map_map]
  rfl

theorem failsWith_matches (s storedHash : String) :
    FailsWith id (fun _ => verifyFault lib s storedHash)
      (orAbort ((ApiKey.fromStr s).mapError TokenError.display) >>= fun key =>
        orPanic (key.verify lib storedHash)) := by
  unfold verifyFault
  cases ApiKey.fromStr s with
  | error e => exact Foretold.throw _
  | ok key =>
    rw [Except.mapError_ok, orAbort_ok, pure_bind]
    simp only
    cases key.verify lib storedHash with
    | none => exact Foretold.throw _
    | some valid => exact Foretold.pure valid

theorem runApi_failsWith {args : ApiArgs}
    (hargs : ∀ {values}, args.verify = some values → 2 ≤ values.length) (env : Option String) :
    ∃ next, FailsWith next (fun s => (Commands.api args).fault lib env s.1 s.2)
      (runApi lib args) := by
  cases hhash : args.hash with
  | some s =>
    simp only [Commands.fault, hhash]
    rw [runApi_hash hhash]
    exact ⟨id, failsWith_outputField (failsWith_parsedKey s) _ _ _ _⟩
  | none =>
    cases hverify : args.verify with
    | none =>
      simp only [Commands.fault, hhash, hverify]
      rw [runApi_eq_generate hhash hverify]
      exact failsWith_report (fun rng _ => args.fault rng) (apiResult_failsWith args) _ _ _ _
    | some values =>
      obtain ⟨s, storedHash, rest, rfl⟩ := exists_two_values (hargs hverify)
      simp only [Commands.fault, hhash, hverify]
      rw [runApi_verify hhash hverify]
      exact ⟨id, failsWith_outputField (failsWith_matches s storedHash) _ _ _ _⟩

theorem runCsrf_failsWith (env : Option String) (args : CsrfArgs) :
    ∃ next, FailsWith next (fun s => (Commands.csrf args).fault lib env s.1 s.2)
      (runCsrf lib env args) := by
  cases hverify : args.verify with
  | some s =>
    simp only [Commands.fault, hverify]
    rw [runCsrf_verify hverify]
    refine ⟨Prod.map id Stream'.tail, failsWith_outputField ?_ _ _ _ _⟩
    refine Foretold.orAbort_bind fun key _ => ?_
    refine FailsWith.congr (Foretold.orAbort_bind fun token _ =>
      FailsWith.call (fun _ _ => none) fun now => .pure _) fun _ => ?_
    rw [Except.fault_mapError, Option.map_map]
    exact Option.or_none
  | none =>
    simp only [Commands.fault, hverify]
    rw [runCsrf_eq_generate hverify]
    cases hsecret : getSecret env args.secret with
    | ok secret =>
      exact failsWith_report _ (csrfResult_failsWith secret args) _ _ _ _
    | error message =>
      exact ⟨id, Foretold.throw _⟩

variable (lib)

theorem Cli.failsWith (env : Option String) (cli : Cli) :
    ∃ next, FailsWith next (fun s => cli.command.fault lib env s.1 s.2)
      (cli.command.run lib env) := by
  obtain ⟨command, hargs⟩ := cli
  cases command with
  | auth args => exact runAuth_failsWith env args
  | api args => exact runApi_failsWith (hargs rfl) env
  | csrf args => exact runCsrf_failsWith env args

/-- Every process, in every world : it ends well exactly if no reason for it to fail is found, and
otherwise with the first reason on standard error, or in a panic if this is the first reason. -/
theorem exit_of_fault (env : Option String) (cli : Cli) (w : World) :
    (main lib env cli w).1 =
      match cli.command.fault lib env w.rng w.clock with
      | none => .code .success ""
      | some (.error message) => .code .failure ("Error: " ++ message ++ "\n")
      | some .panic => .panic := by
  obtain ⟨next, h⟩ := cli.failsWith lib env
  cases hfault : cli.command.fault lib env w.rng w.clock with
  | none =>
    obtain ⟨⟨⟩, w', hrun, -⟩ := h.ok w hfault
    rw [main, hrun]
  | some e =>
    obtain ⟨w', hrun⟩ := h.error w e hfault
    rw [main, hrun]
    cases e <;> rfl

end TokenGen
