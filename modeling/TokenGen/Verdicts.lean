import TokenGen.CliRoundTrip

/-!
# Verdicts over time

The tokens carry their times with them and the program remembers nothing, so whether a token is
accepted depends on the clock alone. On a clock that never goes back (`NeverBack`), the verdicts on
a token only change one way : `verdicts_final`, whatever other processes run between two checks, a
CSRF token found invalid is not found valid again, and an auth token reported as expired is not
reported as unexpired again.
-/

namespace TokenGen

variable {lib : Crates}

/-! ## The clock of a session -/

/-- Readings since the epoch, each at or after the ones before it. -/
def NeverBack (clock : Stream' SystemTime) : Prop :=
  ∃ times : ℕ → Duration, (∀ i, clock.get i = .sinceEpoch (times i)) ∧
    Monotone fun i => (times i).inNanos

/-- The seconds do not go back either. -/
theorem Duration.secs_le_of_inNanos_le {d d' : Duration} (h : d.inNanos ≤ d'.inNanos) :
    d.secs.toNat ≤ d'.secs.toNat := by
  have hd := d.nanos_lt
  have hd' := d'.nanos_lt
  simp only [inNanos] at h
  omega

variable (lib) in
/-- A session only moves on in the readings of its clock. -/
theorem exists_clock_session (script : List (Option String × Cli)) (w : World) :
    ∃ j, (session lib script w).2.clock = w.clock.drop j := by
  induction script generalizing w with
  | nil => exact ⟨0, rfl⟩
  | cons process script ih =>
    obtain ⟨env, cli⟩ := process
    obtain ⟨rng, clock, stdout⟩ := w
    obtain ⟨exit, lines, k, j, -, -, -, hmain⟩ := main_ends lib env cli rng clock
    obtain ⟨j', hclock⟩ := ih (main lib env cli ⟨rng, clock, stdout⟩).2
    refine ⟨j + j', ?_⟩
    rw [session, hclock, hmain, Stream'.drop_drop]

theorem session_append (script script' : List (Option String × Cli)) (w : World) :
    (session lib (script ++ script') w).2 =
      (session lib script' (session lib script w).2).2 := by
  induction script generalizing w with
  | nil => rfl
  | cons process script ih => exact ih _

variable (lib) in
/-- Of two points of a session, the later one reads the same second or a later one. -/
theorem exists_secs_le (script script' : List (Option String × Cli)) {w : World}
    (hclock : NeverBack w.clock) : ∃ d d' : Duration,
      (session lib script w).2.clock.head = .sinceEpoch d ∧
      (session lib (script ++ script') w).2.clock.head = .sinceEpoch d' ∧
      d.secs.toNat ≤ d'.secs.toNat := by
  obtain ⟨times, htimes, hmono⟩ := hclock
  obtain ⟨i, hi⟩ := exists_clock_session lib script w
  obtain ⟨j, hj⟩ := exists_clock_session lib script' (session lib script w).2
  refine ⟨times i, times (i + j), ?_, ?_, Duration.secs_le_of_inNanos_le (hmono (by omega))⟩
  · rw [hi, Stream'.head_drop, htimes]
  · rw [session_append, hj, hi, Stream'.drop_drop, Stream'.head_drop, htimes]

/-! ## Checks -/

/-- What `csrf --verify` and `auth --check-expiry` say about a text at a point of a session. -/
structure Says (lib : Crates) (env : Option String) (cli : Cli) (w : World) (output : OutputFormat)
    (name : String) (verdict : Bool) : Prop where
  exit : (main lib env cli w).1 = .code .success ""
  stdout : (main lib env cli w).2.stdout = w.stdout ++
    Text.unlines [fieldLine lib output name (.bool verdict) (toString verdict)]

theorem Says.of_run {env : Option String} {cli : Cli} {w : World} {clock : Stream' SystemTime}
    {output : OutputFormat} {name : String} {verdict : Bool}
    (h : (cli.command.run lib env).run w = .ok () { w with
      clock := clock
      stdout := w.stdout ++
        Text.unlines [fieldLine lib output name (.bool verdict) (toString verdict)] }) :
    Says lib env cli w output name verdict := by
  have hmain := main_eq_success_iff.mpr h
  exact ⟨congrArg Prod.fst hmain, congrArg (fun result => result.2.stdout) hmain⟩

/-- `csrf --verify` says valid exactly if the token is fresh and signed. -/
theorem exists_says_csrf {env : Option String} {cli : Cli} {args : CsrfArgs}
    (hcli : cli.command = .csrf args) {s : String} (hargs : args.verify = some s)
    {key : SecretKey} (hkey : getSecret env args.secret = .ok key) {wire : Wire}
    (hwire : Wire.parse lib s = some wire) {w : World} {now : Duration}
    (hnow : w.clock.head = .sinceEpoch now) :
    ∃ valid : Bool, Says lib env cli w args.output "valid" valid ∧
      (valid = true ↔ now.secs.toNat - wire.timestamp.toNat ≤ args.maxAge.toNat ∧
        wire.Signed (lib.hmacSha256 key.bytes) (Text.bytes args.sessionId)) := by
  obtain ⟨valid, hvalid, hrun⟩ := runCsrf_verify_parsed hargs hkey hwire w
  refine ⟨valid, .of_run (by rw [hcli]; exact hrun), ?_⟩
  rw [hvalid, hnow]
  simp [CsrfToken.Fresh]

theorem expiryReport_eq (output : OutputFormat) (expired : Bool) :
    expiryReport lib output expired =
      Text.unlines [fieldLine lib output "expired" (.bool expired) (toString expired)] := by
  cases output <;> simp [expiryReport, fieldLine]

/-- `auth --check-expiry` says expired exactly if the text is a token and its second is over. -/
theorem exists_says_auth {env : Option String} {cli : Cli} {args : AuthArgs}
    (hcli : cli.command = .auth args) {s : String} (hargs : args.checkExpiry = some s) {w : World}
    {now : Duration} (hnow : w.clock.head = .sinceEpoch now) :
    ∃ expired : Bool, Says lib env cli w args.output "expired" expired ∧
      (expired = true ↔ ∃ wire, Wire.parse lib s = some wire ∧
        wire.timestamp.toNat < now.secs.toNat) := by
  cases hwire : Wire.parse lib s with
  | some wire =>
    have hrun : (runAuth lib env args).run w = _ := runAuth_check_parsed hargs hwire hnow
    rw [expiryReport_eq] at hrun
    refine ⟨_, .of_run (by rw [hcli]; exact hrun), ?_⟩
    simp [UInt64.lt_iff_toNat_lt]
  | none =>
    have hfalse : (false = true ↔ ∃ wire, (none : Option Wire) = some wire ∧
        wire.timestamp.toNat < now.secs.toNat) := by simp
    by_cases hdot : '.' ∈ s.toList
    · have hrun : (runAuth lib env args).run w = _ :=
        runAuth_check_of_parse_eq_none hargs hdot hwire w
      rw [expiryReport_eq] at hrun
      exact ⟨false, .of_run (by rw [hcli]; exact hrun), hfalse⟩
    · have hrun : (runAuth lib env args).run w = _ := runAuth_check_plain hargs hdot w
      rw [expiryReport_eq] at hrun
      exact ⟨false, .of_run (by rw [hcli]; exact hrun), hfalse⟩

/-! ## Verdicts are final -/

/-- On a clock that never goes back, the same check at two points of a session : a CSRF token that
is valid at the later one was valid at the earlier one, and an auth token that is expired at the
earlier one is expired at the later one. -/
theorem verdicts_final {w : World} (hclock : NeverBack w.clock)
    (before between : List (Option String × Cli)) (env : Option String) (cli : Cli) :
    (∀ args s key wire, cli.command = .csrf args → args.verify = some s →
      getSecret env args.secret = .ok key → Wire.parse lib s = some wire →
      ∃ valid valid', Says lib env cli (session lib before w).2 args.output "valid" valid ∧
        Says lib env cli (session lib (before ++ between) w).2 args.output "valid" valid' ∧
        (valid' = true → valid = true)) ∧
    ∀ args s, cli.command = .auth args → args.checkExpiry = some s →
      ∃ expired expired',
        Says lib env cli (session lib before w).2 args.output "expired" expired ∧
        Says lib env cli (session lib (before ++ between) w).2 args.output "expired" expired' ∧
        (expired = true → expired' = true) := by
  obtain ⟨now, now', hnow, hnow', hle⟩ :=
    exists_secs_le lib before between hclock
  refine ⟨fun args s key wire hcli hargs hkey hwire => ?_, fun args s hcli hargs => ?_⟩
  · obtain ⟨valid, hsays, hvalid⟩ := exists_says_csrf hcli hargs hkey hwire hnow
    obtain ⟨valid', hsays', hvalid'⟩ := exists_says_csrf hcli hargs hkey hwire hnow'
    refine ⟨valid, valid', hsays, hsays', fun h => ?_⟩
    obtain ⟨hfresh, hsigned⟩ := hvalid'.mp h
    exact hvalid.mpr ⟨by omega, hsigned⟩
  · obtain ⟨expired, hsays, hexpired⟩ := exists_says_auth hcli hargs hnow
    obtain ⟨expired', hsays', hexpired'⟩ := exists_says_auth hcli hargs hnow'
    refine ⟨expired, expired', hsays, hsays', fun h => ?_⟩
    obtain ⟨wire, hwire, hlt⟩ := hexpired.mp h
    exact hexpired'.mpr ⟨wire, hwire, by omega⟩

/-- A clock that stands at the epoch, then an hour and then an hour and a second later. -/
def World.passing : World :=
  ⟨SysRng.zeros, Stream'.cons (.sinceEpoch (Duration.fromSecs 0)) (Stream'.cons
    (.sinceEpoch (Duration.fromSecs 3600)) (Stream'.const
      (.sinceEpoch (Duration.fromSecs 3601)))), ""⟩

theorem neverBack_passing : NeverBack World.passing.clock := by
  refine ⟨fun i => match i with
    | 0 => Duration.fromSecs 0
    | 1 => Duration.fromSecs 3600
    | _ + 2 => Duration.fromSecs 3601, fun i => ?_, monotone_nat_of_le_succ fun i => ?_⟩
  · rcases i with _ | _ | i <;> rfl
  · rcases i with _ | _ | i
    · simp [Duration.inNanos, Duration.fromSecs]
    · simp [Duration.inNanos, Duration.fromSecs]
    · exact le_rfl

/-- A token that was issued at the first reading, checked at the second, and checked again at the
third. -/
theorem verdicts_final_standard :
    account Crates.standard [(some "0123456789abcdef", Cli.inSessionS none)] World.passing =
      [⟨SecretKey.hexDigits, some "s", Wire.inSessionS.render Crates.standard⟩] ∧
    ∃ valid valid',
      Says Crates.standard (some "0123456789abcdef")
        (Cli.inSessionS (some (Wire.inSessionS.render Crates.standard)))
        (session Crates.standard [(some "0123456789abcdef", Cli.inSessionS none)]
          World.passing).2 .plain "valid" valid ∧
      Says Crates.standard (some "0123456789abcdef")
        (Cli.inSessionS (some (Wire.inSessionS.render Crates.standard)))
        (session Crates.standard ([(some "0123456789abcdef", Cli.inSessionS none)] ++
          [(none, Cli.oneKey)]) World.passing).2 .plain "valid" valid' ∧
      (valid' = true → valid = true) := by
  have hkey : getSecret (some "0123456789abcdef") none = .ok SecretKey.hexDigits := rfl
  have hcli : (Cli.inSessionS (some (Wire.inSessionS.render Crates.standard))).command =
    .csrf _ := rfl
  exact ⟨account_inSessionS rfl rfl, (verdicts_final neverBack_passing _ _ _ _).1 _ _ _ _ hcli rfl
    hkey (Wire.parse_render Crates.standard_base64Lawful Wire.inSessionS)⟩

end TokenGen
