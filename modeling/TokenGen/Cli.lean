import TokenGen.ApiKey
import TokenGen.Auth
import TokenGen.Csrf

/-!
# The command line (`src/bin/token-gen.rs`)

A command runs against a `World` : the random source, the clock readings still to come, and
the text written to standard output so far. It ends well, with an error text for standard
error, or in a panic : one of the library, or an index out of range. Arguments are as `clap`
hands them over, and `env` is the value of `TOKEN_GEN_SECRET`, if it is set to Unicode text.

`runAuth_check_dotted` is what `auth --check-expiry` does on a text with a dot.
-/

namespace TokenGen

/-! ## The world of a command -/

/-- What a command reads and writes. -/
structure World where
  rng : SysRng
  clock : Stream' SystemTime
  stdout : String

/-- A call of a library function that may read the clock once; its error is passed on as text
(`map_err(|e| e.to_string())`). A reading the function does not use is skipped. -/
def call {α : Type} (f : SystemTime → EStateM (Abort TokenError) SysRng α) :
    EStateM (Abort String) World α :=
  fun w =>
    match (f w.clock.head).run w.rng with
    | .ok a rng => .ok a { w with rng := rng, clock := w.clock.tail }
    | .error e rng => .error (e.map TokenError.display) { w with rng := rng, clock := w.clock.tail }

/-- `println!`. -/
def println (line : String) : EStateM (Abort String) World PUnit :=
  modify fun w => { w with stdout := w.stdout ++ line ++ "\n" }

/-! ## Arguments -/

/-- Output format for CLI results. -/
inductive OutputFormat where
  | plain
  | json
  deriving DecidableEq

/-- Token format for auth tokens. -/
inductive TokenFormat where
  | base64
  | hex
  deriving DecidableEq

/-- `From<TokenFormat> for Format`. -/
def TokenFormat.toFormat : TokenFormat → Format
  | .base64 => .base64Url
  | .hex => .hex

/-- API key type for CLI. -/
inductive CliApiKeyType where
  | api
  | sk
  | pk
  deriving DecidableEq

/-- `From<CliApiKeyType> for ApiKeyType`. -/
def CliApiKeyType.toApiKeyType : CliApiKeyType → ApiKeyType
  | .api => .api
  | .sk => .secret
  | .pk => .publicKey

/-- Environment for API keys. -/
inductive CliEnvironment where
  | live
  | test
  | staging
  deriving DecidableEq

/-- `From<CliEnvironment> for Environment`. -/
def CliEnvironment.toEnvironment : CliEnvironment → Environment
  | .live => .live
  | .test => .test
  | .staging => .staging

/-- Auth token generation arguments. -/
structure AuthArgs where
  length : ℕ := 32
  count : ℕ := 1
  output : OutputFormat := .plain
  format : TokenFormat := .base64
  expiresIn : Option UInt64 := none
  checkExpiry : Option String := none
  secret : Option String := none

/-- API key generation arguments. -/
structure ApiArgs where
  length : ℕ := 32
  count : ℕ := 1
  output : OutputFormat := .plain
  env : CliEnvironment := .live
  keyType : CliApiKeyType := .api
  hash : Option String := none
  verify : Option (List String) := none

/-- CSRF token generation arguments. The session id is required, and `clap` rejects an empty
one. -/
structure CsrfArgs where
  length : ℕ := 32
  count : ℕ := 1
  output : OutputFormat := .plain
  secret : Option String := none
  sessionId : String
  verify : Option String := none
  maxAge : UInt64 := 3600
  sessionId_ne_empty : sessionId ≠ ""

/-! ## The commands -/

/-- The secret from the argument or from the environment. -/
def getSecret (env secretArg : Option String) : Except String SecretKey :=
  match secretArg with
  | some s => (SecretKey.fromString s).mapError fun e => "Invalid secret: " ++ e.display
  | none =>
    match env with
    | some s => (SecretKey.fromString s).mapError fun e => "Invalid secret: " ++ e.display
    | none => .error "Secret required. Use -s/--secret or set TOKEN_GEN_SECRET env var."

/-- `output_json`. -/
def outputJson (lib : Crates) (value : Json) : EStateM (Abort String) World PUnit :=
  println (lib.toJson value)

/-- `output_plain_dict`. -/
def outputPlainDict : List (String × String) → EStateM (Abort String) World PUnit
  | [] => return
  | (key, value) :: items => do
    println (key ++ ": " ++ value)
    outputPlainDict items

/-- `results[0]`. -/
def indexFirst {α : Type} (results : List α) : EStateM (Abort String) World α :=
  match results[0]? with
  | some r => return r
  | none => throw .panic

/-- One line for each text. -/
def printLines : List String → EStateM (Abort String) World PUnit
  | [] => return
  | line :: lines => do
    println line
    printLines lines

variable (lib : Crates)

/-- `token-gen auth`. -/
def runAuth (env : Option String) (args : AuthArgs) : EStateM (Abort String) World PUnit :=
  match args.checkExpiry with
  | some tokenStr => do
    let expired ←
      if '.' ∈ tokenStr.toList then do
        let token ← orAbort ((AuthToken.fromStr lib tokenStr).mapError
          fun e => "Failed to parse token: " ++ e.display)
        call fun now => orAbort (token.isExpired lib now)
      else pure false
    match args.output with
    | .json => outputJson lib (.obj [("expired", .bool expired)])
    | .plain => outputPlainDict [("expired", toString expired)]
  | none => do
    let format := args.format.toFormat
    let results ← (List.range args.count).mapM fun _ =>
      match args.expiresIn with
      | some expiresSecs => do
        let secret ← orAbort (getSecret env args.secret)
        let token ← call ((((AuthTokenBuilder.new.withLength args.length).withFormat
          format).withExpiresIn (Duration.fromSecs expiresSecs)).withSecretKey secret
          |>.generate lib)
        pure token.asStr
      | none => do
        let token ← call fun _ => AuthToken.generate lib args.length format
        pure token.asStr
    match args.output with
    | .json =>
      if args.count = 1 then do
        let token ← indexFirst results
        outputJson lib (.obj [("token", .str token)])
      else
        let tokens := results.map fun token => Json.obj [("token", .str token)]
        println (lib.toJson (.obj [("tokens", .arr tokens)]))
    | .plain => printLines results

/-- `token-gen api`. -/
def runApi (args : ApiArgs) : EStateM (Abort String) World PUnit :=
  match args.hash with
  | some key => do
    let apiKey ← orAbort ((ApiKey.fromStr key).mapError TokenError.display)
    let hash := apiKey.hashSha256 lib
    match args.output with
    | .json => outputJson lib (.obj [("hash", .str hash)])
    | .plain => outputPlainDict [("hash", hash)]
  | none =>
    match args.verify with
    | some verifyArgs => do
      let some key := verifyArgs[0]? | throw .panic
      let some storedHash := verifyArgs[1]? | throw .panic
      let apiKey ← orAbort ((ApiKey.fromStr key).mapError TokenError.display)
      let valid ← orPanic (apiKey.verify lib storedHash)
      match args.output with
      | .json => outputJson lib (.obj [("valid", .bool valid)])
      | .plain => outputPlainDict [("valid", toString valid)]
    | none => do
      let keyType := args.keyType.toApiKeyType
      let environment := args.env.toEnvironment
      let results ← (List.range args.count).mapM fun _ => do
        let generated ← call fun _ => (((ApiKeyBuilder.default.withKeyType keyType).withEnvironment
          environment).withLength args.length).generateWithHash lib
        pure (generated.key.asStr, generated.keyHash)
      match args.output with
      | .json =>
        if args.count = 1 then do
          let (key, keyHash) ← indexFirst results
          outputJson lib (.obj [("key", .str key), ("key_hash", .str keyHash)])
        else
          let keys := results.map fun (key, keyHash) =>
            Json.obj [("key", .str key), ("key_hash", .str keyHash)]
          println (lib.toJson (.obj [("tokens", .arr keys)]))
      | .plain =>
        outputPlainDict (results.flatMap fun (key, keyHash) =>
          [("key", key), ("key_hash", keyHash)])

/-- `token-gen csrf`. -/
def runCsrf (env : Option String) (args : CsrfArgs) : EStateM (Abort String) World PUnit := do
  let secret ← orAbort (getSecret env args.secret)
  match args.verify with
  | some tokenStr => do
    let token ← orAbort ((CsrfToken.fromStr lib tokenStr).mapError
      fun e => "Failed to parse token: " ++ e.display)
    let valid ← call fun now =>
      pure (token.verify lib now secret args.sessionId args.maxAge).isOk
    match args.output with
    | .json => outputJson lib (.obj [("valid", .bool valid)])
    | .plain => outputPlainDict [("valid", toString valid)]
  | none => do
    let results ← (List.range args.count).mapM fun _ => do
      let token ← call (CsrfToken.generate lib secret args.sessionId args.length)
      pure token.asStr
    match args.output with
    | .json =>
      if args.count = 1 then do
        let token ← indexFirst results
        outputJson lib (.obj [("token", .str token)])
      else
        let tokens := results.map fun token => Json.obj [("token", .str token)]
        println (lib.toJson (.obj [("tokens", .arr tokens)]))
    | .plain => printLines results

/-! ## Expiry inspection -/

/-- What `auth --check-expiry` prints. -/
def expiryReport (output : OutputFormat) (expired : Bool) : String :=
  match output with
  | .json => lib.toJson (.obj [("expired", .bool expired)]) ++ "\n"
  | .plain => "expired: " ++ toString expired ++ "\n"

variable {lib}

theorem toString_bool_injective : Function.Injective fun b : Bool => toString b := by
  decide

theorem expiryReport_injective (hjson : lib.JsonLawful) (output : OutputFormat) :
    Function.Injective (expiryReport lib output) := by
  intro expired expired' h
  apply toString_bool_injective
  cases output with
  | json => simpa [expiryReport, hjson.obj, hjson.bool] using h
  | plain => simpa [expiryReport] using h

theorem println_run (line : String) (w : World) :
    (println line).run w = .ok () { w with stdout := w.stdout ++ line ++ "\n" } :=
  rfl

theorem call_orAbort_run {α : Type} (f : SystemTime → Except TokenError α) (w : World) :
    (call fun now => orAbort (f now)).run w =
      match f w.clock.head with
      | .ok a => .ok a { w with clock := w.clock.tail }
      | .error e => .error (.error e.display) { w with clock := w.clock.tail } := by
  simp only [call, EStateM.run]
  cases f w.clock.head <;> rfl

/-- A text with a dot is parsed and inspected, and the finding printed. -/
theorem runAuth_check_dotted {env : Option String} {args : AuthArgs} {s : String}
    (hargs : args.checkExpiry = some s) (hdot : '.' ∈ s.toList) (w : World) :
    (runAuth lib env args).run w =
      match AuthToken.isExpired lib ⟨s, (Wire.parse lib s).isSome⟩ w.clock.head with
      | .ok expired => .ok () { w with
          clock := w.clock.tail, stdout := w.stdout ++ expiryReport lib args.output expired }
      | .error e => .error (.error e.display) { w with clock := w.clock.tail } := by
  have hne : s ≠ "" := by
    rintro rfl
    simp at hdot
  simp only [runAuth, hargs, hdot, if_true, AuthToken.fromStr_of_ne_empty hne,
    Except.mapError_ok, orAbort_ok, pure_bind, EStateM.run_bind, call_orAbort_run]
  cases AuthToken.isExpired lib ⟨s, (Wire.parse lib s).isSome⟩ w.clock.head with
  | error e => rfl
  | ok expired =>
    cases args.output <;>
      simp [outputJson, outputPlainDict, println_run, expiryReport, String.append_assoc]

end TokenGen
