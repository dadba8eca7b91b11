import TokenGen.Error
import TokenGen.Lib.Outcome
import TokenGen.Lib.U64

/-!
# The clock (`std::time`)

A `Duration` is whole seconds and a fraction in nanoseconds, a `SystemTime` an instant as
its distance from the Unix epoch. Every function of the library that reads the clock takes
its whole-second reading the same way (`SystemTime.unixSeconds`) and reads it at most once,
so the model passes the reading as an argument `now`.
-/

namespace TokenGen

/-- A span of time : whole seconds and less than a second of nanoseconds. -/
structure Duration where
  secs : UInt64
  nanos : Nat
  nanos_lt : nanos < 1000000000
  deriving DecidableEq

/-- `Duration::from_secs`. -/
def Duration.fromSecs (secs : UInt64) : Duration :=
  ⟨secs, 0, by omega⟩

/-- The nanoseconds of a duration. -/
def Duration.inNanos (d : Duration) : ℕ :=
  d.secs.toNat * 1000000000 + d.nanos

/-- A clock reading, at or after the Unix epoch or before it. -/
inductive SystemTime where
  | sinceEpoch (elapsed : Duration)
  | beforeEpoch
  deriving DecidableEq

/-- `duration_since(UNIX_EPOCH)`, with the displayed text of a `SystemTimeError`. -/
def SystemTime.durationSinceEpoch : SystemTime → Except String Duration
  | .sinceEpoch elapsed => .ok elapsed
  | .beforeEpoch => .error "second time provided was later than self"

/-- The whole seconds of a clock reading :
`now.duration_since(UNIX_EPOCH).map_err(CryptoError)?.as_secs()`. -/
def SystemTime.unixSeconds (now : SystemTime) : Except TokenError UInt64 := do
  let elapsed ← now.durationSinceEpoch.mapError .cryptoError
  return elapsed.secs

@[simp] theorem SystemTime.unixSeconds_sinceEpoch (d : Duration) :
    (SystemTime.sinceEpoch d).unixSeconds = .ok d.secs :=
  rfl

@[simp] theorem SystemTime.unixSeconds_beforeEpoch :
    SystemTime.beforeEpoch.unixSeconds =
      .error (.cryptoError "second time provided was later than self") :=
  rfl

end TokenGen
