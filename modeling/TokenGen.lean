import TokenGen.KeyVerification
import TokenGen.SameSignature
import TokenGen.SecretIsolation
import TokenGen.RoundTrip
import TokenGen.SignedFormat
import TokenGen.TokenClock
import TokenGen.HexText
import TokenGen.Entropy
import TokenGen.ExpiryCheck
import TokenGen.CliOutput
import TokenGen.Noninterference
import TokenGen.Verdicts
import TokenGen.Findings
import TokenGen.StoredHash
import TokenGen.ExitCode
import TokenGen.Repetition
import TokenGen.Simulation
