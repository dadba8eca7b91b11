/-!
# Errors (`src/error.rs`)

`TokenError` is every way a token operation fails, with the text each error displays.
-/

namespace TokenGen

/-- Errors that can occur during token operations. -/
inductive TokenError where
  | insufficientEntropy (requested minimum : Nat)
  | expired
  | invalidSignature
  | invalidFormat (text : String)
  | invalidLength (text : String)
  | cryptoError (text : String)
  | parseError (text : String)
  deriving DecidableEq, Repr

/-- The displayed text (`#[error(…)]`). -/
def TokenError.display : TokenError → String
  | .insufficientEntropy requested minimum =>
    "insufficient entropy: requested " ++ toString requested ++ " bytes, minimum is " ++
      toString minimum
  | .expired => "token has expired"
  | .invalidSignature => "invalid signature"
  | .invalidFormat text => "invalid format: " ++ text
  | .invalidLength text => "invalid length: " ++ text
  | .cryptoError text => "cryptographic error: " ++ text
  | .parseError text => "parse error: " ++ text

end TokenGen
