/-!
# Errors of the cryptographic layer
-/
namespace SealedSync

inductive CryptoError where
  | encryption (reason : String)
  | decryption (reason : String)
  | keyDerivation (reason : String)
  | invalidKeyLength (expected actual : Nat)
  | encoding (reason : String)
  deriving DecidableEq, Repr

def CryptoError.message : CryptoError → String
  | .encryption reason => s!"encryption failed: {reason}"
  | .decryption reason => s!"decryption failed: {reason}"
  | .keyDerivation reason => s!"key derivation failed: {reason}"
  | .invalidKeyLength expected actual =>
      s!"invalid key length: expected {expected} bytes, got {actual}"
  | .encoding reason => s!"invalid encoding: {reason}"

end SealedSync
