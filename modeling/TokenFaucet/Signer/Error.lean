import TokenFaucet.Bytes.Hex
import TokenFaucet.Bytes.Base58
import TokenFaucet.Json.Reading

set_option autoImplicit false

namespace TokenFaucet

inductive SignerError where
  | badHex (why : Bytes.Hex.Error)
  | notAScalar
  | badPem
  | badKeyFormat
  | badKeypairJson (why : Json.Fault)
  | badBase58 (why : Bytes.Base58.Error)
  | badSecretLength (length : Nat)
  | notAPoint
  | keypairMismatch
  | badAccountId (text : String)
deriving DecidableEq

namespace SignerError

/-- The wording without the words for the class of the error. -/
def detail : SignerError → String
  | badHex why => why.message
  | notAScalar => "signature error"
  | badPem => "Invalid PEM"
  | badKeyFormat => "Invalid key format"
  | badKeypairJson why => "Invalid keypair JSON: " ++ why.message
  | badBase58 why => "Invalid base58: " ++ why.message
  | badSecretLength length => s!"ed25519 secret must be 32 or 64 bytes, got {length}"
  | notAPoint => "Keypair mismatch: signature error: Cannot decompress Edwards point"
  | keypairMismatch => "Keypair mismatch: signature error: Mismatched Keypair detected"
  | badAccountId text => text

/-- Whether the error is about the account and not about the key. -/
def isAboutAccount : SignerError → Bool
  | badAccountId _ => true
  | _ => false

def message (e : SignerError) : String :=
  (if e.isAboutAccount then "Invalid account id: " else "Invalid private key: ") ++ e.detail

end SignerError

end TokenFaucet
