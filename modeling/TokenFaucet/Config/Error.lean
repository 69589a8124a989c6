import TokenFaucet.Chain.Error
import TokenFaucet.Config.Settings
import TokenFaucet.Config.Validation
import TokenFaucet.Registry.Token
import TokenFaucet.Signer.Error

set_option autoImplicit false

namespace TokenFaucet

inductive ConfigError where
  | unreadableFile (path reason : String)
  | layout (why : Layout.Error)
  | setting (why : Settings.Error)
  | missingSecret (kind : ChainKind) (variableName : String)
  | signer (why : SignerError)
  | chain (why : ChainError)
  | registry (why : RegistryError)

def ConfigError.message : ConfigError → String
  | unreadableFile path reason => s!"failed to read {path}: {reason}"
  | layout why => why.message
  | setting why => why.message
  | missingSecret kind variableName =>
    s!"{kind.name} chains are configured but {variableName} is not set"
  | signer why => s!"signer error: {why.message}"
  | chain why => s!"chain error: {why.message}"
  | registry why => s!"registry error: {why.message}"

end TokenFaucet
