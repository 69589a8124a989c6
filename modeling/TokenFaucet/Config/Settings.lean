import TokenFaucet.Number.Numeral
import TokenFaucet.Text.Blank
import TokenFaucet.Text.Debug
import TokenFaucet.Url.Basic

set_option autoImplicit false

namespace TokenFaucet

/-- The secrets that the signers are made of. -/
structure Secrets where
  evmKey : Option String
  solanaKey : Option String
  nearAccount : Option String
  nearKey : Option String
deriving DecidableEq

/-- A secret as diagnostics show it: whether it is set. -/
def Secrets.veiled (s : Option String) : String :=
  Text.debugQuoted (if s.isSome then "<set>" else "<unset>")

def Secrets.debug (s : Secrets) : String :=
  Text.debugRecord "SignerSecrets"
    [("evm_key", veiled s.evmKey), ("solana_key", veiled s.solanaKey),
      ("near_account", Text.debugOption (s.nearAccount.map Text.debugQuoted)),
      ("near_key", veiled s.nearKey)]

structure Settings where
  layoutPath : String
  dataDirectory : String
  host : String
  port : Nat
  doormanUrl : Option String
  /-- How many seconds to wait for a network. -/
  timeout : Nat
  secrets : Secrets
  port_lt : port < UInt16.size
  timeout_pos : 0 < timeout

namespace Settings

inductive Fault where
  | numeral (why : Number.NumeralError)
  | notPositive
  | address (why : Url.Error)
deriving DecidableEq

def Fault.message : Fault → String
  | .numeral why => why.message
  | .notPositive => "must be greater than 0"
  | .address why => why.message

structure Error where
  variableName : String
  why : Fault
deriving DecidableEq

def Error.message (e : Error) : String :=
  s!"invalid environment variable {e.variableName}: {e.why.message}"

def doormanVariable : String := "DOORMAN_URL"

/-- The variables that settings are read from. -/
def variableNames : List String :=
  ["FAUCET_CONFIG", "DATA_DIR", "HOST", "PORT", doormanVariable, "RPC_TIMEOUT_SECS",
    "EVM_SIGNER_KEY", "SOLANA_SIGNER_KEY", "NEAR_SIGNER_ACCOUNT", "NEAR_SIGNER_KEY"]

def value? (lookup : String → Option String) (name : String) : Option String :=
  (lookup name).filter fun v => !Text.allBlank v

/-- A number below a bound, from a variable or its default. -/
def number (lookup : String → Option String) (name : String) (bound default : Nat) :
    Except Error Nat :=
  match value? lookup name with
  | some v => (Number.Numeral.parse bound (Text.trim v)).mapError fun e => ⟨name, .numeral e⟩
  | none => .ok default

theorem number_lt {lookup : String → Option String} {name : String} {bound default n : Nat}
    (h : number lookup name bound default = .ok n) (hbound : 0 < bound)
    (hdefault : default < bound) : n < bound := by
  unfold number at h
  split at h
  · next v _ =>
    cases hp : Number.Numeral.parse bound (Text.trim v) with
    | error e =>
      rw [hp] at h
      have impossible : (.error ⟨name, .numeral e⟩ : Except Error Nat) = .ok n := h
      cases impossible
    | ok m =>
      rw [hp] at h
      have same : (.ok m : Except Error Nat) = .ok n := h
      cases same
      exact Number.Numeral.parse_lt hbound hp
  · cases h
    exact hdefault

/-- Reads settings from any source of variables. -/
def read (lookup : String → Option String) : Except Error Settings :=
  let value := value? lookup
  match hport : number lookup "PORT" UInt16.size 8080 with
  | .error e => .error e
  | .ok port =>
    match number lookup "RPC_TIMEOUT_SECS" UInt64.size 15 with
    | .error e => .error e
    | .ok timeout =>
      if htimeout : 0 < timeout then
        .ok
          { layoutPath := (value "FAUCET_CONFIG").getD "faucet.json"
            dataDirectory := (value "DATA_DIR").getD "/data"
            host := (value "HOST").getD "0.0.0.0"
            port := port
            doormanUrl := value doormanVariable
            timeout := timeout
            secrets :=
              { evmKey := value "EVM_SIGNER_KEY"
                solanaKey := value "SOLANA_SIGNER_KEY"
                nearAccount := value "NEAR_SIGNER_ACCOUNT"
                nearKey := value "NEAR_SIGNER_KEY" }
            port_lt := number_lt hport (by decide) (by decide)
            timeout_pos := htimeout }
      else .error ⟨"RPC_TIMEOUT_SECS", .notPositive⟩

end Settings

end TokenFaucet
