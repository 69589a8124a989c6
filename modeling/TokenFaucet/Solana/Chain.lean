import TokenFaucet.Bytes.Base64
import TokenFaucet.Chain.Error
import TokenFaucet.ChainKind
import TokenFaucet.Signer.Edwards
import TokenFaucet.Solana.Message

set_option autoImplicit false

namespace TokenFaucet

open Network (Attempt)

structure SolanaChain where
  profile : ChainProfile
  client : Network.Client
  signer : SolanaSigner

namespace SolanaChain

/-- Sets the cluster up, whose node has an address. -/
def ofProfile (profile : ChainProfile) (signer : SolanaSigner) (limit : Nat) :
    Except ChainError SolanaChain := do
  let url ← (Url.parse profile.rpc).mapError (.badEndpoint profile.rpc)
  return ⟨profile, ⟨profile.clientName .solana, url, limit, 1⟩, signer⟩

/-- Reads a record with one field, `value`. -/
def valueReading {α : Type} (reading : Json.Reading α) : Json.Reading α :=
  let value := Json.Reading.required "value" reading
  Json.Reading.record "ValueResponse" [value.slot] fun found => found.get value

def blockhashReading : Json.Reading String :=
  let blockhash := Json.Reading.required "blockhash" Json.Reading.string
  Json.Reading.record "LatestBlockhash" [blockhash.slot] fun found => found.get blockhash

def call {α : Type} (c : SolanaChain) (method : String) (params : List Json)
    (reading : Json.Reading α) : Attempt ChainError α :=
  (c.client.call method (.array params) reading).adapt (.ofCall c.client.limit method)

def finalized : Json := .object [("commitment", .string "finalized")]

def version (c : SolanaChain) : Attempt ChainError String := do
  let version ← c.call "getVersion" [] Network.anyValue
  return ((version.get? "solana-core").bind Json.string?).getD "unknown"

def latestBlockhash (c : SolanaChain) : Attempt ChainError Bytes := do
  let text ← c.call "getLatestBlockhash" [finalized] (valueReading blockhashReading)
  match Bytes.Base58.decodeExact? 32 text with
  | some hash => return hash
  | none => throw (.badBlockhash text)

def balance (c : SolanaChain) (address : String) : Attempt ChainError MinorUnits := do
  let lamports ← c.call "getBalance" [.string address, finalized]
    (valueReading Json.Reading.uint64)
  return ⟨lamports.toNat, Nat.lt_trans lamports.toNat_lt (by decide)⟩

/-- The receiver and the lamports of a transfer. -/
def transferInput (address : String) (amount : MinorUnits) : Except ChainError (Bytes × UInt64) :=
  match Solana.Address.parse? address with
  | none => .error (.badAddress address none)
  | some receiver =>
    if amount.toNat < UInt64.size then .ok (receiver.bytes, .ofNat amount.toNat)
    else .error (.tooManyLamports amount)

/-- Transfers an amount; the result is the transaction's id. -/
def send (c : SolanaChain) (receiver : String) (amount : MinorUnits) : Attempt ChainError String := do
  let (receiver, lamports) ← transferInput receiver amount
  let blockhash ← c.latestBlockhash
  let transfer : Solana.Transfer := ⟨c.signer.publicKey, receiver, lamports, blockhash⟩
  let message := transfer.message
  let signed := Solana.signedMessage (c.signer.key.sign message) message
  (c.call "sendTransaction"
    [.string (Bytes.Base64.encode signed), .object [("encoding", .string "base64")]]
    Json.Reading.string).adapt .notSubmitted

end SolanaChain

end TokenFaucet
