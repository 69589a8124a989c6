import TokenFaucet.Bytes.Base64
import TokenFaucet.Chain.Error
import TokenFaucet.ChainKind
import TokenFaucet.Near.Transaction

set_option autoImplicit false

attribute [local instance (2000)] instPowNat

namespace TokenFaucet

open Network (Attempt)
open Json.Reading (required record string)

structure NearChain where
  profile : ChainProfile
  client : Network.Client
  signer : NearSigner

namespace NearChain

/-- Sets the cluster up, whose node has an address. -/
def ofProfile (profile : ChainProfile) (signer : NearSigner) (limit : Nat) :
    Except ChainError NearChain := do
  let url ← (Url.parse profile.rpc).mapError (.badEndpoint profile.rpc)
  return ⟨profile, ⟨profile.clientName .near, url, limit, 1⟩, signer⟩

def accountReading : Json.Reading String :=
  let amount := required "amount" string
  record "AccountView" [amount.slot] fun found => found.get amount

def accessKeyReading : Json.Reading UInt64 :=
  let nonce := required "nonce" Json.Reading.uint64
  record "AccessKeyView" [nonce.slot] fun found => found.get nonce

def blockReading : Json.Reading String :=
  let hash := required "hash" string
  let header := required "header" (record "BlockHeader" [hash.slot] fun found => found.get hash)
  record "BlockView" [header.slot] fun found => found.get header

/-- The outcome of a transaction: its status and its id. -/
def outcomeReading : Json.Reading (Json × String) :=
  let hash := required "hash" string
  let status := required "status" Network.anyValue
  let transaction := required "transaction"
    (record "OutcomeTransaction" [hash.slot] fun found => found.get hash)
  record "ExecutionOutcome" [status.slot, transaction.slot] fun found => do
    let status ← found.get status
    let hash ← found.get transaction
    return (status, hash)

def call {α : Type} (c : NearChain) (method : String) (params : Json)
    (reading : Json.Reading α) : Attempt ChainError α :=
  (c.client.call method params reading).adapt (.ofCall c.client.limit method)

/-- Reads what a view shows; an error stands inside the result. -/
def viewOf {α : Type} (reading : Json.Reading α) (result : Json) : Except ChainError α :=
  match result.get? "error" with
  | some error => .error (.refusedView error)
  | none => (Json.readValue reading result).mapError .badView

def view {α : Type} (c : NearChain) (what : String) (fields : List (String × Json))
    (reading : Json.Reading α) : Attempt ChainError α := do
  let request : Json := .object
    ([("request_type", .string what), ("finality", .string "final")] ++ fields)
  let result ← c.call "query" request Network.anyValue
  viewOf reading result

/-- The number of the last transaction of the signer's key. -/
def accessKeyNonce (c : NearChain) : Attempt ChainError UInt64 :=
  c.view "view_access_key"
    [("account_id", .string c.signer.accountId), ("public_key", .string c.signer.publicKeyText)]
    accessKeyReading

def finalBlockId (c : NearChain) : Attempt ChainError Bytes := do
  let text ← c.call "block" (.object [("finality", .string "final")]) blockReading
  match Bytes.Base58.decodeExact? 32 text with
  | some hash => return hash
  | none => throw (.badBlockId text)

def accountAmount (text : String) : Except ChainError MinorUnits :=
  (MinorUnits.ofRadix 10 text).mapError (.badAccountAmount text)

def balance (c : NearChain) (account : String) : Attempt ChainError MinorUnits := do
  let text ← c.view "view_account" [("account_id", .string account)] accountReading
  accountAmount text

def depositBits : Nat := 128

def deposit (amount : MinorUnits) : Except ChainError Nat :=
  if amount.toNat < 2 ^ depositBits then .ok amount.toNat else .error (.tooManyYocto amount)

/-- The id in the outcome of a transaction, unless the transaction failed. -/
def outcomeId (status : Json) (hash : String) : Except ChainError String :=
  match status.get? "Failure" with
  | some failure => .error (.executionFailed failure)
  | none => .ok hash

/-- Transfers an amount and waits until it is executed; the result is the transaction's id. -/
def send (c : NearChain) (receiver : String) (amount : MinorUnits) : Attempt ChainError String := do
  let deposit ← deposit amount
  let nonce ← c.accessKeyNonce
  let blockId ← c.finalBlockId
  let transfer : Near.Transfer :=
    { signerId := c.signer.accountId
      publicKey := c.signer.publicKey
      nonce := nonce.toNat + 1
      receiverId := receiver
      blockId := blockId
      deposit := deposit }
  let (status, hash) ← (c.call "broadcast_tx_commit"
    (.array [.string (Bytes.Base64.encode (transfer.signed c.signer))]) outcomeReading).adapt
    .notSubmitted
  outcomeId status hash

end NearChain

end TokenFaucet
