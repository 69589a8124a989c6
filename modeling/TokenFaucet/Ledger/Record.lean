import TokenFaucet.ChainKind
import TokenFaucet.Timestamp
import TokenFaucet.Json.Reading

set_option autoImplicit false

namespace TokenFaucet

open TokenFaucet.Number (Binary64)

/-- Reads the name of a family of networks. -/
def ChainKind.reading : Json.Reading ChainKind :=
  .variant (ChainKind.all.map fun kind => (kind.name, kind))

def TokenStandard.reading : Json.Reading TokenStandard :=
  .variant [(TokenStandard.erc20.name, .erc20)]

def Timestamp.reading : Json.Reading Timestamp
  | .string (some s) =>
    match Timestamp.parse? s with
    | some t => .ok t
    | none => .error (.mismatch [] (.unreadable s!"{s} is no date and time"))
  | node => .error (Json.Reading.wrong "an RFC 3339 formatted date and time string" node)

namespace Ledger

/-- What identifies a row: the user, the chain, and the token, which is empty for the native
currency. -/
structure Key where
  userId : String
  chainId : String
  kind : ChainKind
  token : String
deriving DecidableEq

structure Record where
  userId : String
  chainId : String
  kind : ChainKind
  token : String
  amount : Binary64
  createdAt : Timestamp
  updatedAt : Timestamp
deriving DecidableEq

namespace Key

/-- The key of a payment; the token's address is kept in lower case. -/
def ofPayment (userId chainId : String) (kind : ChainKind) (token : Option String) : Key :=
  ⟨userId, chainId, kind, (token.map Text.lowerCase).getD ""⟩

def toJson (k : Key) : Json :=
  .object
    [("user_id", .string k.userId), ("chain_id", .string k.chainId),
      ("chain_kind", .string k.kind.name), ("token_address", .string k.token)]

open Json.Reading in
def reading : Json.Reading Key :=
  let userId := required "user_id" string
  let chainId := required "chain_id" string
  let kind := required "chain_kind" ChainKind.reading
  let token := required "token_address" string
  record "BalanceKey" [userId.slot, chainId.slot, kind.slot, token.slot] fun found => do
    let userId ← found.get userId
    let chainId ← found.get chainId
    let kind ← found.get kind
    let token ← found.get token
    return ⟨userId, chainId, kind, token⟩

def debug (k : Key) : String :=
  Text.debugRecord "BalanceKey"
    [("user_id", Text.debugQuoted k.userId), ("chain_id", Text.debugQuoted k.chainId),
      ("chain_kind", k.kind.debug), ("token_address", Text.debugQuoted k.token)]

end Key

namespace Record

def key (r : Record) : Key :=
  ⟨r.userId, r.chainId, r.kind, r.token⟩

/-- A row for a key, written for the first time at that moment. -/
def ofKey (k : Key) (amount : Binary64) (now : Timestamp) : Record :=
  ⟨k.userId, k.chainId, k.kind, k.token, amount, now, now⟩

def toJson (r : Record) : Json :=
  .object
    [("user_id", .string r.userId), ("chain_id", .string r.chainId),
      ("chain_kind", .string r.kind.name), ("token_address", .string r.token),
      ("amount", .number (.float r.amount)), ("created_at", .string r.createdAt.text),
      ("updated_at", .string r.updatedAt.text)]

open Json.Reading in
def reading : Json.Reading Record :=
  let userId := required "user_id" string
  let chainId := required "chain_id" string
  let kind := required "chain_kind" ChainKind.reading
  let token := required "token_address" string
  let amount := required "amount" binary64
  let createdAt := required "created_at" Timestamp.reading
  let updatedAt := required "updated_at" Timestamp.reading
  record "BalanceRecord"
    [userId.slot, chainId.slot, kind.slot, token.slot, amount.slot, createdAt.slot, updatedAt.slot]
    fun found => do
      let userId ← found.get userId
      let chainId ← found.get chainId
      let kind ← found.get kind
      let token ← found.get token
      let amount ← found.get amount
      let createdAt ← found.get createdAt
      let updatedAt ← found.get updatedAt
      return ⟨userId, chainId, kind, token, amount, createdAt, updatedAt⟩

def debug (r : Record) : String :=
  Text.debugRecord "BalanceRecord"
    [("user_id", Text.debugQuoted r.userId), ("chain_id", Text.debugQuoted r.chainId),
      ("chain_kind", r.kind.debug), ("token_address", Text.debugQuoted r.token),
      ("amount", r.amount.debug), ("created_at", r.createdAt.text),
      ("updated_at", r.updatedAt.text)]

/-- Equality as values: amounts are compared as numbers. -/
def same (a b : Record) : Bool :=
  a.key == b.key && a.amount.numEq b.amount && a.createdAt == b.createdAt &&
    a.updatedAt == b.updatedAt

end Record

end Ledger

end TokenFaucet
