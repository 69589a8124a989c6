import TokenFaucet.Server.Basic

set_option autoImplicit false

namespace TokenFaucet.Server

/-- What was found out about the server's health. -/
structure Health where
  /-- Whether the data directory is there, if there is to be one. -/
  dataDirectory : Option Bool
  ledger : Bool
  chains : Nat
deriving DecidableEq, Repr

namespace Health

def isGood (h : Health) : Bool :=
  h.dataDirectory.getD true && h.ledger

def toJson (h : Health) : Json :=
  let directory := h.dataDirectory.map fun found =>
    ("data_dir", Json.string (if found then "ok" else "missing"))
  .object
    [("status", .string (if h.isGood then "ok" else "degraded")),
      ("checks", .object
        ([("service", .string "ok")] ++ directory.toList ++
          [("ledger", .string (if h.ledger then "ok" else "unavailable")),
            ("chains", .ofNat h.chains)]))]

def response (h : Health) : Http.Response :=
  .json (if h.isGood then 200 else 503) h.toJson

end Health

/-- A row that nobody has, to see whether the ledger answers. -/
def probe : Ledger.Key := .ofPayment "" "" .evm none

def checkDirectory : Option String → Session (Option Bool)
  | some path => .ask (.pathExists path) fun found => .done (some found)
  | none => .done none

def checkLedger : Session Bool := do
  let found ← ofFaucet (Faucet.ofLedger (.query (Ledger.Query.get (.ofKey probe))))
  return found.isOk

def health (s : Server) : Session Health := do
  let directory ← checkDirectory s.dataDirectory
  let ledger ← checkLedger
  return ⟨directory, ledger, s.faucet.chains.toList.length⟩

/-- The answer that says only that the process runs. -/
def alive : Http.Response :=
  .json 200 (.object [("status", .string "ok")])

end TokenFaucet.Server
