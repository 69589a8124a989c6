import TokenFaucet.Evm.Chain
import TokenFaucet.Proofs.Network.Inquiry

set_option autoImplicit false

attribute [local instance (2000)] instPowNat

namespace TokenFaucet.EvmChain

open Network (Attempt Outcome Request inquire)

variable {α : Type}

/-- Reads the outcome of a call of the node. -/
def rpcAnswer (c : EvmChain) (method : String) (read : Json.Node → Except Evm.Failure α)
    (outcome : Outcome) : Except ChainError α :=
  ((Evm.Reply.ofOutcome c.client.url outcome).bind read).mapError
    (.ofFailure c.client.limit (.evmCall method))

theorem ask_eq (c : EvmChain) (method : String) (params : Option Json)
    (read : Json.Node → Except Evm.Failure α) :
    c.ask method params read = inquire ⟨c.client, .call method params⟩ fun outcome =>
      (Evm.Reply.ofOutcome c.client.url outcome).bind read :=
  Network.exchange_bind_lift_bind ..

theorem rpc_eq (c : EvmChain) (method : String) (params : Option Json)
    (read : Json.Node → Except Evm.Failure α) :
    c.rpc method params read =
      inquire ⟨c.client, .call method params⟩ (c.rpcAnswer method read) := by
  rw [rpc, ask_eq, Network.inquire_adapt]
  rfl

/-- The request for a method of a token contract. -/
def tokenRequest (c : EvmChain) (token : Evm.Address) (method : Evm.TokenMethod) : Request :=
  ⟨c.client, .call "eth_call" (some (.array
    [.object [("input", bytesJson method.callData), ("to", .string token.text)],
      .string "latest"]))⟩

/-- Reads what a token contract returned. -/
def tokenData (method : Evm.TokenMethod) (read : Bytes → Option α) (data : Bytes) :
    Except ChainError α :=
  if data.isEmpty then .error (.contract (.noData method.name))
  else
    match read data with
    | some a => .ok a
    | none => .error (.contract .badData)

/-- Reads the outcome of a call of a token contract. -/
def tokenAnswer (c : EvmChain) (method : Evm.TokenMethod) (read : Bytes → Option α)
    (outcome : Outcome) : Except ChainError α :=
  (((Evm.Reply.ofOutcome c.client.url outcome).bind Evm.Reply.bytes).mapError
    (.ofFailure c.client.limit fun why => .contract (.call why))).bind (tokenData method read)

theorem callToken_eq (c : EvmChain) (token : Evm.Address) (method : Evm.TokenMethod)
    (read : Bytes → Option α) :
    c.callToken token method read =
      inquire (c.tokenRequest token method) (c.tokenAnswer method read) := by
  have further (data : Bytes) : (do
      if data.isEmpty then throw (.contract (.noData method.name))
      match read data with
      | some a => return a
      | none => throw (.contract .badData) : Attempt ChainError α) =
        liftM (tokenData method read data) := by
    unfold tokenData
    cases data.isEmpty <;> cases read data <;> rfl
  unfold callToken
  dsimp only
  rw [ask_eq, Network.inquire_adapt]
  exact (congrArg (inquire _ _ >>= ·) (funext further)).trans (Network.inquire_bind_lift ..)

/-- The request for what an account holds of the native currency. -/
def balanceRequest (c : EvmChain) (holder : Evm.Address) : Request :=
  ⟨c.client, .call "eth_getBalance" (some (.array [.string holder.text, .string "latest"]))⟩

theorem balance_native_eq (c : EvmChain) {holder : String} {account : Evm.Address}
    (read : address holder = .ok account) :
    c.balance holder none =
      inquire (c.balanceRequest account) (c.rpcAnswer "eth_getBalance" Evm.Reply.amount) := by
  unfold balance
  rw [read]
  exact rpc_eq ..

theorem balance_token_eq (c : EvmChain) {holder token : String} {account contract : Evm.Address}
    (readHolder : address holder = .ok account) (readToken : address token = .ok contract) :
    c.balance holder (some token) =
      inquire (c.tokenRequest contract (.balanceOf account))
        (c.tokenAnswer (.balanceOf account) Evm.ReturnData.amount?) := by
  unfold balance
  rw [readHolder]
  change (do let token ← liftM (address token); _ : Attempt ChainError MinorUnits) = _
  rw [readToken]
  exact callToken_eq ..

theorem balance_of_badHolder (c : EvmChain) {holder : String} {e : ChainError}
    (read : address holder = .error e) (token : Option String) : c.balance holder token = throw e := by
  unfold balance
  rw [read]
  rfl

theorem balance_of_badToken (c : EvmChain) {holder token : String} {account : Evm.Address}
    {e : ChainError} (readHolder : address holder = .ok account)
    (readToken : address token = .error e) :
    c.balance holder (some token) = throw e := by
  unfold balance
  rw [readHolder]
  change (do let token ← liftM (address token); _ : Attempt ChainError MinorUnits) = _
  rw [readToken]
  rfl

theorem tokenSymbol_of_badToken (c : EvmChain) {token : String} {e : ChainError}
    (read : address token = .error e) : c.tokenSymbol token = throw e := by
  unfold tokenSymbol
  rw [read]
  rfl

theorem tokenSymbol_eq (c : EvmChain) {token : String} {contract : Evm.Address}
    (read : address token = .ok contract) :
    c.tokenSymbol token =
      inquire (c.tokenRequest contract .symbol) (c.tokenAnswer .symbol Evm.ReturnData.text?) := by
  unfold tokenSymbol
  rw [read]
  exact callToken_eq ..

theorem tokenDecimals_eq (c : EvmChain) {token : String} {contract : Evm.Address}
    (read : address token = .ok contract) :
    c.tokenDecimals token =
      inquire (c.tokenRequest contract .decimals)
        (c.tokenAnswer .decimals Evm.ReturnData.uint8?) := by
  unfold tokenDecimals
  rw [read]
  exact callToken_eq ..

/-- The request for the number of the signer's transactions. -/
def countRequest (c : EvmChain) : Request :=
  ⟨c.client, .call "eth_getTransactionCount"
    (some (.array [.string c.signer.address.text, .string "pending"]))⟩

/-- Reads the number of the signer's transactions. -/
def countAnswer (c : EvmChain) : Outcome → Except ChainError Nat :=
  c.rpcAnswer "eth_getTransactionCount" (Evm.Reply.quantity UInt64.size)

def priceRequest (c : EvmChain) : Request :=
  ⟨c.client, .call "eth_gasPrice" none⟩

def priceAnswer (c : EvmChain) : Outcome → Except ChainError Nat :=
  c.rpcAnswer "eth_gasPrice" (Evm.Reply.quantity (2 ^ gasPriceBits))

/-- The request for an estimate of the gas that a transfer uses. -/
def estimateRequest (c : EvmChain) (receiver : Evm.Address) (amount : MinorUnits)
    (token : Option Evm.Address) : Request :=
  let (target, value, input) := transferCall receiver amount token
  ⟨c.client, .call "eth_estimateGas" (some (.array
    [.object
      [("from", .string c.signer.address.text), ("input", bytesJson input),
        ("to", .string target.text), ("value", quantityJson value.toNat)],
      .string "pending"]))⟩

def estimateAnswer (c : EvmChain) : Outcome → Except ChainError Nat :=
  c.rpcAnswer "eth_estimateGas" (Evm.Reply.quantity UInt64.size)

def transaction (c : EvmChain) (receiver : Evm.Address) (amount : MinorUnits)
    (token : Option Evm.Address) (nonce gasPrice estimate : Nat) : Evm.Transaction :=
  let (target, value, input) := transferCall receiver amount token
  { chainId := c.chainId
    nonce := nonce
    gasPrice := gasPrice
    gasLimit := gasLimit estimate token
    target := target
    value := value
    input := input }

/-- The request that submits a signed transaction. -/
def submissionRequest (c : EvmChain) (t : Evm.Transaction) : Request :=
  ⟨c.client, .call "eth_sendRawTransaction" (some (.array [bytesJson (t.signed c.signer.key)]))⟩

/-- Reads the id of a transaction that the node accepted. -/
def submissionAnswer (c : EvmChain) (outcome : Outcome) : Except ChainError String :=
  (((Evm.Reply.ofOutcome c.client.url outcome).bind Evm.Reply.hash).mapError
    (.ofFailure c.client.limit .notSent)).map fun hash => "0x" ++ Bytes.Hex.encode hash

theorem submit_eq (c : EvmChain) (receiver : Evm.Address) (amount : MinorUnits)
    (token : Option Evm.Address) :
    c.submit receiver amount token = (do
      let nonce ← inquire c.countRequest c.countAnswer
      let gasPrice ← inquire c.priceRequest c.priceAnswer
      let estimate ← inquire (c.estimateRequest receiver amount token) c.estimateAnswer
      inquire (c.submissionRequest (c.transaction receiver amount token nonce gasPrice estimate))
        c.submissionAnswer) := by
  unfold submit
  simp only [rpc_eq, ask_eq, Network.inquire_adapt, Network.inquire_bind_pure]
  rfl

/-- A transfer whose accounts can be read; with or without the chain's lane. -/
theorem send_eq (c : EvmChain) {receiver : String} (amount : MinorUnits) {token : Option String}
    {account : Evm.Address} {contract : Option Evm.Address}
    (readReceiver : address receiver = .ok account) (readToken : tokenAddress token = .ok contract) :
    c.send receiver amount token =
      if c.serializes then
        ExceptT.mk (Network.holding c.client.name (c.submit account amount contract).run)
      else c.submit account amount contract := by
  unfold send
  rw [readReceiver]
  change (do let token ← liftM (tokenAddress token); _ : Attempt ChainError String) = _
  rw [readToken]
  rfl

theorem send_of_badReceiver (c : EvmChain) {receiver : String} (amount : MinorUnits)
    (token : Option String) {e : ChainError} (read : address receiver = .error e) :
    c.send receiver amount token = throw e := by
  unfold send
  rw [read]
  rfl

theorem send_of_badToken (c : EvmChain) {receiver : String} (amount : MinorUnits)
    {token : Option String} {account : Evm.Address} {e : ChainError}
    (readReceiver : address receiver = .ok account) (readToken : tokenAddress token = .error e) :
    c.send receiver amount token = throw e := by
  unfold send
  rw [readReceiver]
  change (do let token ← liftM (tokenAddress token); _ : Attempt ChainError String) = _
  rw [readToken]
  rfl

end TokenFaucet.EvmChain
