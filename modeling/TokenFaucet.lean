import TokenFaucet.Access.Caller
import TokenFaucet.Access.Doorman
import TokenFaucet.Access.Error
import TokenFaucet.Amount
import TokenFaucet.Api.Message
import TokenFaucet.Bytes.Base58
import TokenFaucet.Bytes.Base64
import TokenFaucet.Bytes.Basic
import TokenFaucet.Bytes.Hex
import TokenFaucet.Bytes.Utf8
import TokenFaucet.Chain.Basic
import TokenFaucet.Chain.Error
import TokenFaucet.ChainKind
import TokenFaucet.Config.Error
import TokenFaucet.Config.Layout
import TokenFaucet.Config.Settings
import TokenFaucet.Config.Validation
import TokenFaucet.Curve.Ed25519
import TokenFaucet.Curve.Modular
import TokenFaucet.Curve.Secp256k1
import TokenFaucet.Dialogue
import TokenFaucet.Disk
import TokenFaucet.Event
import TokenFaucet.Event.Log
import TokenFaucet.Evm.Address
import TokenFaucet.Evm.Chain
import TokenFaucet.Evm.Contract
import TokenFaucet.Evm.Reply
import TokenFaucet.Evm.Rlp
import TokenFaucet.Evm.Transaction
import TokenFaucet.Faucet.Basic
import TokenFaucet.Faucet.Error
import TokenFaucet.Faucet.Inventory
import TokenFaucet.Faucet.Transfer
import TokenFaucet.Hash.Keccak
import TokenFaucet.Hash.Sha2
import TokenFaucet.Http.HeaderText
import TokenFaucet.Http.MediaType
import TokenFaucet.Http.Message
import TokenFaucet.Http.Wire
import TokenFaucet.Json.Basic
import TokenFaucet.Json.Node
import TokenFaucet.Json.NumberText
import TokenFaucet.Json.Printer
import TokenFaucet.Json.Quoted
import TokenFaucet.Json.Reading
import TokenFaucet.Json.Verbatim
import TokenFaucet.Ledger.Credit
import TokenFaucet.Ledger.Filter
import TokenFaucet.Ledger.Record
import TokenFaucet.Ledger.Site
import TokenFaucet.Ledger.Store
import TokenFaucet.Main
import TokenFaucet.Near.AccountId
import TokenFaucet.Near.Chain
import TokenFaucet.Near.Transaction
import TokenFaucet.Network.Call
import TokenFaucet.Network.Exchange
import TokenFaucet.Network.Status
import TokenFaucet.Networks.Build
import TokenFaucet.Networks.Load
import TokenFaucet.Number.Binary64
import TokenFaucet.Number.DecimalReading
import TokenFaucet.Number.Numeral
import TokenFaucet.Number.PlainDecimal
import TokenFaucet.Number.ShortestDecimal
import TokenFaucet.Proofs.Access.Caller
import TokenFaucet.Proofs.Amount.Format
import TokenFaucet.Proofs.Amount.Human
import TokenFaucet.Proofs.Amount.Reading
import TokenFaucet.Proofs.Bytes.Base58
import TokenFaucet.Proofs.Bytes.Base64
import TokenFaucet.Proofs.Bytes.Hex
import TokenFaucet.Proofs.Bytes.Number
import TokenFaucet.Proofs.Bytes.Reader
import TokenFaucet.Proofs.Bytes.Text
import TokenFaucet.Proofs.Chain.Call
import TokenFaucet.Proofs.Chain.Credited
import TokenFaucet.Proofs.Chain.FailFast
import TokenFaucet.Proofs.Chain.Plan
import TokenFaucet.Proofs.Chain.Receiver
import TokenFaucet.Proofs.Chain.Submission
import TokenFaucet.Proofs.Chain.Understood
import TokenFaucet.Proofs.Config.Faults
import TokenFaucet.Proofs.Config.Validation
import TokenFaucet.Proofs.Curve.Ed25519
import TokenFaucet.Proofs.Curve.Modular
import TokenFaucet.Proofs.Dialogue.Course
import TokenFaucet.Proofs.Dialogue.Turns
import TokenFaucet.Proofs.Evm.Address
import TokenFaucet.Proofs.Evm.Answers
import TokenFaucet.Proofs.Evm.Contract
import TokenFaucet.Proofs.Evm.Inquiry
import TokenFaucet.Proofs.Evm.Lane
import TokenFaucet.Proofs.Evm.Outcomes
import TokenFaucet.Proofs.Evm.Rlp
import TokenFaucet.Proofs.Evm.Serialized
import TokenFaucet.Proofs.Evm.Submission
import TokenFaucet.Proofs.Evm.Transaction
import TokenFaucet.Proofs.Evm.Wire
import TokenFaucet.Proofs.Faucet.Balances
import TokenFaucet.Proofs.Faucet.Bookkeeping
import TokenFaucet.Proofs.Faucet.Dispatch
import TokenFaucet.Proofs.Faucet.Execution
import TokenFaucet.Proofs.Faucet.FailFast
import TokenFaucet.Proofs.Faucet.Handover
import TokenFaucet.Proofs.Faucet.Inventory
import TokenFaucet.Proofs.Faucet.Payment
import TokenFaucet.Proofs.Faucet.SelfPayment
import TokenFaucet.Proofs.Faucet.Transactions
import TokenFaucet.Proofs.Faucet.Understood
import TokenFaucet.Proofs.Faucet.Width
import TokenFaucet.Proofs.Faucet.World
import TokenFaucet.Proofs.Json.Array
import TokenFaucet.Proofs.Json.FloatReading
import TokenFaucet.Proofs.Json.FloatText
import TokenFaucet.Proofs.Json.FloatValue
import TokenFaucet.Proofs.Json.NumberText
import TokenFaucet.Proofs.Json.Quoted
import TokenFaucet.Proofs.Json.Tree
import TokenFaucet.Proofs.Ledger.Amounts
import TokenFaucet.Proofs.Ledger.Atomic
import TokenFaucet.Proofs.Ledger.Clocked
import TokenFaucet.Proofs.Ledger.Crediting
import TokenFaucet.Proofs.Ledger.Linearized
import TokenFaucet.Proofs.Ledger.Lookup
import TokenFaucet.Proofs.Ledger.Owner
import TokenFaucet.Proofs.Ledger.Payments
import TokenFaucet.Proofs.Ledger.Posting
import TokenFaucet.Proofs.Ledger.ReadBack
import TokenFaucet.Proofs.Ledger.Readable
import TokenFaucet.Proofs.Ledger.Record
import TokenFaucet.Proofs.Ledger.Store
import TokenFaucet.Proofs.Ledger.Totals
import TokenFaucet.Proofs.Near.Answers
import TokenFaucet.Proofs.Near.Inquiry
import TokenFaucet.Proofs.Near.Signed
import TokenFaucet.Proofs.Near.Submission
import TokenFaucet.Proofs.Near.Wire
import TokenFaucet.Proofs.Network.Answers
import TokenFaucet.Proofs.Network.Inquiry
import TokenFaucet.Proofs.Networks.Complete
import TokenFaucet.Proofs.Networks.EvmChains
import TokenFaucet.Proofs.Networks.Loaded
import TokenFaucet.Proofs.Networks.SetUp
import TokenFaucet.Proofs.Networks.Verified
import TokenFaucet.Proofs.Number.Closeness
import TokenFaucet.Proofs.Number.DecimalReading
import TokenFaucet.Proofs.Number.Nearest
import TokenFaucet.Proofs.Number.NearestEven
import TokenFaucet.Proofs.Number.Numeral
import TokenFaucet.Proofs.Number.PlainDecimal
import TokenFaucet.Proofs.Number.ReadBack
import TokenFaucet.Proofs.Number.RoundTrip
import TokenFaucet.Proofs.Number.Rounding
import TokenFaucet.Proofs.Number.SeventeenDigits
import TokenFaucet.Proofs.Number.Shortest
import TokenFaucet.Proofs.Registry
import TokenFaucet.Proofs.Registry.Arising
import TokenFaucet.Proofs.Result
import TokenFaucet.Proofs.Server.Course
import TokenFaucet.Proofs.Server.Gate
import TokenFaucet.Proofs.Signer.Edwards
import TokenFaucet.Proofs.Solana.Address
import TokenFaucet.Proofs.Solana.Inquiry
import TokenFaucet.Proofs.Solana.Signed
import TokenFaucet.Proofs.Solana.Submission
import TokenFaucet.Proofs.Solana.Wire
import TokenFaucet.Proofs.Table
import TokenFaucet.Proofs.Text.Blank
import TokenFaucet.Proofs.Text.LowerCase
import TokenFaucet.Proofs.Timestamp
import TokenFaucet.Registry.Chain
import TokenFaucet.Registry.Token
import TokenFaucet.Server.Basic
import TokenFaucet.Server.Health
import TokenFaucet.Server.Respond
import TokenFaucet.Server.Route
import TokenFaucet.Signer.Der
import TokenFaucet.Signer.Edwards
import TokenFaucet.Signer.Error
import TokenFaucet.Signer.Evm
import TokenFaucet.Signer.Pem
import TokenFaucet.Solana.Address
import TokenFaucet.Solana.Chain
import TokenFaucet.Solana.Message
import TokenFaucet.Startup.Run
import TokenFaucet.Startup.SocketAddress
import TokenFaucet.Table
import TokenFaucet.Text.Blank
import TokenFaucet.Text.CaseTable
import TokenFaucet.Text.CodePoints
import TokenFaucet.Text.Debug
import TokenFaucet.Text.LowerCase
import TokenFaucet.Text.PrintableTable
import TokenFaucet.Timestamp
import TokenFaucet.Url.Basic
import TokenFaucet.Url.Host
import TokenFaucet.Url.Label
