import TokenFaucet.Dialogue
import TokenFaucet.Ledger.Store

set_option autoImplicit false

namespace TokenFaucet.Ledger

abbrev Session (α : Type) := Dialogue Query Query.Answer α

/-- Adds to the row of a key, which is created for the first payment. -/
def credit (k : Key) (delta : Number.Binary64) : Session (Except Error Record) :=
  .ask (.get (.ofKey k)) fun found =>
    match found with
    | .error e => .done (.error e)
    | .ok (some _) => .ask (.increment k delta) .done
    | .ok none =>
      .ask .now fun now =>
        let r := Record.ofKey k delta now
        .ask (.create r) fun created =>
          match created with
          | .ok () => .done (.ok r)
          | .error .duplicate => .ask (.increment k delta) .done
          | .error e => .done (.error e)

end TokenFaucet.Ledger
