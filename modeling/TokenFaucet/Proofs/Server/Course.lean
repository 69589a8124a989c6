import TokenFaucet.Proofs.Faucet.World
import TokenFaucet.Server.Respond

set_option autoImplicit false

namespace TokenFaucet.Server

open Dialogue (Course)
open Http (Request Response)

variable {α : Type}

/-- A question of the server and its answer. -/
abbrev Turn := Dialogue.Turn Query Query.Answer

def Turn.ofFaucet (turn : Faucet.Turn) : Turn := ⟨.faucet turn.query, turn.answer⟩

/-- The turn of the faucet that a turn is, if it is one. -/
def Turn.faucet? : Turn → Option Faucet.Turn
  | ⟨.faucet q, r⟩ => some ⟨q, r⟩
  | ⟨.pathExists _, _⟩ => none

def exchanges (turns : List Turn) : List Network.Exchanged :=
  Faucet.exchanges (turns.filterMap Turn.faucet?)

/-- The turns of the ledger in a course, in order. -/
def ledgerTurns (turns : List Turn) : List (Dialogue.Turn Ledger.Query Ledger.Query.Answer) :=
  Faucet.ledgerTurns (turns.filterMap Turn.faucet?)

@[simp] theorem exchanges_append (first second : List Turn) :
    exchanges (first ++ second) = exchanges first ++ exchanges second := by
  rw [exchanges, List.filterMap_append, Faucet.exchanges_append]
  rfl

@[simp] theorem ledgerTurns_append (first second : List Turn) :
    ledgerTurns (first ++ second) = ledgerTurns first ++ ledgerTurns second := by
  rw [ledgerTurns, List.filterMap_append, Faucet.ledgerTurns_append]
  rfl

end TokenFaucet.Server
