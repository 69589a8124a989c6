import TokenFaucet.Access.Caller
import TokenFaucet.Faucet.Basic

set_option autoImplicit false

namespace TokenFaucet

structure Server where
  faucet : Faucet
  doorman : Option Doorman
  dataDirectory : Option String

namespace Server

/-- A question of a program that answers a request. -/
inductive Query where
  | faucet (q : Faucet.Query)
  | pathExists (path : String)

def Query.Answer : Query → Type
  | faucet q => q.Answer
  | pathExists _ => Bool

abbrev Session (α : Type) := Dialogue Query Query.Answer α

def ofFaucet {α : Type} (program : Faucet.Session α) : Session α :=
  program.embed .faucet fun _ r => r

end Server

end TokenFaucet
