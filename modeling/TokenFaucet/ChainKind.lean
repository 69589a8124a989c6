import TokenFaucet.Text.Blank
import TokenFaucet.Text.LowerCase

set_option autoImplicit false

namespace TokenFaucet

inductive ChainKind where
  | evm
  | solana
  | near
deriving DecidableEq, Repr

namespace ChainKind

/-- The name of a family in texts and records. -/
def name : ChainKind → String
  | evm => "evm"
  | solana => "solana"
  | near => "near"

def debug : ChainKind → String
  | evm => "Evm"
  | solana => "Solana"
  | near => "Near"

def all : List ChainKind := [evm, solana, near]

/-- The place of a family in listings. -/
def rank : ChainKind → Nat
  | evm => 0
  | solana => 1
  | near => 2

theorem rank_injective {a b : ChainKind} (h : a.rank = b.rank) : a = b := by
  cases a <;> cases b <;> first | rfl | cases h

theorem name_injective {a b : ChainKind} (h : a.name = b.name) : a = b := by
  cases a <;> cases b <;> first | rfl | simp [name] at h

def ofName? (text : String) : Option ChainKind :=
  all.find? fun kind => kind.name == text

/-- Reads the name of a family, blanks around it and the case of its letters aside; the error is
the message. -/
def parse (text : String) : Except String ChainKind :=
  let word := Text.lowerAscii (Text.trim text)
  match ofName? word with
  | some kind => .ok kind
  | none => .error s!"unknown chain kind `{word}`"

end ChainKind

/-- A standard that token contracts follow. -/
inductive TokenStandard where
  | erc20
deriving DecidableEq, Repr

namespace TokenStandard

def name : TokenStandard → String
  | erc20 => "ERC20"

def debug : TokenStandard → String
  | erc20 => "Erc20"

/-- Reads the name of a standard, exactly as it is written; the error is the message. -/
def parse (text : String) : Except String TokenStandard :=
  if text == "ERC20" then .ok .erc20
  else .error s!"{text} not supported contract type"

end TokenStandard

structure ChainProfile where
  id : String
  name : String
  /-- The address of the node, as it is configured. -/
  rpc : String
  nativeToken : String
  decimals : UInt8
deriving DecidableEq

/-- The name under which a chain sends its requests. -/
def ChainProfile.clientName (p : ChainProfile) (kind : ChainKind) : String :=
  s!"{kind.name}:{p.id}"

end TokenFaucet
