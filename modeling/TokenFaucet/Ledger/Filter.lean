import TokenFaucet.Ledger.Record

set_option autoImplicit false

namespace TokenFaucet.Ledger

structure Filter where
  userId : Option String
  chainId : Option String
  kind : Option ChainKind
  token : Option String
deriving DecidableEq

namespace Filter

def any : Filter := ⟨none, none, none, none⟩

def byUser (f : Filter) (userId : String) : Filter := { f with userId := some userId }

def byChain (f : Filter) (chainId : String) : Filter := { f with chainId := some chainId }

def byKind (f : Filter) (kind : ChainKind) : Filter := { f with kind := some kind }

/-- Asks for a token, whose address is compared in lower case. -/
def byToken (f : Filter) (token : String) : Filter := { f with token := some (Text.lowerCase token) }

/-- The filter that only rows of that key pass. -/
def ofKey (k : Key) : Filter := ⟨some k.userId, some k.chainId, some k.kind, some k.token⟩

def key? (f : Filter) : Option Key := do
  return ⟨← f.userId, ← f.chainId, ← f.kind, ← f.token⟩

/-- Whether a part that may be set agrees with a value. -/
def agrees {α : Type} [DecidableEq α] (wanted : Option α) (value : α) : Bool :=
  match wanted with
  | some a => a == value
  | none => true

def accepts (f : Filter) (r : Record) : Bool :=
  agrees f.userId r.userId && agrees f.chainId r.chainId && agrees f.kind r.kind &&
    agrees f.token r.token

@[simp] theorem key?_ofKey (k : Key) : (ofKey k).key? = some k := rfl

theorem accepts_ofKey (k : Key) (r : Record) : (ofKey k).accepts r = true ↔ r.key = k := by
  obtain ⟨user, chain, kind, token⟩ := k
  simp only [accepts, ofKey, agrees, Bool.and_eq_true, beq_iff_eq, Record.key, Key.mk.injEq]
  grind

end Filter

end TokenFaucet.Ledger
