set_option autoImplicit false

namespace TokenFaucet.Http.HeaderText

/-- A control character other than the tab ends or garbles a header. -/
def isSendable (value : String) : Bool :=
  value.toList.all fun c => c == '\t' || (32 ≤ c.toNat && c.toNat ≠ 127)

/-- Beyond ASCII a header has no agreed meaning. -/
def isReadable (value : String) : Bool :=
  value.toList.all fun c => c == '\t' || (32 ≤ c.toNat && c.toNat < 127)

/-- The names of headers are compared without regard to case. -/
def sameName (a b : String) : Bool :=
  a.map Char.toLower == b.map Char.toLower

end TokenFaucet.Http.HeaderText
