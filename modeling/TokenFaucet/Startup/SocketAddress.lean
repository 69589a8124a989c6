import TokenFaucet.Number.Numeral
import TokenFaucet.Url.Host

set_option autoImplicit false

/-!
Addresses to listen at: an IPv4 address of four octets, or an IPv6 address in brackets, and a port.
Names of hosts are not looked up.
-/

namespace TokenFaucet

inductive HostAddress where
  | ipv4 (address : Nat)
  | ipv6 (pieces : List Nat) (scope : Nat)
deriving DecidableEq, Repr

structure SocketAddress where
  host : HostAddress
  port : Nat
deriving DecidableEq, Repr

namespace SocketAddress

/-- What stands before and after the last colon. -/
def splitPort? (s : String) : Option (String × String) :=
  let cs := s.toList
  let port := (cs.reverse.takeWhile (· ≠ ':')).reverse
  if port.length < cs.length then
    some (String.ofList (cs.take (cs.length - port.length - 1)), String.ofList port)
  else none

/-- Digits of a number below a bound, and nothing else. -/
def digits? (bound : Nat) (s : String) : Option Nat :=
  if s.isEmpty then none else (Number.Numeral.digits bound 0 s.toList).toOption

/-- An IPv6 address, perhaps with a scope. -/
def scoped? (s : String) : Option HostAddress :=
  match s.splitOn "%" with
  | [address] => (Url.Host.ipv6? address).map (.ipv6 · 0)
  | [address, scope] => do
    let scope ← digits? UInt32.size scope
    return .ipv6 (← Url.Host.ipv6? address) scope
  | _ => none

def host? (s : String) : Option HostAddress :=
  match s.toList with
  | '[' :: rest =>
    if rest.getLast? = some ']' then scoped? (String.ofList rest.dropLast) else none
  | _ => (Url.Host.dotted? s).map .ipv4

def parse? (s : String) : Option SocketAddress := do
  let (host, port) ← splitPort? s
  return ⟨← host? host, ← digits? UInt16.size port⟩

end SocketAddress

end TokenFaucet
