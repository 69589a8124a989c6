set_option autoImplicit false

namespace TokenFaucet.Text

/-- The value of a hexadecimal digit, in either case. -/
def hexDigit? (c : Char) : Option Nat :=
  if '0' ≤ c ∧ c ≤ '9' then some (c.toNat - '0'.toNat)
  else if 'a' ≤ c ∧ c ≤ 'f' then some (c.toNat - 'a'.toNat + 10)
  else if 'A' ≤ c ∧ c ≤ 'F' then some (c.toNat - 'A'.toNat + 10)
  else none

/-- Reads hexadecimal digits up to the first other character. -/
def hexNumber (cs : List Char) : Nat × List Char :=
  go 0 cs
where
  go (n : Nat) : List Char → Nat × List Char
    | [] => (n, [])
    | c :: rest =>
      match hexDigit? c with
      | some d => go (16 * n + d) rest
      | none => (n, c :: rest)

/-- A set of code points: the ranges `(lo, hi)`, both ends included. -/
structure CodePoints where
  ranges : Array (Nat × Nat)

namespace CodePoints

/-- The range that `lo-hi` or a single `lo` names. -/
def range (word : String) : Nat × Nat :=
  match hexNumber word.toList with
  | (lo, '-' :: rest) => (lo, (hexNumber rest).1)
  | (lo, _) => (lo, lo)

def words (lines : List String) : List String :=
  lines.flatMap (·.splitOn " ")

/-- The set that a table's lines spell out. -/
def ofLines (lines : List String) : CodePoints :=
  ⟨((words lines).map range).toArray⟩

/-- Membership, by a walk over the ranges. -/
def contains (s : CodePoints) (c : Char) : Bool :=
  s.ranges.any fun r => r.1 ≤ c.toNat && c.toNat ≤ r.2

end CodePoints

end TokenFaucet.Text
