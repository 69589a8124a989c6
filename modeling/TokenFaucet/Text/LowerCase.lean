import TokenFaucet.Text.CodePoints
import TokenFaucet.Text.CaseTable

set_option autoImplicit false

namespace TokenFaucet.Text

namespace LowerCase

/-- A run of letters: from, to, step, and the code point that `lo` is moved to. -/
structure Run where
  lo : Nat
  hi : Nat
  step : Nat
  target : Nat

/-- Reads `lo-hi/step>target`, where the end and the step may be missing. -/
def Run.ofWord (word : String) : Run :=
  let (lo, rest) := hexNumber word.toList
  let (hi, rest) := match rest with
    | '-' :: rest => hexNumber rest
    | rest => (lo, rest)
  let (step, rest) := match rest with
    | '/' :: rest => hexNumber rest
    | rest => (1, rest)
  match rest with
  | '>' :: rest => ⟨lo, hi, step, (hexNumber rest).1⟩
  | _ => ⟨lo, hi, step, lo⟩

def runs : Array Run :=
  ((CodePoints.words CaseTable.lowerRuns).map Run.ofWord).toArray

def cased : CodePoints := .ofLines CaseTable.casedRanges

def ignorable : CodePoints := .ofLines CaseTable.ignorableRanges

/-- The lower-case form of one character outside any context. -/
def char (c : Char) : Char :=
  if c.toNat < 128 then c.toLower
  else
    match runs.find? fun r => r.lo ≤ c.toNat && c.toNat ≤ r.hi && (c.toNat - r.lo) % r.step == 0 with
    | some r => Char.ofNat (r.target + (c.toNat - r.lo))
    | none => c

/-- Whether the first character that is not passed over has case. -/
def meetsCased (cs : List Char) : Bool :=
  match cs.dropWhile ignorable.contains with
  | [] => false
  | c :: _ => cased.contains c

/-- Lowers the rest of a text; `before` holds the characters already passed, the nearest first. -/
def go (before : List Char) : List Char → List Char
  | [] => []
  | 'Σ' :: rest =>
    let sigma := if meetsCased before && !meetsCased rest then 'ς' else 'σ'
    sigma :: go ('Σ' :: before) rest
  | 'İ' :: rest => 'i' :: '\u0307' :: go ('İ' :: before) rest
  | c :: rest => char c :: go (c :: before) rest

end LowerCase

def lowerCase (s : String) : String :=
  String.ofList (LowerCase.go [] s.toList)

/-- The lower-case form of the letters A to Z alone. -/
def lowerAscii (s : String) : String :=
  s.map Char.toLower

/-- Equality up to the case of the letters A to Z. -/
def sameIgnoringAsciiCase (a b : String) : Bool :=
  lowerAscii a == lowerAscii b

end TokenFaucet.Text
