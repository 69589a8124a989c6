import TokenFaucet.Bytes.Base64
import TokenFaucet.Text.Blank

set_option autoImplicit false

namespace TokenFaucet.Signer.Pem

/-- What stands before the first occurrence of a mark, and what stands after it. -/
def cut? (mark : List Char) : List Char → Option (List Char × List Char)
  | [] => if mark.isEmpty then some ([], []) else none
  | c :: cs =>
    if mark.isPrefixOf (c :: cs) then some ([], (c :: cs).drop mark.length)
    else (cut? mark cs).map fun (front, rest) => (c :: front, rest)

/-- Text without spaces, tabs and line ends in front. -/
def skipSpace (cs : List Char) : List Char :=
  cs.dropWhile fun c => c == ' ' || c == '\t' || c == '\n' || c == '\r'

/-- The header lines and the data. -/
def splitHeaders (body : List Char) : List Char × List Char :=
  match cut? ['\n', '\n'] body with
  | some parts => parts
  | none =>
    match cut? ['\r', '\n', '\r', '\n'] body with
    | some parts => parts
    | none => ([], body)

def lines (cs : List Char) : List String :=
  (String.ofList cs).splitOn "\n"

/-- A line without the blanks at its end. -/
def trimEnd (line : String) : String :=
  String.ofList (line.toList.reverse.dropWhile Text.isBlank).reverse

/-- Whether every header line has a name. -/
def headersValid (headers : List Char) : Bool :=
  headers.isEmpty || (lines headers).all fun line => line.toList.contains ':'

/-- Reads the bytes between the first two lines of armour. -/
def decode? (text : String) : Option Bytes := do
  let (_, cs) ← cut? "-----BEGIN ".toList text.toList
  let (label, cs) ← cut? "-----".toList cs
  let (body, cs) ← cut? "-----END ".toList (skipSpace cs)
  let (endLabel, _) ← cut? "-----".toList cs
  if label.isEmpty ∨ label ≠ endLabel then none
  let (headers, data) := splitHeaders body
  if !headersValid headers then none
  Bytes.Base64.decode? (String.join ((lines data).map trimEnd))

end TokenFaucet.Signer.Pem
