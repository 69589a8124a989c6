import TokenFaucet.Text.CodePoints
import TokenFaucet.Text.PrintableTable

set_option autoImplicit false

namespace TokenFaucet.Text

namespace Debug

def hidden : CodePoints := .ofLines PrintableTable.hiddenRanges

def joining : CodePoints := .ofLines PrintableTable.joiningRanges

/-- Lower-case hexadecimal digits without leading zeros. -/
def hexDigits (n : Nat) : List Char :=
  Nat.toDigits 16 n

/-- The characters that stand for one character inside the quotes. -/
def escaped (c : Char) : List Char :=
  match c with
  | '\x00' => ['\\', '0']
  | '\t' => ['\\', 't']
  | '\n' => ['\\', 'n']
  | '\r' => ['\\', 'r']
  | '"' => ['\\', '"']
  | '\\' => ['\\', '\\']
  | c =>
    if 0x20 ≤ c.toNat ∧ c.toNat < 0x7F then [c]
    else if joining.contains c || hidden.contains c then
      ['\\', 'u', '\x7b'] ++ hexDigits c.toNat ++ ['\x7d']
    else [c]

end Debug

/-- A text between quotes, with escapes for what is not visible. -/
def debugQuoted (s : String) : String :=
  String.ofList (['"'] ++ s.toList.flatMap Debug.escaped ++ ['"'])

/-- A character between single quotes, with escapes for what is not visible. -/
def debugChar (c : Char) : String :=
  let inner := match c with
    | '\'' => ['\\', '\'']
    | '"' => ['"']
    | c => Debug.escaped c
  String.ofList (['\''] ++ inner ++ ['\''])

/-- A record as diagnostics show it: its name, then its fields with their texts. -/
def debugRecord (name : String) (fields : List (String × String)) : String :=
  name ++ " \x7b " ++ String.intercalate ", " (fields.map fun f => f.1 ++ ": " ++ f.2) ++ " \x7d"

def debugList (items : List String) : String :=
  "[" ++ String.intercalate ", " items ++ "]"

/-- An optional value as diagnostics show it. -/
def debugOption : Option String → String
  | some text => s!"Some({text})"
  | none => "None"

end TokenFaucet.Text
