import TokenFaucet.Json.Basic
import TokenFaucet.Json.Quoted
import TokenFaucet.Number.ShortestDecimal

set_option autoImplicit false

namespace TokenFaucet.Json

open TokenFaucet.Number (DecimalLayout Binary64)

def integerText (i : Int) : List Char :=
  if i < 0 then '-' :: Nat.toDigits 10 i.natAbs else Nat.toDigits 10 i.natAbs

/-- The characters of a binary number: its shortest digits. -/
def floatText (x : Binary64) : List Char :=
  if x.isFinite then DecimalLayout.json.characters x else "null".toList

def Number.chars : Number → List Char
  | .integer i => integerText i
  | .float x => floatText x

mutual

def chars : Json → List Char
  | .null => "null".toList
  | .bool true => "true".toList
  | .bool false => "false".toList
  | .number n => n.chars
  | .string s => Quoted.encode s.toList
  | .array items => '[' :: itemChars items ++ [']']
  | .object members => '\x7b' :: memberChars members ++ ['\x7d']

def itemChars : List Json → List Char
  | [] => []
  | [item] => chars item
  | item :: rest => chars item ++ ',' :: itemChars rest

/-- The members with commas between them. -/
def memberChars : List (String × Json) → List Char
  | [] => []
  | [(name, value)] => Quoted.encode name.toList ++ ':' :: chars value
  | (name, value) :: rest =>
    Quoted.encode name.toList ++ ':' :: chars value ++ ',' :: memberChars rest

end

def render (j : Json) : String :=
  String.ofList j.chars

end TokenFaucet.Json
