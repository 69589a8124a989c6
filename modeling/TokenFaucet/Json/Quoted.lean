import TokenFaucet.Text.CodePoints

set_option autoImplicit false

namespace TokenFaucet.Json.Quoted

def hexDigit (n : Nat) : Char :=
  (Nat.digitChar n)

/-- The characters that stand for one character in a literal. -/
def escaped (c : Char) : List Char :=
  match c with
  | '"' => ['\\', '"']
  | '\\' => ['\\', '\\']
  | '\x08' => ['\\', 'b']
  | '\x0c' => ['\\', 'f']
  | '\n' => ['\\', 'n']
  | '\r' => ['\\', 'r']
  | '\t' => ['\\', 't']
  | c =>
    if c.toNat < 0x20 then
      ['\\', 'u', '0', '0', hexDigit (c.toNat / 16), hexDigit (c.toNat % 16)]
    else [c]

/-- A literal, quotes included. -/
def encode (cs : List Char) : List Char :=
  '"' :: cs.flatMap escaped ++ ['"']

/-- One step of a literal that is read: a character, a code unit of a surrogate pair, or its end. -/
inductive Piece where
  | char (c : Char)
  | unit (n : Nat)
  | close
deriving DecidableEq

/-- The code unit that four hexadecimal digits spell. -/
def codeUnit? : List Char → Option (Nat × List Char)
  | a :: b :: c :: d :: rest => do
    let a ← Text.hexDigit? a
    let b ← Text.hexDigit? b
    let c ← Text.hexDigit? c
    let d ← Text.hexDigit? d
    some (((a * 16 + b) * 16 + c) * 16 + d, rest)
  | _ => none

/-- A code unit is a character of its own unless it is a surrogate. -/
def pieceOfUnit (n : Nat) : Piece :=
  if 0xD800 ≤ n ∧ n ≤ 0xDFFF then .unit n else .char (Char.ofNat n)

/-- Reads one piece of a literal; none where the text is no literal. -/
def piece? : List Char → Option (Piece × List Char)
  | '"' :: rest => some (.close, rest)
  | '\\' :: e :: rest =>
    match e with
    | '"' => some (.char '"', rest)
    | '\\' => some (.char '\\', rest)
    | '/' => some (.char '/', rest)
    | 'b' => some (.char '\x08', rest)
    | 'f' => some (.char '\x0c', rest)
    | 'n' => some (.char '\n', rest)
    | 'r' => some (.char '\r', rest)
    | 't' => some (.char '\t', rest)
    | 'u' => (codeUnit? rest).map fun (n, rest) => (pieceOfUnit n, rest)
    | _ => none
  | c :: rest => if c.toNat < 0x20 ∨ c = '\\' then none else some (.char c, rest)
  | [] => none

/-- The pieces up to the closing quote, and what follows it. -/
def pieces? : Nat → List Char → Option (List Piece × List Char)
  | 0, _ => none
  | fuel + 1, cs =>
    match piece? cs with
    | none => none
    | some (.close, rest) => some ([], rest)
    | some (p, rest) => (pieces? fuel rest).map fun (ps, rest) => (p :: ps, rest)

/-- The characters of the pieces; none if a surrogate has no partner. -/
def characters? : List Piece → Option (List Char)
  | [] => some []
  | .char c :: rest => (characters? rest).map (c :: ·)
  | .unit hi :: .unit lo :: rest =>
    if hi < 0xDC00 ∧ 0xDC00 ≤ lo then
      (characters? rest).map (Char.ofNat (0x10000 + (hi - 0xD800) * 0x400 + (lo - 0xDC00)) :: ·)
    else none
  | .unit _ :: _ => none
  | .close :: rest => characters? rest

/-- Reads a literal after its opening quote: its characters, unless a surrogate is alone, and what
follows it. None where the text is no literal. -/
def decode (cs : List Char) : Option (Option (List Char) × List Char) :=
  (pieces? (cs.length + 1) cs).map fun (ps, rest) => (characters? ps, rest)

end TokenFaucet.Json.Quoted
