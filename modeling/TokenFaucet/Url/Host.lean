import TokenFaucet.Url.Label

set_option autoImplicit false

attribute [local instance (2000)] instPowNat

namespace TokenFaucet.Url

inductive Error where
  | relative
  | emptyHost
  | badDomain
  | badOpaqueHost
  | badPort
  | badIPv4
  | badIPv6
  | opaqueBase
deriving DecidableEq, Repr

def Error.message : Error → String
  | .relative => "relative URL without a base"
  | .emptyHost => "empty host"
  | .badDomain => "invalid international domain name"
  | .badOpaqueHost => "invalid domain character"
  | .badPort => "invalid port number"
  | .badIPv4 => "invalid IPv4 address"
  | .badIPv6 => "invalid IPv6 address"
  | .opaqueBase => "relative URL with a cannot-be-a-base base"

inductive Host where
  | domain (name : String)
  | ipv4 (address : Nat)
  | ipv6 (pieces : List Nat)
deriving DecidableEq, Repr

namespace Host

/-- The octets of an IPv4 address, the highest first. -/
def octets (address : Nat) : List Nat :=
  [address / 256 / 256 / 256 % 256, address / 256 / 256 % 256, address / 256 % 256, address % 256]

/-- The longest run of zeros among the pieces, the first of equals: where it starts, its length. -/
def longestZeros (pieces : List Nat) : Nat × Nat :=
  go 0 0 (0, 0) pieces
where
  go (index run : Nat) (best : Nat × Nat) : List Nat → Nat × Nat
    | [] => best
    | p :: rest =>
      let run := if p = 0 then run + 1 else 0
      let best := if best.2 < run then (index + 1 - run, run) else best
      go (index + 1) run best rest

/-- The text of an IPv6 address: its longest run of two or more zeros is left out. -/
def ipv6Text (pieces : List Nat) : String :=
  let words := pieces.map fun p => String.ofList (Nat.toDigits 16 p)
  let (start, length) := longestZeros pieces
  if length < 2 then String.intercalate ":" words
  else
    String.intercalate ":" (words.take start) ++ "::" ++
      String.intercalate ":" (words.drop (start + length))

def text : Host → String
  | .domain name => name
  | .ipv4 address => String.intercalate "." ((octets address).map toString)
  | .ipv6 pieces => "[" ++ ipv6Text pieces ++ "]"

/-- One part of an IPv4 address: decimal, octal after a zero, hexadecimal after `0x`. -/
def ipv4Part? (s : String) : Option Nat :=
  match s.toList with
  | [] => none
  | '0' :: x :: rest =>
    if x = 'x' ∨ x = 'X' then
      if rest.isEmpty then some 0
      else if rest.all fun c => (Text.hexDigit? c).isSome then some (Text.hexNumber rest).1
      else none
    else if (x :: rest).all fun c => '0' ≤ c ∧ c ≤ '7' then
      some (Nat.ofDigitChars 8 (x :: rest) 0)
    else none
  | cs => if cs.all Char.isDigit then some (Nat.ofDigitChars 10 cs 0) else none

/-- The labels of a name, without the empty one after a point at the end. -/
def labels (name : String) : List String :=
  let parts := name.splitOn "."
  if 1 < parts.length ∧ parts.getLast? = some "" then parts.dropLast else parts

/-- Whether a name ends in a number and so has to be an IPv4 address. -/
def endsInNumber (name : String) : Bool :=
  match (labels name).getLast? with
  | none => false
  | some "" => false
  | some last =>
    last.toList.all Char.isDigit ||
      ((last.startsWith "0x" || last.startsWith "0X") && (ipv4Part? last).isSome)

/-- The parts of an IPv4 address put together; the last part fills what the others leave. -/
def ipv4OfParts? (parts : List Nat) : Option Nat :=
  match parts.reverse with
  | [] => none
  | last :: before =>
    if 3 < before.length then none
    else if before.any (255 < ·) then none
    else if 256 ^ (4 - before.length) ≤ last then none
    else some (before.reverse.foldl (fun acc p => acc * 256 + p) 0 * 256 ^ (4 - before.length) + last)

def ipv4? (name : String) : Option Nat := do
  let parts ← (labels name).mapM ipv4Part?
  ipv4OfParts? parts

/-- An octet in decimal digits, without leading zeros. -/
def octet? (s : String) : Option Nat :=
  if s.isEmpty ∨ 3 < s.length ∨ (1 < s.length ∧ s.startsWith "0") then none
  else if s.toList.all Char.isDigit then
    let n := Nat.ofDigitChars 10 s.toList 0
    if n ≤ 255 then some n else none
  else none

/-- An IPv4 address of four decimal octets. -/
def dotted? (s : String) : Option Nat := do
  match ← (s.splitOn ".").mapM octet? with
  | [a, b, c, d] => some (((a * 256 + b) * 256 + c) * 256 + d)
  | _ => none

/-- The 16-bit pieces of a part of an IPv6 address: hexadecimal words, at the end perhaps an IPv4
address in four decimal octets. -/
def ipv6Pieces? (allowIPv4 : Bool) : List String → Option (List Nat)
  | [] => some []
  | [last] =>
    if last.contains '.' then
      if allowIPv4 then (dotted? last).map fun address => [address / 65536, address % 65536]
      else none
    else word? last |>.map ([·])
  | w :: rest => do
    let p ← word? w
    let ps ← ipv6Pieces? allowIPv4 rest
    some (p :: ps)
where
  word? (w : String) : Option Nat :=
    let cs := w.toList
    if cs.isEmpty ∨ 4 < cs.length then none
    else if cs.all fun c => (Text.hexDigit? c).isSome then some (Text.hexNumber cs).1
    else none

/-- The words of one side of `::`. -/
def ipv6Words (s : String) : List String :=
  if s.isEmpty then [] else s.splitOn ":"

def ipv6? (s : String) : Option (List Nat) :=
  match s.splitOn "::" with
  | [whole] => do
    let ps ← ipv6Pieces? true (ipv6Words whole)
    if ps.length = 8 then some ps else none
  | [left, right] => do
    let ls ← ipv6Pieces? false (ipv6Words left)
    let rs ← ipv6Pieces? true (ipv6Words right)
    let given := ls.length + rs.length
    if given < 8 then some (ls ++ List.replicate (8 - given) 0 ++ rs) else none
  | _ => none

/-- Characters that a domain name must not have. -/
def isForbidden (c : Char) : Bool :=
  c.toNat ≤ 0x20 || c.toNat == 0x7F || "#%/:<>?@[\\]^|".contains c

/-- Characters that a name of no standard scheme must not have. -/
def isForbiddenOpaque (c : Char) : Bool :=
  "\x00\t\n\r #/:<>?@[\\]^|".contains c

/-- The bytes with `%` and two hexadecimal digits replaced by the byte they spell. -/
def percentDecoded : List UInt8 → List UInt8
  | 0x25 :: a :: b :: rest =>
    match Text.hexDigit? (Char.ofNat a.toNat), Text.hexDigit? (Char.ofNat b.toNat) with
    | some x, some y => UInt8.ofNat (x * 16 + y) :: percentDecoded rest
    | _, _ => 0x25 :: percentDecoded (a :: b :: rest)
  | b :: rest => b :: percentDecoded rest
  | [] => []

/-- Reads the host of a scheme whose hosts are domain names or addresses. -/
def parse (s : String) : Except Error Host :=
  if s.startsWith "[" then
    if s.endsWith "]" then
      match ipv6? (String.ofList (s.toList.drop 1).dropLast) with
      | some pieces => .ok (.ipv6 pieces)
      | none => .error .badIPv6
    else .error .badIPv6
  else
    let decoded := percentDecoded s.toUTF8.toList
    match String.fromUTF8? ⟨decoded.toArray⟩ with
    | none => .error .badDomain
    | some name =>
      match Label.asciiName? name with
      | none => .error .badDomain
      | some name =>
        if name.toList.any isForbidden then .error .badDomain
        else if name.isEmpty then .error .emptyHost
        else if endsInNumber name then
          match ipv4? name with
          | some address => .ok (.ipv4 address)
          | none => .error .badIPv4
        else .ok (.domain name)

end Host

end TokenFaucet.Url
