import TokenFaucet.Text.Debug
import TokenFaucet.Text.LowerCase

set_option autoImplicit false

/-!
Labels of domain names: which letters count as the same, and how a label with other letters than
those of ASCII is spelled in ASCII. The spelling gives the basic letters first and then, in numbers,
where each other letter goes; a number ends at the first digit below its threshold, so every
threshold has to lie between 1 and 26.

Of the mapping of UTS 46 only the case of letters, the wide forms of ASCII, the points and the ignored
characters are here. The rest of its table, the composition of letters (NFC) and the rules for labels
that run in both directions are left out: a label that they concern is spelled, or taken, as it stands.
-/

namespace TokenFaucet.Url.Label

/-- Points between labels, in any width. -/
def isPoint (c : Char) : Bool :=
  c == '.' || c == '\u3002' || c == '\uff0e' || c == '\uff61'

/-- Characters that leave no trace in a name: soft hyphens, joints without width, variants. -/
def isIgnored (c : Char) : Bool :=
  c == '\u00ad' || c == '\u034f' || c == '\u200b' || c == '\u2060' || c == '\u2064' ||
    c == '\ufeff' || ('\u180b' ≤ c && c ≤ '\u180d') || c == '\u180f' ||
    ('\ufe00' ≤ c && c ≤ '\ufe0f')

/-- A wide form of a character of ASCII as that character. -/
def narrow (c : Char) : Char :=
  if '\uff01' ≤ c ∧ c ≤ '\uff5e' then Char.ofNat (c.toNat - 0xFEE0) else c

/-- What a character counts as in a name. -/
def foldedChar (c : Char) : List Char :=
  if isIgnored c then []
  else if isPoint c then ['.']
  else if c = 'İ' then ['i', '\u0307']
  else [narrow (Text.LowerCase.char c)]

/-- What a name counts as. -/
def folded (name : List Char) : List Char :=
  name.flatMap foldedChar

/-- Whether a label can be shown: all of it is visible, and its first letter is no mark on another. -/
def isFit (label : List Char) : Bool :=
  label.all (fun c => c != '\u200c' && !Text.Debug.hidden.contains c) &&
    !label.head?.any Text.Debug.joining.contains

/-- The digit at position `k` below which a number ends. -/
def threshold (bias k : Nat) : Nat :=
  if k ≤ bias then 1 else if bias + 26 ≤ k then 26 else k - bias

theorem threshold_pos (bias k : Nat) : 1 ≤ threshold bias k := by
  unfold threshold
  split
  · omega
  · split <;> omega

/-- The bias after a letter was placed. -/
def adapted (delta count : Nat) (first : Bool) : Nat :=
  let delta := if first then delta / 700 else delta / 2
  reduce (delta + delta / count) 0
where
  reduce (delta k : Nat) : Nat :=
    if 455 < delta then reduce (delta / 35) (k + 36) else k + 36 * delta / (delta + 38)
  termination_by delta
  decreasing_by exact Nat.div_lt_self (by omega) (by omega)

/-- A letter or digit for a value below 36. -/
def digit (n : Nat) : Char :=
  if n < 26 then Char.ofNat ('a'.toNat + n) else Char.ofNat ('0'.toNat + (n - 26))

def value? (c : Char) : Option Nat :=
  if 'a' ≤ c ∧ c ≤ 'z' then some (c.toNat - 'a'.toNat)
  else if '0' ≤ c ∧ c ≤ '9' then some (c.toNat - '0'.toNat + 26)
  else none

/-- The digits of a number from position `k` on. -/
def digits (bias k q : Nat) : List Char :=
  let t := threshold bias k
  if q < t then [digit q]
  else digit (t + (q - t) % (36 - t)) :: digits bias (k + 36) ((q - t) / (36 - t))
termination_by q
decreasing_by
  have := threshold_pos bias k
  have := Nat.div_le_self (q - threshold bias k) (36 - threshold bias k)
  omega

/-- A spelling as it grows: the steps since the last letter that was placed, the bias, how many letters
have their place, and the digits. -/
structure Spelling where
  delta : Nat
  bias : Nat
  placed : Nat
  digits : List Char

/-- Passes one letter of the label in the round of the letter `m`. -/
def Spelling.pass (basic m : Nat) (s : Spelling) (c : Nat) : Spelling :=
  if c < m then { s with delta := s.delta + 1 }
  else if c = m then
    { delta := 0
      bias := adapted s.delta (s.placed + 1) (s.placed == basic)
      placed := s.placed + 1
      digits := s.digits ++ Label.digits s.bias 36 s.delta }
  else s

/-- The rounds of the letters that are not of ASCII, in order; `n` is the first that had no round yet. -/
def Spelling.rounds (label : List Nat) (basic : Nat) : List Nat → Nat → Spelling → Spelling
  | [], _, s => s
  | m :: rest, n, s =>
    let s := label.foldl (Spelling.pass basic m) { s with delta := s.delta + (m - n) * (s.placed + 1) }
    Spelling.rounds label basic rest (m + 1) { s with delta := s.delta + 1 }

def encode (label : List Char) : List Char :=
  let points := label.map Char.toNat
  let basic := label.filter fun c => c.toNat < 128
  let others := (points.filter (128 ≤ ·)).mergeSort.eraseDups
  let spelling := Spelling.rounds points basic.length others 128 ⟨0, 72, basic.length, []⟩
  (if basic.isEmpty then [] else basic ++ ['-']) ++ spelling.digits

/-- A label as it is read from its spelling: its letters so far, the letter and the place that the last
number led to, the bias, and of the number that is being read its value, its weight and its position. -/
structure Draft where
  letters : List Char
  point : Nat
  place : Nat
  bias : Nat
  delta : Nat
  weight : Nat
  position : Nat

/-- Reads one digit; the last one of a number places a letter. -/
def Draft.read (d : Draft) (c : Char) : Option Draft := do
  let q ← value? c
  let t := threshold d.bias d.position
  let delta := d.delta + q * d.weight
  if t ≤ q then
    some { d with delta, weight := d.weight * (36 - t), position := d.position + 36 }
  else
    let count := d.letters.length + 1
    let place := (d.place + delta) % count
    let point := d.point + (d.place + delta) / count
    if ¬ point.isValidChar then none
    else
      some {
        letters := d.letters.take place ++ Char.ofNat point :: d.letters.drop place
        point
        place := place + 1
        bias := adapted delta count (d.place == 0)
        delta := 0
        weight := 1
        position := 36 }

/-- The label that a spelling stands for. -/
def decode? (spelling : List Char) : Option (List Char) := do
  let basic := (spelling.reverse.dropWhile (· ≠ '-')).drop 1 |>.reverse
  let rest := if basic.isEmpty then spelling else spelling.drop (basic.length + 1)
  let d ← rest.foldlM Draft.read ⟨basic, 128, 0, 72, 0, 1, 36⟩
  if d.position = 36 then some d.letters else none

/-- The mark of a label that is a spelling. -/
def spelled? : List Char → Option (List Char)
  | 'x' :: 'n' :: '-' :: '-' :: rest => some rest
  | _ => none

/-- A label in ASCII. One with the mark has to spell a label that needs it. -/
def ascii? (label : List Char) : Option (List Char) :=
  match spelled? label with
  | some spelling => do
    if spelling.any (128 ≤ ·.toNat) then none
    let letters ← decode? spelling
    if letters.any (128 ≤ ·.toNat) && isFit letters && folded letters == letters then some label
    else none
  | none =>
    if label.all (·.toNat < 128) then some label
    else if isFit label then some ("xn--".toList ++ encode label)
    else none

def asciiName? (name : String) : Option String := do
  let labels ← ((String.ofList (folded name.toList)).splitOn ".").mapM fun label => ascii? label.toList
  return String.intercalate "." (labels.map String.ofList)

end TokenFaucet.Url.Label
