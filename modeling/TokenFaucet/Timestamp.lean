import TokenFaucet.Text.Blank

set_option autoImplicit false

attribute [local instance (2000)] instPowNat

namespace TokenFaucet

/-- A moment in universal time. A leap second is second 60. -/
structure Timestamp where
  year : Int
  month : Nat
  day : Nat
  hour : Nat
  minute : Nat
  second : Nat
  nanosecond : Nat
deriving DecidableEq, Repr

namespace Timestamp

/-- A number with at least that many digits. -/
def padded (width n : Nat) : List Char :=
  let ds := Nat.toDigits 10 n
  List.replicate (width - ds.length) '0' ++ ds

/-- Four digits, and a sign for years that need one. -/
def yearText (year : Int) : List Char :=
  if year < 0 then '-' :: padded 4 year.natAbs
  else if 9999 < year then '+' :: padded 4 year.natAbs
  else padded 4 year.natAbs

/-- The fraction of a second in groups of three digits. -/
def fractionText (nanosecond : Nat) : List Char :=
  if nanosecond = 0 then []
  else if nanosecond % 1000000 = 0 then '.' :: padded 3 (nanosecond / 1000000)
  else if nanosecond % 1000 = 0 then '.' :: padded 6 (nanosecond / 1000)
  else '.' :: padded 9 nanosecond

def chars (t : Timestamp) : List Char :=
  yearText t.year ++ '-' :: padded 2 t.month ++ '-' :: padded 2 t.day ++
    'T' :: padded 2 t.hour ++ ':' :: padded 2 t.minute ++ ':' :: padded 2 t.second ++
    fractionText t.nanosecond ++ ['Z']

/-- The text of a moment, such as `2024-01-02T03:04:05.120Z`. -/
def text (t : Timestamp) : String :=
  String.ofList t.chars

def isLeapYear (year : Int) : Bool :=
  year % 4 == 0 && (year % 100 != 0 || year % 400 == 0)

def daysInMonth (year : Int) (month : Nat) : Nat :=
  match month with
  | 2 => if isLeapYear year then 29 else 28
  | 4 | 6 | 9 | 11 => 30
  | _ => 31

/-- Days from 1 March of year 0 to a date, with years that start in March so that the leap day is
their last. -/
def dayNumber (year : Int) (month day : Nat) : Int :=
  let y := if month ≤ 2 then year - 1 else year
  let m := (month + 9) % 12
  let dayOfYear := (153 * m + 2) / 5 + (day - 1)
  365 * y + Int.fdiv y 4 - Int.fdiv y 100 + Int.fdiv y 400 + dayOfYear

def ofDayNumber (n : Int) : Int × Nat × Nat :=
  let era := Int.fdiv n 146097
  let dayOfEra := (n - era * 146097).toNat
  let yearOfEra :=
    (dayOfEra - dayOfEra / 1460 + dayOfEra / 36524 - dayOfEra / 146096) / 365
  let dayOfYear := dayOfEra - (365 * yearOfEra + yearOfEra / 4 - yearOfEra / 100)
  let m := (5 * dayOfYear + 2) / 153
  let day := dayOfYear - (153 * m + 2) / 5 + 1
  let month := if m < 10 then m + 3 else m - 9
  let year := (yearOfEra : Int) + era * 400
  (if month ≤ 2 then year + 1 else year, month, day)

def yearInRange (year : Int) : Bool :=
  -262143 ≤ year && year ≤ 262142

/-- Whether the fields name a day and a second of it. -/
def isValid (t : Timestamp) : Bool :=
  yearInRange t.year && 1 ≤ t.month && t.month ≤ 12 && 1 ≤ t.day &&
    t.day ≤ daysInMonth t.year t.month && t.hour ≤ 23 && t.minute ≤ 59 && t.second ≤ 60

/-- A local time moved to universal time, for an offset in minutes. -/
def toUniversal (t : Timestamp) (offset : Int) : Timestamp :=
  if offset = 0 then t
  else
    let minutes := dayNumber t.year t.month t.day * 1440 + t.hour * 60 + t.minute - offset
    let (year, month, day) := ofDayNumber (Int.fdiv minutes 1440)
    let rest := (Int.fmod minutes 1440).toNat
    { t with year := year, month := month, day := day, hour := rest / 60, minute := rest % 60 }

/-- The moment so many nanoseconds after the start of 1970. -/
def ofUnixNanoseconds (n : Int) : Timestamp :=
  let seconds := Int.fdiv n 1000000000
  let (year, month, day) := ofDayNumber (dayNumber 1970 1 1 + Int.fdiv seconds 86400)
  let rest := (Int.fmod seconds 86400).toNat
  ⟨year, month, day, rest / 3600, rest / 60 % 60, rest % 60, (Int.fmod n 1000000000).toNat⟩

def skipBlanks (cs : List Char) : List Char :=
  cs.dropWhile Text.isBlank

/-- A number of one to `most` digits, after blanks. -/
def number? (most : Nat) (cs : List Char) : Option (Nat × List Char) :=
  let cs := skipBlanks cs
  let ds := (cs.take most).takeWhile Char.isDigit
  if ds.isEmpty then none else some (Nat.ofDigitChars 10 ds 0, cs.drop ds.length)

/-- All the digits at the front of a text. -/
def allDigits? (cs : List Char) : Option (Nat × List Char) :=
  let ds := cs.takeWhile Char.isDigit
  if ds.isEmpty then none else some (Nat.ofDigitChars 10 ds 0, cs.dropWhile Char.isDigit)

/-- A year: four digits at most, or a sign and any number of them. -/
def year? (cs : List Char) : Option (Int × List Char) :=
  match skipBlanks cs with
  | '-' :: cs => (allDigits? cs).map fun (n, cs) => (-(n : Int), cs)
  | '+' :: cs => (allDigits? cs).map fun (n, cs) => ((n : Int), cs)
  | cs => (number? 4 cs).map fun (n, cs) => ((n : Int), cs)

/-- A separator, blanks before it allowed. -/
def separator? (c : Char) (cs : List Char) : Option (List Char) :=
  match skipBlanks cs with
  | d :: cs => if c = d then some cs else none
  | [] => none

/-- The fraction of a second, if there is one; digits after the ninth are dropped. -/
def fraction? : List Char → Option (Nat × List Char)
  | '.' :: cs =>
    let ds := cs.takeWhile Char.isDigit
    if ds.isEmpty then none
    else
      let nine := ds.take 9
      some (Nat.ofDigitChars 10 nine 0 * 10 ^ (9 - nine.length), cs.dropWhile Char.isDigit)
  | cs => some (0, cs)

/-- Two digits, and the first of them below a bound. -/
def twoDigits? (bound : Char) : List Char → Option (Nat × List Char)
  | a :: b :: cs =>
    if a.isDigit ∧ a ≤ bound ∧ b.isDigit then some (Nat.ofDigitChars 10 [a, b] 0, cs) else none
  | _ => none

/-- An offset in minutes: `Z`, `UTC`, or a sign with hours and minutes. -/
def offset? (cs : List Char) : Option (Int × List Char) :=
  match cs with
  | 'Z' :: cs => some (0, cs)
  | 'z' :: cs => some (0, cs)
  | sign :: rest =>
    if (cs.take 3).map Char.toUpper = "UTC".toList then some (0, cs.drop 3)
    else if sign = '+' ∨ sign = '-' ∨ sign = '−' then do
      let (hours, rest) ← twoDigits? '9' rest
      let (minutes, rest) ← twoDigits? '5' (rest.dropWhile fun c => c == ':' || Text.isBlank c)
      let total : Int := hours * 60 + minutes
      if total < 1440 then some (if sign = '+' then total else -total, rest) else none
    else none
  | [] => none

/-- Reads a moment: a date, `T` or a space, a time, and an offset. -/
def parse? (s : String) : Option Timestamp := do
  let (year, cs) ← year? s.toList
  let cs ← separator? '-' cs
  let (month, cs) ← number? 2 cs
  let cs ← separator? '-' cs
  let (day, cs) ← number? 2 cs
  let cs ← match cs with
    | c :: cs => if c = 'T' ∨ c = 't' ∨ c = ' ' then some cs else none
    | [] => none
  let (hour, cs) ← number? 2 cs
  let cs ← separator? ':' cs
  let (minute, cs) ← number? 2 cs
  let cs ← separator? ':' cs
  let (second, cs) ← number? 2 cs
  let (nanosecond, cs) ← fraction? cs
  let (offset, cs) ← offset? (skipBlanks cs)
  if !(skipBlanks cs).isEmpty then none
  let t : Timestamp := ⟨year, month, day, hour, minute, second, nanosecond⟩
  if !t.isValid then none
  let t := t.toUniversal offset
  if yearInRange t.year then some t else none

end Timestamp

end TokenFaucet
