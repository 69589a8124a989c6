import TokenFaucet.Event
import TokenFaucet.Json.Printer
import TokenFaucet.Timestamp

set_option autoImplicit false

namespace TokenFaucet

/-- The detail that is shown of sources whose names start with a text. -/
structure LogDirective where
  source : String
  detail : Nat
deriving DecidableEq, Repr

namespace LogDirective

def details : List (String × Nat) :=
  [("off", 0), ("error", 1), ("warn", 2), ("info", 3), ("debug", 4), ("trace", 5), ("", 1),
    ("0", 0), ("1", 1), ("2", 2), ("3", 3), ("4", 4), ("5", 5)]

/-- Reads a degree of detail, whatever the case of its letters. -/
def detail? (s : String) : Option Nat :=
  (details.find? fun d => d.1 == s.map Char.toLower).map (·.2)

def most : Nat := 5

/-- Reads a directive: a name and a degree, or one of the two. -/
def parse? (s : String) : Option LogDirective :=
  match s.splitOn "=" with
  | [word] =>
    match detail? word with
    | some detail => some ⟨"", detail⟩
    | none => some ⟨word, most⟩
  | [source, word] => (detail? word).map fun detail => ⟨source, detail⟩
  | _ => none

/-- Reads a list of directives; errors are shown where nothing is asked for. -/
def parseList? (s : String) : Option (List LogDirective) :=
  match (s.splitOn ",").filter (!·.isEmpty) with
  | [] => some [⟨"", 1⟩]
  | words => words.mapM parse?

/-- The detail that is shown of a source. -/
def detailOf (directives : List LogDirective) (source : String) : Nat :=
  let chosen := (directives.filter fun d => source.startsWith d.source).foldl
    (fun best d => match best with
      | none => some d
      | some b => if b.source.length ≤ d.source.length then some d else some b) none
  (chosen.map (·.detail)).getD 0

end LogDirective

structure Log where
  /-- Whether every note is a line of JSON. -/
  asJson : Bool
  directives : List LogDirective

namespace Log

/-- The directives where none can be read. -/
def defaultDirectives : List LogDirective := [⟨"", 3⟩, ⟨"tower_http", 4⟩]

def ofVariables (lookup : String → Option String) : Log :=
  { asJson := (lookup "LOG_FORMAT").any fun form => form.map Char.toLower == "json"
    directives := ((lookup "RUST_LOG").bind LogDirective.parseList?).getD defaultDirectives }

def shows (l : Log) (e : Event) : Bool :=
  e.level.detail ≤ LogDirective.detailOf l.directives Event.source

def line (l : Log) (now : Timestamp) (e : Event) : String :=
  if l.asJson then
    (Json.object
      [("timestamp", .string now.text), ("level", .string e.level.name),
        ("fields", .object
          ([("message", Json.string e.message)] ++ (e.error.map fun why => ("error", Json.string why)).toList)),
        ("target", .string Event.source)]).render
  else
    let error := (e.error.map (" error=" ++ ·)).getD ""
    s!"{now.text} {e.level.name} {Event.source}: {e.message}{error}"

/-- The variables that a log is described by. -/
def variableNames : List String := ["LOG_FORMAT", "RUST_LOG"]

end Log

end TokenFaucet
