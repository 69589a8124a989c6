import TokenFaucet.Disk
import TokenFaucet.Ledger.Store

set_option autoImplicit false

/-!
The ledger as the text of a file: a line that says what it is, and the rows as an array of pairs of
texts; and opening a ledger on a disk. The directories on the way are made if they are not there; a
file of anything else than a ledger is in the way.
-/

namespace TokenFaucet.Ledger

namespace Store

def archiveHead : String := "token faucet ledger\n"

def archive (s : Store) : String :=
  archiveHead ++
    (Json.array (s.rows.map fun row => Json.array [.string row.1, .string row.2])).render

def pairReading : Json.Reading (String × String) := fun node => do
  match ← Json.Reading.list Json.Reading.string node with
  | [key, text] => .ok (key, text)
  | texts => .error (.mismatch [] (.invalidLength texts.length "a pair of texts"))

/-- The ledger in the text of a file; an empty file is a new ledger. -/
def ofArchive? (text : String) : Option Store :=
  if text.isEmpty then some empty
  else if text.startsWith archiveHead then
    (Json.readText (Json.Reading.list pairReading) (text.drop archiveHead.length).toString).toOption.map
      fun rows => ⟨rows⟩
  else none

end Store

/-- The directory of a path and the last name in it. Names that lead nowhere are not part of the
text of a directory. -/
def splitPath (path : String) : String × String :=
  let names := path.splitOn "/"
  let before := names.dropLast.reverse.dropWhile fun name => name == "" || name == "."
  (String.intercalate "/" before.reverse, names.getLast?.getD "")

/-- Why a place that should be a new ledger is not one. -/
def siteFault (why : DiskFault) : Error :=
  .storage s!"I/O error: {why.message}"

/-- Why a file that is not a ledger cannot be opened. -/
def foreignFile : Error := .storage "not a ledger"

/-- Opens the ledger at a path; the results are the disk with the ledger on it, and the ledger. -/
def openOn (d : Disk) (path : String) : Except Error (Disk × Store) := do
  let (directory, name) := splitPath path
  let d ← (d.makeDirectory directory).mapError fun why : DiskFault =>
    Error.storage s!"{directory}: {why.message}"
  let found ← (d.find path).mapError siteFault
  if name == "" || name == "." || name == ".." then throw (siteFault .isDirectory)
  match d.place found with
  | .directory => throw (siteFault .isDirectory)
  | .nothing => return ({ d with files := (found, Store.empty.archive) :: d.files }, .empty)
  | .file content =>
    match Store.ofArchive? content with
    | some store => return (d, store)
    | none => throw foreignFile

end TokenFaucet.Ledger
