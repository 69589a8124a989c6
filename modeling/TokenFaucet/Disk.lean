set_option autoImplicit false

namespace TokenFaucet

/-- Why something on a disk could not be done. -/
inductive DiskFault where
  | noEntry
  | alreadyThere
  | notDirectory
  | isDirectory
  | nameTooLong
  | badName
deriving DecidableEq, Repr

def DiskFault.message : DiskFault → String
  | noEntry => "No such file or directory (os error 2)"
  | alreadyThere => "File exists (os error 17)"
  | notDirectory => "Not a directory (os error 20)"
  | isDirectory => "Is a directory (os error 21)"
  | nameTooLong => "File name too long (os error 36)"
  | badName => "file name contained an unexpected NUL byte"

/-- Files and directories by the names on the way to them, and where the process works. -/
structure Disk where
  files : List (List String × String)
  directories : List (List String)
  workingDirectory : List String
deriving DecidableEq

namespace Disk

inductive Place where
  | directory
  | file (content : String)
  | nothing
deriving DecidableEq

def maxNameLength : Nat := 255

def place (d : Disk) (at_ : List String) : Place :=
  match d.files.find? fun f => f.1 == at_ with
  | some f => .file f.2
  | none => if at_.isEmpty || d.directories.contains at_ then .directory else .nothing

/-- A directory to go on from. -/
def enter (d : Disk) (at_ : List String) : Except DiskFault Unit :=
  match d.place at_ with
  | .directory => .ok ()
  | .file _ => .error .notDirectory
  | .nothing => .error .noEntry

/-- Where a name leads from a directory. -/
def step (at_ : List String) (name : String) : List String :=
  if name == "" || name == "." then at_
  else if name == ".." then at_.dropLast
  else at_ ++ [name]

/-- Follows names; all but the last have to lead to directories. -/
def follow (d : Disk) (at_ : List String) : List String → Except DiskFault (List String)
  | [] => .ok at_
  | name :: rest => do
    d.enter at_
    if maxNameLength < name.utf8ByteSize then throw .nameTooLong
    d.follow (step at_ name) rest

def names (path : String) : Except DiskFault (List String) :=
  if path.contains '\x00' then .error .badName else .ok (path.splitOn "/")

def start (d : Disk) (path : String) : List String :=
  if path.startsWith "/" then [] else d.workingDirectory

def find (d : Disk) (path : String) : Except DiskFault (List String) := do
  d.follow (d.start path) (← names path)

def read (d : Disk) (path : String) : Except DiskFault String := do
  match d.place (← d.find path) with
  | .file content => return content
  | .directory => throw .isDirectory
  | .nothing => throw .noEntry

/-- Makes the directories on a way that are not there yet. -/
def makeWay (d : Disk) (at_ : List String) : List String → Except DiskFault Disk
  | [] =>
    match d.place at_ with
    | .directory => .ok d
    | .file _ => .error .alreadyThere
    | .nothing => .ok { d with directories := at_ :: d.directories }
  | name :: rest =>
    if maxNameLength < name.utf8ByteSize then .error .nameTooLong
    else
      match d.place at_ with
      | .directory => d.makeWay (step at_ name) rest
      | .file _ => .error .notDirectory
      | .nothing =>
        makeWay { d with directories := at_ :: d.directories } (step at_ name) rest

/-- Makes a directory, and those on the way to it, where they are not there yet. -/
def makeDirectory (d : Disk) (path : String) : Except DiskFault Disk := do
  d.makeWay (d.start path) (← names path)

end Disk

end TokenFaucet
