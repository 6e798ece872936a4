import FamilyOrders.Text.Encoding

/-!
# File trees

Directories and files by location, oldest first, and the operations that a
store of documents needs.  There are no links.  A path is the text by which a
file is asked for; it is followed name by name, each step from an existing
directory.  Besides what the tree itself forbids, the medium may refuse
anything new and lose a part of what is written.
-/

namespace FamilyOrders.Storage

open FamilyOrders.Text

/-! ## Faults -/

/-- Why an operation on files fails. -/
inductive Fault
  | noSuchEntry
  | alreadyExists
  | notADirectory
  | isADirectory
  | nameTooLong
  /-- A path with a NUL byte, which the system is never asked for. -/
  | nulInPath
  /-- The content of a file that should be text is not UTF-8. -/
  | invalidText
  /-- Any other fault, by the system's text and number. -/
  | reported (text : String) (number : Nat)
  deriving DecidableEq

def numbered (text : String) (number : Nat) : String :=
  text ++ " (os error " ++ toString number ++ ")"

def Fault.message : Fault → String
  | .noSuchEntry => numbered "No such file or directory" 2
  | .alreadyExists => numbered "File exists" 17
  | .notADirectory => numbered "Not a directory" 20
  | .isADirectory => numbered "Is a directory" 21
  | .nameTooLong => numbered "File name too long" 36
  | .nulInPath => "file name contained an unexpected NUL byte"
  | .invalidText => "stream did not contain valid UTF-8"
  | .reported text number => numbered text number

/-! ## Paths -/

/-- A name within a directory, in bytes. -/
abbrev Name := Bytes

/-- Where a path leads: the names from the root of the file system down. -/
abbrev Location := List Name

def slash : UInt8 := 0x2F

def dot : UInt8 := 0x2E

/-- The names between the slashes of a path. -/
def splitPath : Bytes → List Name
  | [] => [[]]
  | b :: bytes =>
    if b = slash then [] :: splitPath bytes
    else match splitPath bytes with
      | name :: names => (b :: name) :: names
      | [] => [[b]]

def isAbsolute (path : Bytes) : Bool :=
  path.head? = some slash

/-- The path of what has this name in a directory; an absolute path stands for
itself. -/
def joinPath (directory name : Bytes) : Bytes :=
  if isAbsolute name then name
  else if directory.getLast?.all (· = slash) then directory ++ name
  else directory ++ slash :: name

/-- The longest name that a directory can hold. -/
def longestName : Nat := 255

/-- The longest path that the system can be asked for. -/
def longestPath : Nat := 4095

/-- The path of a location. -/
def Location.path : Location → Bytes
  | [] => [slash]
  | names => names.flatMap (slash :: ·)

/-- Whether a location lies at or below a directory. -/
def Location.isWithin (location directory : Location) : Bool :=
  location.take directory.length = directory

/-- Where a name leads from a location. -/
def follow (here : Location) (name : Name) : Location :=
  if name = [] ∨ name = [dot] then here
  else if name = [dot, dot] then here.dropLast
  else here ++ [name]

/-! ## Trees -/

inductive Entry
  | directory
  | file (bytes : Bytes)
  deriving DecidableEq

structure Tree where
  entries : List (Location × Entry) := []

namespace Tree

/-- What is at the location; the root is always a directory. -/
def entry? (tree : Tree) (location : Location) : Option Entry :=
  if location = [] then some .directory
  else (tree.entries.find? fun entry => entry.1 = location).map (·.2)

/-- Puts an entry in place of any other at its location. -/
def put (tree : Tree) (location : Location) (entry : Entry) : Tree :=
  { entries :=
      tree.entries.filter (fun old => old.1 ≠ location) ++
        [(location, entry)] }

def isDirectory (tree : Tree) (location : Location) : Bool :=
  tree.entry? location = some .directory

/-- Where a name leads from a location, if anything is there. -/
def step (tree : Tree) (here : Location) (name : Name) :
    Except Fault Location :=
  if !tree.isDirectory here then .error .notADirectory
  else if name = [] ∨ name = [dot] then .ok here
  else if name = [dot, dot] then .ok here.dropLast
  else if longestName < name.length then .error .nameTooLong
  else if (tree.entry? (here ++ [name])).isNone then .error .noSuchEntry
  else .ok (here ++ [name])

/-- A step after which the system is asked for the whole path so far. -/
def resolveStep (tree : Tree) (here : Location) (name : Name) :
    Except Fault Location :=
  if longestPath < (follow here name).path.length then .error .nameTooLong
  else tree.step here name

/-- Where a path leads from the working directory. -/
def resolve (tree : Tree) (workingDirectory : Location) (path : Bytes) :
    Except Fault Location :=
  if 0 ∈ path then .error .nulInPath
  else if path = [] then .error .noSuchEntry
  else
    (splitPath path).foldlM tree.resolveStep
      (if isAbsolute path then [] else workingDirectory)

def read (tree : Tree) (location : Location) : Except Fault Bytes :=
  match tree.entry? location with
  | some (.file bytes) => .ok bytes
  | some .directory => .error .isADirectory
  | none => .error .noSuchEntry

/-- The content of the file that a path leads to. -/
def readPath (tree : Tree) (workingDirectory : Location) (path : Bytes) :
    Except Fault Bytes := do
  tree.read (← tree.resolve workingDirectory path)

end Tree

/-! ## Changes -/

/-- What content passes on its way to the disk. -/
inductive WriteStage
  | write
  | flush
  deriving DecidableEq

/-- How a stage breaks off: so many bytes are kept, and there is a fault. -/
structure Shortfall where
  kept : Nat
  fault : Fault

/-- What a disk does with changes, whatever the tree would allow. -/
structure Medium where
  /-- Why nothing new can be made at a place. -/
  refusal : Tree → Location → Option Fault := fun _ _ => none
  /-- How a stage of writing the file at a place breaks off. -/
  shortfall : WriteStage → Tree → Location → Option Shortfall :=
    fun _ _ _ => none

/-- An operation that changes a tree; changes made before a fault stay. -/
abbrev TreeAction (α : Type) := ExceptT Fault (StateM Tree) α

/-- Puts a directory or an empty file where there is none. -/
def makeEntry (medium : Medium) (place : Location) (entry : Entry) :
    TreeAction Unit := do
  let tree ← get
  match medium.refusal tree place with
  | some fault => throw fault
  | none => set (tree.put place entry)

/-- A step that makes a directory where there is nothing. -/
def makeStep (medium : Medium) (here : Location) (name : Name) :
    TreeAction Location := do
  match (← get).step here name with
  | .ok location => return location
  | .error .noSuchEntry =>
    makeEntry medium (here ++ [name]) .directory
    return here ++ [name]
  | .error fault => throw fault

/-- Makes the directory of a path and all those above it, where they are
missing. -/
def makeDirectories (medium : Medium) (workingDirectory : Location)
    (path : Bytes) : TreeAction Unit := do
  if 0 ∈ path then throw .nulInPath
  if longestPath < path.length then throw .nameTooLong
  if path ≠ [] then
    let names := (splitPath path).filter (· ≠ [])
    let location ←
      names.foldlM (makeStep medium)
        (if isAbsolute path then [] else workingDirectory)
    if !(← get).isDirectory location then throw .alreadyExists

/-- Makes an empty file in an existing directory. -/
def createFile (medium : Medium) (directory : Location) (name : Name) :
    TreeAction Unit := do
  let place := directory ++ [name]
  if longestName < name.length ∨ longestPath < place.path.length then
    throw .nameTooLong
  if (← get).isDirectory place then throw .isADirectory
  makeEntry medium place (.file [])

/-- Takes the content of a file through a stage. -/
def passStage (medium : Medium) (stage : WriteStage) (place : Location)
    (bytes : Bytes) : TreeAction Unit := do
  let tree ← get
  match medium.shortfall stage tree place with
  | none => set (tree.put place (.file bytes))
  | some shortfall =>
    set (tree.put place (.file (bytes.take shortfall.kept)))
    throw shortfall.fault

end FamilyOrders.Storage
