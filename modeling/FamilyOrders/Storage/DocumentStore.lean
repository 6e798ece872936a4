import FamilyOrders.Creation.Collaborators
import FamilyOrders.Storage.Tree
import FamilyOrders.Text.Characters
import FamilyOrders.Url.Parser

/-!
# The document store

Documents as files below one directory, each in a directory of its own with a
fresh name, referred to by `file` URLs.  Only what lies below the store's
directory can be fetched from it.
-/

namespace FamilyOrders.Storage

open FamilyOrders.Text

/-! ## Safe file names

The name under which a document is stored is a single step in a path on any
system. -/

/-- Characters that a stored name does not have. -/
def isUnsafe (c : Char) : Bool :=
  ['/', '\\', ':', '*', '?', '"', '<', '>', '|'].contains c || c.toNat < 0x20

/-- The name without blanks around it, unsafe characters and outer dots;
`document` if nothing remains. -/
def safeNameChars (cs : List Char) : List Char :=
  let cleaned :=
    (strip isBlank cs).map fun c => if isUnsafe c then '_' else c
  match strip (· = '.') cleaned with
  | [] => "document".toList
  | name => name

def safeName (filename : String) : String :=
  String.ofList (safeNameChars filename.toList)

/-! ## Stores -/

structure DocumentStore where
  /-- The path of the store's directory, which is made when it is first
  needed. -/
  root : Bytes
  workingDirectory : Location
  /-- The names given to documents' directories, in the order in which they
  are drawn. -/
  directoryName : Nat → Name
  /-- What the disk does with changes. -/
  medium : Medium := {}
  /-- How the hosts in references are read. -/
  domains : Url.DomainRules := Url.simpleDomains

/-- A file tree, with the number of directory names drawn so far. -/
structure Disk where
  tree : Tree := {}
  drawn : Nat := 0

/-- An operation on the tree whose fault is told as an error of the library. -/
def onTree (blame : Fault → OrderError) (operation : TreeAction α) :
    Action Disk α := do
  let disk ← get
  let (result, tree) := operation.run disk.tree
  set { disk with tree }
  match result with
  | .ok a => return a
  | .error fault => throw (blame fault)

/-- A question about the tree. -/
def fromTree (blame : Fault → OrderError)
    (question : Tree → Except Fault α) : Action Disk α := do
  match question (← get).tree with
  | .ok a => return a
  | .error fault => throw (blame fault)

namespace DocumentStore

/-- The location of the store's directory, which exists from now on. -/
def openRoot (store : DocumentStore) : Action Disk Location := do
  onTree (fun fault => .store (.createDirectory store.root fault))
    (makeDirectories store.medium store.workingDirectory store.root)
  fromTree .io fun tree => tree.resolve store.workingDirectory store.root

def drawName (store : DocumentStore) : Action Disk Name := do
  let disk ← get
  set { disk with drawn := disk.drawn + 1 }
  return store.directoryName disk.drawn

/-- The reference to a file in a directory. -/
def reference (directory : Location) (filename : String) : DocumentReference :=
  { url := (Url.ofFile directory).text
    binaryUrl := (Url.ofFile (directory ++ [utf8 filename])).text
    filename }

/-- Writes a new file, stage by stage. -/
def writeFile (store : DocumentStore) (directory : Location) (name : Name)
    (bytes : Bytes) : Action Disk Unit := do
  let place := directory ++ [name]
  onTree (fun fault => .store (.createFile place.path fault))
    (createFile store.medium directory name)
  onTree (fun fault => .store (.stopped .write place.path fault))
    (passStage store.medium .write place bytes)
  onTree (fun fault => .store (.stopped .flush place.path fault))
    (passStage store.medium .flush place bytes)

def upload (store : DocumentStore) (bytes : Bytes)
    (filename _mediaType : String) : Action Disk DocumentReference := do
  let root ← store.openRoot
  let name ← store.drawName
  let directory := root ++ [name]
  onTree (fun fault => .store (.createDirectory directory.path fault))
    (makeDirectories store.medium [] directory.path)
  let stored := safeName filename
  store.writeFile directory (utf8 stored) bytes
  return reference directory stored

/-- The path that a document's URL names. -/
def documentPath (store : DocumentStore) (document : DocumentReference) :
    Except OrderError Bytes :=
  match Url.parse store.domains document.binaryUrl with
  | .error cause => .error (.store (.invalidUrl document.binaryUrl cause))
  | .ok url =>
    match url.filePath? with
    | some path => .ok path
    | none => .error (.store (.notAFileUrl url))

def download (store : DocumentStore) (document : DocumentReference) :
    Action Disk Bytes := do
  let path ← store.documentPath document
  let root ← store.openRoot
  let location ← fromTree (fun fault => .store (.notFound path fault))
    fun tree => tree.resolve store.workingDirectory path
  if location.isWithin root then
    fromTree .io fun tree => tree.read location
  else
    throw (.store (.outside location.path))

end DocumentStore

end FamilyOrders.Storage
