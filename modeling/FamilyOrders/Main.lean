import FamilyOrders.CommandLine.Run

/-!
# The program

Runs a command line on the files of this machine.  The files that a command may
look at are read beforehand, the command runs on them as a tree, and what it
added is written afterwards.  This build has no network, so no rendering service
can be reached.
-/

namespace FamilyOrders.Program

open FamilyOrders.CommandLine FamilyOrders.Storage FamilyOrders.Text

def pathText (location : Location) : String :=
  ofUtf8Lossy location.path

/-- Whether a path is a directory: one with a dot behind it has a shorter form
without the dot. -/
def isDirectory (path : String) : IO Bool := do
  let dotted := path ++ "/."
  return toString (← IO.FS.realPath dotted) != dotted

def contentOf? (path : String) : IO (Option Bytes) := do
  try
    return some (← IO.FS.readBinFile path).toList
  catch _ =>
    return none

/-- Adds what is at the location to the tree. -/
def capture (tree : Tree) (location : Location) : IO Tree := do
  if ← isDirectory (pathText location) then return tree.put location .directory
  match ← contentOf? (pathText location) with
  | some bytes => return tree.put location (.file bytes)
  | none => return tree

/-- Adds everything on the way to a path, as far as the path exists. -/
def capturePath (workingDirectory : Location) (tree : Tree) (path : Bytes) :
    IO Tree := do
  let names := (splitPath path).filter fun name => name ≠ [] && name ≠ [dot]
  let all := if isAbsolute path then names else workingDirectory ++ names
  let mut tree := tree
  let mut here : Location := []
  for name in all do
    here := if name = [dot, dot] then here.dropLast else here ++ [name]
    tree ← capture tree here
  return tree

/-- The paths that a document's making looks at once configuration and case
are known. -/
def laterPaths (environment : Environment) (options : GenerateOptions)
    (tree : Tree) : List Bytes :=
  match readInputs environment options tree with
  | .error _ => []
  | .ok (config, file) =>
    let store := environment.store config
    let uploaded :=
      (file.answers.uploadedFile.map store.documentPath).bind Except.toOption
    store.root :: uploaded.toList

/-- The tree of all files that the command may look at. -/
def captureFor (environment : Environment) : Command → IO Tree
  | .generate options => do
    let add := capturePath environment.workingDirectory
    let first := environment.configPath?.toList ++
      utf8 options.casePath :: (options.configPath.map utf8).toList
    let tree ← first.foldlM add (← add {} environment.workingDirectory.path)
    (laterPaths environment options tree).foldlM add tree
  | _ => return {}

/-- Writes an entry that a command has added. -/
def writeEntry : Location × Entry → IO Unit
  | (location, .directory) => IO.FS.createDirAll (pathText location)
  | (location, .file bytes) =>
    IO.FS.writeBinFile (pathText location) (ByteArray.mk bytes.toArray)

/-- Random hexadecimal digits in the groups of a version-four identifier. -/
def randomName : IO Name := do
  let digit (bound : Nat) : IO Char :=
    return (Nat.toDigits 16 (← IO.rand 0 (bound - 1))).headD '0'
  let group (count : Nat) : IO (List Char) :=
    (List.replicate count 16).mapM digit
  let variant := "89ab".toList.getD (← IO.rand 0 3) '8'
  let text := (← group 8) ++ '-' :: (← group 4) ++ '-' :: '4' :: (← group 3) ++
    '-' :: variant :: (← group 3) ++ '-' :: (← group 12)
  return utf8 (String.ofList text)

def unreachable : Docmosis.Service Disk :=
  fun _ => return .unreachable

def report (outcome : Outcome) : IO UInt32 := do
  IO.print outcome.standardOutput
  match outcome with
  | .failed failure =>
    IO.eprintln ("Error: " ++ failure.message)
    match failure.cause? with
    | some cause => IO.eprintln ("\nCaused by:\n    " ++ cause.message)
    | none => pure ()
  | .stopped .usage =>
    IO.eprintln
      "Usage: order-docgen [orders | generate --case <CASE> [OPTIONS]]"
  | .stopped (.help _) | .printed _ => pure ()
  return outcome.exitStatus.toUInt32

end FamilyOrders.Program

open FamilyOrders FamilyOrders.CommandLine FamilyOrders.Program
  FamilyOrders.Storage in
def main (arguments : List String) : IO UInt32 := do
  let here := toString (← IO.currentDir)
  let fresh ← randomName
  let setting? (name : String) : IO (Option Bytes) :=
    return (← IO.getEnv name).map Text.utf8
  let environment : Environment :=
    { workingDirectory := (splitPath (Text.utf8 here)).filter (· ≠ [])
      home := (← setting? "HOME").filter (· ≠ [])
      configHome := ← setting? "XDG_CONFIG_HOME"
      dataHome := ← setting? "XDG_DATA_HOME"
      temporary := (← setting? "TMPDIR").getD (Text.utf8 "/tmp")
      directoryName := fun _ => fresh }
  match readCommand arguments with
  | .error stop => report (.stopped stop)
  | .ok command =>
    let tree ← captureFor environment command
    let (outcome, disk) :=
      (runCommand environment unreachable command).run { tree }
    for entry in disk.tree.entries.drop tree.entries.length do
      writeEntry entry
    report outcome
