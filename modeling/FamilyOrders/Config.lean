import FamilyOrders.Document.Basic
import FamilyOrders.Drafting.Basic
import FamilyOrders.Json.Basic
import FamilyOrders.Storage.Tree
import FamilyOrders.Toml.Reader
import FamilyOrders.Url.Parser

/-!
# Configuration

The settings of a court's installation.  Every one of them has a default,
under which orders can be previewed and kept in the user's own directory.
They are read from a value of JSON or TOML, or from a file.  A section may be
given as an array of its settings; what an array holds beyond them is refused
in JSON and passed over in TOML.
-/

namespace FamilyOrders

open FamilyOrders.Json FamilyOrders.Storage FamilyOrders.Text

structure DocmosisSettings where
  url : Option Url := none
  accessKey : String := ""
  timeoutSeconds : UInt64 := 30

structure Config where
  docmosis : DocmosisSettings := {}
  /-- The path of the document store; `none` for the user's own directory. -/
  storageRoot : Option String := none
  images : ImageSet := {}
  courts : NameTable := []
  venues : NameTable := []

/-- How an access key is shown. -/
def hiddenKey : String := "AccessKey(***)"

/-! ### Values -/

/-- Whether an array may hold more than the settings of a section. -/
inductive Surplus
  | refused
  | passedOver
  deriving DecidableEq

/-- The settings of a section by name. -/
def settings? (surplus : Surplus) (names : List String) (value : Json) :
    Option (String → Option Json) :=
  match surplus, value with
  | .passedOver, .array items => some (listed names items)
  | _, _ => fields? names value

/-- A table of names, which has to be an object. -/
def nameTable? : Json → Option NameTable
  | .object members =>
    members.mapM fun (code, value) =>
      (string? value).map fun name => (code, name)
  | _ => none

def timeout? (value : Json) : Option UInt64 :=
  (natBelow? UInt64.size value).map UInt64.ofFin

def storageRootOfJson? (surplus : Surplus) (value : Json) :
    Option (Option String) := do
  let field ← settings? surplus ["root_dir"] value
  withDefault none (fun root => (string? root).map some) (field "root_dir")

def ImageSet.ofJson? (surplus : Surplus) (value : Json) : Option ImageSet := do
  let field ←
    settings? surplus
      ["draft_watermark", "court_seal", "court_seal_welsh", "crest"] value
  let standard : ImageSet := {}
  let image (default : String) (name : String) :=
    withDefault default string? (field name)
  return {
    draftWatermark := ← image standard.draftWatermark "draft_watermark"
    courtSeal := ← image standard.courtSeal "court_seal"
    courtSealWelsh := ← image standard.courtSealWelsh "court_seal_welsh"
    crest := ← image standard.crest "crest" }

def urlOfJson? (domains : Url.DomainRules) (value : Json) : Option Url := do
  match Url.parse domains (← string? value) with
  | .ok url => some url
  | .error _ => none

def DocmosisSettings.ofJson? (domains : Url.DomainRules) (surplus : Surplus)
    (value : Json) : Option DocmosisSettings := do
  let field ← settings? surplus ["url", "access_key", "timeout_secs"] value
  return {
    url := ← optional (urlOfJson? domains) (field "url")
    accessKey := ← withDefault "" string? (field "access_key")
    timeoutSeconds := ← withDefault 30 timeout? (field "timeout_secs") }

namespace Config

def ofJson? (domains : Url.DomainRules) (surplus : Surplus) (value : Json) :
    Option Config := do
  let field ←
    settings? surplus ["docmosis", "storage", "images", "courts", "venues"]
      value
  return {
    docmosis := ←
      withDefault {} (DocmosisSettings.ofJson? domains surplus)
        (field "docmosis")
    storageRoot := ←
      withDefault none (storageRootOfJson? surplus) (field "storage")
    images := ← withDefault {} (ImageSet.ofJson? surplus) (field "images")
    courts := ← withDefault [] nameTable? (field "courts")
    venues := ← withDefault [] nameTable? (field "venues") }

/-- The configuration that a TOML text describes. -/
def ofToml? (domains : Url.DomainRules) (text : String) : Option Config :=
  (Toml.parse? text).bind (ofJson? domains .passedOver)

end Config

/-! ### Files -/

inductive ConfigError
  | read (path : Bytes) (fault : Fault)
  | parse
  deriving DecidableEq

def ConfigError.message : ConfigError → String
  | .read path fault =>
    "Failed to read config file " ++ ofUtf8Lossy path ++ ": " ++ fault.message
  | .parse => "Failed to parse config file"

/-- The text of the file that a path leads to. -/
def Storage.Tree.readText (tree : Tree) (workingDirectory : Location)
    (path : Bytes) : Except Fault String := do
  match ofUtf8? (← tree.readPath workingDirectory path) with
  | some text => return text
  | none => throw .invalidText

namespace Config

/-- The configuration in a file. -/
def ofFile (domains : Url.DomainRules) (tree : Tree)
    (workingDirectory : Location) (path : Bytes) : Except ConfigError Config :=
  match tree.readText workingDirectory path with
  | .error fault => .error (.read path fault)
  | .ok text =>
    match ofToml? domains text with
    | some config => .ok config
    | none => .error .parse

/-- The configuration in the given file, or else in the user's own one if
there is any. -/
def load (domains : Url.DomainRules) (tree : Tree)
    (workingDirectory : Location) (given own : Option Bytes) :
    Except ConfigError Config :=
  match given, own with
  | some path, _ => ofFile domains tree workingDirectory path
  | none, some path =>
    match tree.resolve workingDirectory path with
    | .ok _ => ofFile domains tree workingDirectory path
    | .error _ => .ok {}
  | none, none => .ok {}

end Config

end FamilyOrders
