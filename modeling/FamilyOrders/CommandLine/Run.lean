import FamilyOrders.Case.Reading
import FamilyOrders.CommandLine.Arguments
import FamilyOrders.Config
import FamilyOrders.Creation.Basic
import FamilyOrders.Docmosis.Client
import FamilyOrders.Json.Basic
import FamilyOrders.Preview.Basic
import FamilyOrders.Storage.DocumentStore

/-!
# Running commands

The outcome of a command line over a file tree and a rendering service: what is
written to standard output, the exit status, and the documents stored.
-/

namespace FamilyOrders.CommandLine

open FamilyOrders.Storage FamilyOrders.Text

/-- The machine on which a command runs. -/
structure Environment where
  workingDirectory : Location
  /-- The path of the user's home directory. -/
  home : Option Bytes
  /-- Where the user keeps settings, if that is set. -/
  configHome : Option Bytes := none
  /-- Where the user keeps data, if that is set. -/
  dataHome : Option Bytes := none
  /-- The path of the directory for temporary files. -/
  temporary : Bytes := utf8 "/tmp"
  /-- The fresh names for documents' directories. -/
  directoryName : Nat → Name
  medium : Medium := {}
  domains : Url.DomainRules := Url.simpleDomains

/-- Why no document was made. -/
inductive Failure
  | configuration
  | readCase (path : String)
  | parseCase
  | noService
  | service (cause : OrderError)
  | create (cause : OrderError)
  deriving DecidableEq

def Failure.message : Failure → String
  | .configuration => "Failed to load configuration"
  | .readCase path => "Failed to read case data from " ++ path
  | .parseCase => "Failed to parse case data"
  | .noService => "docmosis.url must be configured unless --proof is used"
  | .service _ => "Failed to create Docmosis client"
  | .create _ => "Failed to create order document"

/-- The error behind a failure, where it is told. -/
def Failure.cause? : Failure → Option OrderError
  | .service cause | .create cause => some cause
  | _ => none

inductive Outcome
  | stopped (stop : Stop)
  | printed (text : String)
  | failed (failure : Failure)

def Outcome.exitStatus : Outcome → UInt8
  | .stopped .usage => 2
  | .failed _ => 1
  | .stopped (.help _) | .printed _ => 0

/-! ### Texts -/

def Topic.helpText : Topic → String
  | .program =>
    "Order document generation engine: per-order parameter generation, " ++
    "common decoration and rendering of\n" ++
    "court orders\n\n" ++
    "Usage: order-docgen <COMMAND>\n\n" ++
    "Commands:\n" ++
    "  orders    List the order catalogue\n" ++
    "  generate  Generate an order document from a case snapshot and " ++
    "store it\n" ++
    "  help      Print this message or the help of the given " ++
    "subcommand(s)\n\n" ++
    "Options:\n" ++
    "  -h, --help     Print help\n" ++
    "  -V, --version  Print version\n"
  | .orders =>
    "List the order catalogue\n\n" ++
    "Usage: order-docgen orders\n\n" ++
    "Options:\n" ++
    "  -h, --help  Print help\n"
  | .generate =>
    "Generate an order document from a case snapshot and store it\n\n" ++
    "Usage: order-docgen generate [OPTIONS] --case <CASE>\n\n" ++
    "Options:\n" ++
    "      --case <CASE>          Path to the case data JSON\n" ++
    "      --status <STATUS>      draft, sealed or plain " ++
    "[default: draft]\n" ++
    "      --format <FORMAT>      pdf or word [default: pdf]\n" ++
    "      --language <LANGUAGE>  english or welsh [default: english]\n" ++
    "      --config <CONFIG>      Configuration file (defaults to the user " ++
    "config directory)\n" ++
    "      --proof                Render an HTML proof locally instead of " ++
    "calling Docmosis\n" ++
    "  -h, --help                 Print help\n"
  | .help =>
    "Print this message or the help of the given subcommand(s)\n\n" ++
    "Usage: order-docgen help [COMMAND]...\n\n" ++
    "Arguments:\n" ++
    "  [COMMAND]...  Print help for the subcommand(s)\n"

/-- The text filled up with spaces to a width. -/
def column (width : Nat) (text : String) : String :=
  text ++ String.ofList (List.replicate (width - text.length) ' ')

/-- One line of the list of orders. -/
def orderLine (order : Order) : String :=
  column 45 order.code ++ " " ++ column 50 order.title ++ " " ++
    column 13 (if order.isManualUpload then "manual upload" else "digital") ++
    " " ++ (if order.entry.translatable then "translatable" else "") ++ "\n"

def orderLines : String :=
  String.join (Order.all.map orderLine)

def versionLine : String := "order-docgen 0.1.0\n"

def Outcome.standardOutput : Outcome → String
  | .printed text => text
  | .stopped (.help topic) => topic.helpText
  | .stopped .usage | .failed _ => ""

/-! ### Places -/

namespace Environment

/-- The user's own directory of a kind: one that is set, if it is absolute, or
else one in the user's home directory. -/
def ownDirectory? (environment : Environment) (set : Option Bytes)
    (inHome : String) : Option Bytes :=
  match set.filter isAbsolute with
  | some directory => some directory
  | none => environment.home.map (joinPath · (utf8 inHome))

def configPath? (environment : Environment) : Option Bytes :=
  (environment.ownDirectory? environment.configHome ".config").map
    fun directory =>
      joinPath (joinPath directory (utf8 "order-docgen")) (utf8 "config.toml")

/-- Where documents are kept unless another place is configured. -/
def ownDocuments (environment : Environment) : Bytes :=
  let directory :=
    (environment.ownDirectory? environment.dataHome ".local/share").getD
      environment.temporary
  joinPath (joinPath directory (utf8 "order-docgen")) (utf8 "documents")

/-- The document store of a configuration. -/
def store (environment : Environment) (config : Config) : DocumentStore :=
  { root := (config.storageRoot.map utf8).getD environment.ownDocuments
    workingDirectory := environment.workingDirectory
    directoryName := environment.directoryName
    medium := environment.medium
    domains := environment.domains }

end Environment

/-! ### Commands -/

/-- The configuration and the case that a document is made from. -/
def readInputs (environment : Environment) (options : GenerateOptions)
    (tree : Tree) : Except Failure (Config × CaseFile) := do
  let here := environment.workingDirectory
  let config ←
    match Config.load environment.domains tree here
      (options.configPath.map utf8) environment.configPath? with
    | .ok config => pure config
    | .error _ => throw .configuration
  let text ←
    match tree.readText here (utf8 options.casePath) with
    | .ok text => pure text
    | .error _ => throw (.readCase options.casePath)
  match CaseFile.ofText? text with
  | some file => return (config, file)
  | none => throw .parseCase

/-- The client of the configured service; previews do without. -/
def client? (environment : Environment) (options : GenerateOptions)
    (config : Config) : Except Failure (Option Docmosis.Client) :=
  let settings := config.docmosis
  if settings.url.isSome then
    match Docmosis.Client.of environment.domains settings.url
      settings.accessKey config.images with
    | .ok client => .ok (some client)
    | .error cause => .error (.service cause)
  else if options.proof then .ok none
  else .error .noService

/-- Rendering: previews on demand and where there is no service. -/
def renderWith (client : Option Docmosis.Client)
    (service : Docmosis.Service σ) (proof : Bool) (layout : Layout)
    (particulars : Particulars) (format : FileFormat) (language : Language) :
    Action σ Rendered :=
  match client, proof with
  | some client, false =>
    client.render service layout particulars format language
  | _, _ => Preview.render layout particulars language

/-- Sealing, for which there has to be a service. -/
def sealWith (client : Option Docmosis.Client) (service : Docmosis.Service σ)
    (bytes : Bytes) (filename : String) (language : Language) :
    Action σ Rendered :=
  match client with
  | some client => client.sealDocument service bytes filename language
  | none => throw (.sealing (.noService filename))

def collaborators (client : Option Docmosis.Client)
    (service : Docmosis.Service Disk) (proof : Bool) (store : DocumentStore) :
    Collaborators Disk :=
  { render := renderWith client service proof
    download := store.download
    sealDocument := sealWith client service
    upload := store.upload }

/-- Makes and stores the document that the options ask for. -/
def generate (environment : Environment) (service : Docmosis.Service Disk)
    (options : GenerateOptions) :
    ExceptT Failure (StateM Disk) CreatedDocument := do
  let (config, file) ← readInputs environment options (← get).tree
  let client ← client? environment options config
  let engine := Engine.standard config.images config.courts config.venues
  let store := environment.store config
  let parties := collaborators client service options.proof store
  ExceptT.adapt Failure.create
    (engine.create parties file options.status options.format options.language)

def runCommand (environment : Environment) (service : Docmosis.Service Disk) :
    Command → StateM Disk Outcome
  | .version => return .printed versionLine
  | .help topic => return .stopped (.help topic)
  | .orders => return .printed orderLines
  | .generate options => do
    match ← (generate environment service options).run with
    | .ok created => return .printed (created.toJson.pretty ++ "\n")
    | .error failure => return .failed failure

/-- Runs a command line, given without the name of the program. -/
def run (environment : Environment) (service : Docmosis.Service Disk)
    (arguments : List String) : StateM Disk Outcome :=
  match readCommand arguments with
  | .ok command => runCommand environment service command
  | .error stop => return .stopped stop

end FamilyOrders.CommandLine
