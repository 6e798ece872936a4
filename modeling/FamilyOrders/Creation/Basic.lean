import FamilyOrders.Calendar.Basic
import FamilyOrders.Case.Basic
import FamilyOrders.Case.Reading
import FamilyOrders.Creation.Collaborators
import FamilyOrders.Document.Basic
import FamilyOrders.Drafting.Basic
import FamilyOrders.Drafting.Orders
import FamilyOrders.Order.Basic
import FamilyOrders.Particulars

/-!
# The engine

The registry of drafters, the stamper, and the engine that makes documents with
them.
-/

namespace FamilyOrders

/-! ## Registered strategies

Which drafter and which collector of attachments serve an order. -/

/-! ### Attachments

The stored documents that go out together with an order. -/

/-- Finds the documents that go with one order. -/
structure Collector where
  order : Order
  collect : CaseFile → List DocumentReference

/-- The power of arrest goes with an exclusion requirement. -/
def powerOfArrest (file : CaseFile) : List DocumentReference :=
  if saidYes file.answers.exclusionRequirement then
    file.answers.powerOfArrest.toList
  else
    []

def standardCollectors : List Collector :=
  [{ order := .emergencyProtection, collect := powerOfArrest }]

/-! ### The registry

Which drafter and which collector serve an order.  A registry is built only from
strategies that fit the catalogue: one drafter for every digital order, at most
one collector for each of them, and nothing for the orders that are uploaded. -/

structure Registry where
  drafters : List Drafter
  collectors : List Collector

/-- The first order that occurred before in the list. -/
def firstRepeated : (seen : List Order) → List Order → Option Order
  | _, [] => none
  | seen, order :: orders =>
    if order ∈ seen then some order else firstRepeated (order :: seen) orders

/-- How the strategies registered for an order contradict the catalogue. -/
def misfit (drafted collected : List Order) (order : Order) :
    Option OrderError :=
  match order.source with
  | .digital => if order ∈ drafted then none else some (.missingGenerator order)
  | .manualUpload =>
    if order ∈ drafted then some (.unexpectedStrategy order .drafter)
    else if order ∈ collected then some (.unexpectedStrategy order .collector)
    else none

/-- What keeps strategies for the given orders from being registered. -/
def registrationError (drafted collected : List Order) : Option OrderError :=
  ((firstRepeated [] drafted).map .duplicateGenerator).or <|
    ((firstRepeated [] collected).map .duplicateCollector).or <|
      Order.all.findSome? (misfit drafted collected)

namespace Registry

def build (drafters : List Drafter) (collectors : List Collector) :
    Except OrderError Registry :=
  match registrationError (drafters.map (·.order))
    (collectors.map (·.order)) with
  | some error => .error error
  | none => .ok { drafters, collectors }

def drafter? (registry : Registry) (order : Order) : Option Drafter :=
  registry.drafters.find? (·.order = order)

def hasDrafter (registry : Registry) (order : Order) : Bool :=
  (registry.drafter? order).isSome

def drafter (registry : Registry) (order : Order) : Except OrderError Drafter :=
  match registry.drafter? order with
  | some drafter => .ok drafter
  | none => .error (.missingGenerator order)

def collector? (registry : Registry) (order : Order) : Option Collector :=
  registry.collectors.find? (·.order = order)

end Registry

/-- A fixed set of strategies, and the registry built from them once it was
asked for.  A build that fails is tried again at the next lookup. -/
structure Holder where
  drafters : List Drafter
  collectors : List Collector
  built : Option Registry := none

namespace Holder

/-- A look-up, after which the holder keeps the registry that was built for it.
-/
abbrev Lookup (α : Type) := ExceptT OrderError (StateM Holder) α

def registry : Lookup Registry := do
  let holder ← get
  match holder.built with
  | some registry => return registry
  | none =>
    let registry ← Registry.build holder.drafters holder.collectors
    set { holder with built := some registry }
    return registry

def drafter (order : Order) : Lookup Drafter := do
  let registry ← registry
  registry.drafter order

def collector? (order : Order) : Lookup (Option Collector) := do
  let registry ← registry
  return registry.collector? order

end Holder

/-! ## Stamping

The fields that every order shares: court, case numbers, judge, children, date
of issue and the images of the page.  They are made from the case each time, so
particulars can be stamped again; only a date of issue that is there already
stays. -/

open FamilyOrders.Text

/-- What a court keeps ready for its orders. -/
structure Stamper where
  images : ImageSet
  courts : NameTable

def Child.particulars (child : Child) (language : Language) :
    ChildParticulars :=
  { name := child.party.fullName
    gender := child.party.gender
    dateOfBirth := child.party.dateOfBirth.map (·.printed language) }

def HearingJudge.particulars (hearing : HearingJudge) : JudgeParticulars :=
  { titleAndName := hearing.judge.printed
    legalAdviser := nonBlank? hearing.legalAdviser }

/-- The date of issue that is there already, or else the printed day of
approval. -/
def dateOfIssue (current : Option String) (answers : Answers)
    (language : Language) : Option String :=
  filledOr current (answers.approvalDay.map (·.printed language))

namespace Stamper

/-- The court of the case's authority. -/
def court (stamper : Stamper) (file : CaseFile) : Except OrderError String := do
  let authority ← need .localAuthority (nonBlank? file.localAuthority)
  courtName stamper.courts authority

def watermark (stamper : Stamper) : OrderStatus → Option String
  | .draft => some stamper.images.draftWatermark
  | .sealed | .plain => none

def courtSeal (stamper : Stamper) (language : Language) :
    OrderStatus → Option String
  | .sealed => some (stamper.images.sealFor language)
  | .draft | .plain => none

def stamp (stamper : Stamper) (particulars : Particulars) (file : CaseFile)
    (status : OrderStatus)
    (language : Language) : Except OrderError Particulars := do
  let children ← file.selectedChildren
  let court ← stamper.court file
  let issued ← need .approvalDate
    (dateOfIssue particulars.dateOfIssue file.answers language)
  return { particulars with
    courtName := some court
    familyManNumber := file.familyManNumber
    caseNumber := some (caseNumber file.id)
    judge :=
      (selectedJudge file.answers.judge file.allocatedJudge).map (·.particulars)
    children := children.map (·.particulars language)
    dateOfIssue := some issued
    crest := some stamper.images.crest
    draftWatermark := stamper.watermark status
    courtSeal := stamper.courtSeal language status }

end Stamper

/-! ## Creating documents

How the document of an order is made from a case with the help of collaborators.
-/

/-! ### Making digital orders

A digital order is drafted, stamped and then rendered, in this order and each at
most once; the first failure ends it.  What is rendered does not depend on what
is rendered with. -/

structure Engine where
  holder : Holder
  stamper : Stamper

/-- A document's content with the documents that accompany it. -/
structure Produced where
  bytes : Bytes
  format : FileFormat
  attachments : List DocumentReference
  deriving DecidableEq

/-- Particulars ready for the renderer, with their layout. -/
structure Prepared where
  layout : Layout
  particulars : Particulars
  deriving DecidableEq

namespace Engine

/-- The engine with the standard strategies. -/
def standard (images : ImageSet) (courts venues : NameTable) : Engine :=
  { holder := {
      drafters := Drafting.standardDrafters venues
      collectors := standardCollectors }
    stamper := { images, courts } }

/-- The answer of a look-up in the registry. -/
def lookUp (engine : Engine) (lookup : Holder.Lookup α) : Except OrderError α :=
  (lookup.run.run engine.holder).1

/-- Only an order with Welsh wording is made in Welsh. -/
def checkLanguage (order : Order) (language : Language) :
    Except OrderError Unit :=
  if language = .welsh &&
    !order.hasWelsh then .error (.invalidInput (.noWelsh order))
  else .ok ()

/-- The particulars of the order, drafted and stamped. -/
def prepare (engine : Engine) (order : Order) (file : CaseFile)
    (status : OrderStatus)
    (language : Language) : Except OrderError Prepared := do
  checkLanguage order language
  let drafter ← engine.lookUp (Holder.drafter order)
  let drafted ← drafter.draft file language
  let particulars ← engine.stamper.stamp drafted file status language
  return { layout := drafter.layout, particulars }

/-- The documents to go with the order. -/
def attachments (engine : Engine) (order : Order) (file : CaseFile) :
    Except OrderError (List DocumentReference) := do
  match ← engine.lookUp (Holder.collector? order) with
  | some collector => return collector.collect file
  | none => return []

def generate (engine : Engine) (collaborators : Collaborators σ) (order : Order)
    (file : CaseFile) (status : OrderStatus) (format : FileFormat)
    (language : Language) : Action σ Produced := do
  let prepared ← engine.prepare order file status language
  let rendered ← collaborators.render prepared.layout prepared.particulars
    format language
  let attachments ← engine.attachments order file
  return { bytes := rendered.bytes, format := rendered.format, attachments }

end Engine

/-! ### Uploaded orders

An order that the user wrote passes through as it is, or sealed when the user
asked for a seal and the order is issued under one. -/

/-- Whether an uploaded order gets a seal. -/
def CaseFile.sealDue (file : CaseFile) (status : OrderStatus) : Bool :=
  saidYes file.answers.needSealing && decide (status = .sealed)

/-- The uploaded document and the format that its name announces. -/
def CaseFile.upload (file : CaseFile) : Except OrderError
    (DocumentReference × FileFormat) := do
  let document ← need .uploadedFile file.answers.uploadedFile
  match FileFormat.ofFileName? document.filename with
  | some format => return (document, format)
  | none => throw (.invalidInput (.unsupportedUpload document.filename))

def passUploaded (collaborators : Collaborators σ) (file : CaseFile)
    (status : OrderStatus) (language : Language) : Action σ Produced := do
  let (document, format) ← file.upload
  let bytes ← collaborators.download document
  if file.sealDue status then
    let stamped ← collaborators.sealDocument bytes document.filename language
    return {
      bytes := stamped.bytes
      format := stamped.format
      attachments := [] }
  else
    return { bytes, format, attachments := [] }

/-! ### Creating order documents

The document of the order chosen in a case is produced, named after the format
it really has, and stored.  The caller learns where it is stored and never sees
its content. -/

structure CreatedDocument where
  document : DocumentReference
  title : String
  attachments : List DocumentReference
  deriving DecidableEq

def CreatedDocument.toJson (created : CreatedDocument) : Json :=
  .object [
    ("document", created.document.toJson),
    ("orderTitle", .string created.title),
    ("additionalDocuments",
      .array (created.attachments.map DocumentReference.toJson))]

/-- The file name of an order's document. -/
def documentName (order : Order) (status : OrderStatus) (format : FileFormat)
    (language : Language) (title : Option String) : String :=
  match status with
  | .draft => draftFileName format language
  | .sealed | .plain => order.fileName format title

namespace Engine

/-- The content of an order's document, drafted or uploaded. -/
def produce (engine : Engine) (collaborators : Collaborators σ) (order : Order)
    (file : CaseFile) (status : OrderStatus) (format : FileFormat)
    (language : Language) : Action σ Produced :=
  match order.source with
  | .manualUpload => passUploaded collaborators file status language
  | .digital => engine.generate collaborators order file status format language

def create (engine : Engine) (collaborators : Collaborators σ) (file : CaseFile)
    (status : OrderStatus) (format : FileFormat) (language : Language) :
    Action σ CreatedDocument := do
  let order ← need .orderType file.answers.order
  let produced ← engine.produce collaborators order file status format language
  let document ← collaborators.upload produced.bytes
    (documentName order status produced.format language file.answers.title)
    produced.format.mediaType
  return {
    document
    title := order.displayTitle file.answers.title
    attachments := produced.attachments }

end Engine

end FamilyOrders
