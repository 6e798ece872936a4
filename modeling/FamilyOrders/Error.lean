import FamilyOrders.Order.Basic
import FamilyOrders.Storage.Tree
import FamilyOrders.Url.Basic

/-!
# Errors

Every reason for which no document is made, and the wording of each.
-/

namespace FamilyOrders.Docmosis

/-! ## Failures of the rendering service

Why a call of the Docmosis service gives no document.  A status is printed with
its standard reason phrase. -/

/-- The reason phrases of the registered statuses. -/
def reason? : Nat → Option String
  | 100 => "Continue" | 101 => "Switching Protocols" | 102 => "Processing"
  | 103 => "Early Hints"
  | 200 =>
    "OK" | 201 => "Created" | 202 => "Accepted" | 203 =>
      "Non Authoritative Information"
  | 204 => "No Content" | 205 => "Reset Content" | 206 => "Partial Content"
  | 207 => "Multi-Status" | 208 => "Already Reported" | 226 => "IM Used"
  | 300 =>
    "Multiple Choices" | 301 => "Moved Permanently" | 302 => "Found" | 303 =>
      "See Other"
  | 304 => "Not Modified" | 305 => "Use Proxy" | 307 => "Temporary Redirect"
  | 308 => "Permanent Redirect"
  | 400 => "Bad Request" | 401 => "Unauthorized" | 402 => "Payment Required"
  | 403 => "Forbidden" | 404 => "Not Found" | 405 => "Method Not Allowed"
  | 406 =>
    "Not Acceptable" | 407 => "Proxy Authentication Required" | 408 =>
      "Request Timeout"
  | 409 =>
    "Conflict" | 410 => "Gone" | 411 => "Length Required" | 412 =>
      "Precondition Failed"
  | 413 =>
    "Payload Too Large" | 414 => "URI Too Long" | 415 =>
      "Unsupported Media Type"
  | 416 =>
    "Range Not Satisfiable" | 417 => "Expectation Failed" | 418 =>
      "I'm a teapot"
  | 421 =>
    "Misdirected Request" | 422 => "Unprocessable Entity" | 423 => "Locked"
  | 424 => "Failed Dependency" | 425 => "Too Early" | 426 => "Upgrade Required"
  | 428 => "Precondition Required" | 429 => "Too Many Requests"
  | 431 =>
    "Request Header Fields Too Large" | 451 => "Unavailable For Legal Reasons"
  | 500 =>
    "Internal Server Error" | 501 => "Not Implemented" | 502 => "Bad Gateway"
  | 503 =>
    "Service Unavailable" | 504 => "Gateway Timeout" | 505 =>
      "HTTP Version Not Supported"
  | 506 =>
    "Variant Also Negotiates" | 507 => "Insufficient Storage" | 508 =>
      "Loop Detected"
  | 510 => "Not Extended" | 511 => "Network Authentication Required"
  | _ => none

def statusText (status : Nat) : String :=
  toString status ++ " " ++ (reason? status).getD "<unknown status code>"

inductive Failure
  /-- The address called, and the same without credentials. -/
  | unreachable (address target : String)
  /-- The service is not addressed by a web URL. -/
  | unsupportedScheme (address target : String)
  | badStatus (status : Nat) (address detail : String)
  /-- The reply broke off before its announced end. -/
  | truncatedReply
  deriving DecidableEq

def Failure.message : Failure → String
  | .unreachable address target =>
    "Failed to call " ++ address ++ ": error sending request for url (" ++
      target ++ ")"
  | .unsupportedScheme address target =>
    "Failed to call " ++ address ++ ": builder error for url (" ++ target ++ ")"
  | .badStatus status address detail =>
    "HTTP " ++ statusText status ++ " from " ++ address ++ ": " ++ detail
  | .truncatedReply =>
    "Failed to read response body: error decoding response body"

end FamilyOrders.Docmosis

namespace FamilyOrders

open FamilyOrders.Text

/-! ## Errors

Every reason for which no document is made, and the wording of each.  Errors of
registration point to a wrong setup of the library; all others come from the
case or from a collaborator. -/

/-- A kind of strategy that orders are registered with. -/
inductive Strategy
  | drafter
  | collector
  deriving DecidableEq

def Strategy.label : Strategy → String
  | .drafter => "parameter generator"
  | .collector => "additional documents collector"

/-- What a document cannot be made without. -/
inductive Requirement
  | orderType
  | approvalDate
  | approvalMoment
  | localAuthority
  | localAuthorityName
  | appliesToAll
  | selectedChildren
  | directions
  | careOrderCourt
  | careOrderDate
  | endKind
  | endDate
  | endMoment
  | endMonths
  | emergencyKind
  | emergencyEnd
  | removalAddress
  | excludedPerson
  | exclusionStart
  | uploadedFile
  | docmosisUrl
  deriving DecidableEq

def Requirement.label : Requirement → String
  | .orderType => "manageOrdersType"
  | .approvalDate => "manageOrdersApprovalDate"
  | .approvalMoment => "manageOrdersApprovalDateTime"
  | .localAuthority => "caseLocalAuthority"
  | .localAuthorityName => "caseLocalAuthorityName"
  | .appliesToAll => "orderAppliesToAllChildren"
  | .selectedChildren => "selected children"
  | .directions => "manageOrdersDirections"
  | .careOrderCourt => "manageOrdersCareOrderIssuedCourt"
  | .careOrderDate => "manageOrdersCareOrderIssuedDate"
  | .endKind => "manageOrdersEndDateType"
  | .endDate => "manageOrdersSetDateEndDate"
  | .endMoment => "manageOrdersSetDateAndTimeEndDate"
  | .endMonths => "manageOrdersSetMonthsEndDate"
  | .emergencyKind => "manageOrdersEpoType"
  | .emergencyEnd => "manageOrdersEndDateTime"
  | .removalAddress => "manageOrdersEpoRemovalAddress"
  | .excludedPerson => "manageOrdersWhoIsExcluded"
  | .exclusionStart => "manageOrdersExclusionStartDate"
  | .uploadedFile => "manageOrdersUploadOrderFile"
  | .docmosisUrl => "docmosis.url"

/-- What is wrong with something that is given. -/
inductive InvalidInput
  | unknownLanguage (text : String)
  | unknownStatus (text : String)
  | unknownFormat (text : String)
  | noWelsh (order : Order)
  | noSuchChild (position : UInt64)
  | endsBeforeApproval
  | monthsOutOfRange (months : UInt32)
  | interimCareForMonths
  | interimSupervisionForMonths
  | supervisionToEndOfProceedings
  | unsupportedUpload (filename : String)
  deriving DecidableEq

def InvalidInput.message : InvalidInput → String
  | .unknownLanguage text => "unknown language '" ++ text ++ "'"
  | .unknownStatus text => "unknown order status '" ++ text ++ "'"
  | .unknownFormat text => "unknown render format '" ++ text ++ "'"
  | .noWelsh order => order.code ++ " cannot be generated in Welsh"
  | .noSuchChild position =>
    "selected child " ++ toString position.toNat ++ " does not exist"
  | .endsBeforeApproval =>
    "emergency protection order must end after it is approved"
  | .monthsOutOfRange months =>
    toString months.toNat ++ " months is out of range"
  | .interimCareForMonths =>
    "an interim care order cannot end after a number of months"
  | .interimSupervisionForMonths =>
    "an interim supervision order cannot end after a number of months"
  | .supervisionToEndOfProceedings =>
    "a final supervision order cannot run to the end of the proceedings"
  | .unsupportedUpload filename =>
    "uploaded order '" ++ filename ++ "' is not a PDF or Word document"

inductive LookupFailure
  | noCourt (authority : String)
  | unknownVenue (id : String)
  deriving DecidableEq

def LookupFailure.message : LookupFailure → String
  | .noCourt authority =>
    "no court configured for local authority '" ++ authority ++ "'"
  | .unknownVenue id => "unknown hearing venue '" ++ id ++ "'"

inductive RenderFailure
  /-- A renderer's own report. -/
  | reported (text : String)
  | service (failure : Docmosis.Failure)
  deriving DecidableEq

def RenderFailure.message : RenderFailure → String
  | .reported text => text
  | .service failure => failure.message

def Storage.WriteStage.label : Storage.WriteStage → String
  | .write => "write"
  | .flush => "flush"

/-- Paths are kept as the bytes of their text. -/
inductive StoreFailure
  /-- A store's own report. -/
  | reported (text : String)
  | createDirectory (path : Bytes) (fault : Storage.Fault)
  | createFile (path : Bytes) (fault : Storage.Fault)
  /-- The content of a file did not come through a stage. -/
  | stopped (stage : Storage.WriteStage) (path : Bytes)
      (fault : Storage.Fault)
  | invalidUrl (text : String) (cause : Url.ParseError)
  | notAFileUrl (url : Url)
  | notFound (path : Bytes) (fault : Storage.Fault)
  | outside (path : Bytes)
  deriving DecidableEq

def StoreFailure.message : StoreFailure → String
  | .reported text => text
  | .createDirectory path fault =>
    "Failed to create directory " ++ ofUtf8Lossy path ++ ": " ++ fault.message
  | .createFile path fault =>
    "Failed to create file " ++ ofUtf8Lossy path ++ ": " ++ fault.message
  | .stopped stage path fault =>
    "Failed to " ++ stage.label ++ " file " ++ ofUtf8Lossy path ++ ": " ++
      fault.message
  | .invalidUrl text cause =>
    "Invalid document URL " ++ text ++ ": " ++ cause.message
  | .notAFileUrl url => url.text ++ " is not a file URL"
  | .notFound path fault =>
    "Document " ++ ofUtf8Lossy path ++ " not found: " ++ fault.message
  | .outside path => ofUtf8Lossy path ++ " is outside the document store"

inductive SealFailure
  /-- A sealer's own report. -/
  | reported (text : String)
  | service (failure : Docmosis.Failure)
  /-- There is nothing to seal the named file with. -/
  | noService (filename : String)
  deriving DecidableEq

def SealFailure.message : SealFailure → String
  | .reported text => text
  | .service failure => "Render error: " ++ failure.message
  | .noService filename =>
    "cannot seal " ++ filename ++ ": no Docmosis URL is configured"

inductive OrderError
  | duplicateGenerator (order : Order)
  | duplicateCollector (order : Order)
  | missingGenerator (order : Order)
  | unexpectedStrategy (order : Order) (strategy : Strategy)
  | missingField (requirement : Requirement)
  | invalidInput (cause : InvalidInput)
  | lookup (failure : LookupFailure)
  | render (failure : RenderFailure)
  | store (failure : StoreFailure)
  | sealing (failure : SealFailure)
  /-- The named preview template asks for particulars that are not there. -/
  | preview (template : String)
  | io (fault : Storage.Fault)
  deriving DecidableEq

namespace OrderError

def message : OrderError → String
  | .duplicateGenerator order =>
    "Duplicate parameter generator registered for " ++ order.code
  | .duplicateCollector order =>
    "Duplicate additional documents collector registered for " ++ order.code
  | .missingGenerator order =>
    "No parameter generator registered for " ++ order.code
  | .unexpectedStrategy order strategy =>
    "Manually uploaded order " ++ order.code ++
      " must not have a registered " ++ strategy.label
  | .missingField requirement =>
    "Missing required case data: " ++ requirement.label
  | .invalidInput cause => "Invalid case data: " ++ cause.message
  | .lookup failure => "Lookup error: " ++ failure.message
  | .render failure => "Render error: " ++ failure.message
  | .store failure => "Document store error: " ++ failure.message
  | .sealing failure => "Sealing error: " ++ failure.message
  | .preview template =>
    "Template engine error: Failed to render '" ++ template ++ "'"
  | .io fault => "I/O error: " ++ fault.message

/-- Whether the strategies registered do not fit the catalogue. -/
def isConfiguration : OrderError → Bool
  | .duplicateGenerator _ | .duplicateCollector _ | .missingGenerator _
  | .unexpectedStrategy _ _ => true
  | _ => false

end OrderError

/-- The value, or an error for what is required and not given. -/
def need (requirement : Requirement) : Option α → Except OrderError α
  | some a => .ok a
  | none => .error (.missingField requirement)

end FamilyOrders
