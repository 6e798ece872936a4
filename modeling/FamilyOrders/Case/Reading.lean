import FamilyOrders.Calendar.Basic
import FamilyOrders.Case.Basic
import FamilyOrders.Json.Basic
import FamilyOrders.Json.Reader

/-!
# Cases in JSON

How a case is read from JSON and written to it.
-/

namespace FamilyOrders

open FamilyOrders.Calendar FamilyOrders.Json

/-! ## Reading cases

A case from its JSON object.  The answers stand among the members of the case
itself, and those of a judge among the members of the hearing's judge, beside
members that mean nothing here.  Absent fields count as not answered;
identifiers, documents' references and parties are required where they are part
of something else. -/

def dateOfJson? (value : Json) : Option Date :=
  (string? value).bind Date.ofText?

def momentOfJson? (value : Json) : Option Moment :=
  (string? value).bind Moment.ofText?

def uint64OfJson? (value : Json) : Option UInt64 :=
  (natBelow? UInt64.size value).map UInt64.ofFin

def uint32OfJson? (value : Json) : Option UInt32 :=
  (natBelow? UInt32.size value).map UInt32.ofFin

def partyFields : List String :=
  ["firstName", "lastName", "dateOfBirth", "gender"]

def Party.ofJson? (value : Json) : Option Party := do
  let field ← fields? partyFields value
  return {
    firstName := ← optional string? (field "firstName")
    lastName := ← optional string? (field "lastName")
    dateOfBirth := ← optional dateOfJson? (field "dateOfBirth")
    gender := ← optional string? (field "gender") }

/-- The value of a child's element, which holds nothing but the party. -/
def Party.ofChildJson? (value : Json) : Option Party := do
  let field ← fields? ["party"] value
  required Party.ofJson? (field "party")

def Child.ofJson? (value : Json) : Option Child := do
  let field ← fields? ["id", "value"] value
  return {
    id := ← required string? (field "id")
    party := ← required Party.ofChildJson? (field "value") }

def addressFields : List String :=
  ["addressLine1", "addressLine2", "addressLine3", "postTown", "county",
    "postcode", "country"]

def Address.ofJson? (value : Json) : Option Address := do
  let field ← fields? addressFields value
  return {
    line1 := ← optional string? (field "addressLine1")
    line2 := ← optional string? (field "addressLine2")
    line3 := ← optional string? (field "addressLine3")
    postTown := ← optional string? (field "postTown")
    county := ← optional string? (field "county")
    postcode := ← optional string? (field "postcode")
    country := ← optional string? (field "country") }

def documentFields : List String :=
  ["document_url", "document_binary_url", "document_filename"]

def DocumentReference.ofJson? (value : Json) : Option DocumentReference := do
  let field ← fields? documentFields value
  return {
    url := ← required string? (field "document_url")
    binaryUrl := ← required string? (field "document_binary_url")
    filename := ← required string? (field "document_filename") }

def judgeFields : List String :=
  ["judgeTitle", "otherTitle", "judgeLastName", "judgeFullName",
    "judgeEmailAddress"]

def Judge.ofFields? (wrapping : Wrapping) (field : String → Option Json) :
    Option Judge := do
  return {
    title := ← optional (coded? wrapping) (field "judgeTitle")
    otherTitle := ← optional string? (field "otherTitle")
    lastName := ← optional string? (field "judgeLastName")
    fullName := ← optional string? (field "judgeFullName")
    email := ← optional string? (field "judgeEmailAddress") }

def Judge.ofJson? (value : Json) : Option Judge := do
  Judge.ofFields? .nullOnly (← fields? judgeFields value)

/-- A hearing's judge; `wrapping` is how its own codes may be wrapped. -/
def HearingJudge.ofJson? (wrapping : Wrapping) (value : Json) :
    Option HearingJudge := do
  let (field, others) ← divided? ["legalAdvisorName", "useAllocatedJudge"] value
  return {
    judge := ← Judge.ofFields? .nullOrEmpty (← named? judgeFields others)
    legalAdviser := ← optional string? (field "legalAdvisorName")
    useAllocated := ← optional (coded? wrapping) (field "useAllocatedJudge") }

/-- The list of ticked positions in its record. -/
def tickedOfJson? (value : Json) : Option (List UInt64) := do
  let field ← fields? ["selected"] value
  withDefault [] (list? uint64OfJson?) (field "selected")

def answerFields : List String :=
  ["manageOrdersType", "manageOrdersApprovalDate",
    "manageOrdersApprovalDateTime", "judgeAndLegalAdvisor", "manageOrdersTitle",
      "manageOrdersDirections",
    "manageOrdersFurtherDirections",
      "manageOrdersEndDateTypeWithEndOfProceedings",
    "manageOrdersEndDateTypeWithMonth", "manageOrdersSetDateEndDate",
    "manageOrdersSetDateAndTimeEndDate", "manageOrdersSetMonthsEndDate",
      "manageOrdersEpoType",
    "manageOrdersEpoRemovalAddress", "manageOrdersIncludePhrase",
    "manageOrdersChildrenDescription", "manageOrdersEndDateTime",
    "manageOrdersExclusionRequirement", "manageOrdersWhoIsExcluded",
    "manageOrdersExclusionStartDate", "manageOrdersPowerOfArrest",
    "manageOrdersCareOrderIssuedDate", "manageOrdersCareOrderIssuedCourt",
    "manageOrdersUploadOrderFile", "manageOrdersNeedSealing",
      "orderAppliesToAllChildren",
    "childrenSelector"]

def Answers.ofFields? (wrapping : Wrapping) (field : String → Option Json) :
    Option Answers := do
  return {
    order := ← optional (coded? wrapping) (field "manageOrdersType")
    approvalDate := ← optional dateOfJson? (field "manageOrdersApprovalDate")
    approvalMoment :=
      ← optional momentOfJson? (field "manageOrdersApprovalDateTime")
    judge :=
      ← optional (HearingJudge.ofJson? wrapping) (field "judgeAndLegalAdvisor")
    title := ← optional string? (field "manageOrdersTitle")
    directions := ← optional string? (field "manageOrdersDirections")
    furtherDirections :=
      ← optional string? (field "manageOrdersFurtherDirections")
    endOrProceedings :=
      ← optional (coded? wrapping)
        (field "manageOrdersEndDateTypeWithEndOfProceedings")
    endOrMonths :=
      ← optional (coded? wrapping) (field "manageOrdersEndDateTypeWithMonth")
    endDate := ← optional dateOfJson? (field "manageOrdersSetDateEndDate")
    endMoment :=
      ← optional momentOfJson? (field "manageOrdersSetDateAndTimeEndDate")
    endMonths := ← optional uint32OfJson? (field "manageOrdersSetMonthsEndDate")
    emergencyKind := ← optional (coded? wrapping) (field "manageOrdersEpoType")
    removalAddress :=
      ← optional Address.ofJson? (field "manageOrdersEpoRemovalAddress")
    includePhrase :=
      ← optional (coded? wrapping) (field "manageOrdersIncludePhrase")
    childrenDescription :=
      ← optional string? (field "manageOrdersChildrenDescription")
    emergencyEnd := ← optional momentOfJson? (field "manageOrdersEndDateTime")
    exclusionRequirement :=
      ← optional (coded? wrapping) (field "manageOrdersExclusionRequirement")
    excludedPerson := ← optional string? (field "manageOrdersWhoIsExcluded")
    exclusionStart :=
      ← optional dateOfJson? (field "manageOrdersExclusionStartDate")
    powerOfArrest :=
      ← optional DocumentReference.ofJson? (field "manageOrdersPowerOfArrest")
    careOrderDate :=
      ← optional dateOfJson? (field "manageOrdersCareOrderIssuedDate")
    careOrderCourt :=
      ← optional string? (field "manageOrdersCareOrderIssuedCourt")
    uploadedFile :=
      ← optional DocumentReference.ofJson? (field "manageOrdersUploadOrderFile")
    needSealing :=
      ← optional (coded? wrapping) (field "manageOrdersNeedSealing")
    appliesToAll :=
      ← optional (coded? wrapping) (field "orderAppliesToAllChildren")
    ticked := ← optional tickedOfJson? (field "childrenSelector") }

/-- The answers alone, without a case around them. -/
def Answers.ofJson? (value : Json) : Option Answers := do
  Answers.ofFields? .nullOnly (← fields? answerFields value)

def caseFields : List String :=
  ["id", "familyManCaseNumber", "caseLocalAuthority", "caseLocalAuthorityName",
    "children1", "allocatedJudge"]

namespace CaseFile

def ofJson? (value : Json) : Option CaseFile := do
  let (field, others) ← divided? caseFields value
  return {
    id := ← withDefault 0 uint64OfJson? (field "id")
    familyManNumber := ← optional string? (field "familyManCaseNumber")
    localAuthority := ← optional string? (field "caseLocalAuthority")
    localAuthorityName := ← optional string? (field "caseLocalAuthorityName")
    children := ← withDefault [] (list? Child.ofJson?) (field "children1")
    allocatedJudge := ← optional Judge.ofJson? (field "allocatedJudge")
    answers := ← Answers.ofFields? .nullOrEmpty (← named? answerFields others) }

/-- How deep a member of the case may be nested that its text keeps aside. -/
def asideDepth : Nat := 126

/-- Whether the members that a text keeps aside for the answers can be kept.
They are kept whatever their names, so each has to be usable. -/
def keepsAside : Json → Bool
  | .object members =>
    members.all fun member =>
      caseFields.contains member.1 || member.2.isUsable && member.2.depth ≤
        asideDepth
  | _ => true

/-- The case that a JSON text describes. -/
def ofText? (text : String) : Option CaseFile :=
  ((Json.parse? text).filter keepsAside).bind ofJson?

end CaseFile

/-! ## Writing cases

A case as a JSON object.  Every field is written, and `null` stands for what is
not given. -/

def dateJson (date : Date) : Json :=
  .string date.text

def momentJson (moment : Moment) : Json :=
  .string moment.text

def Party.toJson (party : Party) : Json :=
  .object [
    ("firstName", ofString? party.firstName),
    ("lastName", ofString? party.lastName),
    ("dateOfBirth", ofOption dateJson party.dateOfBirth),
    ("gender", ofString? party.gender)]

def Child.toJson (child : Child) : Json :=
  .object [("id", .string child.id),
    ("value", .object [("party", child.party.toJson)])]

def Address.toJson (address : Address) : Json :=
  .object [
    ("addressLine1", ofString? address.line1),
    ("addressLine2", ofString? address.line2),
    ("addressLine3", ofString? address.line3),
    ("postTown", ofString? address.postTown),
    ("county", ofString? address.county),
    ("postcode", ofString? address.postcode),
    ("country", ofString? address.country)]

def DocumentReference.toJson (document : DocumentReference) : Json :=
  .object [
    ("document_url", .string document.url),
    ("document_binary_url", .string document.binaryUrl),
    ("document_filename", .string document.filename)]

def Judge.members (judge : Judge) : List (String × Json) :=
  [("judgeTitle", ofOption ofCoded judge.title),
    ("otherTitle", ofString? judge.otherTitle),
    ("judgeLastName", ofString? judge.lastName),
    ("judgeFullName", ofString? judge.fullName),
    ("judgeEmailAddress", ofString? judge.email)]

def Judge.toJson (judge : Judge) : Json :=
  .object judge.members

def HearingJudge.toJson (hearing : HearingJudge) : Json :=
  .object (hearing.judge.members ++
    [("legalAdvisorName", ofString? hearing.legalAdviser),
      ("useAllocatedJudge", ofOption ofCoded hearing.useAllocated)])

def tickedJson (positions : List UInt64) : Json :=
  .object [("selected",
    .array (positions.map fun position => .natural position.toNat))]

def Answers.members (answers : Answers) : List (String × Json) :=
  [("manageOrdersType", ofOption ofCoded answers.order),
    ("manageOrdersApprovalDate", ofOption dateJson answers.approvalDate),
    ("manageOrdersApprovalDateTime",
      ofOption momentJson answers.approvalMoment),
    ("judgeAndLegalAdvisor", ofOption HearingJudge.toJson answers.judge),
    ("manageOrdersTitle", ofString? answers.title),
    ("manageOrdersDirections", ofString? answers.directions),
    ("manageOrdersFurtherDirections", ofString? answers.furtherDirections),
    ("manageOrdersEndDateTypeWithEndOfProceedings",
      ofOption ofCoded answers.endOrProceedings),
    ("manageOrdersEndDateTypeWithMonth", ofOption ofCoded answers.endOrMonths),
    ("manageOrdersSetDateEndDate", ofOption dateJson answers.endDate),
    ("manageOrdersSetDateAndTimeEndDate",
      ofOption momentJson answers.endMoment),
    ("manageOrdersSetMonthsEndDate",
      ofOption (fun months => .natural months.toNat) answers.endMonths),
    ("manageOrdersEpoType", ofOption ofCoded answers.emergencyKind),
    ("manageOrdersEpoRemovalAddress",
      ofOption Address.toJson answers.removalAddress),
    ("manageOrdersIncludePhrase", ofOption ofCoded answers.includePhrase),
    ("manageOrdersChildrenDescription", ofString? answers.childrenDescription),
    ("manageOrdersEndDateTime", ofOption momentJson answers.emergencyEnd),
    ("manageOrdersExclusionRequirement",
      ofOption ofCoded answers.exclusionRequirement),
    ("manageOrdersWhoIsExcluded", ofString? answers.excludedPerson),
    ("manageOrdersExclusionStartDate",
      ofOption dateJson answers.exclusionStart),
    ("manageOrdersPowerOfArrest",
      ofOption DocumentReference.toJson answers.powerOfArrest),
    ("manageOrdersCareOrderIssuedDate",
      ofOption dateJson answers.careOrderDate),
    ("manageOrdersCareOrderIssuedCourt", ofString? answers.careOrderCourt),
    ("manageOrdersUploadOrderFile",
      ofOption DocumentReference.toJson answers.uploadedFile),
    ("manageOrdersNeedSealing", ofOption ofCoded answers.needSealing),
    ("orderAppliesToAllChildren", ofOption ofCoded answers.appliesToAll),
    ("childrenSelector", ofOption tickedJson answers.ticked)]

def CaseFile.toJson (file : CaseFile) : Json :=
  .object (
    [("id", .natural file.id.toNat),
      ("familyManCaseNumber", ofString? file.familyManNumber),
      ("caseLocalAuthority", ofString? file.localAuthority),
      ("caseLocalAuthorityName", ofString? file.localAuthorityName),
      ("children1", .array (file.children.map Child.toJson)),
      ("allocatedJudge", ofOption Judge.toJson file.allocatedJudge)] ++
        file.answers.members)

end FamilyOrders
