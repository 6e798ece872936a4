import FamilyOrders.Calendar.Basic
import FamilyOrders.Drafting.Basic
import FamilyOrders.Text.Characters

/-!
# The drafters of the orders

One drafter for every order that is not uploaded.
-/

namespace FamilyOrders.Drafting

open FamilyOrders.Text

/-! ## Blank orders

The user writes the whole body, and may choose the title. -/

/-- The title of a blank order for which none is chosen. -/
def plainTitle : Language → String
  | .english => "Order"
  | .welsh => "Gorchymyn"

def draftBlank (file : CaseFile) (language : Language) :
    Except OrderError Particulars := do
  let directions ← need .directions (nonBlank? file.answers.directions)
  return {
    order := some .blank
    title := (nonBlank? file.answers.title).getD (plainTitle language)
    legalBasis := Order.blank.legalBasis
    details := some directions }

def blank : Drafter :=
  { order := .blank, layout := .standard, draft := draftBlank }

/-! ## Care orders

A final care order has no end.  An interim one ends on a day, at a moment or
with the proceedings. -/

open FamilyOrders.Calendar

/-- The sentence that places the children in care, up to its full stop. -/
def placement (language : Language) (number : GrammaticalNumber)
    (authority : String) : String :=
  match language with
  | .english =>
    "The Court orders that the " ++ number.child language ++ " " ++
      number.isPlaced language ++ " in the care of " ++ authority
  | .welsh =>
    "Mae'r Llys yn gorchymyn bod y " ++ number.child language ++ " " ++
      number.isPlaced language ++ " yng ngofal " ++ authority

def fillCare (particulars : Particulars) (file : CaseFile)
    (language : Language) : Except OrderError Particulars := do
  let number ← file.grammaticalNumber
  let authority ← file.authorityName
  return { particulars with
    details := some (placement language number authority ++ ".")
    localAuthorityName := some authority
    furtherDirections := file.answers.furtherDirections }

def care : TemplatedDrafter :=
  { order := .care, fill := fillCare }

/-- The word before the end of an interim care order. -/
def untilWord : Language → String
  | .english => "until "
  | .welsh => "tan "

/-- How long the children stay in care. -/
def interimCareEnd (language : Language) : Ending → Except OrderError String
  | .day date => .ok (untilWord language ++ date.printed language)
  | .moment moment => .ok (untilWord language ++ moment.printed language)
  | .endOfProceedings =>
    .ok (match language with
      | .english =>
        "until the end of the proceedings or until a further order is made"
      | .welsh =>
        "hyd at ddiwedd yr achos, neu hyd nes y gwneir gorchymyn pellach")
  | .afterMonths _ _ => .error (.invalidInput .interimCareForMonths)

def fillInterimCare (particulars : Particulars) (file : CaseFile)
    (language : Language) : Except OrderError Particulars := do
  let number ← file.grammaticalNumber
  let authority ← file.authorityName
  let ending ← file.answers.ending file.answers.endOrProceedings
  let lasting ← interimCareEnd language ending
  return { particulars with
    details :=
      some (placement language number authority ++ " " ++ lasting ++ ".")
    localAuthorityName := some authority
    furtherDirections := file.answers.furtherDirections }

def interimCare : TemplatedDrafter :=
  { order := .interimCare, fill := fillInterimCare }

/-! ## Discharge of a care order

The order names the court that made the care order and the day on which it did
so. -/

def dischargeSentence (language : Language) (venue printedDate : String) :
    String :=
  match language with
  | .english =>
    "The Court discharges the care order made by the " ++ venue ++ " on " ++
      printedDate ++ "."
  | .welsh =>
    "Mae'r Llys yn rhyddhau'r gorchymyn gofal a wnaed gan " ++ venue ++
      " ar " ++ printedDate ++ "."

def fillDischarge (venues : NameTable) (particulars : Particulars)
    (file : CaseFile)
    (language : Language) : Except OrderError Particulars := do
  let id ← need .careOrderCourt (nonBlank? file.answers.careOrderCourt)
  let issued ← need .careOrderDate file.answers.careOrderDate
  let venue ← venueName venues id
  return { particulars with
    details := some (dischargeSentence language venue (issued.printed language))
    furtherDirections := file.answers.furtherDirections }

def dischargeOfCare (venues : NameTable) : TemplatedDrafter :=
  { order := .dischargeOfCare, fill := fillDischarge venues }

/-! ## Emergency protection orders

The order runs for hours, so its date of issue is the moment of approval, and it
has to end after that moment.  It has a layout of its own. -/

/-- The moments of approval and end, in this order of time. -/
def emergencyTimes (answers : Answers) : Except OrderError
    (Moment × Moment) := do
  let approved ← need .approvalMoment answers.approvalMoment
  let ends ← need .emergencyEnd answers.emergencyEnd
  if ends.isAfter approved then return (approved, ends)
  else throw (.invalidInput .endsBeforeApproval)

/-- The address that the order is about, on one line, unless all its lines are
blank. -/
def oneLineAddress (answers : Answers) : Option String :=
  (answers.removalAddress.map (·.joined ", ")).filter fun line => !line.isEmpty

/-- What the order authorises.  There is no Welsh wording; only the word for the
children follows the language. -/
def emergencySentence (kind : EmergencyKind) (children authority : String)
    (address : Option String) : Except OrderError String :=
  match kind with
  | .removeToAccommodation =>
    .ok ("The Court authorises " ++ authority ++ " to remove the " ++
      children ++
      " to accommodation provided by or on behalf of the applicant.")
  | .preventRemoval => do
    let line ← need .removalAddress address
    return "The Court authorises the applicant to prevent the removal of the "
      ++ children ++ " from " ++ line ++ "."

def exclusionSentence (children excluded home printedStart : String) : String :=
  "The Court directs that " ++ excluded ++ " be excluded from " ++ home ++
    " from " ++ printedStart ++ " so that the " ++ children ++
    " may continue to live there."

/-- The sentence on an excluded person, if the answers require an exclusion. -/
def exclusion (answers : Answers) (children : String) (address : Option String)
    (language : Language) : Except OrderError (Option String) := do
  if saidYes answers.exclusionRequirement then
    let excluded ← need .excludedPerson (nonBlank? answers.excludedPerson)
    let start ← need .exclusionStart answers.exclusionStart
    return some (exclusionSentence children excluded
      (address.getD "the home of the child") (start.printed language))
  else
    return none

def fillEmergencyProtection (particulars : Particulars) (file : CaseFile)
    (language : Language) : Except OrderError Particulars := do
  let answers := file.answers
  let children := (← file.grammaticalNumber).child language
  let authority ← file.authorityName
  let kind ← need .emergencyKind answers.emergencyKind
  let (approved, ends) ← emergencyTimes answers
  let address := oneLineAddress answers
  let details ← emergencySentence kind children authority address
  let exclusion ← exclusion answers children address language
  return { particulars with
    details := some details
    localAuthorityName := some authority
    furtherDirections := answers.furtherDirections
    dateOfIssue := some (approved.printed language)
    emergency := some {
      kind := kind.code
      includePhrase := saidYes answers.includePhrase
      childrenDescription := nonBlank? answers.childrenDescription
      removalAddress := address
      endsAt := ends.printed language
      exclusionRequirement := exclusion } }

def emergencyProtection : TemplatedDrafter :=
  { order := .emergencyProtection
    layout := .emergencyProtection
    fill := fillEmergencyProtection }

/-! ## Supervision orders

A final supervision order ends on a day, at a moment or a number of months after
its approval; an interim one on a day, at a moment or with the proceedings. -/

/-- The sentence that puts the children under supervision, up to its end. -/
def supervisionStart (language : Language) (number : GrammaticalNumber)
    (authority : String) : String :=
  match language with
  | .english =>
    "The Court orders " ++ authority ++ " to supervise the " ++
      number.child language ++ " "
  | .welsh =>
    "Mae'r Llys yn gorchymyn i " ++ authority ++ " oruchwylio'r " ++
      number.child language ++ " "

/-- The end of supervision at a printed day or moment. -/
def supervisionUntil (language : Language) (printed : String) : String :=
  match language with
  | .english => "until " ++ printed ++ "."
  | .welsh => "tan " ++ printed ++ "."

def monthsWord (months : UInt32) : String :=
  if months = 1 then "month" else "months"

/-- The end of supervision after a number of months. -/
def supervisionForMonths (language : Language) (months : UInt32) (last : Date) :
    String :=
  match language with
  | .english =>
    "for " ++ toString months.toNat ++ " " ++ monthsWord months ++
      " from the date of this order until " ++ last.printed language ++ "."
  | .welsh =>
    "am " ++ toString months.toNat ++ " mis o ddyddiad y gorchymyn hwn tan " ++
      last.printed language ++ "."

def supervisionEnd (language : Language) : Ending → Except OrderError String
  | .day date => .ok (supervisionUntil language (date.printed language))
  | .moment moment => .ok (supervisionUntil language (moment.printed language))
  | .afterMonths months last => .ok (supervisionForMonths language months last)
  | .endOfProceedings => .error (.invalidInput .supervisionToEndOfProceedings)

def interimSupervisionEnd (language : Language) :
    Ending → Except OrderError String
  | .day date => .ok (supervisionUntil language (date.printed language))
  | .moment moment => .ok (supervisionUntil language (moment.printed language))
  | .afterMonths _ _ => .error (.invalidInput .interimSupervisionForMonths)
  | .endOfProceedings =>
    .ok (match language with
      | .english =>
        "until the end of the proceedings, or until a further order is made."
      | .welsh =>
        "hyd at ddiwedd yr achos, neu hyd nes y gwneir gorchymyn pellach.")

/-- Fills in a supervision order whose end is of the given kind and is told by
`lasting`. -/
def fillSupervisionWith (kind : Answers → Option EndKind)
    (lasting : Language → Ending → Except OrderError String)
    (particulars : Particulars) (file : CaseFile) (language : Language) :
    Except OrderError Particulars := do
  let number ← file.grammaticalNumber
  let authority ← file.authorityName
  let ending ← file.answers.ending (kind file.answers)
  let last ← lasting language ending
  return { particulars with
    details := some (supervisionStart language number authority ++ last)
    localAuthorityName := some authority
    furtherDirections := file.answers.furtherDirections }

def supervision : TemplatedDrafter :=
  { order := .supervision
    fill := fillSupervisionWith (·.endOrMonths) supervisionEnd }

def interimSupervision : TemplatedDrafter :=
  { order := .interimSupervision
    fill := fillSupervisionWith (·.endOrProceedings) interimSupervisionEnd }

/-! ## The standard drafters

One drafter for every order that is not uploaded. -/

/-- The drafter of the order, unless it is uploaded. -/
def drafterFor? (venues : NameTable) : Order → Option Drafter
  | .blank => some blank
  | .emergencyProtection => some emergencyProtection.toDrafter
  | .care => some care.toDrafter
  | .dischargeOfCare => some (dischargeOfCare venues).toDrafter
  | .interimCare => some interimCare.toDrafter
  | .supervision => some supervision.toDrafter
  | .interimSupervision => some interimSupervision.toDrafter
  | .variationOfEmergencyProtection | .other => none

def standardDrafters (venues : NameTable) : List Drafter :=
  Order.all.filterMap (drafterFor? venues)

end FamilyOrders.Drafting
