import FamilyOrders.Document.Basic
import FamilyOrders.Text.Characters

/-!
# Orders

The orders a court can make, what the catalogue says about each of them, and the
names of their documents.
-/

namespace FamilyOrders

/-! ## Orders

The orders that a family court issues through this library, in the order of the
catalogue. -/

inductive Order
  | blank
  | emergencyProtection
  | variationOfEmergencyProtection
  | care
  | dischargeOfCare
  | interimCare
  | supervision
  | interimSupervision
  | other
  deriving DecidableEq

namespace Order

def all : List Order :=
  [.blank, .emergencyProtection, .variationOfEmergencyProtection, .care,
    .dischargeOfCare, .interimCare, .supervision, .interimSupervision, .other]

def code : Order → String
  | .blank => "C21_BLANK_ORDER"
  | .emergencyProtection => "C23_EMERGENCY_PROTECTION_ORDER"
  | .variationOfEmergencyProtection =>
    "C24_VARIATION_OF_EMERGENCY_PROTECTION_ORDER"
  | .care => "C32A_CARE_ORDER"
  | .dischargeOfCare => "C32B_DISCHARGE_OF_CARE_ORDER"
  | .interimCare => "C33_INTERIM_CARE_ORDER"
  | .supervision => "C35A_SUPERVISION_ORDER"
  | .interimSupervision => "C35B_INTERIM_SUPERVISION_ORDER"
  | .other => "OTHER_ORDER"

instance : Coded Order where
  values := all
  code := code
  mem_values order := by cases order <;> decide
  code_injective a b := by cases a <;> cases b <;> simp [code]

end Order

/-! ## The order catalogue

What is fixed for each order: its titles, its legal basis, the questions asked
for it, whether its document is drafted here or uploaded, and whether it has
Welsh wording. -/

/-- Where the document of an order comes from. -/
inductive Source
  /-- Drafted from the answers. -/
  | digital
  /-- Written by the user and uploaded. -/
  | manualUpload
  deriving DecidableEq

instance : Coded Source where
  values := [.digital, .manualUpload]
  code
    | .digital => "DIGITAL"
    | .manualUpload => "MANUAL_UPLOAD"
  mem_values source := by cases source <;> decide
  code_injective a b := by cases a <;> cases b <;> simp

/-- A group of questions shown to the user. -/
inductive Question
  | approver
  | approvalDate
  | approvalMoment
  | whichChildren
  | details
  | dischargeDetails
  | emergencyKindAndAddress
  | includePhrase
  | childrenDescription
  | emergencyEnd
  | furtherDirections
  | endOrMonths
  | endOrProceedings
  | uploadedFile
  | needSealing
  | closeCase
  | reviewDraft
  deriving DecidableEq

instance : Coded Question where
  values :=
    [.approver, .approvalDate, .approvalMoment, .whichChildren, .details,
      .dischargeDetails, .emergencyKindAndAddress, .includePhrase,
        .childrenDescription, .emergencyEnd,
      .furtherDirections, .endOrMonths, .endOrProceedings, .uploadedFile,
        .needSealing, .closeCase,
      .reviewDraft]
  code
    | .approver => "APPROVER"
    | .approvalDate => "APPROVAL_DATE"
    | .approvalMoment => "APPROVAL_DATE_TIME"
    | .whichChildren => "WHICH_CHILDREN"
    | .details => "DETAILS"
    | .dischargeDetails => "DISCHARGE_DETAILS"
    | .emergencyKindAndAddress => "EPO_TYPE_AND_PREVENT_REMOVAL"
    | .includePhrase => "EPO_INCLUDE_PHRASE"
    | .childrenDescription => "EPO_CHILDREN_DESCRIPTION"
    | .emergencyEnd => "EPO_EXPIRY_DATE"
    | .furtherDirections => "FURTHER_DIRECTIONS"
    | .endOrMonths => "MANAGE_ORDER_END_DATE_WITH_MONTH"
    | .endOrProceedings => "MANAGE_ORDER_END_DATE_WITH_END_OF_PROCEEDINGS"
    | .uploadedFile => "UPLOAD_ORDER_FILE"
    | .needSealing => "NEED_SEALING"
    | .closeCase => "CLOSE_CASE"
    | .reviewDraft => "REVIEW_DRAFT_ORDER"
  mem_values question := by cases question <;> decide
  code_injective a b := by cases a <;> cases b <;> simp

structure CatalogueEntry where
  title : String
  /-- The statute that the order is made under. -/
  legalBasis : String
  /-- The title in the history of the case. -/
  historyTitle : String
  questions : List Question
  source : Source
  /-- Whether the order has Welsh wording. -/
  translatable : Bool

namespace Order

def entry : Order → CatalogueEntry
  | .blank =>
    { title := "Blank order (C21)"
      legalBasis := "Children Act 1989"
      historyTitle := "Blank order (C21)"
      questions :=
        [.approver, .approvalDate, .whichChildren, .details, .reviewDraft]
      source := .digital
      translatable := true }
  | .emergencyProtection =>
    { title := "Emergency protection order (C23)"
      legalBasis := "Section 44 Children Act 1989"
      historyTitle := "Emergency protection order (C23)"
      questions :=
        [.approver, .approvalMoment, .whichChildren, .emergencyKindAndAddress,
          .includePhrase, .childrenDescription, .emergencyEnd,
            .furtherDirections, .reviewDraft]
      source := .digital
      translatable := false }
  | .variationOfEmergencyProtection =>
    { title := "Variation of an emergency protection order (C24)"
      legalBasis := "Section 45 Children Act 1989"
      historyTitle := "Variation of an emergency protection order (C24)"
      questions :=
        [.approver, .approvalDate, .whichChildren, .uploadedFile, .needSealing,
          .reviewDraft]
      source := .manualUpload
      translatable := false }
  | .care =>
    { title := "Care order (C32A)"
      legalBasis := "Section 31 Children Act 1989"
      historyTitle := "Care order (C32A)"
      questions :=
        [.approver, .approvalDate, .whichChildren, .furtherDirections,
          .closeCase, .reviewDraft]
      source := .digital
      translatable := true }
  | .dischargeOfCare =>
    { title := "Discharge of care order (C32B)"
      legalBasis := "Section 39(1) Children Act 1989"
      historyTitle := "Discharge of care order (C32B)"
      questions :=
        [.approver, .approvalDate, .whichChildren, .dischargeDetails,
          .furtherDirections, .closeCase, .reviewDraft]
      source := .digital
      translatable := true }
  | .interimCare =>
    { title := "Interim care order (C33)"
      legalBasis := "Section 38 Children Act 1989"
      historyTitle := "Interim care order (C33)"
      questions :=
        [.approver, .approvalDate, .whichChildren, .furtherDirections,
          .endOrProceedings, .reviewDraft]
      source := .digital
      translatable := true }
  | .supervision =>
    { title := "Supervision order (C35A)"
      legalBasis :=
        "Section 31 and Paragraphs 1 and 2 Schedule 3 Children Act 1989"
      historyTitle := "Supervision order (C35A)"
      questions :=
        [.approver, .approvalDate, .whichChildren, .furtherDirections,
          .endOrMonths, .closeCase, .reviewDraft]
      source := .digital
      translatable := true }
  | .interimSupervision =>
    { title := "Interim supervision order (C35B)"
      legalBasis :=
        "Section 38 and Paragraphs 1 and 2 Schedule 3 Children Act 1989"
      historyTitle := "Interim supervision order (C35B)"
      questions :=
        [.approver, .approvalDate, .whichChildren, .furtherDirections,
          .endOrProceedings, .reviewDraft]
      source := .digital
      translatable := true }
  | .other =>
    { title := "Upload an order"
      legalBasis := ""
      historyTitle := "Other"
      questions :=
        [.approver, .approvalDate, .whichChildren, .uploadedFile, .needSealing,
          .reviewDraft]
      source := .manualUpload
      translatable := false }

def title (order : Order) : String := order.entry.title

def legalBasis (order : Order) : String := order.entry.legalBasis

def historyTitle (order : Order) : String := order.entry.historyTitle

def source (order : Order) : Source := order.entry.source

def isManualUpload (order : Order) : Bool :=
  order.source = .manualUpload

/-- Whether a Welsh document of the order may be offered: only drafted orders
have Welsh wording, and not all of them. -/
def hasWelsh (order : Order) : Bool :=
  order.source = .digital && order.entry.translatable

end Order

/-! ## Names of documents

How the file of an order is named and how the order is titled in the history of
its case.  A title chosen by the user counts for the orders that the user
writes. -/

open FamilyOrders.Text

namespace Order

/-- The words of a chosen title, joined for a file name, unless nothing of it
remains. -/
def titleStem (title : Option String) : Option String :=
  ((nonBlank? title).map snakeCase).filter fun stem => !stem.isEmpty

def codeStem (order : Order) : String :=
  snakeCase order.code

/-- The file name without its extension. -/
def fileStem (order : Order) (title : Option String) : String :=
  match order, titleStem title with
  | .blank, some stem => "c21_" ++ stem
  | .variationOfEmergencyProtection, some stem | .other, some stem => stem
  | _, _ => order.codeStem

def fileName (order : Order) (format : FileFormat) (title : Option String) :
    String :=
  order.fileStem title ++ "." ++ format.fileExtension

def displayTitle (order : Order) (title : Option String) : String :=
  match order with
  | .blank | .other => (nonBlank? title).getD order.historyTitle
  | _ => order.historyTitle

end Order

/-- The file name of a draft, whatever its order. -/
def draftFileName (format : FileFormat) : Language → String
  | .english => "Preview order." ++ format.fileExtension
  | .welsh => "Preview order - Welsh." ++ format.fileExtension

end FamilyOrders
