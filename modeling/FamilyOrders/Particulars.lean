import FamilyOrders.Json.Basic
import FamilyOrders.Order.Basic

/-!
# Particulars

What a document says, and how it is told to those who set it.
-/

namespace FamilyOrders

/-! ## Particulars

What a document says, field by field, ready to be set in a layout.  An order's
own fields are filled in first and those common to all orders last. -/

structure ChildParticulars where
  name : String
  gender : Option String
  dateOfBirth : Option String
  deriving DecidableEq

structure JudgeParticulars where
  titleAndName : String
  legalAdviser : Option String
  deriving DecidableEq

/-- The fields of an emergency protection order. -/
structure EmergencyParticulars where
  kind : String
  includePhrase : Bool
  childrenDescription : Option String
  removalAddress : Option String
  endsAt : String
  exclusionRequirement : Option String
  deriving DecidableEq

structure Particulars where
  order : Option Order := none
  title : String := ""
  legalBasis : String := ""
  details : Option String := none
  furtherDirections : Option String := none
  localAuthorityName : Option String := none
  dateOfIssue : Option String := none
  emergency : Option EmergencyParticulars := none
  courtName : Option String := none
  familyManNumber : Option String := none
  caseNumber : Option String := none
  judge : Option JudgeParticulars := none
  children : List ChildParticulars := []
  crest : Option String := none
  draftWatermark : Option String := none
  courtSeal : Option String := none
  deriving DecidableEq

/-- The particulars that the catalogue gives. -/
def Particulars.ofOrder (order : Order) : Particulars :=
  { order := some order, title := order.title, legalBasis := order.legalBasis }

/-! ## Writing particulars

Particulars as the JSON object that the templates are filled from.  Watermark
and seal are left out where there is none, and the fields of an emergency
protection order where it is another order; every other field is written. -/

open FamilyOrders.Json

def ChildParticulars.toJson (child : ChildParticulars) : Json :=
  .object [
    ("name", .string child.name),
    ("gender", ofString? child.gender),
    ("dateOfBirth", ofString? child.dateOfBirth)]

def JudgeParticulars.toJson (judge : JudgeParticulars) : Json :=
  .object [
    ("judgeTitleAndName", .string judge.titleAndName),
    ("legalAdvisorName", ofString? judge.legalAdviser)]

def EmergencyParticulars.members (emergency : EmergencyParticulars) : List
    (String × Json) :=
  [("epoType", .string emergency.kind),
    ("includePhrase", .bool emergency.includePhrase),
    ("childrenDescription", ofString? emergency.childrenDescription),
    ("removalAddress", ofString? emergency.removalAddress),
    ("epoEndDateTime", .string emergency.endsAt),
    ("exclusionRequirement", ofString? emergency.exclusionRequirement)]

/-- A member that is there only if it has a value. -/
def presentMember (name : String) : Option String → List (String × Json)
  | some text => [(name, .string text)]
  | none => []

namespace Particulars

def members (particulars : Particulars) : List (String × Json) :=
  [("orderType", ofOption ofCoded particulars.order),
    ("orderTitle", .string particulars.title),
    ("childrenAct", .string particulars.legalBasis),
    ("orderDetails", ofString? particulars.details),
    ("furtherDirections", ofString? particulars.furtherDirections),
    ("localAuthorityName", ofString? particulars.localAuthorityName),
    ("dateOfIssue", ofString? particulars.dateOfIssue)] ++
  (match particulars.emergency with
    | some emergency => emergency.members
    | none => []) ++
  [("courtName", ofString? particulars.courtName),
    ("familyManNumber", ofString? particulars.familyManNumber),
    ("ccdCaseNumber", ofString? particulars.caseNumber),
    ("judgeAndLegalAdvisor",
      ofOption JudgeParticulars.toJson particulars.judge),
    ("children", .array (particulars.children.map ChildParticulars.toJson)),
    ("crest", ofString? particulars.crest)] ++
  presentMember "draftbackground" particulars.draftWatermark ++
  presentMember "courtseal" particulars.courtSeal

def toJson (particulars : Particulars) : Json :=
  .object particulars.members

end Particulars

end FamilyOrders
