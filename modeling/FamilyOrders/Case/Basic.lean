import FamilyOrders.Calendar.Basic
import FamilyOrders.Document.Basic
import FamilyOrders.Order.Basic
import FamilyOrders.Text.Characters

/-!
# Cases

A case as it is given: its parties, its judges and the answers about the order
to be made.
-/

namespace FamilyOrders

/-! ## Answers to choose from

The enumerations among the answers of a case. -/

inductive YesNo
  | yes
  | no
  deriving DecidableEq

instance : Coded YesNo where
  values := [.yes, .no]
  code
    | .yes => "Yes"
    | .no => "No"
  mem_values answer := by cases answer <;> decide
  code_injective a b := by cases a <;> cases b <;> simp

/-- Whether the question was answered, and with yes. -/
def saidYes (answer : Option YesNo) : Bool :=
  answer = some .yes

inductive JudgeTitle
  | hisHonourJudge
  | herHonourJudge
  | districtJudge
  | deputyDistrictJudge
  | magistrates
  | other
  deriving DecidableEq

namespace JudgeTitle

instance : Coded JudgeTitle where
  values :=
    [.hisHonourJudge, .herHonourJudge, .districtJudge, .deputyDistrictJudge,
      .magistrates, .other]
  code
    | .hisHonourJudge => "HIS_HONOUR_JUDGE"
    | .herHonourJudge => "HER_HONOUR_JUDGE"
    | .districtJudge => "DISTRICT_JUDGE"
    | .deputyDistrictJudge => "DEPUTY_DISTRICT_JUDGE"
    | .magistrates => "MAGISTRATES"
    | .other => "OTHER"
  mem_values title := by cases title <;> decide
  code_injective a b := by cases a <;> cases b <;> simp

/-- The title as an order prints it; any other title is typed by the user. -/
def label : JudgeTitle → String
  | .hisHonourJudge => "His Honour Judge"
  | .herHonourJudge => "Her Honour Judge"
  | .districtJudge => "District Judge"
  | .deputyDistrictJudge => "Deputy District Judge"
  | .magistrates => "Justice of the Peace"
  | .other => ""

end JudgeTitle

/-- How the end of an order is given. -/
inductive EndKind
  | day
  | moment
  | months
  | endOfProceedings
  deriving DecidableEq

instance : Coded EndKind where
  values := [.day, .moment, .months, .endOfProceedings]
  code
    | .day => "CALENDAR_DAY"
    | .moment => "CALENDAR_DAY_AND_TIME"
    | .months => "NUMBER_OF_MONTHS"
    | .endOfProceedings => "END_OF_PROCEEDINGS"
  mem_values kind := by cases kind <;> decide
  code_injective a b := by cases a <;> cases b <;> simp

/-- What an emergency protection order authorises. -/
inductive EmergencyKind
  | removeToAccommodation
  | preventRemoval
  deriving DecidableEq

namespace EmergencyKind

def code : EmergencyKind → String
  | .removeToAccommodation => "REMOVE_TO_ACCOMMODATION"
  | .preventRemoval => "PREVENT_REMOVAL"

instance : Coded EmergencyKind where
  values := [.removeToAccommodation, .preventRemoval]
  code := code
  mem_values kind := by cases kind <;> decide
  code_injective a b := by cases a <;> cases b <;> simp [code]

end EmergencyKind

/-! ## Judges

The judge of a case or of a hearing, and how an order prints one. -/

open FamilyOrders.Text

structure Judge where
  title : Option JudgeTitle := none
  otherTitle : Option String := none
  lastName : Option String := none
  fullName : Option String := none
  email : Option String := none
  deriving DecidableEq

namespace Judge

/-- Whether nothing is given by which the judge could be printed. -/
def isEmpty (judge : Judge) : Bool :=
  judge.title.isNone && judge.lastName.isNone && judge.fullName.isNone

/-- Title and last name; magistrates are printed by their full name. -/
def printed (judge : Judge) : String :=
  let lastName := judge.lastName.getD ""
  match judge.title with
  | some .magistrates =>
    match nonBlank? judge.fullName with
    | some name => name ++ " (JP)"
    | none => JudgeTitle.magistrates.label
  | some .other => trim (judge.otherTitle.getD "" ++ " " ++ lastName)
  | some title => trim (title.label ++ " " ++ lastName)
  | none => lastName

end Judge

/-- The judge named for the event, with the legal adviser. -/
structure HearingJudge where
  judge : Judge := {}
  legalAdviser : Option String := none
  useAllocated : Option YesNo := none
  deriving DecidableEq

/-! ## Children and addresses -/

structure Party where
  firstName : Option String := none
  lastName : Option String := none
  dateOfBirth : Option Calendar.Date := none
  gender : Option String := none
  deriving DecidableEq

/-- The names that are given and not blank, with a space between them. -/
def Party.fullName (party : Party) : String :=
  " ".intercalate ([party.firstName, party.lastName].filterMap nonBlank?)

/-- A child of a case, under its identifier in the collection of children. -/
structure Child where
  id : String
  party : Party
  deriving DecidableEq

structure Address where
  line1 : Option String := none
  line2 : Option String := none
  line3 : Option String := none
  postTown : Option String := none
  county : Option String := none
  postcode : Option String := none
  country : Option String := none
  deriving DecidableEq

namespace Address

def lines (address : Address) : List (Option String) :=
  [address.line1, address.line2, address.line3, address.postTown,
    address.county, address.postcode, address.country]

/-- The lines that are not blank, without the blanks around them, joined by the
delimiter. -/
def joined (address : Address) (delimiter : String) : String :=
  delimiter.intercalate ((address.lines.filterMap nonBlank?).map trim)

end Address

/-! ## Cases

The file of a case at the moment an order is made: the case itself and the
answers given for the order.  Answers asked for one order may be left over when
another one is chosen. -/

open FamilyOrders.Calendar

/-- Where a stored document is found, and under what name. -/
structure DocumentReference where
  url : String
  binaryUrl : String
  filename : String
  deriving DecidableEq

/-- The answers given for an order. -/
structure Answers where
  order : Option Order := none
  approvalDate : Option Date := none
  approvalMoment : Option Moment := none
  judge : Option HearingJudge := none
  title : Option String := none
  directions : Option String := none
  furtherDirections : Option String := none
  endOrProceedings : Option EndKind := none
  endOrMonths : Option EndKind := none
  endDate : Option Date := none
  endMoment : Option Moment := none
  endMonths : Option UInt32 := none
  emergencyKind : Option EmergencyKind := none
  removalAddress : Option Address := none
  includePhrase : Option YesNo := none
  childrenDescription : Option String := none
  emergencyEnd : Option Moment := none
  exclusionRequirement : Option YesNo := none
  excludedPerson : Option String := none
  exclusionStart : Option Date := none
  powerOfArrest : Option DocumentReference := none
  careOrderDate : Option Date := none
  careOrderCourt : Option String := none
  uploadedFile : Option DocumentReference := none
  needSealing : Option YesNo := none
  appliesToAll : Option YesNo := none
  /-- The positions of the ticked children among the children of the case. -/
  ticked : Option (List UInt64) := none
  deriving DecidableEq

/-- The day of approval: the date given for it, or else that of the moment of
approval. -/
def Answers.approvalDay (answers : Answers) : Option Date :=
  answers.approvalDate.or (answers.approvalMoment.map (·.date))

structure CaseFile where
  id : UInt64 := 0
  familyManNumber : Option String := none
  /-- The code of the local authority that the case belongs to. -/
  localAuthority : Option String := none
  localAuthorityName : Option String := none
  children : List Child := []
  allocatedJudge : Option Judge := none
  answers : Answers := {}
  deriving DecidableEq

/-! ## Case numbers

A case is printed by its identifier in groups of four digits:
`1234-5678-9012-3456`. -/

def caseNumberChars (id : UInt64) : List Char :=
  ['-'].intercalate (inGroups 4 (paddedDigits 16 id.toNat))

def caseNumber (id : UInt64) : String :=
  String.ofList (caseNumberChars id)

end FamilyOrders
