import FamilyOrders.Calendar.Basic
import FamilyOrders.Case.Basic
import FamilyOrders.Document.Basic
import FamilyOrders.Error
import FamilyOrders.Particulars
import FamilyOrders.Text.Characters

/-!
# Drafting

The choice of the children, judge and authority of an order, and how a draft is
begun.
-/

namespace FamilyOrders

/-! ## Children, judge and names of an order

Which children an order is about, which judge is printed on it, and the names
that a court keeps under codes. -/

/-- Whether the order is about all children of the case.  With a single child
the question is never asked. -/
def CaseFile.appliesToAll (file : CaseFile) : Except OrderError Bool :=
  match file.answers.appliesToAll with
  | some answer => .ok (decide (answer = .yes))
  | none =>
    if file.children.length ≤ 1 then .ok true
    else .error (.missingField .appliesToAll)

/-- The child at a ticked position. -/
def CaseFile.childAt (file : CaseFile) (position : UInt64) :
    Except OrderError Child :=
  match file.children[position.toNat]? with
  | some child => .ok child
  | none => .error (.invalidInput (.noSuchChild position))

/-- All children of the case, or those at the ticked positions in the order of
the ticks. -/
def CaseFile.selectedChildren (file : CaseFile) : Except OrderError
    (List Child) := do
  if ← file.appliesToAll then
    return file.children
  else
    (file.answers.ticked.getD []).mapM file.childAt

/-- Whether the judge allocated to the case takes the place of the event's. -/
def prefersAllocated : Option HearingJudge → Bool
  | some hearing => saidYes hearing.useAllocated || hearing.judge.isEmpty
  | none => true

/-- The event's judge, unless it gives way to an allocated one.  The legal
adviser is always the event's. -/
def selectedJudge (event : Option HearingJudge) (allocated : Option Judge) :
    Option HearingJudge :=
  if prefersAllocated event then
    match allocated with
    | some judge =>
      some {
        judge
        legalAdviser := event.bind (·.legalAdviser)
        useAllocated := some .yes }
    | none => event
  else event

/-- Names under codes; the first entry for a code counts. -/
abbrev NameTable := List (String × String)

def NameTable.name? (names : NameTable) (code : String) : Option String :=
  (names.find? fun entry => entry.1 == code).map (·.2)

/-- The court of a local authority. -/
def courtName (courts : NameTable) (authority : String) :
    Except OrderError String :=
  match courts.name? authority with
  | some name => .ok name
  | none => .error (.lookup (.noCourt authority))

/-- The name of a hearing venue. -/
def venueName (venues : NameTable) (id : String) : Except OrderError String :=
  match venues.name? id with
  | some name => .ok name
  | none => .error (.lookup (.unknownVenue id))

/-! ## Drafting

What the drafters of all orders share: how they are made, the words for the
children, and the end of an order. -/

/-! ### Drafters

A drafter turns a case into the particulars of one order.  Most of them only
fill in what is special to their order: title and legal basis are already there,
and the legal basis stays the catalogue's whatever they fill in. -/

structure Drafter where
  order : Order
  layout : Layout
  draft : CaseFile → Language → Except OrderError Particulars

/-- A drafter that starts from the particulars of the catalogue. -/
structure TemplatedDrafter where
  order : Order
  layout : Layout := .standard
  fill : Particulars → CaseFile → Language → Except OrderError Particulars

def TemplatedDrafter.draft (drafter : TemplatedDrafter) (file : CaseFile)
    (language : Language) : Except OrderError Particulars := do
  let particulars ← drafter.fill (.ofOrder drafter.order) file language
  return { particulars with legalBasis := drafter.order.legalBasis }

def TemplatedDrafter.toDrafter (drafter : TemplatedDrafter) : Drafter :=
  { order := drafter.order, layout := drafter.layout, draft := drafter.draft }

/-! ### Wording

The words that depend on whether an order is about one child or several, and the
authority named in its sentences. -/

open FamilyOrders.Text

inductive GrammaticalNumber
  | singular
  | plural
  deriving DecidableEq

namespace GrammaticalNumber

def ofCount (count : Nat) : GrammaticalNumber :=
  if 1 < count then .plural else .singular

/-- The word for the child or the children. -/
def child : GrammaticalNumber → Language → String
  | .singular, .english => "child"
  | .plural, .english => "children"
  | .singular, .welsh => "plentyn"
  | .plural, .welsh => "plant"

/-- The words that say that the child is, or the children are, placed in care.
-/
def isPlaced : GrammaticalNumber → Language → String
  | .singular, .english => "is placed"
  | .plural, .english => "are placed"
  | .singular, .welsh => "yn cael ei roi"
  | .plural, .welsh => "yn cael eu rhoi"

end GrammaticalNumber

/-- The number of the children that the order is about, of whom there must be
one. -/
def CaseFile.grammaticalNumber (file : CaseFile) :
    Except OrderError GrammaticalNumber := do
  let children ← file.selectedChildren
  if children.isEmpty then throw (.missingField .selectedChildren)
  return .ofCount children.length

/-- The name of the authority that applied for the order. -/
def CaseFile.authorityName (file : CaseFile) : Except OrderError String :=
  need .localAuthorityName (nonBlank? file.localAuthorityName)

/-! ### The end of an order

When an order stops having effect: on a day, at a moment, with the proceedings,
or a number of months after its approval. -/

open FamilyOrders.Calendar

inductive Ending
  | day (date : Date)
  | moment (moment : Moment)
  | endOfProceedings
  | afterMonths (months : UInt32) (last : Date)
  deriving DecidableEq

namespace Answers

/-- The end that lies a number of months after approval. -/
def endAfterMonths (answers : Answers) : Except OrderError Ending := do
  let months ← need .endMonths
    (answers.endMonths.filter fun months => 0 < months)
  let approved ← need .approvalDate answers.approvalDay
  match approved.addMonths? months.toNat with
  | some last => return .afterMonths months last
  | none => throw (.invalidInput (.monthsOutOfRange months))

/-- The end given by the answers that belong to the chosen kind. -/
def ending (answers : Answers) : Option EndKind → Except OrderError Ending
  | none => .error (.missingField .endKind)
  | some .day => (need .endDate answers.endDate).map .day
  | some .moment => (need .endMoment answers.endMoment).map .moment
  | some .endOfProceedings => .ok .endOfProceedings
  | some .months => answers.endAfterMonths

end Answers

end FamilyOrders
