import FamilyOrders.Proofs.Creation.Runs
import FamilyOrders.Proofs.Drafts

/-!
# Answers left over

A case keeps the answers given for all orders ever chosen in it.  The making of
a document looks at the case itself, at the answers common to all orders and at
those that the chosen order asks for; cases that agree on these have the same
calls made and the same result, whatever else was answered.
-/

namespace FamilyOrders

open FamilyOrders.Calendar FamilyOrders.Drafting FamilyOrders.Text

variable {a b : CaseFile}

/-! ## Agreement on what is asked -/

namespace Answers

/-- The same answer that belongs to this kind of end. -/
def SameEnd (a b : Answers) : EndKind → Prop
  | .day => a.endDate = b.endDate
  | .moment => a.endMoment = b.endMoment
  | .months => a.endMonths = b.endMonths
  | .endOfProceedings => True

/-- The same answers about an emergency.  Those on an exclusion count only where
one is required. -/
structure SameEmergency (a b : Answers) : Prop where
  emergencyKind : a.emergencyKind = b.emergencyKind
  removalAddress : a.removalAddress = b.removalAddress
  includePhrase : a.includePhrase = b.includePhrase
  childrenDescription : a.childrenDescription = b.childrenDescription
  emergencyEnd : a.emergencyEnd = b.emergencyEnd
  exclusionRequirement : a.exclusionRequirement = b.exclusionRequirement
  excluded :
    a.exclusionRequirement = some .yes →
      a.excludedPerson = b.excludedPerson ∧
      a.exclusionStart = b.exclusionStart ∧
        a.powerOfArrest = b.powerOfArrest

/-- The same answers to the questions of one order. -/
def SameFor (a b : Answers) : Order → Prop
  | .blank => a.title = b.title ∧ a.directions = b.directions
  | .care => True
  | .dischargeOfCare =>
    a.careOrderCourt = b.careOrderCourt ∧ a.careOrderDate = b.careOrderDate
  | .interimCare | .interimSupervision =>
      a.endOrProceedings = b.endOrProceedings ∧
        ∀ kind, a.endOrProceedings = some kind → a.SameEnd b kind
  | .supervision =>
      a.endOrMonths = b.endOrMonths ∧ ∀ kind, a.endOrMonths = some kind →
        a.SameEnd b kind
  | .emergencyProtection => a.SameEmergency b
  | .variationOfEmergencyProtection | .other =>
      a.title = b.title ∧ a.uploadedFile = b.uploadedFile ∧
      a.needSealing = b.needSealing

end Answers

/-- Two cases that agree on all that the chosen order asks for. -/
structure CaseFile.SameAsked (a b : CaseFile) : Prop where
  id : a.id = b.id
  familyManNumber : a.familyManNumber = b.familyManNumber
  localAuthority : a.localAuthority = b.localAuthority
  localAuthorityName : a.localAuthorityName = b.localAuthorityName
  children : a.children = b.children
  allocatedJudge : a.allocatedJudge = b.allocatedJudge
  order : a.answers.order = b.answers.order
  approvalDate : a.answers.approvalDate = b.answers.approvalDate
  approvalMoment : a.answers.approvalMoment = b.answers.approvalMoment
  judge : a.answers.judge = b.answers.judge
  furtherDirections : a.answers.furtherDirections = b.answers.furtherDirections
  appliesToAll : a.answers.appliesToAll = b.answers.appliesToAll
  ticked : a.answers.ticked = b.answers.ticked
  own :
    ∀ order, a.answers.order = some order → a.answers.SameFor b.answers order

/-! ## Drafting and stamping -/

theorem TemplatedDrafter.draft_congr
    {drafter : TemplatedDrafter} {language : Language}
    (hfill : drafter.fill (.ofOrder drafter.order) a language =
      drafter.fill (.ofOrder drafter.order) b language) :
    drafter.draft a language = drafter.draft b language := by
  rw [draft, draft, hfill]

theorem Drafting.draftBlank_congr
    (htitle : a.answers.title = b.answers.title)
    (hdirections : a.answers.directions = b.answers.directions)
    (language : Language) :
    draftBlank a language = draftBlank b language := by
  simp only [draftBlank, htitle, hdirections]

theorem Answers.SameEmergency.exclusion
    (hemergency : a.answers.SameEmergency b.answers) (children : String)
    (address : Option String) (language : Language) :
    Drafting.exclusion a.answers children address language =
      Drafting.exclusion b.answers children address language := by
  by_cases hrequired : a.answers.exclusionRequirement = some .yes
  · obtain ⟨hperson, hstart, -⟩ := hemergency.excluded hrequired
    simp only [Drafting.exclusion, hemergency.exclusionRequirement, hperson,
      hstart]
  · have hspared : b.answers.exclusionRequirement ≠ some .yes := by
      rw [← hemergency.exclusionRequirement]
      exact hrequired
    simp [Drafting.exclusion, saidYes, hrequired, hspared]

namespace CaseFile.SameAsked

theorem selectedChildren (hsame : a.SameAsked b) :
    a.selectedChildren = b.selectedChildren := by
  have hchild : a.childAt = b.childAt := by
    funext position
    rw [childAt, childAt, hsame.children]
  rw [CaseFile.selectedChildren, CaseFile.selectedChildren,
    CaseFile.appliesToAll, CaseFile.appliesToAll, hsame.appliesToAll,
      hsame.children, hsame.ticked, hchild]

theorem grammaticalNumber (hsame : a.SameAsked b) :
    a.grammaticalNumber = b.grammaticalNumber := by
  rw [CaseFile.grammaticalNumber, CaseFile.grammaticalNumber,
    hsame.selectedChildren]

theorem authorityName (hsame : a.SameAsked b) :
    a.authorityName = b.authorityName := by
  rw [CaseFile.authorityName, CaseFile.authorityName, hsame.localAuthorityName]

theorem approvalDay (hsame : a.SameAsked b) :
    a.answers.approvalDay = b.answers.approvalDay := by
  rw [Answers.approvalDay, Answers.approvalDay, hsame.approvalDate,
    hsame.approvalMoment]

theorem ending
    (hsame : a.SameAsked b) {kind kind' : Option EndKind} (hkind : kind = kind')
    (hend : ∀ chosen, kind = some chosen → a.answers.SameEnd b.answers chosen) :
    a.answers.ending kind = b.answers.ending kind' := by
  subst hkind
  cases kind with
  | none => rfl
  | some chosen =>
      have hanswer := hend chosen rfl
      cases chosen with
      | day =>
          have hdate : a.answers.endDate = b.answers.endDate := hanswer
          simp only [Answers.ending, hdate]
      | moment =>
          have hmoment : a.answers.endMoment = b.answers.endMoment := hanswer
          simp only [Answers.ending, hmoment]
      | months =>
          have hmonths : a.answers.endMonths = b.answers.endMonths := hanswer
          simp only [Answers.ending, Answers.endAfterMonths, hmonths,
            hsame.approvalDay]
      | endOfProceedings => rfl

theorem dateOfIssue
    (hsame : a.SameAsked b) (current : Option String) (language : Language) :
    dateOfIssue current a.answers language =
      dateOfIssue current b.answers language := by
  rw [FamilyOrders.dateOfIssue, FamilyOrders.dateOfIssue, hsame.approvalDay]

theorem stamp
    (hsame : a.SameAsked b) (stamper : Stamper) (drafted : Particulars)
    (status : OrderStatus) (language : Language) :
    stamper.stamp drafted a status language =
      stamper.stamp drafted b status language := by
  simp only [Stamper.stamp, Stamper.court, hsame.selectedChildren,
    hsame.localAuthority, hsame.dateOfIssue, hsame.familyManNumber, hsame.id,
      hsame.judge, hsame.allocatedJudge]

variable {language : Language} {seed : Particulars}

theorem fillCare (hsame : a.SameAsked b) :
    Drafting.fillCare seed a language = Drafting.fillCare seed b language := by
  simp only [Drafting.fillCare, hsame.grammaticalNumber, hsame.authorityName,
    hsame.furtherDirections]

theorem fillDischarge
    (hsame : a.SameAsked b) (venues : NameTable)
    (hcourt : a.answers.careOrderCourt = b.answers.careOrderCourt)
    (hdate : a.answers.careOrderDate = b.answers.careOrderDate) :
    Drafting.fillDischarge venues seed a language =
      Drafting.fillDischarge venues seed b language := by
  simp only [Drafting.fillDischarge, hcourt, hdate, hsame.furtherDirections]

theorem fillInterimCare
    (hsame : a.SameAsked b)
    (hkind : a.answers.endOrProceedings = b.answers.endOrProceedings)
    (hend :
      ∀ kind, a.answers.endOrProceedings = some kind →
        a.answers.SameEnd b.answers kind) :
    Drafting.fillInterimCare seed a language =
      Drafting.fillInterimCare seed b language := by
  simp only [Drafting.fillInterimCare, hsame.grammaticalNumber,
    hsame.authorityName, hsame.furtherDirections, hsame.ending hkind hend]

theorem fillSupervisionWith
    (hsame : a.SameAsked b) {kind : Answers → Option EndKind}
    (lasting : Language → Ending → Except OrderError String)
    (hkind : kind a.answers = kind b.answers)
    (hend :
      ∀ chosen, kind a.answers = some chosen →
        a.answers.SameEnd b.answers chosen) :
    Drafting.fillSupervisionWith kind lasting seed a language =
      Drafting.fillSupervisionWith kind lasting seed b language := by
  simp only [Drafting.fillSupervisionWith, hsame.grammaticalNumber,
    hsame.authorityName, hsame.furtherDirections, hsame.ending hkind hend]

theorem fillEmergencyProtection
    (hsame : a.SameAsked b) (hemergency : a.answers.SameEmergency b.answers) :
    Drafting.fillEmergencyProtection seed a language =
      Drafting.fillEmergencyProtection seed b language := by
  simp only [Drafting.fillEmergencyProtection, Drafting.emergencyTimes,
    Drafting.oneLineAddress, hsame.grammaticalNumber, hsame.authorityName,
      hsame.furtherDirections, hsame.approvalMoment,
    hemergency.exclusion, hemergency.emergencyKind, hemergency.removalAddress,
    hemergency.includePhrase, hemergency.childrenDescription,
      hemergency.emergencyEnd]

end CaseFile.SameAsked

namespace Drafting

variable {venues : NameTable} {order : Order} {drafter : Drafter}
  {language : Language}

theorem draft_sameAsked
    (hsame : a.SameAsked b) (horder : a.answers.order = some order)
    (hdrafter : drafterFor? venues order = some drafter) :
    drafter.draft a language = drafter.draft b language := by
  have hown := hsame.own order horder
  cases draftedBy_of_drafterFor? hdrafter with
  | blank =>
      exact draftBlank_congr hown.1 hown.2 language
  | emergencyProtection =>
      exact TemplatedDrafter.draft_congr (hsame.fillEmergencyProtection hown)
  | care =>
      exact TemplatedDrafter.draft_congr hsame.fillCare
  | dischargeOfCare =>
      exact TemplatedDrafter.draft_congr
        (hsame.fillDischarge venues hown.1 hown.2)
  | interimCare =>
      exact TemplatedDrafter.draft_congr (hsame.fillInterimCare hown.1 hown.2)
  | supervision =>
      exact TemplatedDrafter.draft_congr
        (hsame.fillSupervisionWith supervisionEnd hown.1 hown.2)
  | interimSupervision =>
      exact TemplatedDrafter.draft_congr
        (hsame.fillSupervisionWith interimSupervisionEnd hown.1 hown.2)

end Drafting

/-! ## Attachments and names -/

theorem powerOfArrest_sameEmergency
    (hemergency : a.answers.SameEmergency b.answers) :
    powerOfArrest a = powerOfArrest b := by
  by_cases hrequired : a.answers.exclusionRequirement = some .yes
  · obtain ⟨-, -, harrest⟩ := hemergency.excluded hrequired
    simp only [powerOfArrest, hemergency.exclusionRequirement, harrest]
  · have hspared : b.answers.exclusionRequirement ≠ some .yes := by
      rw [← hemergency.exclusionRequirement]
      exact hrequired
    simp [powerOfArrest, saidYes, hrequired, hspared]

theorem Order.fileName_sameFor
    {order : Order} (hown : a.answers.SameFor b.answers order)
    (format : FileFormat) :
    order.fileName format a.answers.title =
      order.fileName format b.answers.title := by
  cases order with
  | blank => rw [hown.1]
  | variationOfEmergencyProtection => rw [hown.1]
  | other => rw [hown.1]
  | _ => rfl

theorem documentName_sameFor
    {order : Order} (hown : a.answers.SameFor b.answers order)
    (status : OrderStatus) (format : FileFormat) (language : Language) :
    documentName order status format language a.answers.title =
      documentName order status format language b.answers.title := by
  cases status with
  | draft => rfl
  | sealed => exact order.fileName_sameFor hown format
  | plain => exact order.fileName_sameFor hown format

theorem Order.displayTitle_sameFor
    {order : Order} (hown : a.answers.SameFor b.answers order) :
    order.displayTitle a.answers.title =
      order.displayTitle b.answers.title := by
  cases order with
  | blank => rw [hown.1]
  | other => rw [hown.1]
  | _ => rfl

/-! ## Creation -/

theorem passUploaded_congr
    (collaborators : Collaborators σ)
    (hfile : a.answers.uploadedFile = b.answers.uploadedFile)
    (hseal : a.answers.needSealing = b.answers.needSealing)
    (status : OrderStatus) (language : Language) :
    passUploaded collaborators a status language =
      passUploaded collaborators b status language := by
  have hupload : a.upload = b.upload := by
    rw [CaseFile.upload, CaseFile.upload, hfile]
  have hdue : a.sealDue = b.sealDue := by
    funext issued
    rw [CaseFile.sealDue, CaseFile.sealDue, hseal]
  rw [passUploaded, passUploaded, hupload, hdue]

namespace Engine

variable {order : Order} (images : ImageSet) (courts venues : NameTable)
  (collaborators : Collaborators σ)

theorem prepare_sameAsked
    (hsame : a.SameAsked b) (horder : a.answers.order = some order)
    (status : OrderStatus) (language : Language) :
    (standard images courts venues).prepare order a status language =
      (standard images courts venues).prepare order b status language := by
  unfold prepare
  rw [standard_lookUp_drafter]
  cases hdrafter : drafterFor? venues order with
  | none => rfl
  | some drafter =>
      have hdraft : drafter.draft a language = drafter.draft b language :=
        draft_sameAsked hsame horder hdrafter
      refine bind_congr fun _ => ?_
      change drafter.draft a language >>= _ = drafter.draft b language >>= _
      rw [hdraft]
      refine bind_congr fun drafted => ?_
      rw [hsame.stamp]

theorem standard_attachments
    (order : Order) (file : CaseFile) :
    (standard images courts venues).attachments order file =
      .ok (if order = .emergencyProtection then powerOfArrest file else
        []) := by
  cases order <;> rfl

theorem attachments_sameFor
    (hown : a.answers.SameFor b.answers order) :
    (standard images courts venues).attachments order a =
      (standard images courts venues).attachments order b := by
  rw [standard_attachments, standard_attachments]
  by_cases hemergency : order = .emergencyProtection
  · subst hemergency
    simp only [powerOfArrest_sameEmergency hown]
  · simp only [hemergency, if_false]

theorem produce_sameAsked
    (hsame : a.SameAsked b) (horder : a.answers.order = some order)
    (status : OrderStatus) (format : FileFormat) (language : Language) :
    (standard images courts venues).produce collaborators order a status format
        language =
      (standard images courts venues).produce collaborators order b status
        format language := by
  have hown := hsame.own order horder
  unfold produce
  cases hsource : order.source with
  | digital =>
      simp only [generate, prepare_sameAsked images courts venues hsame horder,
        attachments_sameFor images courts venues hown]
  | manualUpload =>
      have huploaded : a.answers.uploadedFile = b.answers.uploadedFile ∧
          a.answers.needSealing = b.answers.needSealing := by
        cases order <;> first | exact hown.2 | contradiction
      exact passUploaded_congr collaborators huploaded.1 huploaded.2 status
        language

theorem create_sameAsked
    (hsame : a.SameAsked b) (status : OrderStatus) (format : FileFormat)
    (language : Language) :
    (standard images courts venues).create collaborators a status format
        language =
      (standard images courts venues).create collaborators b status format
        language := by
  unfold create
  rw [← hsame.order]
  cases horder : a.answers.order with
  | none => rfl
  | some order =>
      have hown := hsame.own order horder
      change (produce _ collaborators order a status format language >>= _) =
        (produce _ collaborators order b status format language >>= _)
      rw [produce_sameAsked images courts venues collaborators hsame horder]
      refine bind_congr fun produced => ?_
      rw [documentName_sameFor hown, order.displayTitle_sameFor hown]

/-- With any collaborators, cases that agree on all that the chosen order asks
for have the same calls made, with the same replies, and the same result. -/
theorem create_ignores_leftovers
    (collaborators : Collaborators σ) (state : σ) (images : ImageSet)
    (courts venues : NameTable) {a b : CaseFile} (hsame : a.SameAsked b)
    (status : OrderStatus) (format : FileFormat) (language : Language) :
    collaborators.exchangesFrom state
        ((standard images courts venues).create · a status format language) =
      collaborators.exchangesFrom state
        ((standard images courts venues).create · b status format language) ∧
    ((standard images courts venues).create collaborators a status format
      language).run.run state =
      ((standard images courts venues).create collaborators b status format
        language).run.run state := by
  constructor
  · have hwatched :=
      create_sameAsked images courts venues collaborators.watched hsame
    simp only [Collaborators.exchangesFrom, hwatched]
  · rw [create_sameAsked images courts venues collaborators hsame]

def removalCase : CaseFile :=
  { id := 1234567890123456
    familyManNumber := some "SA21C50011"
    localAuthority := some "SA"
    localAuthorityName := some "Swansea City Council"
    children := [{
      id := "c1"
      party := { firstName := some "Alex", lastName := some "Jones" } }]
    answers := {
      order := some .emergencyProtection
      approvalMoment := do return ⟨← Date.of? 2021 6 5,
        ← TimeOfDay.of? 9 30 0 0⟩
      emergencyKind := some .removeToAccommodation
      emergencyEnd := do return ⟨← Date.of? 2021 6 7, ← TimeOfDay.of? 9 30 0 0⟩
      exclusionRequirement := some .no } }

/-- The same case after an exclusion was struck out again and other orders were
looked at. -/
def removalCaseReconsidered : CaseFile :=
  { removalCase with
    answers := { removalCase.answers with
      title := some "Order for contact"
      directions := some "The child may have contact."
      endOrProceedings := some .endOfProceedings
      endMonths := some 6
      excludedPerson := some "John Jones"
      exclusionStart := Date.of? 2021 6 5
      powerOfArrest := some (.named "power-of-arrest.pdf")
      careOrderCourt := some "384"
      needSealing := some .yes } }

theorem reconsidered_removal_created_alike :
    let engine := standard {} [("SA", "Family Court sitting at Swansea")] []
    let exchangesOf (file : CaseFile) :=
      Collaborators.obliging.exchangesFrom ()
        (engine.create · file .sealed .pdf .english)
    removalCase ≠ removalCaseReconsidered ∧
      exchangesOf removalCase = exchangesOf removalCaseReconsidered ∧
      (exchangesOf removalCase).length = 2 := by
  intro engine exchangesOf
  have hsame : removalCase.SameAsked removalCaseReconsidered := by
    constructor <;> try rfl
    intro order horder
    obtain rfl := Option.some.inj horder
    constructor <;> try rfl
    intro hrequired
    contradiction
  have hcreated := create_ignores_leftovers .obliging () {}
    [("SA", "Family Court sitting at Swansea")] [] hsame .sealed .pdf .english
  exact ⟨by decide, hcreated.1, rfl⟩

/-- An interim care order that is to end after a number of months. -/
def interimForMonths (months : Option UInt32) : CaseFile :=
  { removalCase with
    answers := {
      order := some .interimCare
      approvalDate := Date.of? 2021 6 5
      endOrProceedings := some .months
      endMonths := months } }

/-- Such an end is refused only after the number of months has been looked at:
cases that differ in nothing but this number are refused for different reasons.
-/
theorem refused_months_told_apart :
    let engine := standard {} [("SA", "Family Court sitting at Swansea")] []
    let outcomeOf (file : CaseFile) :=
      outcomeFrom () (engine.create .obliging file .sealed .pdf .english)
    { interimForMonths (some 3) with
        answers :=
          { (interimForMonths (some 3)).answers with endMonths := none } } =
        interimForMonths none ∧
      outcomeOf (interimForMonths none) = .error (.missingField .endMonths) ∧
      outcomeOf (interimForMonths (some 3)) =
        .error (.invalidInput .interimCareForMonths) := by
  intro engine outcomeOf
  exact ⟨rfl, rfl, rfl⟩

end Engine

end FamilyOrders
