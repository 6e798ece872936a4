import FamilyOrders.Drafting.Basic
import FamilyOrders.Drafting.Orders
import FamilyOrders.Proofs.Actions
import FamilyOrders.Proofs.PrintedDates

/-!
# Drafts

How the children of an order are selected, and how its particulars are drafted.
-/

namespace FamilyOrders

/-! ## The children of an order

When an order is about nobody: the case has no children, or its children were
left out and none was ticked.  The wording that depends on their number refuses
such an order. -/

namespace CaseFile

variable {file : CaseFile}

/-- The selection of the case comes out empty. -/
def SelectsNobody (file : CaseFile) : Prop :=
  if file.answers.appliesToAll = some .no then file.answers.ticked.getD [] = []
  else file.children = []

theorem selectedChildren_of_all (hall : file.appliesToAll = .ok true) :
    file.selectedChildren = .ok file.children := by
  rw [selectedChildren, hall]
  rfl

theorem selectedChildren_of_ticked (hticked : file.appliesToAll = .ok false) :
    file.selectedChildren =
      (file.answers.ticked.getD []).mapM file.childAt := by
  rw [selectedChildren, hticked]
  rfl

theorem selectedChildren_of_error
    {error : OrderError} (herror : file.appliesToAll = .error error) :
    file.selectedChildren = .error error := by
  rw [selectedChildren, herror]
  rfl

theorem mapM_childAt_eq_nil_iff {positions : List UInt64} :
    positions.mapM file.childAt = .ok [] ↔ positions = [] := by
  cases positions with
  | nil => simp [pure, Except.pure]
  | cons position positions =>
      simp [List.mapM_cons, bind_eq_ok_iff, pure, Except.pure]

theorem selectedChildren_eq_nil_iff :
    file.selectedChildren = .ok [] ↔ file.SelectsNobody := by
  cases hanswer : file.answers.appliesToAll with
  | some answer =>
      cases answer with
      | yes =>
          have hall : file.appliesToAll = .ok true := by
            rw [appliesToAll, hanswer]; rfl
          rw [selectedChildren_of_all hall, SelectsNobody, hanswer]
          simp
      | no =>
          have hticked : file.appliesToAll = .ok false := by
            rw [appliesToAll, hanswer]; rfl
          rw [selectedChildren_of_ticked hticked, SelectsNobody, if_pos hanswer]
          exact mapM_childAt_eq_nil_iff
  | none =>
      rw [SelectsNobody, hanswer, if_neg (by simp)]
      by_cases hfew : file.children.length ≤ 1
      · have hall : file.appliesToAll = .ok true := by
          rw [appliesToAll, hanswer]; simp [hfew]
        rw [selectedChildren_of_all hall, Except.ok.injEq]
      · have hunasked :
          file.appliesToAll = .error (.missingField .appliesToAll) := by
          rw [appliesToAll, hanswer]
          simp [hfew]
        rw [selectedChildren_of_error hunasked]
        refine iff_of_false (by simp) ?_
        intro hnone
        rw [hnone] at hfew
        exact hfew (Nat.zero_le 1)

theorem grammaticalNumber_of_nobody (hnobody : file.selectedChildren = .ok []) :
    file.grammaticalNumber = .error (.missingField .selectedChildren) := by
  rw [grammaticalNumber, hnobody]
  rfl

theorem grammaticalNumber_eq_ok_iff
    {number : GrammaticalNumber} :
    file.grammaticalNumber = .ok number ↔
      ∃ children, file.selectedChildren = .ok children ∧ children ≠ [] ∧
        .ofCount children.length = number := by
  rw [grammaticalNumber, bind_eq_ok_iff]
  refine exists_congr fun children => and_congr_right fun _ => ?_
  cases children with
  | nil => simp [bind, Except.bind]
  | cons child children => simp [pure, Except.pure]

end CaseFile

/-! ## Drafts

What the standard drafters write.  Whatever the case, a draft names its order
and the statute of the catalogue, has a title and a body, and has the fields of
an emergency protection order exactly when it is set in the layout of one.  The
English and the Welsh draft of an order with Welsh wording fail alike, and they
differ in the body and, where none was chosen, in the title. -/

open FamilyOrders.Calendar FamilyOrders.Drafting FamilyOrders.Text

variable {venues : NameTable} {file : CaseFile} {language : Language}
  {seed filled drafted : Particulars}

theorem TemplatedDrafter.draft_eq_ok_iff
    {drafter : TemplatedDrafter} :
    drafter.draft file language = .ok drafted ↔
      ∃ filled,
        drafter.fill (.ofOrder drafter.order) file language = .ok filled ∧
        { filled with legalBasis := drafter.order.legalBasis } = drafted := by
  simp only [draft, bind_eq_ok_iff, pure, Except.pure, Except.ok.injEq]

namespace Drafting

theorem draftBlank_eq_ok_iff :
    draftBlank file language = .ok drafted ↔
      ∃ directions, nonBlank? file.answers.directions = some directions ∧
        { order := some .blank
          title := (nonBlank? file.answers.title).getD (plainTitle language)
          legalBasis := Order.blank.legalBasis
          details := some directions } = drafted := by
  simp only [draftBlank, bind_eq_ok_iff, need_eq_ok_iff, pure, Except.pure,
    Except.ok.injEq]

theorem fillDischarge_eq_ok_iff :
    fillDischarge venues seed file language = .ok filled ↔
      ∃ id issued venue,
        nonBlank? file.answers.careOrderCourt = some id ∧
        file.answers.careOrderDate = some issued ∧
        venueName venues id = .ok venue ∧
        { seed with
          details :=
            some (dischargeSentence language venue (issued.printed language))
          furtherDirections := file.answers.furtherDirections } = filled := by
  simp only [fillDischarge, bind_eq_ok_iff, need_eq_ok_iff, pure, Except.pure,
    Except.ok.injEq]
  constructor
  · rintro ⟨id, hid, issued, hissued, venue, hvenue, hfilled⟩
    exact ⟨id, issued, venue, hid, hissued, hvenue, hfilled⟩
  · rintro ⟨id, issued, venue, hid, hissued, hvenue, hfilled⟩
    exact ⟨id, hid, issued, hissued, venue, hvenue, hfilled⟩

/-- The orders that are drafted, each with its drafter. -/
inductive DraftedBy (venues : NameTable) : Order → Drafter → Prop
  | blank : DraftedBy venues .blank Drafting.blank
  | emergencyProtection :
      DraftedBy venues .emergencyProtection
        Drafting.emergencyProtection.toDrafter
  | care : DraftedBy venues .care Drafting.care.toDrafter
  | dischargeOfCare :
      DraftedBy venues .dischargeOfCare
        (Drafting.dischargeOfCare venues).toDrafter
  | interimCare : DraftedBy venues .interimCare Drafting.interimCare.toDrafter
  | supervision : DraftedBy venues .supervision Drafting.supervision.toDrafter
  | interimSupervision :
      DraftedBy venues .interimSupervision Drafting.interimSupervision.toDrafter

theorem draftedBy_of_drafterFor?
    {order : Order} {drafter : Drafter}
    (hdrafter : drafterFor? venues order = some drafter) :
    DraftedBy venues order drafter := by
  cases order with
  | variationOfEmergencyProtection | other => contradiction
  | blank =>
      obtain rfl := Option.some.inj hdrafter
      exact .blank
  | emergencyProtection =>
      obtain rfl := Option.some.inj hdrafter
      exact .emergencyProtection
  | care =>
      obtain rfl := Option.some.inj hdrafter
      exact .care
  | dischargeOfCare =>
      obtain rfl := Option.some.inj hdrafter
      exact .dischargeOfCare
  | interimCare =>
      obtain rfl := Option.some.inj hdrafter
      exact .interimCare
  | supervision =>
      obtain rfl := Option.some.inj hdrafter
      exact .supervision
  | interimSupervision =>
      obtain rfl := Option.some.inj hdrafter
      exact .interimSupervision

end Drafting

/-! ### Sentences -/

/-- A text that starts with something to read is not blank. -/
theorem Text.allBlank_append_left
    {a : String} (ha : allBlank a = false) (b : String) :
    allBlank (a ++ b) = false := by
  rw [allBlank_append, ha, Bool.false_and]

namespace Drafting

theorem allBlank_placement
    (language : Language) (number : GrammaticalNumber) (authority : String) :
    allBlank (placement language number authority) = false := by
  have henglish : allBlank "The Court orders that the " = false := by decide
  have hwelsh : allBlank "Mae'r Llys yn gorchymyn bod y " = false := by decide
  unfold placement
  cases language with
  | english =>
      simp only [String.append_assoc]
      exact allBlank_append_left henglish _
  | welsh =>
      simp only [String.append_assoc]
      exact allBlank_append_left hwelsh _

theorem allBlank_supervisionStart
    (language : Language) (number : GrammaticalNumber) (authority : String) :
    allBlank (supervisionStart language number authority) = false := by
  have henglish : allBlank "The Court orders " = false := by decide
  have hwelsh : allBlank "Mae'r Llys yn gorchymyn i " = false := by decide
  unfold supervisionStart
  cases language with
  | english =>
      simp only [String.append_assoc]
      exact allBlank_append_left henglish _
  | welsh =>
      simp only [String.append_assoc]
      exact allBlank_append_left hwelsh _

theorem allBlank_dischargeSentence
    (language : Language) (venue printedDate : String) :
    allBlank (dischargeSentence language venue printedDate) = false := by
  have henglish :
      allBlank "The Court discharges the care order made by the " = false := by
    decide
  have hwelsh :
      allBlank "Mae'r Llys yn rhyddhau'r gorchymyn gofal a wnaed gan " =
        false := by
    decide
  unfold dischargeSentence
  cases language with
  | english =>
      simp only [String.append_assoc]
      exact allBlank_append_left henglish _
  | welsh =>
      simp only [String.append_assoc]
      exact allBlank_append_left hwelsh _

theorem allBlank_emergencySentence
    {kind : EmergencyKind} {children authority sentence : String}
    {address : Option String} (hsentence :
      emergencySentence kind children authority address = .ok sentence) :
    allBlank sentence = false := by
  have hremove : allBlank "The Court authorises " = false := by decide
  have hprevent :
      allBlank
        "The Court authorises the applicant to prevent the removal of the " =
          false := by
    decide
  cases kind with
  | removeToAccommodation =>
      rw [← Except.ok.inj hsentence]
      simp only [String.append_assoc]
      exact allBlank_append_left hremove _
  | preventRemoval =>
      obtain ⟨line, -, hline⟩ := bind_eq_ok_iff.mp hsentence
      rw [← Except.ok.inj hline]
      simp only [String.append_assoc]
      exact allBlank_append_left hprevent _

end Drafting

/-! ### What a draft has -/

/-- The particulars with a sentence that orders something of an authority. -/
def Particulars.worded (seed : Particulars) (file : CaseFile)
    (authority sentence : String) : Particulars :=
  { seed with
    details := some sentence
    localAuthorityName := some authority
    furtherDirections := file.answers.furtherDirections }

/-- What every draft of an order has in its layout. -/
structure Particulars.IsDraft (order : Order) (layout : Layout)
    (drafted : Particulars) : Prop where
  order_eq : drafted.order = some order
  legalBasis_eq : drafted.legalBasis = order.legalBasis
  title_written : allBlank drafted.title = false
  details_written :
    ∃ details, drafted.details = some details ∧ allBlank details = false
  emergency_iff :
    drafted.emergency.isSome = true ↔ layout = .emergencyProtection

/-- A drafter that does no more than word the catalogue's particulars. -/
theorem TemplatedDrafter.isDraft_of_worded
    {drafter : TemplatedDrafter} (hlayout : drafter.layout = .standard)
    (htitle : allBlank drafter.order.title = false)
    (hworded :
      ∀ filled,
        drafter.fill (.ofOrder drafter.order) file language = .ok filled →
      ∃ authority sentence, allBlank sentence = false ∧
        filled = (Particulars.ofOrder drafter.order).worded file authority
          sentence)
    (hdrafted : drafter.draft file language = .ok drafted) :
    drafted.IsDraft drafter.order drafter.layout := by
  obtain ⟨filled, hfilled, rfl⟩ := draft_eq_ok_iff.mp hdrafted
  obtain ⟨authority, sentence, hsentence, rfl⟩ := hworded filled hfilled
  constructor
  case order_eq => rfl
  case legalBasis_eq => rfl
  case title_written => exact htitle
  case details_written => exact ⟨sentence, rfl, hsentence⟩
  case emergency_iff => simp [Particulars.worded, Particulars.ofOrder, hlayout]

namespace Drafting

theorem fillCare_eq_ok_iff :
    fillCare seed file language = .ok filled ↔
      ∃ number authority,
        file.grammaticalNumber = .ok number ∧
        file.authorityName = .ok authority ∧
        seed.worded file authority
          (placement language number authority ++ ".") = filled := by
  simp only [fillCare, bind_eq_ok_iff, pure, Except.pure, Except.ok.injEq]
  constructor
  · rintro ⟨number, hnumber, authority, hauthority, hfilled⟩
    exact ⟨number, authority, hnumber, hauthority, hfilled⟩
  · rintro ⟨number, authority, hnumber, hauthority, hfilled⟩
    exact ⟨number, hnumber, authority, hauthority, hfilled⟩

theorem fillInterimCare_eq_ok_iff :
    fillInterimCare seed file language = .ok filled ↔
      ∃ number authority ending lasting,
        file.grammaticalNumber = .ok number ∧
        file.authorityName = .ok authority ∧
        file.answers.ending file.answers.endOrProceedings = .ok ending ∧
        interimCareEnd language ending = .ok lasting ∧
        seed.worded file authority
          (placement language number authority ++ " " ++ lasting ++ ".") =
            filled := by
  simp only [fillInterimCare, bind_eq_ok_iff, pure, Except.pure,
    Except.ok.injEq]
  constructor
  · rintro ⟨number, hnumber, authority, hauthority, ending, hending, lasting,
      hlasting, hfilled⟩
    exact ⟨number, authority, ending, lasting, hnumber, hauthority, hending,
      hlasting, hfilled⟩
  · rintro ⟨number, authority, ending, lasting, hnumber, hauthority, hending,
      hlasting, hfilled⟩
    exact ⟨number, hnumber, authority, hauthority, ending, hending, lasting,
      hlasting, hfilled⟩

theorem fillSupervisionWith_eq_ok_iff
    {kind : Answers → Option EndKind}
    {lasting : Language → Ending → Except OrderError String} :
    fillSupervisionWith kind lasting seed file language = .ok filled ↔
      ∃ number authority ending last,
        file.grammaticalNumber = .ok number ∧
        file.authorityName = .ok authority ∧
        file.answers.ending (kind file.answers) = .ok ending ∧
        lasting language ending = .ok last ∧
        seed.worded file authority
          (supervisionStart language number authority ++ last) =
            filled := by
  simp only [fillSupervisionWith, bind_eq_ok_iff, pure, Except.pure,
    Except.ok.injEq]
  constructor
  · rintro ⟨number, hnumber, authority, hauthority, ending, hending, last,
      hlast, hfilled⟩
    exact ⟨number, authority, ending, last, hnumber, hauthority, hending, hlast,
      hfilled⟩
  · rintro ⟨number, authority, ending, last, hnumber, hauthority, hending,
      hlast, hfilled⟩
    exact ⟨number, hnumber, authority, hauthority, ending, hending, last, hlast,
      hfilled⟩

theorem worded_of_fillCare
    (hfilled : fillCare seed file language = .ok filled) :
    ∃ authority sentence, allBlank sentence = false ∧
      filled = seed.worded file authority sentence := by
  obtain ⟨number, authority, -, -, rfl⟩ := fillCare_eq_ok_iff.mp hfilled
  have hsentence :=
    allBlank_append_left (allBlank_placement language number authority) "."
  exact ⟨authority, _, hsentence, rfl⟩

theorem worded_of_fillInterimCare
    (hfilled : fillInterimCare seed file language = .ok filled) :
    ∃ authority sentence, allBlank sentence = false ∧
      filled = seed.worded file authority sentence := by
  obtain ⟨number, authority, ending, lasting, -, -, -, -, rfl⟩ :=
    fillInterimCare_eq_ok_iff.mp hfilled
  have hstart :=
    allBlank_append_left (allBlank_placement language number authority) " "
  have hsentence :=
    allBlank_append_left (allBlank_append_left hstart lasting) "."
  exact ⟨authority, _, hsentence, rfl⟩

theorem worded_of_fillSupervisionWith
    {kind : Answers → Option EndKind}
    {lasting : Language → Ending → Except OrderError String} (hfilled :
      fillSupervisionWith kind lasting seed file language = .ok filled) :
    ∃ authority sentence, allBlank sentence = false ∧
      filled = seed.worded file authority sentence := by
  obtain ⟨number, authority, ending, last, -, -, -, -, rfl⟩ :=
    fillSupervisionWith_eq_ok_iff.mp hfilled
  have hsentence :=
    allBlank_append_left (allBlank_supervisionStart language number authority)
      last
  exact ⟨authority, _, hsentence, rfl⟩

theorem emergencyTimes_eq_ok_iff
    {answers : Answers} {approved ends : Moment} :
    emergencyTimes answers = .ok (approved, ends) ↔
      answers.approvalMoment = some approved ∧
      answers.emergencyEnd = some ends ∧
        ends.isAfter approved = true := by
  simp only [emergencyTimes, bind_eq_ok_iff, need_eq_ok_iff]
  constructor
  · rintro ⟨start, hstart, stop, hstop, hlater⟩
    split at hlater
    case isTrue hafter =>
      cases hlater
      exact ⟨hstart, hstop, hafter⟩
    case isFalse => contradiction
  · rintro ⟨happroved, hends, hafter⟩
    exact ⟨approved, happroved, ends, hends, if_pos hafter⟩

/-- What an emergency protection order is filled in from: its own answers, put
into words for the number of its children. -/
theorem exists_of_fillEmergencyProtection
    (hfilled : fillEmergencyProtection seed file language = .ok filled) :
    ∃ number authority kind approved ends sentence exclusion,
      file.grammaticalNumber = .ok number ∧ file.authorityName = .ok authority ∧
      file.answers.emergencyKind = some kind ∧
      emergencyTimes file.answers = .ok (approved, ends) ∧
      emergencySentence kind (number.child language) authority
        (oneLineAddress file.answers) = .ok sentence ∧
      Drafting.exclusion file.answers (number.child language)
        (oneLineAddress file.answers) language = .ok exclusion ∧
      filled =
        { seed.worded file authority sentence with
          dateOfIssue := some (approved.printed language)
          emergency := some {
            kind := kind.code
            includePhrase := saidYes file.answers.includePhrase
            childrenDescription := nonBlank? file.answers.childrenDescription
            removalAddress := oneLineAddress file.answers
            endsAt := ends.printed language
            exclusionRequirement := exclusion } } := by
  simp only [fillEmergencyProtection, bind_eq_ok_iff, need_eq_ok_iff, pure,
    Except.pure, Except.ok.injEq] at hfilled
  obtain ⟨number, hnumber, authority, hauthority, kind, hkind, ⟨approved, ends⟩,
    htimes, sentence, hsentence, exclusion, hexclusion, rfl⟩ := hfilled
  exact ⟨number, authority, kind, approved, ends, sentence, exclusion, hnumber,
    hauthority, hkind, htimes, hsentence, hexclusion, rfl⟩

/-- An emergency protection order is worded like the others and has more fields
beside. -/
theorem worded_of_fillEmergencyProtection
    (hfilled : fillEmergencyProtection seed file language = .ok filled) :
    ∃ authority sentence issued emergency, allBlank sentence = false ∧
      filled =
        { seed.worded file authority sentence with
          dateOfIssue := some issued
          emergency := some emergency } := by
  obtain ⟨number, authority, kind, approved, ends, sentence, exclusion, -, -, -,
    -, hsentence, -, rfl⟩ := exists_of_fillEmergencyProtection hfilled
  exact ⟨authority, sentence, _, _, allBlank_emergencySentence hsentence, rfl⟩

theorem isDraft_blank
    (hdrafted : draftBlank file language = .ok drafted) :
    drafted.IsDraft .blank .standard := by
  obtain ⟨directions, hdirections, rfl⟩ := draftBlank_eq_ok_iff.mp hdrafted
  constructor
  case order_eq => rfl
  case legalBasis_eq => rfl
  case title_written =>
    have hplain : allBlank (plainTitle language) = false := by
      cases language <;> decide
    cases hchosen : nonBlank? file.answers.title with
    | none => exact hplain
    | some title => exact (nonBlank?_eq_some_iff.mp hchosen).2
  case details_written =>
    exact ⟨directions, rfl, (nonBlank?_eq_some_iff.mp hdirections).2⟩
  case emergency_iff => simp

theorem isDraft_dischargeOfCare
    (hdrafted : (dischargeOfCare venues).draft file language = .ok drafted) :
    drafted.IsDraft .dischargeOfCare .standard := by
  obtain ⟨filled, hfilled, rfl⟩ := TemplatedDrafter.draft_eq_ok_iff.mp hdrafted
  obtain ⟨id, issued, venue, -, -, -, rfl⟩ := fillDischarge_eq_ok_iff.mp hfilled
  have htitle : allBlank Order.dischargeOfCare.title = false := by decide
  constructor
  case order_eq => rfl
  case legalBasis_eq => rfl
  case title_written => exact htitle
  case details_written => exact ⟨_, rfl, allBlank_dischargeSentence _ _ _⟩
  case emergency_iff => simp [Particulars.ofOrder]

theorem isDraft_emergencyProtection
    (hdrafted : emergencyProtection.draft file language = .ok drafted) :
    drafted.IsDraft .emergencyProtection .emergencyProtection := by
  obtain ⟨filled, hfilled, rfl⟩ := TemplatedDrafter.draft_eq_ok_iff.mp hdrafted
  obtain ⟨authority, sentence, issued, emergency, hsentence, rfl⟩ :=
    worded_of_fillEmergencyProtection hfilled
  have htitle : allBlank Order.emergencyProtection.title = false := by decide
  constructor
  case order_eq => rfl
  case legalBasis_eq => rfl
  case title_written => exact htitle
  case details_written => exact ⟨sentence, rfl, hsentence⟩
  case emergency_iff => simp

theorem isDraft_of_draft
    {order : Order} {drafter : Drafter}
    (hdrafter : drafterFor? venues order = some drafter)
    (hdrafted : drafter.draft file language = .ok drafted) :
    drafted.IsDraft order drafter.layout := by
  cases draftedBy_of_drafterFor? hdrafter with
  | blank =>
      exact isDraft_blank hdrafted
  | emergencyProtection =>
      exact isDraft_emergencyProtection hdrafted
  | dischargeOfCare =>
      exact isDraft_dischargeOfCare hdrafted
  | care =>
      exact care.isDraft_of_worded rfl (by decide)
        (fun _ => worded_of_fillCare) hdrafted
  | interimCare =>
      exact interimCare.isDraft_of_worded rfl (by decide)
        (fun _ => worded_of_fillInterimCare)
        hdrafted
  | supervision =>
      exact supervision.isDraft_of_worded rfl (by decide)
        (fun _ => worded_of_fillSupervisionWith) hdrafted
  | interimSupervision =>
      exact interimSupervision.isDraft_of_worded rfl (by decide)
        (fun _ => worded_of_fillSupervisionWith) hdrafted

end Drafting

/-! ### Drafts in both languages -/

/-- The same particulars but for the body, and dated as those they were made
from. -/
structure Particulars.Reworded (seed english welsh : Particulars) : Prop where
  same : welsh = { english with details := welsh.details }
  dateOfIssue_eq : english.dateOfIssue = seed.dateOfIssue

/-- The drafts of an order in English and in Welsh: without a date, and equal
but for the body and for the title of a blank order to which none was given. -/
structure Particulars.Retold (order : Order) (file : CaseFile)
    (english welsh : Particulars) : Prop where
  same : welsh = { english with title := welsh.title, details := welsh.details }
  title :
    welsh.title = english.title ∨ order = .blank ∧
    nonBlank? file.answers.title = none
  undated : english.dateOfIssue = none

theorem TemplatedDrafter.draft_languages
    (drafter : TemplatedDrafter)
    (hfill : Accord (Particulars.Reworded (.ofOrder drafter.order))
      (drafter.fill (.ofOrder drafter.order) file .english)
      (drafter.fill (.ofOrder drafter.order) file .welsh)) :
    Accord (Particulars.Retold drafter.order file)
      (drafter.draft file .english) (drafter.draft file .welsh) := by
  unfold draft
  apply hfill.bind
  intro english welsh henglish hwelsh hreworded
  have hsame := hreworded.same
  have hundated : english.dateOfIssue = none := hreworded.dateOfIssue_eq
  apply Accord.succeeded
  constructor
  case same =>
    rw [hsame]
  case title =>
    rw [hsame]
    exact .inl rfl
  case undated => exact hundated

namespace Drafting

theorem draftBlank_languages (file : CaseFile) :
    Accord (Particulars.Retold .blank file)
      (draftBlank file .english) (draftBlank file .welsh) := by
  unfold draftBlank
  apply Accord.bind_same
  intro directions hdirections
  apply Accord.succeeded
  constructor
  case same => rfl
  case title =>
    cases hchosen : nonBlank? file.answers.title with
    | none => exact .inr ⟨rfl, rfl⟩
    | some title => exact .inl rfl
  case undated => rfl

theorem fillDischarge_languages
    (venues : NameTable) (seed : Particulars) (file : CaseFile) :
    Accord seed.Reworded
      (fillDischarge venues seed file .english)
      (fillDischarge venues seed file .welsh) := by
  unfold fillDischarge
  apply Accord.bind_same
  intro id hid
  apply Accord.bind_same
  intro issued hissued
  apply Accord.bind_same
  intro venue hvenue
  exact .succeeded ⟨rfl, rfl⟩

theorem fillCare_languages (seed : Particulars) (file : CaseFile) :
    Accord seed.Reworded (fillCare seed file .english)
      (fillCare seed file .welsh) := by
  unfold fillCare
  apply Accord.bind_same
  intro number hnumber
  apply Accord.bind_same
  intro authority hauthority
  exact .succeeded ⟨rfl, rfl⟩

theorem interimCareEnd_languages (ending : Ending) :
    Accord (fun _ _ => True)
      (interimCareEnd .english ending) (interimCareEnd .welsh ending) := by
  cases ending with
  | day date => exact .succeeded trivial
  | moment moment => exact .succeeded trivial
  | endOfProceedings => exact .succeeded trivial
  | afterMonths months last => exact .failed _

theorem fillInterimCare_languages (seed : Particulars) (file : CaseFile) :
    Accord seed.Reworded
      (fillInterimCare seed file .english)
      (fillInterimCare seed file .welsh) := by
  unfold fillInterimCare
  apply Accord.bind_same
  intro number hnumber
  apply Accord.bind_same
  intro authority hauthority
  apply Accord.bind_same
  intro ending hending
  apply (interimCareEnd_languages ending).bind
  intro lasting lasting' _ _ _
  exact .succeeded ⟨rfl, rfl⟩

theorem supervisionEnd_languages (ending : Ending) :
    Accord (fun _ _ => True)
      (supervisionEnd .english ending) (supervisionEnd .welsh ending) := by
  cases ending with
  | day date => exact .succeeded trivial
  | moment moment => exact .succeeded trivial
  | endOfProceedings => exact .failed _
  | afterMonths months last => exact .succeeded trivial

theorem interimSupervisionEnd_languages (ending : Ending) :
    Accord (fun _ _ => True)
      (interimSupervisionEnd .english ending)
      (interimSupervisionEnd .welsh ending) := by
  cases ending with
  | day date => exact .succeeded trivial
  | moment moment => exact .succeeded trivial
  | endOfProceedings => exact .succeeded trivial
  | afterMonths months last => exact .failed _

theorem fillSupervisionWith_languages
    {kind : Answers → Option EndKind}
    {lasting : Language → Ending → Except OrderError String}
    (hlasting : ∀ ending, Accord (fun _ _ => True)
      (lasting .english ending) (lasting .welsh ending))
    (seed : Particulars) (file : CaseFile) :
    Accord seed.Reworded
      (fillSupervisionWith kind lasting seed file .english)
      (fillSupervisionWith kind lasting seed file .welsh) := by
  unfold fillSupervisionWith
  apply Accord.bind_same
  intro number hnumber
  apply Accord.bind_same
  intro authority hauthority
  apply Accord.bind_same
  intro ending hending
  apply (hlasting ending).bind
  intro last last' _ _ _
  exact .succeeded ⟨rfl, rfl⟩

/-- Only the wording of a draft depends on the language, and never whether there
is one. -/
theorem draft_languages
    {order : Order} {drafter : Drafter} (hwelsh : order.hasWelsh = true)
    (hdrafter : drafterFor? venues order = some drafter) (file : CaseFile) :
    Accord (Particulars.Retold order file)
      (drafter.draft file .english) (drafter.draft file .welsh) := by
  cases draftedBy_of_drafterFor? hdrafter with
  | emergencyProtection => contradiction
  | blank =>
      exact draftBlank_languages file
  | dischargeOfCare =>
      exact (dischargeOfCare venues).draft_languages
        (fillDischarge_languages venues _ file)
  | care =>
      exact care.draft_languages (fillCare_languages _ file)
  | interimCare =>
      exact interimCare.draft_languages (fillInterimCare_languages _ file)
  | supervision =>
      exact supervision.draft_languages
        (fillSupervisionWith_languages supervisionEnd_languages _ file)
  | interimSupervision =>
      exact interimSupervision.draft_languages
        (fillSupervisionWith_languages interimSupervisionEnd_languages _ file)

end Drafting

end FamilyOrders
