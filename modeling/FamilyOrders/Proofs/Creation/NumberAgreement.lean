import FamilyOrders.Proofs.ChildNouns
import FamilyOrders.Proofs.Creation.RenderedOrders

/-!
# One child or several

Five orders word their sentences for the number of the children that they list.
Only the home from which a person is excluded is called that of the child,
however many there are, where no address was written.
-/

namespace FamilyOrders

open FamilyOrders.Calendar FamilyOrders.Drafting FamilyOrders.Text
  GrammaticalNumber

variable {language : Language} {number : GrammaticalNumber} {file : CaseFile}

namespace Drafting

/-- An exclusion is drafted exactly when the answers require one. -/
theorem exclusion_cases
    {answers : Answers} {children : String} {address drafted : Option String}
    (hdrafted : exclusion answers children address language = .ok drafted) :
    saidYes answers.exclusionRequirement = false ∧ drafted = none ∨
      saidYes answers.exclusionRequirement = true ∧
        ∃ (excluded : String) (start : Date),
          answers.excludedPerson = some excluded ∧
          drafted = some (exclusionSentence children excluded
            (address.getD "the home of the child")
            (start.printed language)) := by
  unfold exclusion at hdrafted
  cases hrequired : saidYes answers.exclusionRequirement with
  | false =>
      rw [hrequired] at hdrafted
      exact .inl ⟨rfl, (Except.ok.inj hdrafted).symm⟩
  | true =>
      rw [hrequired, if_pos rfl] at hdrafted
      simp only [bind_eq_ok_iff, need_eq_ok_iff, pure, Except.pure,
        Except.ok.injEq] at hdrafted
      obtain ⟨excluded, hexcluded, start, -, rfl⟩ := hdrafted
      exact .inr ⟨rfl, excluded, start, (nonBlank?_eq_some_iff.mp hexcluded).1,
        rfl⟩

end Drafting

/-! ## Orders -/

/-- The sentence on an excluded person. -/
def Particulars.exclusion? (particulars : Particulars) : Option String :=
  particulars.emergency.bind (·.exclusionRequirement)

namespace Order

/-- The wording follows the number of the children. -/
def CountsChildren : Order → Prop
  | .emergencyProtection | .care | .interimCare | .supervision
  | .interimSupervision => True
  | _ => False

end Order

namespace CaseFile

/-- What the case puts into the sentences of the order does not name the
children itself. -/
structure NamesNoChildren (order : Order) (language : Language)
    (file : CaseFile) : Prop where
  authority :
    ∀ name, file.localAuthorityName = some name → ¬IsNamed language name
  address :
    order = .emergencyProtection →
      ∀ line, oneLineAddress file.answers = some line → ¬IsNamed language line
  excluded :
    order = .emergencyProtection →
      ∀ person, file.answers.excludedPerson = some person →
        ¬IsNamed language person

/-- How the home of an excluded person names the children: without an address it
is called that of the child. -/
def homeNouns (file : CaseFile) : List GrammaticalNumber :=
  if oneLineAddress file.answers = none then [.singular] else []

/-- How the sentence on an excluded person names the children, if there is one.
-/
def exclusionNouns (file : CaseFile) (order : Order)
    (number : GrammaticalNumber) : Option (List GrammaticalNumber) :=
  if order = .emergencyProtection ∧
      saidYes file.answers.exclusionRequirement = true then
    some (file.homeNouns ++ [number])
  else none

theorem NamesNoChildren.nouns_authority
    {order : Order} {authority : String}
    (hnames : file.NamesNoChildren order language)
    (hauthority : file.authorityName = .ok authority) :
    nouns language authority.toList = [] := by
  obtain ⟨hname, -⟩ := nonBlank?_eq_some_iff.mp (need_eq_ok_iff.mp hauthority)
  exact nouns_eq_nil_iff.mpr (hnames.authority authority hname)

end CaseFile

/-- The sentences of these particulars name the children in one number, but for
the home of an excluded person. -/
structure Particulars.NamesChildren (order : Order) (file : CaseFile)
    (language : Language)
    (number : GrammaticalNumber) (particulars : Particulars) : Prop where
  details :
    ∃ details, particulars.details = some details ∧
    nouns language details.toList = [number]
  exclusion :
    particulars.exclusion?.map
      (fun sentence => nouns language sentence.toList) =
        file.exclusionNouns order number

theorem Particulars.NamesChildren.of_sameDraft
    {order : Order} {drafted stamped : Particulars}
    (hdrafted : drafted.NamesChildren order file language number)
    (hsame : stamped.SameDraft drafted) :
    stamped.NamesChildren order file language number where
  details := by
    rw [hsame.details]
    exact hdrafted.details
  exclusion := by
    rw [exclusion?, hsame.emergency]
    exact hdrafted.exclusion

namespace Drafting

variable {order : Order} {seed filled : Particulars}

theorem nouns_home
    (hnames : file.NamesNoChildren .emergencyProtection .english) :
    nouns .english ((oneLineAddress file.answers).getD
      "the home of the child").toList =
        file.homeNouns := by
  unfold CaseFile.homeNouns
  cases hline : oneLineAddress file.answers with
  | none => decide
  | some line => exact nouns_eq_nil_iff.mpr (hnames.address rfl line hline)

theorem namesChildren_emergencyProtection
    (hnames : file.NamesNoChildren .emergencyProtection .english)
    (hfilled : fillEmergencyProtection seed file .english = .ok filled) :
    ∃ number, file.grammaticalNumber = .ok number ∧
      filled.NamesChildren .emergencyProtection file .english number := by
  obtain ⟨number, authority, kind, approved, ends, sentence, exclusion, hnumber,
    hauthority, -, -, hsentence, hexclusion, rfl⟩ :=
      exists_of_fillEmergencyProtection hfilled
  refine ⟨number, hnumber, ?_⟩
  constructor
  case details =>
    have haddress : ∀ line, oneLineAddress file.answers = some line →
        nouns .english line.toList = [] :=
      fun line hline => nouns_eq_nil_iff.mpr (hnames.address rfl line hline)
    exact ⟨sentence, rfl,
      nouns_emergencySentence (hnames.nouns_authority hauthority) haddress
      hsentence⟩
  case exclusion =>
    change Option.map _ exclusion = _
    unfold CaseFile.exclusionNouns
    rcases exclusion_cases hexclusion with
      ⟨hrequired, rfl⟩ | ⟨hrequired, excluded, start, hexcluded, rfl⟩
    · rw [hrequired, if_neg (by simp)]
      rfl
    · have hperson :=
        nouns_eq_nil_iff.mpr (hnames.excluded rfl excluded hexcluded)
      rw [hrequired, if_pos ⟨rfl, rfl⟩, Option.map_some,
        nouns_exclusionSentence number start hperson, nouns_home hnames]

/-- A sentence of an order that is no emergency protection order. -/
theorem namesChildren_worded
    {authority sentence : String} (hseed : seed.emergency = none)
    (horder : order ≠ .emergencyProtection)
    (hsentence : nouns language sentence.toList = [number]) :
    (seed.worded file authority sentence).NamesChildren order file language
      number where
  details := ⟨sentence, rfl, hsentence⟩
  exclusion := by
    rw [Particulars.exclusion?, Particulars.worded, CaseFile.exclusionNouns,
      if_neg fun hboth => horder hboth.1, hseed]
    rfl

theorem namesChildren_care
    (hnames : file.NamesNoChildren .care language)
    (hseed : seed.emergency = none)
    (hfilled : fillCare seed file language = .ok filled) :
    ∃ number, file.grammaticalNumber = .ok number ∧
      filled.NamesChildren .care file language number := by
  obtain ⟨number, authority, hnumber, hauthority, rfl⟩ :=
    fillCare_eq_ok_iff.mp hfilled
  have hsentence := nouns_care number (hnames.nouns_authority hauthority)
  exact ⟨number, hnumber, namesChildren_worded hseed nofun hsentence⟩

theorem namesChildren_interimCare
    (hnames : file.NamesNoChildren .interimCare language)
    (hseed : seed.emergency = none)
    (hfilled : fillInterimCare seed file language = .ok filled) :
    ∃ number, file.grammaticalNumber = .ok number ∧
      filled.NamesChildren .interimCare file language number := by
  obtain ⟨number, authority, ending, lasting, hnumber, hauthority, -, hlasting,
    rfl⟩ :=
    fillInterimCare_eq_ok_iff.mp hfilled
  have hsentence := nouns_interimCare number (hnames.nouns_authority hauthority)
    (nouns_interimCareEnd hlasting)
  exact ⟨number, hnumber, namesChildren_worded hseed nofun hsentence⟩

theorem namesChildren_of_fillSupervisionWith
    {kind : Answers → Option EndKind}
    {lasting : Language → Ending → Except OrderError String}
    (hnames : file.NamesNoChildren order language)
    (hseed : seed.emergency = none) (horder : order ≠ .emergencyProtection)
    (hlasting : ∀ ending sentence, lasting language ending = .ok sentence →
      nouns language sentence.toList = [])
    (hfilled :
      fillSupervisionWith kind lasting seed file language = .ok filled) :
    ∃ number, file.grammaticalNumber = .ok number ∧
      filled.NamesChildren order file language number := by
  obtain ⟨number, authority, ending, last, hnumber, hauthority, -, hlast,
    rfl⟩ :=
    fillSupervisionWith_eq_ok_iff.mp hfilled
  have hsentence := nouns_supervision number (hnames.nouns_authority hauthority)
    (hlasting ending last hlast)
  exact ⟨number, hnumber, namesChildren_worded hseed horder hsentence⟩

end Drafting

theorem TemplatedDrafter.namesChildren_of_fill
    {drafter : TemplatedDrafter} {order : Order} {drafted : Particulars}
    (hfill :
      ∀ filled,
        drafter.fill (.ofOrder drafter.order) file language = .ok filled →
      ∃ number, file.grammaticalNumber = .ok number ∧
        filled.NamesChildren order file language number)
    (hdrafted : drafter.draft file language = .ok drafted) :
    ∃ number, file.grammaticalNumber = .ok number ∧
      drafted.NamesChildren order file language number := by
  obtain ⟨filled, hfilled, rfl⟩ := draft_eq_ok_iff.mp hdrafted
  obtain ⟨number, hnumber, hnames⟩ := hfill filled hfilled
  exact ⟨number, hnumber, hnames.details, hnames.exclusion⟩

theorem Drafting.namesChildren_of_draft
    {venues : NameTable} {order : Order} {drafted : Particulars}
    (hcounts : order.CountsChildren)
    (hnames : file.NamesNoChildren order language)
    (hlanguage : language = .welsh → order.hasWelsh = true)
    {drafter : Drafter} (hdrafter : drafterFor? venues order = some drafter)
    (hdrafted : drafter.draft file language = .ok drafted) :
    ∃ number, file.grammaticalNumber = .ok number ∧
      drafted.NamesChildren order file language number := by
  cases draftedBy_of_drafterFor? hdrafter with
  | blank | dischargeOfCare => contradiction
  | emergencyProtection =>
      cases language with
      | english =>
          exact emergencyProtection.namesChildren_of_fill
            (fun _ => namesChildren_emergencyProtection hnames) hdrafted
      | welsh => exact absurd (hlanguage rfl) (by decide)
  | care =>
      exact care.namesChildren_of_fill
        (fun _ => namesChildren_care hnames rfl) hdrafted
  | interimCare =>
      exact interimCare.namesChildren_of_fill
        (fun _ => namesChildren_interimCare hnames rfl)
        hdrafted
  | supervision =>
      exact supervision.namesChildren_of_fill
        (fun _ => namesChildren_of_fillSupervisionWith hnames rfl nofun
          fun _ _ => nouns_supervisionEnd) hdrafted
  | interimSupervision =>
      exact interimSupervision.namesChildren_of_fill
        (fun _ => namesChildren_of_fillSupervisionWith hnames rfl nofun
          fun _ _ => nouns_interimSupervisionEnd) hdrafted

/-! ## What is made ready for the renderer -/

theorem Particulars.NamesChildren.agrees
    {order : Order} {particulars : Particulars}
    (hnames : particulars.NamesChildren order file language number) :
    ∃ details, particulars.details = some details ∧
    number.Agrees language details := by
  obtain ⟨details, hdetails, hnouns⟩ := hnames.details
  refine ⟨details, hdetails, agrees_iff.mpr ?_⟩
  intro found hfound
  rw [hnouns] at hfound
  exact List.mem_singleton.mp hfound

/-- Only the home of the child can disagree. -/
theorem Particulars.NamesChildren.exclusion_agrees_iff
    {order : Order} {particulars : Particulars}
    (hnames : particulars.NamesChildren order file language number) :
    (∀ sentence, particulars.exclusion? = some sentence →
      number.Agrees language sentence) ↔
      ¬(order = .emergencyProtection ∧ number = .plural ∧
        saidYes file.answers.exclusionRequirement = true ∧
        oneLineAddress file.answers = none) := by
  have hexclusion := hnames.exclusion
  unfold CaseFile.exclusionNouns at hexclusion
  by_cases hrequired :
      order = .emergencyProtection ∧
      saidYes file.answers.exclusionRequirement = true
  · rw [if_pos hrequired] at hexclusion
    obtain ⟨sentence, hsentence, hnouns⟩ := Option.map_eq_some_iff.mp hexclusion
    simp only [hsentence, Option.some.injEq, forall_eq', agrees_iff, hnouns,
      hrequired, true_and]
    unfold CaseFile.homeNouns
    -- Without an address the nouns are the singular one and that of the number.
    by_cases hline : oneLineAddress file.answers = none
    · cases number <;> simp [hline]
    · simp [hline]
  · rw [if_neg hrequired, Option.map_eq_none_iff] at hexclusion
    refine iff_of_true ?_ ?_
    · intro sentence hsentence
      rw [hexclusion] at hsentence
      contradiction
    · rintro ⟨horder, -, hyes, -⟩
      exact hrequired ⟨horder, hyes⟩

namespace Engine

/-- The body of an order that counts its children names them in the number of
those that it lists, and so does its sentence on an excluded person, unless the
home of several children, of which no address was written, is called that of the
child. -/
theorem prepare_agrees
    (images : ImageSet) (courts venues : NameTable) (status : OrderStatus)
    {order : Order} (hcounts : order.CountsChildren)
    (hnames : file.NamesNoChildren order language)
    {prepared : Prepared}
    (hprepare :
      (standard images courts venues).prepare order file status language =
        .ok prepared) :
    let listed := prepared.particulars.children.length
    0 < listed ∧
      (∃ details, prepared.particulars.details = some details ∧
        (ofCount listed).Agrees language details) ∧
      ((∀ sentence, prepared.particulars.exclusion? = some sentence →
          (ofCount listed).Agrees language sentence) ↔
        ¬(order = .emergencyProtection ∧ 1 < listed ∧
          saidYes file.answers.exclusionRequirement = true ∧
          oneLineAddress file.answers = none)) := by
  intro listed
  obtain ⟨drafter, -, hwrites⟩ := standard_prepare_eq_ok_iff.mp hprepare
  obtain ⟨drafted, children, hdrafted, hchildren, hsame, hlisted, -⟩ :=
    hwrites.exists_draft
  have hlanguage := checkLanguage_eq_ok_iff.mp hwrites.language_ok
  obtain ⟨number, hnumber, hnamed⟩ :=
    namesChildren_of_draft hcounts hnames hlanguage hwrites.drafter_eq hdrafted
  obtain ⟨selected, hselected, hsome, hcount⟩ :=
    CaseFile.grammaticalNumber_eq_ok_iff.mp hnumber
  rw [hchildren] at hselected
  obtain rfl := Except.ok.inj hselected
  have hlength : listed = children.length := by
    rw [← List.length_map]
    exact congrArg List.length hlisted
  have hplural : number = .plural ↔ 1 < listed := by
    rw [← hcount, hlength, ofCount]
    split <;> simp_all
  have hstamped := hnamed.of_sameDraft hsame
  rw [hlength, hcount, ← hlength, ← hplural]
  refine ⟨?_, hstamped.agrees, hstamped.exclusion_agrees_iff⟩
  rw [hlength]
  exact List.length_pos_iff.mpr hsome

/-- Two children, and a person who is excluded from a home of which no address
was written. -/
def twoAtHome : CaseFile :=
  { localAuthority := some "SA"
    localAuthorityName := some "Swansea City Council"
    children := [{ id := "1", party := {} }, { id := "2", party := {} }]
    answers := {
      order := some .emergencyProtection
      approvalMoment := do
        let date ← Date.of? 2021 6 5
        let time ← TimeOfDay.of? 14 30 0 0
        return { date, time }
      emergencyKind := some .removeToAccommodation
      emergencyEnd := do
        let date ← Date.of? 2021 6 13
        let time ← TimeOfDay.of? 14 30 0 0
        return { date, time }
      exclusionRequirement := some .yes
      excludedPerson := some "John Smith"
      exclusionStart := Date.of? 2021 6 6
      appliesToAll := some .yes } }

/-- The home of the two is called that of the child. -/
theorem two_at_home_of_the_child :
    ∃ prepared,
      (standard {} [("SA", "Family Court sitting at Swansea")] []).prepare
      .emergencyProtection
        twoAtHome .sealed .english = .ok prepared ∧
      (∃ details, prepared.particulars.details = some details ∧
        plural.Agrees .english details) ∧
      ∃ sentence, prepared.particulars.exclusion? = some sentence ∧
        ¬plural.Agrees .english sentence := by
  have hcounts : Order.emergencyProtection.CountsChildren := trivial
  have haddress : oneLineAddress twoAtHome.answers = none := rfl
  have hnames : twoAtHome.NamesNoChildren .emergencyProtection .english := by
    constructor
    case authority =>
      intro name hname
      obtain rfl := Option.some.inj hname
      exact nouns_eq_nil_iff.mp (by decide)
    case address =>
      intro _ line hline
      rw [haddress] at hline
      contradiction
    case excluded =>
      intro _ person hperson
      obtain rfl := Option.some.inj hperson
      exact nouns_eq_nil_iff.mp (by decide)
  obtain ⟨prepared, hprepare, hlisted⟩ : ∃ prepared,
      (standard {} [("SA", "Family Court sitting at Swansea")] []).prepare
      .emergencyProtection
        twoAtHome .sealed .english = .ok prepared ∧
      prepared.particulars.children.length = 2 := ⟨_, rfl, rfl⟩
  obtain ⟨-, hdetails, hexclusion⟩ := prepare_agrees {}
    [("SA", "Family Court sitting at Swansea")]
    [] .sealed hcounts hnames hprepare
  rw [hlisted] at hdetails hexclusion
  refine ⟨prepared, hprepare, hdetails, ?_⟩
  by_contra hagrees
  refine hexclusion.mp ?_ ⟨rfl, Nat.lt_succ_self 1, rfl, haddress⟩
  intro sentence hsentence
  by_contra hdisagrees
  exact hagrees ⟨sentence, hsentence, hdisagrees⟩

end Engine

end FamilyOrders
