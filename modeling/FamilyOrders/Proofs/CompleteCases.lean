import FamilyOrders.Proofs.Drafts
import FamilyOrders.Proofs.Encodings
import FamilyOrders.Proofs.Stamping

/-!
# Complete cases

What a case must tell before an order can be drafted and stamped.  Each order
asks for its own answers; the children, the court and the day of approval are
asked for all of them.  The conditions are read off the case alone, and none of
them depends on the language.
-/

namespace FamilyOrders

open FamilyOrders.Calendar FamilyOrders.Drafting FamilyOrders.Text

/-! ## Texts and codes -/

/-- The text is given and says something. -/
def Text.Filled (text : Option String) : Prop :=
  ∃ s, text = some s ∧ allBlank s = false

theorem Text.exists_nonBlank?_iff {text : Option String} :
    (∃ s, nonBlank? text = some s) ↔ Filled text :=
  exists_congr fun _ => nonBlank?_eq_some_iff

namespace NameTable

/-- The code says something, and a name is kept under exactly this code. -/
def Knows (names : NameTable) (code : Option String) : Prop :=
  ∃ key, code = some key ∧ allBlank key = false ∧ key ∈ names.map (·.1)

theorem exists_name?_iff {names : NameTable} {key : String} :
    (∃ name, names.name? key = some name) ↔ key ∈ names.map (·.1) := by
  rw [← Option.isSome_iff_exists, name?, Option.isSome_map, List.find?_isSome]
  simp

theorem knows_iff {names : NameTable} {code : Option String} :
    names.Knows code ↔
      ∃ key, nonBlank? code = some key ∧
      ∃ name, names.name? key = some name := by
  simp only [Knows, nonBlank?_eq_some_iff, exists_name?_iff, and_assoc]

end NameTable

/-! ## Children -/

namespace CaseFile

variable {file : CaseFile}

/-- It can be told which children the order is about: all of them, or those that
are ticked. -/
def TellsChildren (file : CaseFile) : Prop :=
  match file.answers.appliesToAll with
  | some .yes => True
  | some .no =>
    ∀ position ∈ file.answers.ticked.getD [],
      position.toNat < file.children.length
  | none => file.children.length ≤ 1

theorem childAt_succeeds_iff {position : UInt64} :
    Succeeds (file.childAt position) ↔
      position.toNat < file.children.length := by
  by_cases hposition : position.toNat < file.children.length
  · simp [childAt, hposition]
  · simp [childAt, hposition]

theorem mapM_childAt_succeeds_iff {positions : List UInt64} :
    Succeeds (positions.mapM file.childAt) ↔
      ∀ position ∈ positions, position.toNat < file.children.length := by
  induction positions with
  | nil => simp
  | cons position positions ih =>
      have hrest : ∀ child, Succeeds
          (positions.mapM file.childAt >>= fun children =>
            pure (child :: children)) ↔
            ∀ later ∈ positions, later.toNat < file.children.length := by
        intro child
        exact (Succeeds.of_bind_ok_iff fun children => ⟨_, rfl⟩).trans ih
      rw [List.mapM_cons, Succeeds.bind_iff fun child _ => hrest child,
        childAt_succeeds_iff]
      simp

theorem selectedChildren_succeeds_iff :
    Succeeds file.selectedChildren ↔ file.TellsChildren := by
  cases hanswer : file.answers.appliesToAll with
  | some answer =>
      cases answer with
      | yes =>
          have hall : file.appliesToAll = .ok true := by
            simp [appliesToAll, hanswer]
          simp [selectedChildren_of_all hall, TellsChildren, hanswer]
      | no =>
          have hticked : file.appliesToAll = .ok false := by
            simp [appliesToAll, hanswer]
          rw [selectedChildren_of_ticked hticked, mapM_childAt_succeeds_iff]
          simp [TellsChildren, hanswer]
  | none =>
      by_cases hfew : file.children.length ≤ 1
      · have hall : file.appliesToAll = .ok true := by
          simp [appliesToAll, hanswer, hfew]
        simp [selectedChildren_of_all hall, TellsChildren, hanswer, hfew]
      · have hunasked :
          file.appliesToAll = .error (.missingField .appliesToAll) := by
          simp [appliesToAll, hanswer, hfew]
        simp [selectedChildren_of_error hunasked, TellsChildren, hanswer, hfew]

theorem grammaticalNumber_succeeds_iff :
    Succeeds file.grammaticalNumber ↔
      file.TellsChildren ∧ ¬file.SelectsNobody := by
  rw [← selectedChildren_succeeds_iff, ← selectedChildren_eq_nil_iff]
  cases hchildren : file.selectedChildren with
  | error error =>
      have hfailed : file.grammaticalNumber = .error error := by
        rw [grammaticalNumber, hchildren]
        rfl
      simp [hfailed]
  | ok children =>
      cases children with
      | nil => simp [grammaticalNumber_of_nobody hchildren]
      | cons child children =>
          have hnumber :
              file.grammaticalNumber =
                .ok (.ofCount (child :: children).length) := by
            rw [grammaticalNumber, hchildren]
            rfl
          simp [hnumber]

/-- An order about these children can be put into words, in the name of an
authority. -/
structure Wordable (file : CaseFile) : Prop where
  children_told : file.TellsChildren
  somebody : ¬file.SelectsNobody
  authority_named : Filled file.localAuthorityName

theorem authorityName_succeeds_iff :
    Succeeds file.authorityName ↔ Filled file.localAuthorityName := by
  rw [authorityName, Succeeds.need_iff, exists_nonBlank?_iff]

/-- Five of the drafters start in this way. -/
theorem worded_succeeds_iff
    {next : GrammaticalNumber → String → Except OrderError α} {Condition : Prop}
    (hnext : ∀ number authority, Succeeds (next number authority) ↔ Condition) :
    Succeeds (file.grammaticalNumber >>= fun number =>
      file.authorityName >>= next number) ↔
      file.Wordable ∧ Condition := by
  have hauthority : ∀ number,
      Succeeds (file.authorityName >>= next number) ↔
        Filled file.localAuthorityName ∧ Condition := by
    intro number
    rw [Succeeds.bind_iff fun authority _ => hnext number authority,
      authorityName_succeeds_iff]
  rw [Succeeds.bind_iff fun number _ => hauthority number,
    grammaticalNumber_succeeds_iff]
  constructor
  · rintro ⟨⟨hchildren, hsomebody⟩, hnamed, hcondition⟩
    exact ⟨⟨hchildren, hsomebody, hnamed⟩, hcondition⟩
  · rintro ⟨hwordable, hcondition⟩
    exact ⟨⟨hwordable.children_told, hwordable.somebody⟩,
      hwordable.authority_named, hcondition⟩

end CaseFile

/-! ## The end of an order -/

theorem Calendar.Date.addMonths?_isSome_iff {date : Date} {count : Nat} :
    (∃ last, date.addMonths? count = some last) ↔
      date.monthNumber + count < 12 * (lastYear + 1) := by
  have hfirst : 12 * firstYear ≤ date.monthNumber := by
    have hyear := date.year_mem.1
    unfold monthNumber
    omega
  have hstart : firstYear ≤ (date.monthNumber + count) / 12 := by omega
  rw [addMonths?]
  by_cases hlast : (date.monthNumber + count) / 12 ≤ lastYear
  · rw [dif_pos ⟨hstart, hlast⟩]
    exact iff_of_true ⟨_, rfl⟩ (by omega)
  · rw [dif_neg fun hrange => hlast hrange.2]
    exact iff_of_false (by simp) (by omega)

def Ending.kind : Ending → EndKind
  | .day _ => .day
  | .moment _ => .moment
  | .endOfProceedings => .endOfProceedings
  | .afterMonths _ _ => .months

namespace Answers

variable {answers : Answers}

/-- The answers that belong to this kind of end tell one.  The end after a
number of months must lie in a year of the calendar. -/
def TellEnd (answers : Answers) : EndKind → Prop
  | .day => ∃ date, answers.endDate = some date
  | .moment => ∃ moment, answers.endMoment = some moment
  | .months =>
      ∃ months approved, answers.endMonths = some months ∧ 1 ≤ months.toNat ∧
        answers.approvalDay = some approved ∧
        approved.monthNumber + months.toNat < 12 * (lastYear + 1)
  | .endOfProceedings => True

/-- A kind of end that suits the order is chosen, and such an end is told. -/
def TellEndOf (answers : Answers) (chosen : Option EndKind)
    (suited : List EndKind) : Prop :=
  ∃ kind, chosen = some kind ∧ kind ∈ suited ∧ answers.TellEnd kind

theorem kind_of_endAfterMonths
    {ending : Ending} (hending : answers.endAfterMonths = .ok ending) :
    ending.kind = .months := by
  simp only [endAfterMonths, bind_eq_ok_iff] at hending
  obtain ⟨months, -, approved, -, hlast⟩ := hending
  split at hlast
  · cases hlast
    rfl
  · contradiction

theorem endAfterMonths_succeeds_iff :
    Succeeds answers.endAfterMonths ↔ answers.TellEnd .months := by
  have hneeded :
      Succeeds answers.endAfterMonths ↔
        ∃ months,
          answers.endMonths.filter (fun months => 0 < months) = some months ∧
          ∃ approved, answers.approvalDay = some approved ∧
            approved.monthNumber + months.toNat < 12 * (lastYear + 1) := by
    simp only [Succeeds, endAfterMonths, bind_eq_ok_iff, need_eq_ok_iff,
      ← Date.addMonths?_isSome_iff]
    constructor
    · rintro ⟨ending, months, hmonths, approved, happroved, hlast⟩
      refine ⟨months, hmonths, approved, happroved, ?_⟩
      split at hlast
      · next haddition => exact ⟨_, haddition⟩
      · contradiction
    · rintro ⟨months, hmonths, approved, happroved, last, hlast⟩
      refine ⟨.afterMonths months last, months, hmonths, approved, happroved,
        ?_⟩
      rw [hlast]
      rfl
  rw [hneeded, TellEnd]
  simp only [Option.filter_eq_some_iff, decide_eq_true_eq, and_assoc,
    exists_and_left]
  rfl

theorem ending_succeeds_iff {kind : EndKind} :
    Succeeds (answers.ending (some kind)) ↔ answers.TellEnd kind := by
  cases kind with
  | day =>
      cases hdate : answers.endDate <;>
        simp [ending, TellEnd, hdate, Except.map]
  | moment =>
      cases hmoment : answers.endMoment <;>
        simp [ending, TellEnd, hmoment, Except.map]
  | months => exact endAfterMonths_succeeds_iff
  | endOfProceedings => simp [ending, TellEnd]

theorem kind_of_ending
    {kind : EndKind} {ending : Ending}
    (hending : answers.ending (some kind) = .ok ending) :
    ending.kind = kind := by
  cases kind with
  | day =>
      cases hdate : answers.endDate <;>
        simp [Answers.ending, hdate, Except.map] at hending
      rw [← hending]
      rfl
  | moment =>
      cases hmoment : answers.endMoment <;>
        simp [Answers.ending, hmoment, Except.map] at hending
      rw [← hending]
      rfl
  | months => exact kind_of_endAfterMonths hending
  | endOfProceedings =>
      cases hending
      rfl

/-- The sentence on the end of an order is written for the kinds of end that
suit it. -/
theorem lasting_succeeds_iff
    {chosen : Option EndKind} {suited : List EndKind} {language : Language}
    {lasting : Language → Ending → Except OrderError String}
    {next : String → Except OrderError Particulars}
    (hlasting : ∀ ending, Succeeds (lasting language ending) ↔
      ending.kind ∈ suited)
    (hnext : ∀ sentence, Succeeds (next sentence)) :
    Succeeds (answers.ending chosen >>= fun ending =>
      lasting language ending >>= next) ↔
      answers.TellEndOf chosen suited := by
  cases chosen with
  | none => simp [TellEndOf, ending]
  | some kind =>
      have hsuited : ∀ ending, answers.ending (some kind) = .ok ending →
          (Succeeds (lasting language ending >>= next) ↔ kind ∈ suited) := by
        intro ending hending
        rw [Succeeds.of_bind_ok_iff hnext, hlasting, kind_of_ending hending]
      rw [Succeeds.bind_iff hsuited, ending_succeeds_iff]
      simp [TellEndOf, and_comm]

end Answers

/-! ## Emergency protection -/

namespace Address

variable {address : Address}

/-- Something is written on one of the lines. -/
def IsWritten (address : Address) : Prop :=
  ∃ line ∈ address.lines, Filled line

theorem trim_ne_empty {s : String} (hs : allBlank s = false) : trim s ≠ "" := by
  intro hempty
  rw [← allBlank_trim, hempty] at hs
  contradiction

theorem intercalate_cons_ne_empty
    {text : String} (htext : text ≠ "") (delimiter : String)
    (texts : List String) : delimiter.intercalate (text :: texts) ≠ "" := by
  cases texts with
  | nil => simpa using htext
  | cons next texts =>
      simp [String.intercalate_cons_cons, String.append_eq_empty_iff, htext]

theorem joined_ne_empty_iff (delimiter : String) :
    address.joined delimiter ≠ "" ↔ address.IsWritten := by
  have hwritten : address.IsWritten ↔
      address.lines.filterMap nonBlank? ≠ [] := by
    simp only [IsWritten, ← exists_nonBlank?_iff, ← Option.ne_none_iff_exists',
      ne_eq, List.filterMap_eq_nil_iff, not_forall, exists_prop]
  rw [hwritten, joined]
  cases hlines : address.lines.filterMap nonBlank? with
  | nil => simp
  | cons text texts =>
      have hmem : text ∈ address.lines.filterMap nonBlank? := by simp [hlines]
      obtain ⟨line, -, hline⟩ := List.mem_filterMap.mp hmem
      have htext := trim_ne_empty (nonBlank?_eq_some_iff.mp hline).2
      simp [intercalate_cons_ne_empty htext]

end Address

namespace Answers

variable {answers : Answers}

theorem oneLineAddress_iff :
    (∃ line, oneLineAddress answers = some line) ↔
      ∃ address, answers.removalAddress = some address ∧ address.IsWritten := by
  simp [oneLineAddress, Option.filter_eq_some_iff,
    ← Address.joined_ne_empty_iff ", "]

/-- An emergency protection order can be told from the answers. -/
structure TellEmergency (answers : Answers) : Prop where
  kind_chosen : ∃ kind, answers.emergencyKind = some kind
  ends_later :
    ∃ approved ends, answers.approvalMoment = some approved ∧
      answers.emergencyEnd = some ends ∧ ends.isAfter approved = true
  address_written :
    answers.emergencyKind = some .preventRemoval →
      ∃ address, answers.removalAddress = some address ∧ address.IsWritten
  exclusion_told :
    answers.exclusionRequirement = some .yes →
      Filled answers.excludedPerson ∧
      ∃ start, answers.exclusionStart = some start

theorem emergencyTimes_succeeds_iff :
    Succeeds (emergencyTimes answers) ↔
      ∃ approved ends, answers.approvalMoment = some approved ∧
        answers.emergencyEnd = some ends ∧ ends.isAfter approved = true := by
  cases happroved : answers.approvalMoment <;> cases hends :
    answers.emergencyEnd <;>
    simp [emergencyTimes, happroved, hends]
  case some.some approved ends =>
    cases ends.isAfter approved <;>
      simp

theorem emergencySentence_succeeds_iff
    {kind : EmergencyKind} {children authority : String}
    {address : Option String} :
    Succeeds (emergencySentence kind children authority address) ↔
      (kind = .preventRemoval → ∃ line, address = some line) := by
  cases kind with
  | removeToAccommodation => simp [emergencySentence]
  | preventRemoval =>
      cases address <;>
        simp [emergencySentence]

theorem exclusion_succeeds_iff
    {children : String} {address : Option String} {language : Language} :
    Succeeds (exclusion answers children address language) ↔
      (answers.exclusionRequirement = some .yes →
        Filled answers.excludedPerson ∧
        ∃ start, answers.exclusionStart = some start) := by
  by_cases hrequired : answers.exclusionRequirement = some .yes
  · rw [← exists_nonBlank?_iff]
    cases hexcluded : nonBlank? answers.excludedPerson <;>
      cases hstart : answers.exclusionStart <;>
        simp [exclusion, saidYes, hrequired, hexcluded, hstart]
  · simp [exclusion, saidYes, hrequired]

end Answers

end FamilyOrders
