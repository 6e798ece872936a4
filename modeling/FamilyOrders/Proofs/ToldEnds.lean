import FamilyOrders.Proofs.Drafts
import FamilyOrders.Proofs.PrintedDates

/-!
# Ends told by sentences

The body of an interim care order or of a supervision order is one sentence.  It
tells whether the order is about one child or several and when the order ends,
as exactly as a moment is printed: two orders for one authority have the same
body only if both agree.
-/

namespace FamilyOrders

open FamilyOrders.Calendar FamilyOrders.Drafting FamilyOrders.Text

namespace Ending

/-- The same end, for all that an order prints of it: moments are printed to the
minute. -/
inductive Alike : Ending → Ending → Prop
  | day (date : Date) :
      Alike (.day date) (.day date)
  | moment (a b : Moment) (hdate : a.date = b.date)
      (hhour : a.time.hour = b.time.hour)
      (hminute : a.time.minute = b.time.minute) :
      Alike (.moment a) (.moment b)
  | endOfProceedings :
      Alike .endOfProceedings .endOfProceedings
  | afterMonths (months : UInt32) (last : Date) :
      Alike (.afterMonths months last) (.afterMonths months last)

/-- An end that is given as a day or a moment, and how it is printed. -/
inductive Dated (language : Language) : Ending → String → Prop
  | day (date : Date) :
      Dated language (.day date) (date.printed language)
  | moment (moment : Moment) :
      Dated language (.moment moment) (moment.printed language)

variable {language : Language} {a b : Ending} {printed printed' : String}

theorem Dated.eq_iff_alike
    (ha : a.Dated language printed) (hb : b.Dated language printed') :
    printed = printed' ↔ a.Alike b := by
  cases ha with
  | day date =>
      cases hb with
      | day date' =>
          rw [Date.printed_inj]
          constructor
          · rintro rfl
            exact .day date
          · rintro ⟨⟩
            rfl
      | moment moment' =>
          exact iff_of_false (date.printed_ne_moment moment') nofun
  | moment moment =>
      cases hb with
      | day date' =>
          exact iff_of_false (date'.printed_ne_moment moment).symm nofun
      | moment moment' =>
          rw [Moment.printed_eq_iff]
          constructor
          · rintro ⟨hdate, hhour, hminute⟩
            exact .moment moment moment' hdate hhour hminute
          · intro halike
            cases halike with
            | moment _ _ hdate hhour hminute => exact ⟨hdate, hhour, hminute⟩

/-- A printed day or moment starts with a digit, whatever is written after it.
-/
theorem Dated.not_stopsDigits
    (ha : a.Dated language printed) (after : List Char) :
    ¬StopsDigits (printed.toList ++ after) := by
  have hday : ∀ (date : Date) (rest : List Char),
      ¬StopsDigits (date.printedChars language ++ rest) := by
    intro date rest hstops
    have hsome : digits date.day ≠ [] := Nat.toDigits_ne_nil
    obtain ⟨c, others, hdigits⟩ := List.exists_cons_of_ne_nil hsome
    have hdigit : c.isDigit = true :=
      isDigit_of_mem_digits (hdigits ▸ List.mem_cons_self)
    have hfirst := hstops c (by simp [Date.printedChars, hdigits])
    rw [hdigit] at hfirst
    contradiction
  cases ha with
  | day date =>
      rw [Date.printed, String.toList_ofList]
      exact hday date after
  | moment moment =>
      rw [Moment.printed, String.toList_ofList, List.append_assoc,
        List.append_assoc]
      exact hday moment.date _

end Ending

/-! ## The words for an end -/

namespace Drafting

variable {language : Language} {a b : Ending} {sentence : String}

/-- The words tell ends apart as far as they are not alike. -/
def TellsEnds (lasting : Ending → Except OrderError String) : Prop :=
  ∀ a b sentence sentence', lasting a = .ok sentence →
    lasting b = .ok sentence' →
    (sentence = sentence' ↔ a.Alike b)

theorem tellsEnds_of_alike
    (language : Language) {lasting : Ending → Except OrderError String}
    (halike :
      ∀ a b sentence, lasting a = .ok sentence → lasting b = .ok sentence →
        a.Alike b)
    (hmoment : ∀ a b : Moment, a.printed language = b.printed language →
      lasting (.moment a) = lasting (.moment b)) :
    TellsEnds lasting := by
  intro a b sentence sentence' ha hb
  constructor
  · rintro rfl
    exact halike a b sentence ha hb
  · intro hsame
    suffices hlasting : lasting a = lasting b by
      rw [ha, hb] at hlasting
      exact Except.ok.inj hlasting
    cases hsame with
    | day date => rfl
    | moment a b hdate hhour hminute =>
        exact hmoment a b (Moment.printed_eq_iff.mpr ⟨hdate, hhour, hminute⟩)
    | endOfProceedings => rfl
    | afterMonths months last => rfl

/-- Two ends told by the same words are alike if this holds of the ends that are
neither days nor moments, and if their words are not those for a day or a
moment. -/
theorem alike_of_told
    {lasting : Ending → Except OrderError String} {before after : String}
    {Undated : Ending → Prop}
    (hcases : ∀ a sentence, lasting a = .ok sentence →
      (∃ printed, a.Dated language printed ∧
        sentence = before ++ printed ++ after) ∨ Undated a)
    (hapart :
      ∀ a printed, Undated a → (∀ rest, ¬StopsDigits (printed.toList ++ rest)) →
      lasting a ≠ .ok (before ++ printed ++ after))
    (hundated :
      ∀ a b sentence, Undated a → Undated b → lasting a = .ok sentence →
      lasting b = .ok sentence → a.Alike b)
    (ha : lasting a = .ok sentence) (hb : lasting b = .ok sentence) :
    a.Alike b := by
  rcases hcases a sentence ha with ⟨printed, hdated, rfl⟩ | hopen
  · rcases hcases b _ hb with ⟨printed', hdated', hsame⟩ | hopen'
    · rw [String.append_left_inj, String.append_right_inj] at hsame
      exact (hdated.eq_iff_alike hdated').mp hsame
    · exact absurd hb (hapart b printed hopen' hdated.not_stopsDigits)
  · rcases hcases b sentence hb with ⟨printed', hdated', rfl⟩ | hopen'
    · exact absurd ha (hapart a printed' hopen hdated'.not_stopsDigits)
    · exact hundated a b sentence hopen hopen' ha hb

theorem interimCareEnd_cases
    (ha : interimCareEnd language a = .ok sentence) :
    (∃ printed, a.Dated language printed ∧
      sentence = untilWord language ++ printed ++ "") ∨
      a = .endOfProceedings := by
  cases a with
  | day date =>
      cases ha
      exact .inl ⟨_, .day date, String.append_empty.symm⟩
  | moment moment =>
      cases ha
      exact .inl ⟨_, .moment moment, String.append_empty.symm⟩
  | endOfProceedings => exact .inr rfl
  | afterMonths months last => contradiction

theorem alike_of_interimCareEnd
    (ha : interimCareEnd language a = .ok sentence)
    (hb : interimCareEnd language b = .ok sentence) :
    a.Alike b := by
  refine alike_of_told (fun a sentence => interimCareEnd_cases) ?_ ?_ ha hb
  · rintro a printed rfl hdigit hsame
    have hwords := congrArg String.toList (Except.ok.inj hsame)
    cases language with
    | english =>
        -- Both begin with the word for until, but only a date goes on with a
        -- digit.
        have hprinted :
            "the end of the proceedings or until a further order is made".toList
              =
                printed.toList ++ [] := by
          simpa [untilWord] using hwords
        apply hdigit []
        rw [← hprinted]
        simp [StopsDigits]
    | welsh => simp [untilWord] at hwords
  · rintro a b sentence rfl rfl _ _
    exact .endOfProceedings

theorem tellsEnds_interimCareEnd (language : Language) :
    TellsEnds (interimCareEnd language) := by
  apply tellsEnds_of_alike language
    (fun a b sentence => alike_of_interimCareEnd)
  intro a b hprinted
  simp only [interimCareEnd, hprinted]

theorem interimSupervisionEnd_cases
    (ha : interimSupervisionEnd language a = .ok sentence) :
    (∃ printed, a.Dated language printed ∧
      sentence = untilWord language ++ printed ++ ".") ∨
      a = .endOfProceedings := by
  cases a with
  | day date =>
      cases language <;> cases ha <;> exact .inl ⟨_, .day date, rfl⟩
  | moment moment =>
      cases language <;> cases ha <;> exact .inl ⟨_, .moment moment, rfl⟩
  | endOfProceedings => exact .inr rfl
  | afterMonths months last => contradiction

theorem alike_of_interimSupervisionEnd
    (ha : interimSupervisionEnd language a = .ok sentence)
    (hb : interimSupervisionEnd language b = .ok sentence) :
    a.Alike b := by
  refine alike_of_told (fun a sentence => interimSupervisionEnd_cases) ?_ ?_ ha
    hb
  · rintro a printed rfl hdigit hsame
    have hwords := congrArg String.toList (Except.ok.inj hsame)
    cases language with
    | english =>
        -- Both begin with the word for until, but only a date goes on with a
        -- digit.
        have hprinted :
            String.toList
              "the end of the proceedings, or until a further order is made."
              = printed.toList ++ ['.'] := by
          simpa [untilWord] using hwords
        apply hdigit ['.']
        rw [← hprinted]
        simp [StopsDigits]
    | welsh => simp [untilWord] at hwords
  · rintro a b sentence rfl rfl _ _
    exact .endOfProceedings

theorem tellsEnds_interimSupervisionEnd (language : Language) :
    TellsEnds (interimSupervisionEnd language) := by
  apply tellsEnds_of_alike language
    (fun a b sentence => alike_of_interimSupervisionEnd)
  intro a b hprinted
  simp only [interimSupervisionEnd, hprinted]

theorem supervisionEnd_cases
    (ha : supervisionEnd language a = .ok sentence) :
    (∃ printed, a.Dated language printed ∧
      sentence = untilWord language ++ printed ++ ".") ∨
      ∃ months last, a = .afterMonths months last := by
  cases a with
  | day date =>
      cases language <;> cases ha <;> exact .inl ⟨_, .day date, rfl⟩
  | moment moment =>
      cases language <;> cases ha <;> exact .inl ⟨_, .moment moment, rfl⟩
  | endOfProceedings => contradiction
  | afterMonths months last => exact .inr ⟨months, last, rfl⟩

/-- The first word of two texts, and what follows after a blank. -/
theorem append_blank_inj
    {a b x y : String} (ha : ' ' ∉ a.toList) (hb : ' ' ∉ b.toList)
    (hsame : a ++ (" " ++ x) = b ++ (" " ++ y)) :
    a = b ∧ x = y := by
  have hblank : " ".toList = [' '] := rfl
  have hwords := congrArg String.toList hsame
  simp only [String.toList_append, hblank, List.singleton_append] at hwords
  obtain ⟨hfirst, hrest⟩ := append_mark_inj ha hb hwords
  exact ⟨String.toList_inj.mp hfirst, String.toList_inj.mp hrest⟩

theorem toString_inj
    {m n : Nat} (hsame : toString m = toString n) :
    m = n := by
  rw [Nat.toString_eq_repr, Nat.toString_eq_repr, ← String.toList_inj,
    Nat.toList_repr, Nat.toList_repr] at hsame
  exact digits_injective hsame

theorem supervisionForMonths_inj
    {months months' : UInt32} {last last' : Date}
    (hsame : supervisionForMonths language months last =
      supervisionForMonths language months' last') :
    months = months' ∧ last = last' := by
  have hblank : ∀ n : Nat, ' ' ∉ (toString n).toList := by
    intro n
    rw [Nat.toString_eq_repr, Nat.toList_repr]
    exact notMem_digits (by decide) n
  cases language with
  | english =>
      simp only [supervisionForMonths, String.append_assoc,
        String.append_right_inj] at hsame
      obtain ⟨hnumeral, hrest⟩ := append_blank_inj (hblank _) (hblank _) hsame
      obtain rfl := UInt32.toNat_inj.mp (toString_inj hnumeral)
      rw [String.append_right_inj, String.append_right_inj,
        String.append_left_inj, Date.printed_inj] at hrest
      exact ⟨rfl, hrest⟩
  | welsh =>
      -- The numeral ends at the blank, so the fixed words are parted there.
      have hwords : " mis o ddyddiad y gorchymyn hwn tan " =
          " " ++ "mis o ddyddiad y gorchymyn hwn tan " := rfl
      simp only [supervisionForMonths, hwords, String.append_assoc,
        String.append_right_inj]
        at hsame
      obtain ⟨hnumeral, hrest⟩ := append_blank_inj (hblank _) (hblank _) hsame
      obtain rfl := UInt32.toNat_inj.mp (toString_inj hnumeral)
      rw [String.append_right_inj, String.append_left_inj,
        Date.printed_inj] at hrest
      exact ⟨rfl, hrest⟩

theorem alike_of_supervisionEnd
    (ha : supervisionEnd language a = .ok sentence)
    (hb : supervisionEnd language b = .ok sentence) :
    a.Alike b := by
  refine alike_of_told (fun a sentence => supervisionEnd_cases) ?_ ?_ ha hb
  · rintro a printed ⟨months, last, rfl⟩ hdigit hsame
    have hwords := congrArg String.toList (Except.ok.inj hsame)
    cases language <;> simp [supervisionForMonths, untilWord] at hwords
  · rintro a b sentence ⟨months, last, rfl⟩ ⟨months', last', rfl⟩ ha hb
    cases ha
    obtain ⟨rfl, rfl⟩ := supervisionForMonths_inj (Except.ok.inj hb)
    exact .afterMonths months' last'

theorem tellsEnds_supervisionEnd (language : Language) :
    TellsEnds (supervisionEnd language) := by
  apply tellsEnds_of_alike language
    (fun a b sentence => alike_of_supervisionEnd)
  intro a b hprinted
  simp only [supervisionEnd, hprinted]

/-! ## The whole sentence -/

theorem child_append_inj
    {number number' : GrammaticalNumber} {x y : String}
    (hsame :
      number.child language ++ (" " ++ x) = number'.child language ++
        (" " ++ y)) :
    number = number' ∧ x = y := by
  have hblank : ∀ number :
      GrammaticalNumber, ' ' ∉ (number.child language).toList := by
    intro number
    cases number <;> cases language <;> decide
  obtain ⟨hnoun, hrest⟩ :=
    append_blank_inj (hblank number) (hblank number') hsame
  refine ⟨?_, hrest⟩
  cases number <;> cases number' <;> cases language <;>
    first | rfl | contradiction

theorem placement_append_eq_iff
    {number number' : GrammaticalNumber} {authority lasting lasting' : String} :
    placement language number authority ++ " " ++ lasting ++ "." =
        placement language number' authority ++ " " ++ lasting' ++ "." ↔
      number = number' ∧ lasting = lasting' := by
  refine ⟨fun hsame => ?_, by rintro ⟨rfl, rfl⟩; rfl⟩
  have hnumber : number = number' := by
    unfold placement at hsame
    cases language with
    | english =>
        simp only [String.append_assoc, String.append_right_inj] at hsame
        exact (child_append_inj hsame).1
    | welsh =>
        simp only [String.append_assoc, String.append_right_inj] at hsame
        exact (child_append_inj hsame).1
  subst hnumber
  rw [String.append_left_inj, String.append_right_inj] at hsame
  exact ⟨rfl, hsame⟩

theorem supervisionStart_append_eq_iff
    {number number' : GrammaticalNumber} {authority last last' : String} :
    supervisionStart language number authority ++ last =
        supervisionStart language number' authority ++ last' ↔
      number = number' ∧ last = last' := by
  refine ⟨fun hsame => ?_, by rintro ⟨rfl, rfl⟩; rfl⟩
  unfold supervisionStart at hsame
  cases language with
  | english =>
      simp only [String.append_assoc, String.append_right_inj] at hsame
      exact child_append_inj hsame
  | welsh =>
      simp only [String.append_assoc, String.append_right_inj] at hsame
      exact child_append_inj hsame

end Drafting

/-- The answer that chooses how the order ends, if it is an order that ends. -/
def Order.endAnswer? : Order → Option (Answers → Option EndKind)
  | .interimCare | .interimSupervision => some (·.endOrProceedings)
  | .supervision => some (·.endOrMonths)
  | _ => none

namespace Drafting

variable {venues : NameTable} {file file' : CaseFile}
  {drafted drafted' : Particulars}

/-- The number of the children and the end that the body of a draft is about. -/
structure IsAbout (kind : Answers → Option EndKind) (file : CaseFile)
    (number : GrammaticalNumber) (ending : Ending) : Prop where
  number_eq : file.grammaticalNumber = .ok number
  ending_eq : file.answers.ending (kind file.answers) = .ok ending

/-- Two drafts have the same body if and only if both are about one child or
both about several, and their ends are alike. -/
def ToldAlike (kind : Answers → Option EndKind) (file file' : CaseFile)
    (drafted drafted' : Particulars) : Prop :=
  ∃ number number' ending ending',
    IsAbout kind file number ending ∧ IsAbout kind file' number' ending' ∧
    (drafted.details = drafted'.details ↔
      number = number' ∧ ending.Alike ending')

theorem toldAlike_interimCare
    (hdrafted : interimCare.draft file language = .ok drafted)
    (hdrafted' : interimCare.draft file' language = .ok drafted')
    (hauthorities : file.authorityName = file'.authorityName) :
    ToldAlike (·.endOrProceedings) file file' drafted drafted' := by
  obtain ⟨filled, hfilled, rfl⟩ := TemplatedDrafter.draft_eq_ok_iff.mp hdrafted
  obtain ⟨filled', hfilled', rfl⟩ :=
    TemplatedDrafter.draft_eq_ok_iff.mp hdrafted'
  obtain ⟨number, authority, ending, lasting, hnumber, hauthority, hending,
    hlasting, rfl⟩ :=
    fillInterimCare_eq_ok_iff.mp hfilled
  obtain ⟨number', authority', ending', lasting', hnumber', hauthority',
    hending', hlasting', rfl⟩ := fillInterimCare_eq_ok_iff.mp hfilled'
  rw [hauthority, hauthority'] at hauthorities
  obtain rfl := Except.ok.inj hauthorities
  refine ⟨number, number', ending, ending', ⟨hnumber, hending⟩,
    ⟨hnumber', hending'⟩, ?_⟩
  dsimp only [Particulars.worded]
  rw [Option.some_inj, placement_append_eq_iff,
    tellsEnds_interimCareEnd language ending ending' lasting lasting' hlasting
      hlasting']

theorem toldAlike_of_fillSupervisionWith
    {drafter : TemplatedDrafter} {kind : Answers → Option EndKind}
    {lasting : Language → Ending → Except OrderError String}
    (hfill : drafter.fill = fillSupervisionWith kind lasting)
    (htells : TellsEnds (lasting language))
    (hdrafted : drafter.draft file language = .ok drafted)
    (hdrafted' : drafter.draft file' language = .ok drafted')
    (hauthorities : file.authorityName = file'.authorityName) :
    ToldAlike kind file file' drafted drafted' := by
  obtain ⟨filled, hfilled, rfl⟩ := TemplatedDrafter.draft_eq_ok_iff.mp hdrafted
  obtain ⟨filled', hfilled', rfl⟩ :=
    TemplatedDrafter.draft_eq_ok_iff.mp hdrafted'
  rw [hfill] at hfilled hfilled'
  obtain ⟨number, authority, ending, last, hnumber, hauthority, hending, hlast,
    rfl⟩ :=
    fillSupervisionWith_eq_ok_iff.mp hfilled
  obtain ⟨number', authority', ending', last', hnumber', hauthority', hending',
    hlast', rfl⟩ :=
    fillSupervisionWith_eq_ok_iff.mp hfilled'
  rw [hauthority, hauthority'] at hauthorities
  obtain rfl := Except.ok.inj hauthorities
  refine ⟨number, number', ending, ending', ⟨hnumber, hending⟩,
    ⟨hnumber', hending'⟩, ?_⟩
  dsimp only [Particulars.worded]
  rw [Option.some_inj, supervisionStart_append_eq_iff,
    htells ending ending' last last' hlast hlast']

/-- The body of an order that ends, written in one language for one authority,
tells its end and whether it is about one child or several, and nothing else. -/
theorem details_tell_end
    {order : Order} {kind : Answers → Option EndKind}
    (hkind : order.endAnswer? = some kind)
    {drafter : Drafter} (hdrafter : drafterFor? venues order = some drafter)
    (hdrafted : drafter.draft file language = .ok drafted)
    (hdrafted' : drafter.draft file' language = .ok drafted')
    (hauthority : file.localAuthorityName = file'.localAuthorityName) :
    ToldAlike kind file file' drafted drafted' := by
  have hauthorities : file.authorityName = file'.authorityName := by
    rw [CaseFile.authorityName, hauthority, CaseFile.authorityName]
  cases order with
  | blank | emergencyProtection | variationOfEmergencyProtection | care
    | dischargeOfCare | other => contradiction
  | interimCare =>
      obtain rfl := Option.some.inj hkind
      obtain rfl := Option.some.inj hdrafter
      exact toldAlike_interimCare hdrafted hdrafted' hauthorities
  | supervision =>
      obtain rfl := Option.some.inj hkind
      obtain rfl := Option.some.inj hdrafter
      exact toldAlike_of_fillSupervisionWith rfl
        (tellsEnds_supervisionEnd language) hdrafted
        hdrafted' hauthorities
  | interimSupervision =>
      obtain rfl := Option.some.inj hkind
      obtain rfl := Option.some.inj hdrafter
      exact toldAlike_of_fillSupervisionWith rfl
        (tellsEnds_interimSupervisionEnd language)
        hdrafted hdrafted' hauthorities

/-- Supervision of a single child until some second of the last minute of 2023.
-/
def supervisedTo (second : Nat) : CaseFile :=
  { localAuthorityName := some "Swansea City Council"
    children := [{ id := "1", party := {} }]
    answers := {
      endOrMonths := some .moment
      endMoment := do
        let date ← Date.of? 2023 12 31
        let time ← TimeOfDay.of? 23 59 second 0
        return { date, time } } }

/-- Ends that differ in their seconds only are told by one sentence. -/
theorem seconds_untold :
    ∃ drafted drafted',
      supervision.toDrafter.draft (supervisedTo 0) .english = .ok drafted ∧
      supervision.toDrafter.draft (supervisedTo 30) .english = .ok drafted' ∧
      ToldAlike (·.endOrMonths) (supervisedTo 0)
        (supervisedTo 30) drafted drafted' ∧
      drafted.details = drafted'.details := by
  have hkind : Order.supervision.endAnswer? = some (·.endOrMonths) := rfl
  have hdrafter : drafterFor? [] .supervision = some supervision.toDrafter :=
    rfl
  refine ⟨_, _, rfl, rfl, ?_, rfl⟩
  exact details_tell_end hkind hdrafter rfl rfl rfl

end Drafting

end FamilyOrders
