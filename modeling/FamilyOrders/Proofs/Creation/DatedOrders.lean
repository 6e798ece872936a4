import FamilyOrders.Calendar.Basic
import FamilyOrders.Proofs.CompleteCases
import FamilyOrders.Proofs.Creation.RenderedOrders
import FamilyOrders.Proofs.PrintedDates

/-!
# Dates that orders bear

The times of emergency orders, the end of an order that lasts for months, and
supervision counted from the date of issue.
-/

namespace FamilyOrders

open FamilyOrders.Calendar FamilyOrders.Drafting FamilyOrders.Text

/-! ## Beginning and end of emergency protection

An emergency protection order is accepted if it ends after its approval, to the
nanosecond, but both are printed to the minute.  So it never shows itself ending
before it was issued, and it shows itself ending when it was issued exactly if
it ends within the minute of its approval. -/

/-! ### Minutes -/

theorem Calendar.nanosPerSecond_pos : 0 < nanosPerSecond := by
  decide

theorem Calendar.Date.eq_of_parts
    {a b : Date} (hyear : a.year = b.year) (hmonth : a.month = b.month)
    (hday : a.day = b.day) : a = b := by
  cases a
  cases b
  cases hyear
  cases hmonth
  cases hday
  rfl

namespace Calendar.Moment

/-- The moment at which its minute begins, which is all that is printed of it.
-/
def onTheMinute (moment : Moment) : Moment :=
  { moment with
    time := { moment.time with
      second := ⟨0, Nat.succ_pos 59⟩
      nanos := 0
      nanos_lt := Nat.mul_pos Nat.two_pos nanosPerSecond_pos
      leap := fun hleap => absurd hleap nanosPerSecond_pos.not_ge } }

/-- Both lie in one minute of one day. -/
def SharesMinute (a b : Moment) : Prop :=
  a.date = b.date ∧ a.time.hour = b.time.hour ∧ a.time.minute = b.time.minute

/-- The number of the minute, which grows with time. -/
def minuteNumber (moment : Moment) : Int :=
  ((moment.date.monthNumber * 31 + moment.date.day) * 24 +
    moment.time.hour.val) * 60 +
    moment.time.minute.val

variable {a b : Moment} {language : Language}

theorem isAfter_iff : a.isAfter b = true ↔ b.rank < a.rank :=
  decide_eq_true_iff

theorem rank_eq (moment : Moment) :
    moment.rank = (moment.minuteNumber * 60 + moment.time.second.val) *
      (2 * nanosPerSecond) + moment.time.nanos :=
  rfl

theorem rank_onTheMinute (moment : Moment) :
    moment.onTheMinute.rank =
      moment.minuteNumber * 60 * (2 * nanosPerSecond) := by
  change (moment.minuteNumber * 60 + 0) * (2 * nanosPerSecond) + 0 = _
  rw [Int.add_zero, Int.add_zero]

theorem onTheMinute_isAfter_iff :
    a.onTheMinute.isAfter b.onTheMinute = true ↔
      b.minuteNumber < a.minuteNumber := by
  rw [isAfter_iff, rank_onTheMinute, rank_onTheMinute, nanosPerSecond]
  omega

/-- A minute has fewer than sixty seconds of twice a billion nanoseconds, leap
seconds among them. -/
theorem minuteNumber_le_of_isAfter (hafter : a.isAfter b = true) :
    b.minuteNumber ≤ a.minuteNumber := by
  have ha := a.time.nanos_lt
  rw [isAfter_iff, rank_eq, rank_eq] at hafter
  unfold nanosPerSecond at ha hafter
  omega

theorem minuteNumber_eq_iff :
    a.minuteNumber = b.minuteNumber ↔ a.SharesMinute b := by
  constructor
  · intro hsame
    have ha := a.date.day_le
    have hb := b.date.day_le
    have ha' := a.date.day_mem.1
    have hb' := b.date.day_mem.1
    unfold minuteNumber Date.monthNumber at hsame
    have hdate : a.date = b.date :=
      Date.eq_of_parts (by omega) (Fin.ext (by omega)) (by omega)
    exact ⟨hdate, Fin.ext (by omega), Fin.ext (by omega)⟩
  · rintro ⟨hdate, hhour, hminute⟩
    unfold minuteNumber
    rw [hdate, hhour, hminute]

/-- Of two moments, the later is also printed later, unless they share a minute.
-/
theorem onTheMinute_isAfter_iff_of_isAfter (hafter : a.isAfter b = true) :
    a.onTheMinute.isAfter b.onTheMinute = true ↔ ¬a.SharesMinute b := by
  have hle := minuteNumber_le_of_isAfter hafter
  rw [onTheMinute_isAfter_iff, ← minuteNumber_eq_iff]
  omega

theorem printed_onTheMinute (moment : Moment) (language : Language) :
    moment.onTheMinute.printed language = moment.printed language :=
  printed_eq_iff.mpr ⟨rfl, rfl, rfl⟩

end Calendar.Moment

/-! ### Orders -/

/-- The particulars show this moment of approval and this end, which comes after
it.  They show the end as the later one unless the two share a minute, and then
they show one text for both. -/
structure Particulars.RunsBetween (approved ends : Moment) (language : Language)
    (particulars : Particulars) : Prop where
  dateOfIssue_eq : particulars.dateOfIssue = some (approved.printed language)
  endsAt_eq :
    particulars.emergency.map (·.endsAt) = some (ends.printed language)
  ends_later : ends.isAfter approved = true
  shown_to_the_minute :
    approved.onTheMinute.printed language = approved.printed language ∧
      ends.onTheMinute.printed language = ends.printed language
  never_shown_before : approved.onTheMinute.isAfter ends.onTheMinute = false
  shown_later_iff :
    ends.onTheMinute.isAfter approved.onTheMinute = true ↔
      ¬ends.SharesMinute approved
  shown_alike_iff :
    particulars.dateOfIssue = particulars.emergency.map (·.endsAt) ↔
      ends.SharesMinute approved

theorem Particulars.runsBetween
    {particulars : Particulars} {approved ends : Moment} {language : Language}
    (hissued : particulars.dateOfIssue = some (approved.printed language))
    (hends :
      particulars.emergency.map (·.endsAt) = some (ends.printed language))
    (hlater : ends.isAfter approved = true) :
    particulars.RunsBetween approved ends language := by
  constructor
  case dateOfIssue_eq => exact hissued
  case endsAt_eq => exact hends
  case ends_later => exact hlater
  case shown_to_the_minute =>
    exact ⟨approved.printed_onTheMinute language,
      ends.printed_onTheMinute language⟩
  case never_shown_before =>
    rw [Bool.eq_false_iff, ne_eq, Moment.onTheMinute_isAfter_iff, Int.not_lt]
    exact Moment.minuteNumber_le_of_isAfter hlater
  case shown_later_iff => exact Moment.onTheMinute_isAfter_iff_of_isAfter hlater
  case shown_alike_iff =>
    rw [hissued, hends, Option.some.injEq, eq_comm]
    exact Moment.printed_eq_iff

/-- The particulars run from the moment of approval to the end that the case
gives. -/
def Particulars.RunsFor (file : CaseFile) (language : Language)
    (particulars : Particulars) : Prop :=
  ∃ approved ends, file.answers.approvalMoment = some approved ∧
    file.answers.emergencyEnd = some ends ∧
    particulars.RunsBetween approved ends language

variable {file : CaseFile} {language : Language}

/-- The stamper leaves both as they were drafted. -/
theorem runsFor_of_sameDraft
    {drafted stamped : Particulars} (hdrafted : drafted.RunsFor file language)
    (hsame : stamped.SameDraft drafted)
    (hdate :
      stamped.dateOfIssue =
        dateOfIssue drafted.dateOfIssue file.answers language) :
    stamped.RunsFor file language := by
  obtain ⟨approved, ends, happroved, hends, hruns⟩ := hdrafted
  have hwritten :
      nonBlank? drafted.dateOfIssue = some (approved.printed language) :=
    nonBlank?_eq_some_iff.mpr
      ⟨hruns.dateOfIssue_eq, approved.allBlank_printed language⟩
  rw [dateOfIssue_stays hwritten] at hdate
  refine ⟨approved, ends, happroved, hends,
    Particulars.runsBetween ?_ ?_ hruns.ends_later⟩
  · rw [hdate, hruns.dateOfIssue_eq]
  · rw [hsame.emergency, hruns.endsAt_eq]

namespace Drafting

theorem runsFor_of_fillEmergencyProtection
    {seed filled : Particulars}
    (hfilled : fillEmergencyProtection seed file language = .ok filled) :
    filled.RunsFor file language := by
  obtain ⟨number, authority, kind, approved, ends, sentence, exclusion, -, -, -,
    htimes, -, -, rfl⟩ := exists_of_fillEmergencyProtection hfilled
  obtain ⟨happroved, hends, hlater⟩ := emergencyTimes_eq_ok_iff.mp htimes
  exact ⟨approved, ends, happroved, hends,
    Particulars.runsBetween rfl rfl hlater⟩

theorem runsFor_of_draft
    {drafted : Particulars}
    (hdrafted : emergencyProtection.draft file language = .ok drafted) :
    drafted.RunsFor file language := by
  obtain ⟨filled, hfilled, rfl⟩ := TemplatedDrafter.draft_eq_ok_iff.mp hdrafted
  obtain ⟨approved, ends, happroved, hends, hruns⟩ :=
    runsFor_of_fillEmergencyProtection hfilled
  exact ⟨approved, ends, happroved, hends,
    Particulars.runsBetween hruns.dateOfIssue_eq hruns.endsAt_eq
      hruns.ends_later⟩

end Drafting

namespace Engine

/-- An emergency protection order that is drafted, in whatever language, or
handed to the renderer never shows itself ending before it was issued.  It shows
itself ending later unless it ends within the minute of its approval. -/
theorem emergency_runs
    (collaborators : Collaborators σ) (state : σ) (images : ImageSet)
    (courts venues : NameTable)
    (file : CaseFile) (status : OrderStatus) (format : FileFormat)
    (language : Language) :
    (∀ drafted, emergencyProtection.draft file language = .ok drafted →
      drafted.RunsFor file language) ∧
    ∀ exchange ∈ collaborators.exchangesFrom state
        ((standard images courts venues).generate · .emergencyProtection file
          status format language),
      ∃ layout stamped, exchange.call = .render layout format language stamped ∧
        stamped.RunsFor file language := by
  refine ⟨fun drafted => runsFor_of_draft, ?_⟩
  intro exchange hmem
  have hgeneration :=
    (standard images courts venues).generation_of_generate collaborators state
    .emergencyProtection file status format language
  obtain ⟨drafter, stamped, hwrites, hcall⟩ := hgeneration.exists_writes hmem
  obtain ⟨drafted, -, hdrafted, -, hsame, -, hdate⟩ := hwrites.exists_draft
  obtain rfl := Option.some.inj hwrites.drafter_eq
  exact ⟨_, stamped, hcall,
    runsFor_of_sameDraft (runsFor_of_draft hdrafted) hsame hdate⟩

/-- An order that ends half a minute after its approval. -/
def halfMinute : CaseFile :=
  { localAuthority := some "SA"
    localAuthorityName := some "Swansea City Council"
    children := [{ id := "1", party := {} }]
    answers := {
      order := some .emergencyProtection
      approvalMoment := do
        let date ← Date.of? 2021 6 5
        let time ← TimeOfDay.of? 14 30 0 0
        return { date, time }
      emergencyKind := some .removeToAccommodation
      emergencyEnd := do
        let date ← Date.of? 2021 6 5
        let time ← TimeOfDay.of? 14 30 30 0
        return { date, time } } }

/-- The order is drafted and rendered with one text for its date of issue and
its end. -/
theorem half_minute_shown_alike :
    (∃ drafted, emergencyProtection.draft halfMinute .english = .ok drafted ∧
      drafted.dateOfIssue = some "5 June 2021, 2:30pm" ∧
      drafted.emergency.map (·.endsAt) = some "5 June 2021, 2:30pm") ∧
    ∃ exchange ∈ Collaborators.obliging.exchangesFrom ()
        ((standard {} [("SA", "Family Court sitting at Swansea")] []).generate ·
          .emergencyProtection halfMinute .sealed .pdf .english),
      ∃ layout stamped, exchange.call = .render layout .pdf .english stamped ∧
        stamped.dateOfIssue = some "5 June 2021, 2:30pm" ∧
        stamped.emergency.map (·.endsAt) = some "5 June 2021, 2:30pm" := by
  refine ⟨⟨_, rfl, by decide, by decide⟩, _, List.mem_cons_self, _, _, rfl, ?_,
    ?_⟩
  · decide
  · decide

end Engine

/-! ## A number of months after approval

An end that lies a number of months after approval is found by counting months
from the first month of year zero.  The day of the month stays where the new
month has it, and otherwise the end is the last day of that month.  Such an end
lies after approval, more months end later, and only the last year of the
calendar bounds their number. -/

namespace Calendar

/-- The lengths of the months of the Gregorian calendar, months counted from
one. -/
def gregorianLength (year month : Int) : Nat :=
  if month = 2 then
    if 4 ∣ year ∧ (¬100 ∣ year ∨ 400 ∣ year) then 29 else 28
  else if month = 4 ∨ month = 6 ∨ month = 9 ∨ month = 11 then 30
  else 31

theorem isLeapYear_iff (year : Int) :
    isLeapYear year = true ↔ 4 ∣ year ∧ (¬100 ∣ year ∨ 400 ∣ year) := by
  simp only [isLeapYear, Int.dvd_iff_emod_eq_zero, Bool.and_eq_true,
    Bool.or_eq_true, bne_iff_ne, beq_iff_eq, ne_eq]

theorem daysInMonth_eq (year : Int) (month : Fin 12) :
    daysInMonth year month = gregorianLength year (month.val + 1) := by
  unfold daysInMonth gregorianLength
  simp only [← isLeapYear_iff]
  revert month
  cases isLeapYear year with
  | false => decide
  | true => decide

namespace Date

/-- One date lies before another one: in an earlier year, in an earlier month of
the same year, or on an earlier day of the same month. -/
def IsBefore (a b : Date) : Prop :=
  a.year < b.year ∨
    a.year = b.year ∧ (a.month < b.month ∨ a.month = b.month ∧ a.day < b.day)

theorem isBefore_of_monthNumber_lt
    {a b : Date} (hmonths : a.monthNumber < b.monthNumber) :
    a.IsBefore b := by
  unfold monthNumber at hmonths
  unfold IsBefore
  omega

/-- Counting from the first month of year zero, and keeping to the days that the
month has. -/
theorem addMonths?_eq_some_iff
    {date last : Date} {count : Nat} :
    date.addMonths? count = some last ↔
      last.monthNumber = date.monthNumber + count ∧
        last.day = min date.day (daysInMonth last.year last.month) := by
  unfold addMonths?
  dsimp only
  constructor
  · intro hlast
    split at hlast
    · cases hlast
      refine ⟨?_, rfl⟩
      dsimp only [monthNumber]
      omega
    · contradiction
  · rintro ⟨hnumber, hday⟩
    obtain ⟨year, month, day, hyear, hdays⟩ := last
    dsimp only [monthNumber] at hnumber hday
    have hyears : (date.monthNumber + count) / 12 = year := by
      rw [monthNumber, ← hnumber]
      omega
    have hmonths : ((date.monthNumber + count) % 12).toNat = month.val := by
      rw [monthNumber, ← hnumber]
      omega
    simp only [hyears, hmonths]
    rw [dif_pos hyear]
    simp only [Option.some.injEq, mk.injEq, true_and]
    exact hday.symm

/-- The year, the month and the day that lie a number of months later. -/
theorem parts_of_addMonths?
    {date last : Date} {count : Nat}
    (hlast : date.addMonths? count = some last) :
    let number := 12 * date.year + date.month.val + count
    last.year = number / 12 ∧ last.month.val + 1 = number % 12 + 1 ∧
      last.day = min date.day
        (gregorianLength last.year (last.month.val + 1)) := by
  obtain ⟨hnumber, hday⟩ := addMonths?_eq_some_iff.mp hlast
  unfold monthNumber at hnumber
  rw [daysInMonth_eq] at hday
  refine ⟨?_, ?_, hday⟩
  · omega
  · omega

theorem isBefore_of_addMonths?
    {date last further : Date} {count more : Nat} (hmore : count < more)
    (hlast : date.addMonths? count = some last)
    (hfurther : date.addMonths? more = some further) :
    last.IsBefore further := by
  apply isBefore_of_monthNumber_lt
  rw [(addMonths?_eq_some_iff.mp hlast).1,
    (addMonths?_eq_some_iff.mp hfurther).1]
  omega

theorem isBefore_of_addMonths?_pos
    {date last : Date} {count : Nat} (hcount : 0 < count)
    (hlast : date.addMonths? count = some last) :
    date.IsBefore last := by
  apply isBefore_of_monthNumber_lt
  rw [(addMonths?_eq_some_iff.mp hlast).1]
  omega

theorem addMonths?_eq_none_iff
    {date : Date} {count : Nat} :
    date.addMonths? count = none ↔
      lastYear < (date.monthNumber + count) / 12 := by
  rw [← Option.not_isSome_iff_eq_none, Option.isSome_iff_exists,
    addMonths?_isSome_iff]
  omega

end Date

end Calendar

namespace Answers

open FamilyOrders.Calendar FamilyOrders.Text

variable {answers : Answers} {approved : Date}

/-- The same answers, with this number of months to the end. -/
def withEndMonths (answers : Answers) (months : Option UInt32) : Answers :=
  { answers with endMonths := months }

/-- The end of an order that lasts for this number of months. -/
def endAfter (answers : Answers) (months : Option UInt32) :
    Except OrderError Ending :=
  (answers.withEndMonths months).ending (some .months)

theorem endAfter_of_unanswered
    {months : Option UInt32} (hmonths : months = none ∨ months = some 0) :
    answers.endAfter months = .error (.missingField .endMonths) := by
  rcases hmonths with rfl | rfl
  · rfl
  · rfl

theorem endAfter_of_answered
    {months : UInt32} (hmonths : 1 ≤ months)
    (happroved : answers.approvalDay = some approved) :
    answers.endAfter (some months) =
      match approved.addMonths? months.toNat with
      | some last => .ok (.afterMonths months last)
      | none => .error (.invalidInput (.monthsOutOfRange months)) := by
  have hpositive : 0 < months := UInt32.lt_of_lt_of_le (by decide) hmonths
  have happroved' :
      (answers.withEndMonths (some months)).approvalDay = some approved :=
    happroved
  have hgiven :
      (answers.withEndMonths (some months)).endMonths.filter
          (fun months => 0 < months) =
        some months := by
    simp [withEndMonths, hpositive]
  change (answers.withEndMonths (some months)).endAfterMonths = _
  rw [endAfterMonths, hgiven, happroved']
  rfl

theorem endAfter_eq_ok_iff
    {months : UInt32} (hmonths : 1 ≤ months)
    (happroved : answers.approvalDay = some approved) {last : Date} :
    answers.endAfter (some months) = .ok (.afterMonths months last) ↔
      approved.addMonths? months.toNat = some last := by
  rw [endAfter_of_answered hmonths happroved]
  cases approved.addMonths? months.toNat <;> simp

/-- The end of an order approved on a day and lasting for a number of months: as
many months after that of the approval, on the same day of the month or else on
the last one.  Without a positive number it is asked for, and one that leads out
of the calendar is refused; any other gives an end after the approval, and a
larger one a later end. -/
theorem endAfter_months
    (answers : Answers) {approved : Date}
    (happroved : answers.approvalDay = some approved) :
    (∀ unanswered : Option UInt32, unanswered = none ∨ unanswered = some 0 →
      answers.endAfter unanswered = .error (.missingField .endMonths)) ∧
    ∀ months : UInt32, 1 ≤ months →
      let number := 12 * approved.year + approved.month.val + months.toNat
      let year := number / 12
      let month := number % 12 + 1
      let day := min approved.day (gregorianLength year month)
      (year ≤ lastYear →
        ∃ last,
          answers.endAfter (some months) = .ok (.afterMonths months last) ∧
          last.year = year ∧ last.month.val + 1 = month ∧ last.day = day ∧
          (∀ language, last.printed language =
            String.ofList (digits day ++ ' ' ::
              (monthName language last.month).toList ++
              ' ' :: printedYear language year)) ∧
          approved.IsBefore last ∧
          ∀ more further, months < more →
            answers.endAfter (some more) = .ok (.afterMonths more further) →
            last.IsBefore further) ∧
      (lastYear < year →
        answers.endAfter (some months) =
          .error (.invalidInput (.monthsOutOfRange months))) := by
  refine ⟨fun unanswered => endAfter_of_unanswered, ?_⟩
  intro months hmonths number year month day
  have hnone : approved.addMonths? months.toNat = none ↔ lastYear < year :=
    Date.addMonths?_eq_none_iff
  constructor
  · intro hyear
    obtain ⟨last, hlast⟩ :
      ∃ last, approved.addMonths? months.toNat = some last := by
      rw [← Option.ne_none_iff_exists', ne_eq, hnone]
      exact Int.not_lt.mpr hyear
    obtain ⟨hyears, hmonth, hday⟩ :
        last.year = year ∧ last.month.val + 1 = month ∧
          last.day = min approved.day
            (gregorianLength last.year (last.month.val + 1)) :=
      Date.parts_of_addMonths? hlast
    rw [hyears, hmonth] at hday
    have hprinted : ∀ language, last.printed language =
        String.ofList (digits day ++ ' ' ::
          (monthName language last.month).toList ++
          ' ' :: printedYear language year) := by
      intro language
      rw [Date.printed, Date.printedChars, hday, hyears]
    have hafter : approved.IsBefore last := by
      have hpositive : 1 ≤ months.toNat := UInt32.le_iff_toNat_le.mp hmonths
      exact Date.isBefore_of_addMonths?_pos hpositive hlast
    refine ⟨last, (endAfter_eq_ok_iff hmonths happroved).mpr hlast, hyears,
      hmonth, hday, hprinted, hafter, ?_⟩
    intro more further hmore hfurther
    have hmore' : months.toNat < more.toNat := UInt32.lt_iff_toNat_lt.mp hmore
    have hlarge : 1 ≤ more := UInt32.le_trans hmonths (UInt32.le_of_lt hmore)
    exact Date.isBefore_of_addMonths? hmore' hlast
      ((endAfter_eq_ok_iff hlarge happroved).mp hfurther)
  · intro hyear
    rw [endAfter_of_answered hmonths happroved, hnone.mpr hyear]

def lastOfDecember : Moment :=
  { date := (Date.of? 2023 12 31).get (by decide)
    time := (TimeOfDay.of? 23 59 59 0).get (by decide) }

/-- Two months after the last day of a year is the leap day of the next one, and
the largest number of months leads out of the calendar. -/
theorem leap_day_after_last_of_december :
    let answers : Answers := { approvalMoment := some lastOfDecember }
    answers.approvalDay = some lastOfDecember.date ∧
      (∃ last, answers.endAfter (some 2) = .ok (.afterMonths 2 last) ∧
        last.year = 2024 ∧ last.month.val + 1 = (2 : Int) ∧ last.day = 29 ∧
        lastOfDecember.date.IsBefore last) ∧
      answers.endAfter (some 4294967295) =
        .error (.invalidInput (.monthsOutOfRange 4294967295)) := by
  intro answers
  have happroved : answers.approvalDay = some lastOfDecember.date := rfl
  obtain ⟨-, hlaw⟩ := endAfter_months answers happroved
  obtain ⟨last, hlast, hyear, hmonth, hday, -, hafter, -⟩ :=
    (hlaw 2 (by decide)).1 (by decide)
  exact ⟨happroved, ⟨last, hlast, hyear, hmonth, hday, hafter⟩,
    (hlaw 4294967295 (by decide)).2 (by decide)⟩

end Answers

/-! ## Supervision counted from the date of issue

The end of a supervision order that lasts for a number of months is counted by
its drafter, and its date of issue is printed by the stamper.  Both go back to
one day of approval, so that the sentence counts from the very date that the
order bears. -/

/-- The particulars bear this date, and their body says in so many words that
supervision lasts for this number of months from that date, until the day that
lies so many months later. -/
structure Particulars.SupervisesFrom (issued : Date) (months : UInt32)
    (file : CaseFile) (language : Language)
    (particulars : Particulars) : Prop where
  dateOfIssue_eq : particulars.dateOfIssue = some (issued.printed language)
  details_eq :
    ∃ (number : GrammaticalNumber) (authority : String) (last : Date),
      file.grammaticalNumber = .ok number ∧ file.authorityName = .ok authority ∧
      last.year = (12 * issued.year + issued.month.val + months.toNat) / 12 ∧
      last.month.val + 1 =
        (12 * issued.year + issued.month.val + months.toNat) % 12 + 1 ∧
      last.day = min issued.day
        (gregorianLength last.year (last.month.val + 1)) ∧
      particulars.details =
        some (match language with
          | .english =>
            "The Court orders " ++ authority ++ " to supervise the " ++
              number.child .english ++ " for " ++ toString months.toNat ++
              (if months = 1 then " month" else " months") ++
              " from the date of this order until " ++ last.printed .english ++
                "."
          | .welsh =>
            "Mae'r Llys yn gorchymyn i " ++ authority ++ " oruchwylio'r " ++
              number.child .welsh ++ " am " ++ toString months.toNat ++
              " mis o ddyddiad y gorchymyn hwn tan " ++ last.printed .welsh ++
                ".")

theorem supervisionForMonths_english
    (number : GrammaticalNumber) (authority : String) (months : UInt32)
    (last : Date) :
    supervisionStart .english number authority ++
        supervisionForMonths .english months last =
      "The Court orders " ++ authority ++ " to supervise the " ++
        number.child .english ++ " for " ++ toString months.toNat ++
        (if months = 1 then " month" else " months") ++
        " from the date of this order until " ++ last.printed .english ++
          "." := by
  have hmonths : " " ++ monthsWord months =
      if months = 1 then " month" else " months" := by
    unfold monthsWord
    split
    · rfl
    · rfl
  rw [← hmonths]
  unfold supervisionStart supervisionForMonths
  rw [← String.toList_inj]
  simp

theorem supervisionForMonths_welsh
    (number : GrammaticalNumber) (authority : String) (months : UInt32)
    (last : Date) :
    supervisionStart .welsh number authority ++
        supervisionForMonths .welsh months last =
      "Mae'r Llys yn gorchymyn i " ++ authority ++ " oruchwylio'r " ++
        number.child .welsh ++ " am " ++ toString months.toNat ++
        " mis o ddyddiad y gorchymyn hwn tan " ++ last.printed .welsh ++
          "." := by
  unfold supervisionStart supervisionForMonths
  rw [← String.toList_inj]
  simp

theorem Answers.endAfterMonths_eq_ok_iff
    {answers : Answers} {ending : Ending} :
    answers.endAfterMonths = .ok ending ↔
      ∃ months approved last, answers.endMonths = some months ∧ 0 < months ∧
        answers.approvalDay = some approved ∧
        approved.addMonths? months.toNat = some last ∧
        .afterMonths months last = ending := by
  simp only [endAfterMonths, bind_eq_ok_iff, need_eq_ok_iff,
    Option.filter_eq_some_iff, decide_eq_true_eq]
  constructor
  · rintro ⟨months, ⟨hmonths, hpositive⟩, approved, happroved, hending⟩
    cases hlast : approved.addMonths? months.toNat with
    | none =>
        rw [hlast] at hending
        contradiction
    | some last =>
        rw [hlast] at hending
        exact ⟨months, approved, last, hmonths, hpositive, happroved, hlast,
          Except.ok.inj hending⟩
  · rintro ⟨months, approved, last, hmonths, hpositive, happroved, hlast, rfl⟩
    refine ⟨months, ⟨hmonths, hpositive⟩, approved, happroved, ?_⟩
    rw [hlast]
    rfl

namespace Engine

variable {images : ImageSet} {courts venues : NameTable} {order : Order}
  {file : CaseFile}
  {status : OrderStatus} {language : Language} {drafter : Drafter}
  {stamped : Particulars}

/-- An order with Welsh wording bears its day of approval. -/
theorem Writes.exists_issued
    (hwelsh : order.hasWelsh = true)
    (hwrites :
      Writes images courts venues order file status language drafter stamped) :
    ∃ issued, file.answers.approvalDay = some issued ∧
      stamped.dateOfIssue = some (issued.printed language) := by
  obtain ⟨drafted, -, hdrafted, -, -, -, hdate⟩ := hwrites.exists_draft
  obtain ⟨issued, hissued, -⟩ := hwrites.complete.dateOfIssue_written
  rw [undated_of_draft hwelsh hwrites.drafter_eq hdrafted] at hdate
  rw [hdate] at hissued ⊢
  obtain ⟨day, hday, rfl⟩ := dateOfIssue_none_eq_some_iff.mp hissued
  exact ⟨day, hday, hissued⟩

theorem Writes.supervisesFrom
    (hkind : file.answers.endOrMonths = some .months)
    (hwrites :
      Writes images courts venues .supervision file status language drafter
        stamped) :
    ∃ issued months, file.answers.approvalDay = some issued ∧
      file.answers.endMonths = some months ∧
      stamped.SupervisesFrom issued months file language := by
  obtain ⟨issued, hissued, hdate⟩ := hwrites.exists_issued rfl
  obtain ⟨drafted, -, hdrafted, -, hsame, -, -⟩ := hwrites.exists_draft
  obtain rfl := Option.some.inj hwrites.drafter_eq
  obtain ⟨filled, hfilled, rfl⟩ := TemplatedDrafter.draft_eq_ok_iff.mp hdrafted
  obtain ⟨number, authority, ending, sentence, hnumber, hauthority, hending,
    hsentence, rfl⟩ :=
    fillSupervisionWith_eq_ok_iff.mp hfilled
  rw [hkind] at hending
  obtain ⟨months, approved, last, hmonths, -, happroved, hlast, rfl⟩ :=
    Answers.endAfterMonths_eq_ok_iff.mp hending
  -- The drafter and the stamper have read the day of approval alike.
  rw [hissued] at happroved
  obtain rfl := Option.some.inj happroved
  obtain rfl := Except.ok.inj hsentence
  obtain ⟨hyear, hmonth, hday⟩ := Date.parts_of_addMonths? hlast
  refine ⟨issued, months, hissued, hmonths, hdate, number, authority, last,
    hnumber, hauthority, hyear, hmonth, hday, ?_⟩
  rw [hsame.details]
  cases language with
  | english => exact congrArg some (supervisionForMonths_english ..)
  | welsh => exact congrArg some (supervisionForMonths_welsh ..)

/-- A supervision order for a number of months is rendered with a date of issue
and a sentence that counts the months from it. -/
theorem generate_supervisesFrom
    (collaborators : Collaborators σ) (state : σ) (images : ImageSet)
    (courts venues : NameTable)
    {file : CaseFile} (hkind : file.answers.endOrMonths = some .months)
    (status : OrderStatus) (format : FileFormat) (language : Language) :
    ∀ exchange ∈ collaborators.exchangesFrom state
        ((standard images courts venues).generate · .supervision file status
          format language),
      ∃ layout stamped issued months,
        exchange.call = .render layout format language stamped ∧
        file.answers.approvalDay = some issued ∧
        file.answers.endMonths = some months ∧
        stamped.SupervisesFrom issued months file language := by
  intro exchange hmem
  have hgeneration :=
    (standard images courts venues).generation_of_generate collaborators state
    .supervision file status format language
  obtain ⟨drafter, stamped, hwrites, hcall⟩ := hgeneration.exists_writes hmem
  obtain ⟨issued, months, hissued, hmonths, hsupervises⟩ :=
    hwrites.supervisesFrom hkind
  exact ⟨drafter.layout, stamped, issued, months, hcall, hissued, hmonths,
    hsupervises⟩

/-- Supervision for a month, approved on the last day of January by one answer
and in June by the other. -/
def approvedTwice : CaseFile :=
  { localAuthority := some "SA"
    localAuthorityName := some "Swansea City Council"
    children := [{ id := "1", party := {} }]
    answers := {
      approvalDate := Date.of? 2024 1 31
      approvalMoment := do
        let date ← Date.of? 2024 6 5
        let time ← TimeOfDay.of? 14 30 0 0
        return { date, time }
      endOrMonths := some .months
      endMonths := some 1 } }

/-- Of two days of approval, the date that the order bears is the one that its
month is counted from; it ends on the leap day. -/
theorem approved_twice_supervised :
    approvedTwice.answers.endOrMonths = some .months ∧
      ∃ exchange ∈ Collaborators.obliging.exchangesFrom ()
          ((standard {} [("SA", "Family Court sitting at Swansea")]
            []).generate · .supervision approvedTwice .sealed .pdf .english),
        ∃ layout stamped issued,
          exchange.call = .render layout .pdf .english stamped ∧
          issued.year = 2024 ∧ issued.month = 0 ∧ issued.day = 31 ∧
          stamped.SupervisesFrom issued 1 approvedTwice .english ∧
          stamped.dateOfIssue = some "31 January 2024" ∧
          stamped.details =
            some ("The Court orders Swansea City Council to supervise the " ++
              "child for 1 month from the date of this order until " ++
              "29 February 2024.") := by
  have hkind : approvedTwice.answers.endOrMonths = some .months := rfl
  have hlaw := generate_supervisesFrom .obliging () {}
    [("SA", "Family Court sitting at Swansea")] [] hkind .sealed .pdf .english
  refine ⟨hkind, _, List.mem_cons_self, ?_⟩
  obtain ⟨layout, stamped, issued, months, hcall, hissued, hmonths,
    hsupervises⟩ :=
    hlaw _ List.mem_cons_self
  obtain rfl := Option.some.inj hissued
  obtain rfl := Option.some.inj hmonths
  obtain ⟨number, authority, last, hnumber, hauthority, hyear, hmonth, hday,
    hdetails⟩ := hsupervises.details_eq
  obtain rfl := Except.ok.inj hnumber
  obtain rfl := Except.ok.inj hauthority
  have hleap : last.printed .english = "29 February 2024" := by
    change last.year = 2024 at hyear
    change (last.month.val : Int) + 1 = 2 at hmonth
    have hsecond : last.month = 1 := by
      apply Fin.ext
      change last.month.val = 1
      omega
    rw [hyear, hsecond] at hday
    unfold Date.printed Date.printedChars
    rw [hyear, hsecond, hday]
    rfl
  refine ⟨layout, stamped, _, hcall, rfl, rfl, rfl, hsupervises, ?_, ?_⟩
  · rw [hsupervises.dateOfIssue_eq]
    rfl
  · rw [hdetails]
    dsimp only
    rw [hleap]
    rfl

end Engine

end FamilyOrders
