import FamilyOrders.Creation.Basic
import FamilyOrders.Proofs.Actions
import FamilyOrders.Proofs.Encodings
import FamilyOrders.Proofs.PrintedDates

/-!
# Stamping

What the stamper does to the particulars, however often it is done, and the
judge that it prints.
-/

namespace FamilyOrders

open FamilyOrders.Calendar FamilyOrders.Text

/-! ## Stamping again and again

Particulars may be stamped many times, for any cases, statuses and languages,
and a stamping that fails leaves them as they are.  What such a history leaves
behind is what one stamping would have made of the drafted particulars, the last
one that succeeded.  Only the date of issue is older: the first success settles
it. -/

/-- A case to stamp particulars for, in some status and language. -/
structure Stamping where
  file : CaseFile
  status : OrderStatus
  language : Language
  deriving DecidableEq

/-- Agreement on all that drafters alone write. -/
structure Particulars.SameDraft (a b : Particulars) : Prop where
  order : a.order = b.order
  title : a.title = b.title
  legalBasis : a.legalBasis = b.legalBasis
  details : a.details = b.details
  furtherDirections : a.furtherDirections = b.furtherDirections
  localAuthorityName : a.localAuthorityName = b.localAuthorityName
  emergency : a.emergency = b.emergency

theorem Particulars.SameDraft.refl (a : Particulars) : a.SameDraft a := by
  constructor <;> rfl

theorem Particulars.SameDraft.symm
    {a b : Particulars} (hab : a.SameDraft b) :
    b.SameDraft a where
  order := hab.order.symm
  title := hab.title.symm
  legalBasis := hab.legalBasis.symm
  details := hab.details.symm
  furtherDirections := hab.furtherDirections.symm
  localAuthorityName := hab.localAuthorityName.symm
  emergency := hab.emergency.symm

theorem Particulars.SameDraft.trans
    {a b c : Particulars} (hab : a.SameDraft b) (hbc : b.SameDraft c) :
    a.SameDraft c where
  order := hab.order.trans hbc.order
  title := hab.title.trans hbc.title
  legalBasis := hab.legalBasis.trans hbc.legalBasis
  details := hab.details.trans hbc.details
  furtherDirections := hab.furtherDirections.trans hbc.furtherDirections
  localAuthorityName := hab.localAuthorityName.trans hbc.localAuthorityName
  emergency := hab.emergency.trans hbc.emergency

/-- Drafters and stampers both date an order, so a date is no part of the draft.
-/
theorem Particulars.SameDraft.dated
    {a b : Particulars} (hab : a.SameDraft b) (issued issued' : Option String) :
    ({ a with dateOfIssue := issued } : Particulars).SameDraft
      { b with dateOfIssue := issued' } where
  order := hab.order
  title := hab.title
  legalBasis := hab.legalBasis
  details := hab.details
  furtherDirections := hab.furtherDirections
  localAuthorityName := hab.localAuthorityName
  emergency := hab.emergency

/-! ### The date of issue -/

theorem allBlank_of_dateOfIssue
    {current : Option String} {answers : Answers} {language : Language}
    {issued : String}
    (hissued : dateOfIssue current answers language = some issued) :
    allBlank issued = false := by
  cases hcurrent : nonBlank? current with
  | some text =>
      rw [dateOfIssue, filledOr_of_nonBlank _ hcurrent] at hissued
      obtain ⟨htext, hblank⟩ := nonBlank?_eq_some_iff.mp hcurrent
      rw [htext] at hissued
      obtain rfl := Option.some.inj hissued
      exact hblank
  | none =>
      rw [dateOfIssue, filledOr_of_blank _ hcurrent] at hissued
      obtain ⟨day, -, rfl⟩ := Option.map_eq_some_iff.mp hissued
      exact day.allBlank_printed language

theorem dateOfIssue_stays
    {current : Option String} {issued : String}
    (hissued : nonBlank? current = some issued) (answers : Answers)
    (language : Language) : dateOfIssue current answers language = current :=
  filledOr_of_nonBlank _ hissued

namespace Stamper

variable {stamper : Stamper} {particulars stamped : Particulars}
  {stamping : Stamping}

/-! ### One stamping -/

theorem court_eq_ok_iff
    {file : CaseFile} {court : String} :
    stamper.court file = .ok court ↔
      ∃ authority, nonBlank? file.localAuthority = some authority ∧
        stamper.courts.name? authority = some court := by
  rw [Stamper.court, bind_eq_ok_iff]
  simp only [need_eq_ok_iff]
  refine exists_congr fun authority => and_congr_right fun _ => ?_
  rw [courtName]
  cases stamper.courts.name? authority <;> simp

def perform (stamper : Stamper) (stamping : Stamping)
    (particulars : Particulars) : Except OrderError Particulars :=
  stamper.stamp particulars stamping.file stamping.status stamping.language

/-- The particulars with all common fields made anew. -/
def marked (stamper : Stamper) (stamping : Stamping) (children : List Child)
    (court issued : String) (particulars : Particulars) : Particulars :=
  { particulars with
    courtName := some court
    familyManNumber := stamping.file.familyManNumber
    caseNumber := some (caseNumber stamping.file.id)
    judge :=
      (selectedJudge stamping.file.answers.judge
        stamping.file.allocatedJudge).map (·.particulars)
    children := children.map (·.particulars stamping.language)
    dateOfIssue := some issued
    crest := some stamper.images.crest
    draftWatermark := stamper.watermark stamping.status
    courtSeal := stamper.courtSeal stamping.language stamping.status }

/-- A stamping succeeds when the children, the court and a date of issue can be
told. -/
theorem perform_eq_ok_iff :
    stamper.perform stamping particulars = .ok stamped ↔
      ∃ children court issued,
        stamping.file.selectedChildren = .ok children ∧
        stamper.court stamping.file = .ok court ∧
        dateOfIssue particulars.dateOfIssue stamping.file.answers
          stamping.language =
            some issued ∧
        stamper.marked stamping children court issued particulars =
          stamped := by
  simp only [perform, stamp, bind_eq_ok_iff, need_eq_ok_iff, pure, Except.pure,
    Except.ok.injEq]
  constructor
  · rintro ⟨children, hchildren, court, hcourt, issued, hissued, hstamped⟩
    exact ⟨children, court, issued, hchildren, hcourt, hissued, hstamped⟩
  · rintro ⟨children, court, issued, hchildren, hcourt, hissued, hstamped⟩
    exact ⟨children, hchildren, court, hcourt, issued, hissued, hstamped⟩

theorem sameDraft_marked
    (stamping : Stamping) (children : List Child) (court issued : String) :
    (stamper.marked stamping children court issued particulars).SameDraft
    particulars := by
  constructor <;> rfl

/-- Nothing but the draft and the date shows through new marks. -/
theorem marked_congr
    {a b : Particulars} (hdraft : a.SameDraft b)
    (stamping : Stamping) (children : List Child) (court issued : String) :
    stamper.marked stamping children court issued a =
      stamper.marked stamping children court issued b := by
  obtain ⟨horder, htitle, hbasis, hdetails, hfurther, hauthority, hemergency⟩ :=
    hdraft
  simp only [marked, horder, htitle, hbasis, hdetails, hfurther, hauthority,
    hemergency]

theorem sameDraft_of_perform
    (hperform : stamper.perform stamping particulars = .ok stamped) :
    stamped.SameDraft particulars := by
  obtain ⟨children, court, issued, -, -, -, rfl⟩ :=
    perform_eq_ok_iff.mp hperform
  exact sameDraft_marked stamping children court issued

theorem dateOfIssue_of_perform
    (hperform : stamper.perform stamping particulars = .ok stamped) :
    stamped.dateOfIssue =
      dateOfIssue particulars.dateOfIssue stamping.file.answers
        stamping.language := by
  obtain ⟨children, court, issued, -, -, hissued, rfl⟩ :=
    perform_eq_ok_iff.mp hperform
  exact hissued.symm

theorem nonBlank_of_perform
    (hperform : stamper.perform stamping particulars = .ok stamped) :
    ∃ issued, nonBlank? stamped.dateOfIssue = some issued := by
  obtain ⟨children, court, issued, -, -, hissued, rfl⟩ :=
    perform_eq_ok_iff.mp hperform
  exact ⟨issued, nonBlank?_eq_some_iff.mpr
    ⟨rfl, allBlank_of_dateOfIssue hissued⟩⟩

theorem marks_of_perform
    (hperform : stamper.perform stamping particulars = .ok stamped) :
    stamped.draftWatermark = stamper.watermark stamping.status ∧
      stamped.courtSeal =
        stamper.courtSeal stamping.language stamping.status := by
  obtain ⟨children, court, issued, -, -, -, rfl⟩ :=
    perform_eq_ok_iff.mp hperform
  exact ⟨rfl, rfl⟩

/-- A stamping does not see the marks that others have left. -/
theorem perform_congr
    {a b : Particulars} (hdraft : a.SameDraft b)
    (hdate : a.dateOfIssue = b.dateOfIssue)
    (hperform : stamper.perform stamping a = .ok stamped) :
    stamper.perform stamping b = .ok stamped := by
  obtain ⟨children, court, issued, hchildren, hcourt, hissued, hstamped⟩ :=
    perform_eq_ok_iff.mp hperform
  refine perform_eq_ok_iff.mpr ⟨children, court, issued, hchildren, hcourt, ?_,
    ?_⟩
  · rw [← hdate]
    exact hissued
  · rw [← marked_congr hdraft]
    exact hstamped

/-- The date that a stamping settled might as well have been there before. -/
theorem perform_preset
    (hperform : stamper.perform stamping particulars = .ok stamped) :
    stamper.perform stamping
      { particulars with dateOfIssue := stamped.dateOfIssue } =
        .ok stamped := by
  obtain ⟨settled, hsettled⟩ := nonBlank_of_perform hperform
  obtain ⟨children, court, issued, hchildren, hcourt, hissued, rfl⟩ :=
    perform_eq_ok_iff.mp hperform
  exact perform_eq_ok_iff.mpr
    ⟨children, court, issued, hchildren, hcourt, dateOfIssue_stays hsettled _ _,
      rfl⟩

theorem perform_again
    (hperform : stamper.perform stamping particulars = .ok stamped) :
    stamper.perform stamping stamped = .ok stamped := by
  have hdraft := (sameDraft_of_perform hperform).symm
  have hdated := hdraft.dated stamped.dateOfIssue stamped.dateOfIssue
  exact perform_congr hdated rfl (perform_preset hperform)

/-- Once there is a date, approval is not asked for any more. -/
theorem perform_succeeds_iff_of_date
    {issued : String} (hdate :
      nonBlank? particulars.dateOfIssue = some issued) :
    (∃ stamped, stamper.perform stamping particulars = .ok stamped) ↔
      (∃ children, stamping.file.selectedChildren = .ok children) ∧
        ∃ court, stamper.court stamping.file = .ok court := by
  constructor
  · rintro ⟨stamped, hperform⟩
    obtain ⟨children, court, -, hchildren, hcourt, -, -⟩ :=
      perform_eq_ok_iff.mp hperform
    exact ⟨⟨children, hchildren⟩, ⟨court, hcourt⟩⟩
  · rintro ⟨⟨children, hchildren⟩, ⟨court, hcourt⟩⟩
    have hissued :
        dateOfIssue particulars.dateOfIssue stamping.file.answers
          stamping.language =
            some issued := by
      rw [dateOfIssue_stays hdate]
      exact (nonBlank?_eq_some_iff.mp hdate).1
    exact ⟨_, perform_eq_ok_iff.mpr
      ⟨children, court, issued, hchildren, hcourt, hissued, rfl⟩⟩

/-! ### Histories -/

def afterOne (stamper : Stamper) (particulars : Particulars)
    (stamping : Stamping) : Particulars :=
  match stamper.perform stamping particulars with
  | .ok stamped => stamped
  | .error _ => particulars

def afterAll (stamper : Stamper) (particulars : Particulars)
    (history : List Stamping) :
    Particulars :=
  history.foldl stamper.afterOne particulars

/-- The stampings of a history that succeed, each on what those before it have
left. -/
def successes (stamper : Stamper) (particulars : Particulars) :
    List Stamping → List Stamping
  | [] => []
  | stamping :: later =>
      match stamper.perform stamping particulars with
      | .ok stamped => stamping :: stamper.successes stamped later
      | .error _ => stamper.successes particulars later

theorem afterOne_of_ok
    (hperform : stamper.perform stamping particulars = .ok stamped) :
    stamper.afterOne particulars stamping = stamped := by
  rw [afterOne, hperform]

theorem afterOne_of_error
    {error : OrderError}
    (hperform : stamper.perform stamping particulars = .error error) :
    stamper.afterOne particulars stamping = particulars := by
  rw [afterOne, hperform]

theorem successes_cons_of_ok
    (hperform : stamper.perform stamping particulars = .ok stamped)
    (later : List Stamping) :
    stamper.successes particulars (stamping :: later) =
      stamping :: stamper.successes stamped later := by
  rw [successes, hperform]

theorem successes_cons_of_error
    {error : OrderError}
    (hperform : stamper.perform stamping particulars = .error error)
    (later : List Stamping) :
    stamper.successes particulars (stamping :: later) =
      stamper.successes particulars later := by
  rw [successes, hperform]

theorem afterAll_of_successes_eq_nil
    {history : List Stamping}
    (hnone : stamper.successes particulars history = []) :
    stamper.afterAll particulars history = particulars := by
  induction history with
  | nil => rfl
  | cons stamping later ih =>
      cases hperform : stamper.perform stamping particulars with
      | ok stamped =>
          rw [successes_cons_of_ok hperform] at hnone
          contradiction
      | error error =>
          rw [successes_cons_of_error hperform] at hnone
          rw [afterAll, List.foldl_cons, afterOne_of_error hperform]
          exact ih hnone

theorem sameDraft_afterOne (particulars : Particulars) (stamping : Stamping) :
    (stamper.afterOne particulars stamping).SameDraft particulars := by
  cases hperform : stamper.perform stamping particulars with
  | ok stamped =>
      rw [afterOne_of_ok hperform]
      exact sameDraft_of_perform hperform
  | error error =>
      rw [afterOne_of_error hperform]
      exact .refl particulars

theorem sameDraft_afterAll (particulars : Particulars)
    (history : List Stamping) :
    (stamper.afterAll particulars history).SameDraft particulars := by
  induction history generalizing particulars with
  | nil => exact .refl particulars
  | cons stamping later ih =>
      rw [afterAll, List.foldl_cons]
      exact (ih _).trans (sameDraft_afterOne particulars stamping)

/-- The last success alone gives what the whole history gives, once the date of
the first success is set. -/
theorem perform_last
    {history : List Stamping} {first last : Stamping}
    (hfirst : (stamper.successes particulars history).head? = some first)
    (hlast : (stamper.successes particulars history).getLast? = some last) :
    stamper.perform last
        { particulars with
          dateOfIssue :=
            dateOfIssue particulars.dateOfIssue first.file.answers
              first.language } =
      .ok (stamper.afterAll particulars history) := by
  induction history generalizing particulars first with
  | nil => simp [successes] at hfirst
  | cons stamping later ih =>
      rw [afterAll, List.foldl_cons]
      cases hperform : stamper.perform stamping particulars with
      | error error =>
          rw [successes_cons_of_error hperform] at hfirst hlast
          rw [afterOne_of_error hperform]
          exact ih hfirst hlast
      | ok stamped =>
          rw [successes_cons_of_ok hperform] at hfirst hlast
          rw [afterOne_of_ok hperform]
          obtain rfl : stamping = first := by simpa using hfirst
          have hpreset := perform_preset hperform
          rw [dateOfIssue_of_perform hperform] at hpreset
          cases hlater : stamper.successes stamped later with
          | nil =>
              obtain rfl : stamping = last := by simpa [hlater] using hlast
              rw [show later.foldl stamper.afterOne stamped = stamped from
                afterAll_of_successes_eq_nil hlater]
              exact hpreset
          | cons second others =>
              rw [hlater, List.getLast?_cons_cons] at hlast
              have hsecond :
                  (stamper.successes stamped later).head? = some second := by
                rw [hlater]
                rfl
              have hbag := ih hsecond (by rw [hlater]; exact hlast)
              obtain ⟨issued, hissued⟩ := nonBlank_of_perform hperform
              -- the date settled by the first success outlives all later ones
              have hdate := dateOfIssue_of_perform hperform
              refine perform_congr ((sameDraft_of_perform hperform).dated _ _)
                ?_ hbag
              rw [← hdate]
              exact dateOfIssue_stays hissued _ _

/-- A stamping that has succeeded succeeds again and then changes nothing,
whatever has failed since then. -/
theorem perform_last_again
    {history : List Stamping} {last : Stamping}
    (hlast : (stamper.successes particulars history).getLast? = some last) :
    stamper.perform last (stamper.afterAll particulars history) =
      .ok (stamper.afterAll particulars history) := by
  have hnonempty : stamper.successes particulars history ≠ [] := by
    intro hnil
    simp [hnil] at hlast
  have hfirst := List.head?_eq_some_head hnonempty
  exact perform_again (perform_last hfirst hlast)

theorem dateOfIssue_afterOne
    {issued : String} (hdate : nonBlank? particulars.dateOfIssue = some issued)
    (next : Stamping) :
    (stamper.afterOne particulars next).dateOfIssue = some issued := by
  have hcurrent := (nonBlank?_eq_some_iff.mp hdate).1
  cases hperform : stamper.perform next particulars with
  | error error => rw [afterOne_of_error hperform, hcurrent]
  | ok stamped =>
      rw [afterOne_of_ok hperform, dateOfIssue_of_perform hperform,
        dateOfIssue_stays hdate, hcurrent]

/-- What any history of stampings leaves of the catalogue's particulars of an
order.  After a success, the last one alone accounts for everything but the date
of issue, which is the initial one or else the day of approval of the first
success, and the marks are those of the last one.  Drafted fields stay, and once
there is a date it stays and no case needs a day of approval. -/
theorem afterAll_eq_one_stamping
    (stamper : Stamper) (order : Order) (initial : Option String)
    (history : List Stamping) :
    let seed : Particulars :=
      { Particulars.ofOrder order with dateOfIssue := initial }
    let bag := stamper.afterAll seed history
    let succeeded := stamper.successes seed history
    (∀ first last, succeeded.head? = some first →
      succeeded.getLast? = some last →
      stamper.perform last
          { seed with
            dateOfIssue :=
              (nonBlank? initial).or
                (first.file.answers.approvalDay.map (·.printed first.language))
                } =
        .ok bag ∧
      stamper.perform last bag = .ok bag ∧
      bag.draftWatermark =
        (if last.status = .draft then some stamper.images.draftWatermark else
          none) ∧
      bag.courtSeal =
        (if last.status = .sealed then
          some (stamper.images.sealFor last.language) else none) ∧
      ∃ issued, nonBlank? bag.dateOfIssue = some issued) ∧
    (succeeded = [] → bag = seed) ∧
    bag.SameDraft (.ofOrder order) ∧
    ∀ issued, nonBlank? bag.dateOfIssue = some issued → ∀ next : Stamping,
      ((∃ stamped, stamper.perform next bag = .ok stamped) ↔
        (∃ children, next.file.selectedChildren = .ok children) ∧
          ∃ court, stamper.court next.file = .ok court) ∧
      (stamper.afterOne bag next).dateOfIssue = some issued := by
  intro seed bag succeeded
  refine ⟨?_, afterAll_of_successes_eq_nil, ?_, ?_⟩
  · intro first last hfirst hlast
    have hbag := perform_last hfirst hlast
    have hmarks := marks_of_perform hbag
    refine ⟨hbag, perform_last_again hlast, ?_, ?_, nonBlank_of_perform hbag⟩
    · rw [hmarks.1]
      cases last.status <;> rfl
    · rw [hmarks.2]
      cases last.status <;> rfl
  · exact (sameDraft_afterAll seed history).trans (by constructor <;> rfl)
  · intro issued hissued next
    exact ⟨perform_succeeds_iff_of_date hissued,
      dateOfIssue_afterOne hissued next⟩

def swansea : Stamper :=
  { images := {}, courts := [("SA", "Family Court sitting at Swansea")] }

def approvedInJune : Stamping :=
  { file := {
      localAuthority := some "SA"
      answers := { approvalDate := Date.of? 2021 6 5 } }
    status := .sealed
    language := .english }

def withoutAuthority : Stamping :=
  { file := {}, status := .plain, language := .english }

def neverApproved : Stamping :=
  { file := { localAuthority := some "SA" }
    status := .draft
    language := .welsh }

/-- A Welsh draft keeps the English date of the sealed order before it, and none
of its seal. -/
theorem swansea_draft_after_sealed :
    let seed : Particulars :=
      { Particulars.ofOrder .care with dateOfIssue := some " " }
    let history := [approvedInJune, withoutAuthority, neverApproved]
    let bag := swansea.afterAll seed history
    (swansea.successes seed history).head? = some approvedInJune ∧
      (swansea.successes seed history).getLast? = some neverApproved ∧
      swansea.perform neverApproved
        { seed with dateOfIssue := some "5 June 2021" } = .ok bag ∧
      bag.courtSeal = none := by
  intro seed history bag
  have hfirst : (swansea.successes seed history).head? = some approvedInJune :=
    rfl
  have hlast : (swansea.successes seed history).getLast? = some neverApproved :=
    rfl
  obtain ⟨hbag, -, -, hseal, -⟩ :=
    (afterAll_eq_one_stamping swansea .care (some " ") history).1 _ _ hfirst
    hlast
  exact ⟨hfirst, hlast, hbag, hseal⟩

end Stamper

/-! ## Printed judges

Which judges are printed as nothing, and when an order shows such a judge
although the judge allocated to the case would be printed.  The event's answer
is passed over only when title, last name and full name are all absent, whereas
the print takes blank names for nothing and never looks at the full name of
anyone but a magistrate. -/

namespace Judge

/-- Nothing that is printed of a judge with this title is given. -/
def PrintsNothing (judge : Judge) : Prop :=
  match judge.title with
  | none => nonBlank? judge.lastName = none
  | some .other =>
    nonBlank? judge.otherTitle = none ∧ nonBlank? judge.lastName = none
  | some _ => False

theorem allBlank_titled
    {title : JudgeTitle} (htitle : title ≠ .other) (lastName : String) :
    allBlank (trim (title.label ++ " " ++ lastName)) = false := by
  have hlabel : allBlank title.label = false := by
    cases title with
    | other => contradiction
    | _ => decide
  rw [allBlank_trim, allBlank_append, allBlank_append, hlabel, Bool.false_and,
    Bool.false_and]

theorem allBlank_magistrates
    {judge : Judge} (htitle : judge.title = some .magistrates) :
    allBlank judge.printed = false := by
  have hsuffix : allBlank " (JP)" = false := by decide
  have hlabel : allBlank JudgeTitle.magistrates.label = false := by decide
  simp only [printed, htitle]
  split
  · rw [allBlank_append, hsuffix, Bool.and_false]
  · exact hlabel

theorem allBlank_printed_iff (judge : Judge) :
    allBlank judge.printed = true ↔ judge.PrintsNothing := by
  cases htitle : judge.title with
  | none =>
      simp only [printed, PrintsNothing, htitle]
      exact allBlank_getD_iff
  | some title =>
      have htitled (hother : title ≠ .other)
          (hmagistrates : title ≠ .magistrates) :
          allBlank judge.printed = false := by
        have hprinted :
            judge.printed =
              trim (title.label ++ " " ++ judge.lastName.getD "") := by
          simp only [printed, htitle]
        rw [hprinted]
        exact allBlank_titled hother _
      cases title with
      | magistrates => simp [PrintsNothing, htitle, allBlank_magistrates htitle]
      | other =>
          have hgap : allBlank " " = true := by decide
          simp only [printed, PrintsNothing, htitle]
          rw [allBlank_trim, allBlank_append, allBlank_append, hgap,
            Bool.and_true, Bool.and_eq_true, allBlank_getD_iff,
              allBlank_getD_iff]
      | _ => simp [PrintsNothing, htitle, htitled]

end Judge

/-- An answer that counts as given although nothing of it is printed. -/
structure HearingJudge.IsHollow (hearing : HearingJudge) : Prop where
  own : saidYes hearing.useAllocated = false
  given : hearing.judge.title ≠ none ∨ hearing.judge.lastName ≠ none ∨
    hearing.judge.fullName ≠ none
  nothing : hearing.judge.PrintsNothing

theorem prefersAllocated_eq_false_iff
    {hearing : HearingJudge} :
    prefersAllocated (some hearing) = false ↔
      saidYes hearing.useAllocated = false ∧
        (hearing.judge.title ≠ none ∨ hearing.judge.lastName ≠ none ∨
          hearing.judge.fullName ≠ none) := by
  simp only [prefersAllocated, Judge.isEmpty, Bool.or_eq_false_iff,
    Bool.and_eq_false_iff, Option.isNone_eq_false_iff,
      Option.isSome_iff_ne_none, or_assoc]

theorem selectedJudge_of_allocated
    {event : Option HearingJudge} (hprefers : prefersAllocated event = true)
    (allocated : Judge) :
    selectedJudge event (some allocated) =
      some ⟨allocated, event.bind (·.legalAdviser), some .yes⟩ := by
  unfold selectedJudge
  rw [if_pos hprefers]

theorem selectedJudge_of_event
    {event : Option HearingJudge} (hprefers : prefersAllocated event = false)
    (allocated : Option Judge) :
    selectedJudge event allocated = event := by
  unfold selectedJudge
  rw [if_neg (Bool.eq_false_iff.mp hprefers)]

/-- The judge's block of an order on a case with an allocated judge. -/
structure JudgeLaw (event : Option HearingJudge) (allocated : Judge)
    (block : JudgeParticulars) : Prop where
  blank_iff :
    allBlank block.titleAndName = true ↔ ∃ hearing, event = some hearing ∧
    hearing.IsHollow
  shown :
    block.titleAndName = allocated.printed ∨
      ∃ hearing, event = some hearing ∧
      block.titleAndName = hearing.judge.printed
  stamped :
    ∀ (stamper : Stamper) (particulars stamped : Particulars) (file : CaseFile)
      (status : OrderStatus) (language : Language),
      file.answers.judge = event → file.allocatedJudge = some allocated →
      stamper.stamp particulars file status language = .ok stamped →
        stamped.judge = some block

theorem Stamper.judge_of_stamp
    {stamper : Stamper} {particulars stamped : Particulars} {file : CaseFile}
    {status : OrderStatus} {language : Language}
    (hstamp : stamper.stamp particulars file status language = .ok stamped) :
    stamped.judge = (selectedJudge file.answers.judge file.allocatedJudge).map
      (·.particulars) := by
  change stamper.perform ⟨file, status, language⟩ particulars =
    .ok stamped at hstamp
  obtain ⟨children, court, issued, -, -, -, rfl⟩ := perform_eq_ok_iff.mp hstamp
  rfl

/-- Where the allocated judge would be printed, the block of an order is blank
for no other answer than a hollow one. -/
theorem judge_printed
    (event : Option HearingJudge) {allocated : Judge}
    (hallocated : allBlank allocated.printed = false) :
    ∃ block, JudgeLaw event allocated block := by
  have hstamped {selected : HearingJudge}
      (hselected : selectedJudge event (some allocated) = some selected)
      (stamper : Stamper) (particulars stamped : Particulars) (file : CaseFile)
      (status : OrderStatus) (language : Language)
      (hevent : file.answers.judge = event)
      (hjudge : file.allocatedJudge = some allocated)
      (hstamp : stamper.stamp particulars file status language = .ok stamped) :
      stamped.judge = some selected.particulars := by
    rw [Stamper.judge_of_stamp hstamp, hevent, hjudge, hselected,
      Option.map_some]
  cases hprefers : prefersAllocated event with
  | true =>
      have hselected := selectedJudge_of_allocated hprefers allocated
      refine ⟨_, ?_, .inl rfl, hstamped hselected⟩
      refine iff_of_false (Bool.eq_false_iff.mp hallocated) ?_
      rintro ⟨hearing, rfl, hhollow⟩
      rw [prefersAllocated_eq_false_iff.mpr
        ⟨hhollow.own, hhollow.given⟩] at hprefers
      contradiction
  | false =>
      have hselected := selectedJudge_of_event hprefers (some allocated)
      cases event with
      | none => contradiction
      | some hearing =>
          obtain ⟨hown, hgiven⟩ := prefersAllocated_eq_false_iff.mp hprefers
          refine ⟨_, ?_, .inr ⟨hearing, rfl, rfl⟩, hstamped hselected⟩
          constructor
          · intro hblank
            exact ⟨hearing, rfl, hown, hgiven,
              hearing.judge.allBlank_printed_iff.mp hblank⟩
          · rintro ⟨other, hother, hhollow⟩
            cases hother
            exact hearing.judge.allBlank_printed_iff.mpr hhollow.nothing

namespace Stamper

def moley : Judge :=
  { title := some .herHonourJudge, lastName := some "Moley" }

/-- The event's judge was left with an empty last name. -/
def clearedName : CaseFile :=
  { approvedInJune.file with
    allocatedJudge := some moley
    answers :=
      { approvedInJune.file.answers with
        judge := some { judge := { lastName := some "" } } } }

/-- An empty last name is printed in the place of Her Honour Judge Moley. -/
theorem cleared_name_printed :
    ∃ stamped block, moley.printed = "Her Honour Judge Moley" ∧
      swansea.stamp (.ofOrder .blank) clearedName .sealed .english =
        .ok stamped ∧
      stamped.judge = some block ∧ allBlank block.titleAndName = true := by
  have hmoley : allBlank moley.printed = false := by decide
  obtain ⟨block, hlaw⟩ := judge_printed clearedName.answers.judge hmoley
  have hhollow : HearingJudge.IsHollow { judge := { lastName := some "" } } :=
    ⟨rfl, .inr (.inl nofun), rfl⟩
  refine ⟨_, block, by decide, rfl, ?_, hlaw.blank_iff.mpr ⟨_, rfl, hhollow⟩⟩
  exact hlaw.stamped swansea (.ofOrder .blank) _ clearedName .sealed .english
    rfl rfl rfl

end Stamper

end FamilyOrders
