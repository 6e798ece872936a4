import FamilyOrders.Proofs.Actions
import FamilyOrders.Proofs.Creation.Runs
import FamilyOrders.Proofs.Drafts

/-!
# Two runs side by side

Two runs of the engine compared step by step: previews beside other formats, and
the two languages.
-/

namespace FamilyOrders

/-! ## Generations side by side

Two generations of documents are compared by what each of them asks of the
renderer and by how it ends.  They run side by side when neither reaches the
renderer and they end with the same error, or both reach it, with the same
layout and with particulars that are alike.  Whether they do is decided before
the renderer is called, so it does not depend on what the renderers do.

An order is previewed as a draft and then issued under seal, perhaps in another
format.  These two generations run side by side, and what is sealed differs from
what was previewed in the images on the page alone. -/

/-- The produced document of a rendering. -/
def Rendered.produced (rendered : Rendered)
    (attachments : List DocumentReference) : Produced :=
  { bytes := rendered.bytes, format := rendered.format, attachments }

/-- The exchanges and outcomes of two generations that both stop before
rendering for the same reason, or both render in the same layout particulars
that are alike.  Each of the latter ends as its rendering does, and with the
same attachments. -/
inductive SideBySide (Alike : Particulars → Particulars → Prop)
    (format : FileFormat) (language : Language) (format' : FileFormat)
    (language' : Language) : List Exchange → Except OrderError Produced →
      List Exchange → Except OrderError Produced → Prop
  | stopped (error : OrderError) :
      SideBySide Alike format language format' language' [] (.error error) []
        (.error error)
  | rendered (layout : Layout) {particulars particulars' : Particulars}
      (halike : Alike particulars particulars')
      (attachments : List DocumentReference)
      (reply reply' : Except OrderError Rendered) :
      SideBySide Alike format language format' language'
        [⟨.render layout format language particulars, reply⟩]
        (reply.map (·.produced attachments))
        [⟨.render layout format' language' particulars', reply'⟩]
        (reply'.map (·.produced attachments))

/-- Ready for the renderer in the same layout, with particulars that are alike.
-/
structure Prepared.Paired (Alike : Particulars → Particulars → Prop)
    (a b : Prepared) : Prop where
  layout : a.layout = b.layout
  particulars : Alike a.particulars b.particulars

namespace Engine

variable {engine : Engine} {order : Order} {file : CaseFile}
  {status status' : OrderStatus}
  {format format' : FileFormat} {language language' : Language}
  {exchanges exchanges' : List Exchange}
  {outcome outcome' : Except OrderError Produced}

theorem Generation.of_prepare_error
    {error : OrderError}
    (hgeneration :
      engine.Generation order file status format language exchanges outcome)
    (hprepare : engine.prepare order file status language = .error error) :
    exchanges = [] ∧ outcome = .error error := by
  cases hgeneration with
  | notPrepared hfailed =>
      rw [hprepare] at hfailed
      rw [Except.error.inj hfailed]
      exact ⟨rfl, rfl⟩
  | notRendered hprepared =>
      rw [hprepare] at hprepared
      contradiction
  | rendered hprepared =>
      rw [hprepare] at hprepared
      contradiction

/-- What is prepared is rendered, whatever comes of it. -/
theorem Generation.of_prepare_ok
    {prepared : Prepared} {attachments : List DocumentReference}
    (hgeneration :
      engine.Generation order file status format language exchanges outcome)
    (hprepare : engine.prepare order file status language = .ok prepared)
    (hattachments : engine.attachments order file = .ok attachments) :
    ∃ reply : Except OrderError Rendered,
      exchanges =
        [⟨.render prepared.layout format language prepared.particulars,
          reply⟩] ∧
        outcome = reply.map (·.produced attachments) := by
  cases hgeneration with
  | notPrepared hfailed =>
      rw [hprepare] at hfailed
      contradiction
  | @notRendered found error hfound =>
      rw [hprepare] at hfound
      rw [← Except.ok.inj hfound]
      exact ⟨.error error, rfl, rfl⟩
  | @rendered found rendered collected hfound hcollected =>
      rw [hprepare] at hfound
      rw [hattachments] at hcollected
      rw [← Except.ok.inj hfound, ← Except.ok.inj hcollected]
      exact ⟨.ok rendered, rfl, rfl⟩

/-- Generations prepared in accord run side by side. -/
theorem Generation.sideBySide
    {Alike : Particulars → Particulars → Prop}
    (haccord : Accord (Prepared.Paired Alike)
      (engine.prepare order file status language)
      (engine.prepare order file status' language'))
    (hgeneration :
      engine.Generation order file status format language exchanges outcome)
    (hgeneration' :
      engine.Generation order file status' format' language' exchanges'
        outcome') :
    SideBySide Alike format language format' language' exchanges outcome
      exchanges' outcome' := by
  cases hprepare : engine.prepare order file status language with
  | error error =>
      rw [hprepare] at haccord
      generalize hprepare' :
        engine.prepare order file status' language' = prepared' at haccord
      cases haccord
      obtain ⟨rfl, rfl⟩ := hgeneration.of_prepare_error hprepare
      obtain ⟨rfl, rfl⟩ := hgeneration'.of_prepare_error hprepare'
      exact .stopped error
  | ok prepared =>
      rw [hprepare] at haccord
      generalize hprepare' :
        engine.prepare order file status' language' = prepared' at haccord
      cases haccord with
      | succeeded halike =>
          obtain ⟨attachments, hattachments⟩ := attachments_of_prepare hprepare
          obtain ⟨reply, rfl, rfl⟩ :=
            hgeneration.of_prepare_ok hprepare hattachments
          obtain ⟨reply', rfl, rfl⟩ :=
            hgeneration'.of_prepare_ok hprepare' hattachments
          rw [← halike.layout]
          exact .rendered prepared.layout halike.particulars attachments reply
            reply'

end Engine

/-! ### Preview and issue -/

/-- Equal in every field but the watermark and the seal. -/
def Particulars.SameButMarks (a b : Particulars) : Prop :=
  b = { a with draftWatermark := b.draftWatermark, courtSeal := b.courtSeal }

/-- The status of a document shows in its marks alone. -/
theorem Stamper.stamp_statuses
    (stamper : Stamper) (particulars : Particulars) (file : CaseFile)
    (status status' : OrderStatus) (language : Language) :
    Accord Particulars.SameButMarks
      (stamper.stamp particulars file status language)
      (stamper.stamp particulars file status' language) := by
  unfold stamp
  apply Accord.bind_same
  intro children hchildren
  apply Accord.bind_same
  intro court hcourt
  apply Accord.bind_same
  intro issued hissued
  exact .succeeded rfl

namespace Engine

theorem prepare_statuses
    (engine : Engine) (order : Order) (file : CaseFile)
    (status status' : OrderStatus)
    (language : Language) :
    Accord (Prepared.Paired Particulars.SameButMarks)
      (engine.prepare order file status language)
      (engine.prepare order file status' language) := by
  unfold prepare
  apply Accord.bind_same
  intro _ hlanguage
  apply Accord.bind_same
  intro drafter hdrafter
  apply Accord.bind_same
  intro drafted hdrafted
  apply (engine.stamper.stamp_statuses drafted file status status'
    language).bind
  intro particulars particulars' hstamped hstamped' halike
  exact .succeeded ⟨rfl, halike⟩

/-- What was previewed is what is sealed: two generations of an order in one
language, whatever their statuses and formats and whoever renders, run side by
side, and what they render differs in the watermark and the seal alone. -/
theorem generate_previews
    (engine : Engine) (collaborators : Collaborators σ) (state : σ)
    (collaborators' : Collaborators τ) (state' : τ) (order : Order)
    (file : CaseFile) (language : Language) (status status' : OrderStatus)
    (format format' : FileFormat) :
    SideBySide Particulars.SameButMarks format language format' language
      (collaborators.exchangesFrom state
        (engine.generate · order file status format language))
      (outcomeFrom state
        (engine.generate collaborators order file status format language))
      (collaborators'.exchangesFrom state'
        (engine.generate · order file status' format' language))
      (outcomeFrom state'
        (engine.generate collaborators' order file status' format'
          language)) := by
  have hgeneration :=
    engine.generation_of_generate collaborators state order file status format
      language
  have hgeneration' :=
    engine.generation_of_generate collaborators' state' order file status'
      format' language
  exact hgeneration.sideBySide
    (engine.prepare_statuses order file status status' language) hgeneration'

end Engine

/-! ## Orders in English and in Welsh

The English and the Welsh document of an order with Welsh wording are made or
refused alike: no case has the one and lacks the other.  They differ in their
wording, in the printed dates and in the seal, and agree in everything else.  An
order without Welsh wording is refused in Welsh before the engine looks for
anything that could make it. -/

open FamilyOrders.Text

/-- The child with the text of its date of birth, if there is one, struck out.
-/
def ChildParticulars.withoutBirthText (child : ChildParticulars) :
    ChildParticulars :=
  { child with dateOfBirth := child.dateOfBirth.map fun _ => "" }

/-- English and Welsh particulars of an order for one case.  They agree in every
field but the title, which differs at most for a blank order to which none was
given, the body, the date of issue, the texts of the children's dates of birth,
and the seal. -/
structure Particulars.Translates (order : Order) (file : CaseFile)
    (english welsh : Particulars) : Prop where
  same :
    welsh =
      { english with
        title := welsh.title
        details := welsh.details
        dateOfIssue := welsh.dateOfIssue
        children := welsh.children
        courtSeal := welsh.courtSeal }
  title :
    welsh.title = english.title ∨ order = .blank ∧
    nonBlank? file.answers.title = none
  children :
    welsh.children.map (·.withoutBirthText) =
      english.children.map (·.withoutBirthText)

theorem withoutBirthText_particulars (child : Child)
    (language language' : Language) :
    (child.particulars language).withoutBirthText =
      (child.particulars language').withoutBirthText := by
  cases hborn : child.party.dateOfBirth with
  | none => simp [Child.particulars, ChildParticulars.withoutBirthText, hborn]
  | some date =>
      simp [Child.particulars, ChildParticulars.withoutBirthText, hborn]

/-- A draft without a date gets one in both languages or in neither. -/
theorem need_dateOfIssue_languages (answers : Answers) :
    Accord (fun _ _ => True)
      (need .approvalDate (dateOfIssue none answers .english))
      (need .approvalDate (dateOfIssue none answers .welsh)) := by
  cases hday : answers.approvalDay with
  | none =>
      rw [dateOfIssue, dateOfIssue, hday]
      exact .failed _
  | some day =>
      rw [dateOfIssue, dateOfIssue, hday]
      exact .succeeded trivial

theorem Stamper.stamp_languages
    (stamper : Stamper) {order : Order} {file : CaseFile}
    {english welsh : Particulars}
    (hretold : english.Retold order file welsh) (status : OrderStatus) :
    Accord (Particulars.Translates order file)
      (stamper.stamp english file status .english)
      (stamper.stamp welsh file status .welsh) := by
  have hsame := hretold.same
  have hundated : welsh.dateOfIssue = none := by
    rw [hsame]
    exact hretold.undated
  unfold stamp
  apply Accord.bind_same
  intro children hchildren
  apply Accord.bind_same
  intro court hcourt
  rw [hretold.undated, hundated]
  apply (need_dateOfIssue_languages file.answers).bind
  intro issued issued' _ _ _
  apply Accord.succeeded
  constructor
  case same => rw [hsame]
  case title => exact hretold.title
  case children =>
    rw [List.map_map, List.map_map]
    apply List.map_congr_left
    intro child hchild
    exact withoutBirthText_particulars child .welsh .english

namespace Engine

theorem checkLanguage_of_hasWelsh
    {order : Order} (hwelsh : order.hasWelsh = true) (language : Language) :
    checkLanguage order language = .ok () := by
  unfold checkLanguage
  rw [hwelsh]
  cases language <;> rfl

theorem checkLanguage_welsh_of_not_hasWelsh
    {order : Order} (hwelsh : order.hasWelsh = false) :
    checkLanguage order .welsh = .error (.invalidInput (.noWelsh order)) := by
  unfold checkLanguage
  rw [hwelsh]
  rfl

theorem prepare_languages
    (images : ImageSet) (courts venues : NameTable) {order : Order}
    (hwelsh : order.hasWelsh = true) (file : CaseFile) (status : OrderStatus) :
    Accord (Prepared.Paired (Particulars.Translates order file))
      ((standard images courts venues).prepare order file status .english)
      ((standard images courts venues).prepare order file status .welsh) := by
  unfold prepare
  rw [checkLanguage_of_hasWelsh hwelsh, checkLanguage_of_hasWelsh hwelsh]
  apply Accord.bind_same
  intro _ _
  apply Accord.bind_same
  intro drafter hdrafter
  have hfound := standard_lookUp_drafter_eq_ok_iff.mp hdrafter
  apply (Drafting.draft_languages hwelsh hfound file).bind
  intro english welsh _ _ hretold
  apply ((standard images courts venues).stamper.stamp_languages hretold
    status).bind
  intro english' welsh' _ _ htranslates
  exact .succeeded ⟨rfl, htranslates⟩

/-- The English and the Welsh generation of an order with Welsh wording run side
by side, and what they render agrees but for wording, dates and seal.  Any other
order is refused in Welsh by every engine, whatever strategies it has, and
nobody is called. -/
theorem generate_languages
    (collaborators : Collaborators σ) (state : σ)
    (collaborators' : Collaborators τ)
    (state' : τ) (images : ImageSet) (courts venues : NameTable) (order : Order)
    (file : CaseFile) (status : OrderStatus) (format format' : FileFormat) :
    (order.hasWelsh = true →
      SideBySide (Particulars.Translates order file) format .english format'
        .welsh (collaborators.exchangesFrom state
          ((standard images courts venues).generate · order file status format
            .english))
        (outcomeFrom state
          ((standard images courts venues).generate collaborators order file
            status format .english))
        (collaborators'.exchangesFrom state'
          ((standard images courts venues).generate · order file status format'
            .welsh))
        (outcomeFrom state'
          ((standard images courts venues).generate collaborators' order file
            status format' .welsh))) ∧
    (order.hasWelsh = false →
      ∀ engine : Engine,
        collaborators'.exchangesFrom state'
            (engine.generate · order file status format' .welsh) = [] ∧
          outcomeFrom state'
              (engine.generate collaborators' order file status format'
                .welsh) =
            .error (.invalidInput (.noWelsh order))) := by
  constructor
  · intro hwelsh
    have henglish :=
      (standard images courts venues).generation_of_generate collaborators state
      order file status format .english
    have htranslated :=
      (standard images courts venues).generation_of_generate collaborators'
      state' order file status format' .welsh
    exact henglish.sideBySide
      (prepare_languages images courts venues hwelsh file status)
      htranslated
  · intro hwelsh engine
    have hgeneration :=
      engine.generation_of_generate collaborators' state' order file status
        format' .welsh
    have hprepare :
        engine.prepare order file status .welsh =
          .error (.invalidInput (.noWelsh order)) := by
      unfold prepare
      rw [checkLanguage_welsh_of_not_hasWelsh hwelsh]
      rfl
    exact hgeneration.of_prepare_error hprepare

def swanseaCase : CaseFile :=
  { localAuthority := some "SA"
    localAuthorityName := some "Swansea City Council"
    children :=
      [{ id := "1", party := { dateOfBirth := Calendar.Date.of? 2015 3 1 } }]
    answers := {
      approvalDate := Calendar.Date.of? 2021 6 5
      endOrProceedings := some .endOfProceedings } }

/-- A sealed interim care order is rendered in both languages, with two
different sentences, and an emergency protection order is refused in Welsh. -/
theorem interim_care_order_in_both_languages :
    let engine := standard {} [("SA", "Family Court sitting at Swansea")] []
    let exchangesIn (order : Order) (language : Language) :=
      Collaborators.obliging.exchangesFrom ()
        (engine.generate · order swanseaCase .sealed .pdf language)
    let outcomeIn (order : Order) (language : Language) :=
      outcomeFrom () (engine.generate .obliging order swanseaCase .sealed .pdf
        language)
    Order.interimCare.hasWelsh = true ∧
      SideBySide (Particulars.Translates .interimCare swanseaCase) .pdf .english
        .pdf .welsh
        (exchangesIn .interimCare .english) (outcomeIn .interimCare .english)
        (exchangesIn .interimCare .welsh) (outcomeIn .interimCare .welsh) ∧
      (exchangesIn .interimCare .welsh).length = 1 ∧
      Order.emergencyProtection.hasWelsh = false ∧
      outcomeIn .emergencyProtection .welsh =
        .error (.invalidInput (.noWelsh .emergencyProtection)) := by
  intro engine exchangesIn outcomeIn
  have hcare := generate_languages .obliging () .obliging () {}
    [("SA", "Family Court sitting at Swansea")]
    [] .interimCare swanseaCase .sealed .pdf .pdf
  have hemergency :=
    generate_languages .obliging () .obliging () {} [] [] .emergencyProtection
    swanseaCase .sealed .pdf .pdf
  exact ⟨rfl, hcare.1 rfl, rfl, rfl, (hemergency.2 rfl engine).2⟩

end Engine

end FamilyOrders
