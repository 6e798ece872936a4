import FamilyOrders.Proofs.CompleteCases
import FamilyOrders.Proofs.Creation.CallSequence
import FamilyOrders.Proofs.Creation.Runs
import FamilyOrders.Proofs.Creation.SideBySide
import FamilyOrders.Proofs.Drafts
import FamilyOrders.Proofs.Stamping

/-!
# Orders that reach the renderer

The particulars that are handed to the renderer: their children, that they are
complete, and which orders get there.
-/

namespace FamilyOrders

open FamilyOrders.Drafting FamilyOrders.Text

/-! ## Who a rendered order is about

An order should be about somebody.  Five of the drafters word their order for
the number of its children and so refuse a case in which none is selected; a
blank order and the discharge of a care order never count the children, and with
nobody selected they are rendered all the same. -/

/-- A request to render particulars without any child. -/
def Call.RendersNobody : Call → Prop
  | .render _ _ _ particulars => particulars.children = []
  | _ => False

/-! ### Drafting for nobody -/

/-- A drafter that starts with the number of the children refuses an order about
nobody. -/
theorem TemplatedDrafter.draft_of_nobody
    {drafter : TemplatedDrafter} {file : CaseFile} {language : Language}
    (hnobody : file.selectedChildren = .ok [])
    (next : GrammaticalNumber → Except OrderError Particulars)
    (hfill : drafter.fill (.ofOrder drafter.order) file language =
      file.grammaticalNumber >>= next) :
    drafter.draft file language = .error (.missingField .selectedChildren) := by
  rw [draft, hfill, CaseFile.grammaticalNumber_of_nobody hnobody]
  rfl

namespace Drafting

/-- What the orders say that never mention the children is all there. -/
def WritesWithoutChildren (venues : NameTable) (file : CaseFile) : Order → Prop
  | .blank => ∃ directions, nonBlank? file.answers.directions = some directions
  | .dischargeOfCare =>
      ∃ id issued venue,
        nonBlank? file.answers.careOrderCourt = some id ∧
        file.answers.careOrderDate = some issued ∧
        venueName venues id = .ok venue
  | _ => False

variable {venues : NameTable} {file : CaseFile} {language : Language}

theorem worded_of_nobody
    (hnobody : file.selectedChildren = .ok []) {order : Order}
    (hblank : order ≠ .blank) (hdischarge : order ≠ .dischargeOfCare)
    {drafter : Drafter} (hdrafter : drafterFor? venues order = some drafter) :
    drafter.draft file language = .error (.missingField .selectedChildren) := by
  cases draftedBy_of_drafterFor? hdrafter with
  | blank => contradiction
  | dischargeOfCare => contradiction
  | care =>
      exact TemplatedDrafter.draft_of_nobody hnobody _ rfl
  | interimCare =>
      exact TemplatedDrafter.draft_of_nobody hnobody _ rfl
  | supervision =>
      exact TemplatedDrafter.draft_of_nobody hnobody _ rfl
  | interimSupervision =>
      exact TemplatedDrafter.draft_of_nobody hnobody _ rfl
  | emergencyProtection =>
      exact TemplatedDrafter.draft_of_nobody hnobody _ rfl

theorem drafted_of_nobody
    (hnobody : file.selectedChildren = .ok []) {order : Order}
    {drafter : Drafter}
    (hdrafter : drafterFor? venues order = some drafter) {drafted : Particulars}
    (hdrafted : drafter.draft file language = .ok drafted) :
    WritesWithoutChildren venues file order ∧ drafted.dateOfIssue = none := by
  by_cases hblank : order = .blank
  · subst hblank
    obtain rfl := Option.some.inj hdrafter
    obtain ⟨directions, hdirections, rfl⟩ := draftBlank_eq_ok_iff.mp hdrafted
    exact ⟨⟨directions, hdirections⟩, rfl⟩
  by_cases hdischarge : order = .dischargeOfCare
  · subst hdischarge
    obtain rfl := Option.some.inj hdrafter
    obtain ⟨filled, hfill, rfl⟩ := TemplatedDrafter.draft_eq_ok_iff.mp hdrafted
    obtain ⟨id, issued, venue, hid, hissued, hvenue, rfl⟩ :=
      fillDischarge_eq_ok_iff.mp hfill
    exact ⟨⟨id, issued, venue, hid, hissued, hvenue⟩, rfl⟩
  rw [worded_of_nobody hnobody hblank hdischarge hdrafter] at hdrafted
  contradiction

theorem exists_drafted
    {order : Order} (hwrites : WritesWithoutChildren venues file order)
    (language : Language) :
    ∃ drafter drafted, drafterFor? venues order = some drafter ∧
      drafter.draft file language = .ok drafted ∧
      drafted.dateOfIssue = none := by
  cases order with
  | blank =>
      obtain ⟨directions, hdirections⟩ := hwrites
      exact ⟨_, _, rfl, draftBlank_eq_ok_iff.mpr ⟨directions, hdirections, rfl⟩,
        rfl⟩
  | dischargeOfCare =>
      obtain ⟨id, issued, venue, hid, hissued, hvenue⟩ := hwrites
      have hfill :
          fillDischarge venues (.ofOrder .dischargeOfCare) file language =
            .ok { Particulars.ofOrder .dischargeOfCare with
              details :=
                some (dischargeSentence language venue
                  (issued.printed language))
              furtherDirections := file.answers.furtherDirections } :=
        fillDischarge_eq_ok_iff.mpr ⟨id, issued, venue, hid, hissued, hvenue,
          rfl⟩
      exact ⟨_, _, rfl, TemplatedDrafter.draft_eq_ok_iff.mpr ⟨_, hfill, rfl⟩,
        rfl⟩
  | _ => contradiction

theorem checkLanguage_of_writes
    {order : Order} (hwrites : WritesWithoutChildren venues file order)
    (language : Language) :
    Engine.checkLanguage order language = .ok () := by
  cases order with
  | blank => cases language <;> rfl
  | dischargeOfCare => cases language <;> rfl
  | _ => contradiction

end Drafting

/-! ### Stamping for nobody -/

theorem dateOfIssue_none_eq_some_iff
    {answers : Answers} {language : Language} {issued : String} :
    dateOfIssue none answers language = some issued ↔
      ∃ day, answers.approvalDay = some day ∧
      day.printed language = issued := by
  rw [dateOfIssue, filledOr_of_blank _ rfl, Option.map_eq_some_iff]

theorem Stamper.performs_nobody_iff
    {stamper : Stamper} {drafted : Particulars} (stamping : Stamping) :
    (∃ stamped, stamper.perform stamping drafted = .ok stamped ∧
      stamped.children = []) ↔
      stamping.file.selectedChildren = .ok [] ∧
        (∃ court, stamper.court stamping.file = .ok court) ∧
        ∃ issued,
          dateOfIssue drafted.dateOfIssue stamping.file.answers
            stamping.language =
              some issued := by
  constructor
  · rintro ⟨stamped, hstamped, hnone⟩
    obtain ⟨children, court, issued, hchildren, hcourt, hissued, rfl⟩ :=
      perform_eq_ok_iff.mp hstamped
    obtain rfl := List.map_eq_nil_iff.mp hnone
    exact ⟨hchildren, ⟨court, hcourt⟩, ⟨issued, hissued⟩⟩
  · rintro ⟨hnobody, ⟨court, hcourt⟩, ⟨issued, hissued⟩⟩
    have hstamped :
        stamper.perform stamping drafted =
          .ok (stamper.marked stamping [] court issued drafted) :=
      perform_eq_ok_iff.mpr ⟨[], court, issued, hnobody, hcourt, hissued, rfl⟩
    exact ⟨_, hstamped, rfl⟩

namespace Engine

variable {engine : Engine} {order : Order} {file : CaseFile}
  {status : OrderStatus}
  {format : FileFormat} {language : Language} {exchanges : List Exchange}

theorem Generation.rendersNobody_iff
    {outcome : Except OrderError Produced}
    (hgeneration :
      engine.Generation order file status format language exchanges outcome) :
    (∃ exchange ∈ exchanges, exchange.call.RendersNobody) ↔
      ∃ prepared, engine.prepare order file status language = .ok prepared ∧
        prepared.particulars.children = [] := by
  cases hgeneration with
  | notPrepared hprepare => simp [hprepare]
  | notRendered hprepare => simp [hprepare, Call.RendersNobody]
  | rendered hprepare => simp [hprepare, Call.RendersNobody]

theorem generate_rendersNobody_iff
    (collaborators : Collaborators σ) (state : σ) (images : ImageSet)
    (courts venues : NameTable) (order : Order) (file : CaseFile)
    (status : OrderStatus) (format : FileFormat) (language : Language) :
    (∃ exchange ∈ collaborators.exchangesFrom state
        ((standard images courts venues).generate · order file status format
          language),
      exchange.call.RendersNobody) ↔
      file.SelectsNobody ∧
        (∃ authority court, nonBlank? file.localAuthority = some authority ∧
          courts.name? authority = some court) ∧
        (∃ day, file.answers.approvalDay = some day) ∧
        WritesWithoutChildren venues file order := by
  have hgeneration :=
    (standard images courts venues).generation_of_generate collaborators
    state order file status format language
  rw [hgeneration.rendersNobody_iff, ← CaseFile.selectedChildren_eq_nil_iff]
  constructor
  · rintro ⟨prepared, hprepare, hnone⟩
    obtain ⟨-, drafter, drafted, particulars, hdrafter, hdrafted, hstamped,
      rfl⟩ :=
      prepare_eq_ok_iff.mp hprepare
    have hperformed :
        (standard images courts venues).stamper.perform
        ⟨file, status, language⟩ drafted =
          .ok particulars := hstamped
    obtain ⟨hnobody, ⟨court, hcourt⟩, ⟨issued, hissued⟩⟩ :=
      (Stamper.performs_nobody_iff _).mp ⟨particulars, hperformed, hnone⟩
    obtain ⟨hwrites, hdate⟩ := drafted_of_nobody hnobody
      (standard_lookUp_drafter_eq_ok_iff.mp hdrafter) hdrafted
    obtain ⟨authority, hauthority, hname⟩ := Stamper.court_eq_ok_iff.mp hcourt
    rw [hdate] at hissued
    obtain ⟨day, hday, -⟩ := dateOfIssue_none_eq_some_iff.mp hissued
    exact ⟨hnobody, ⟨authority, court, hauthority, hname⟩, ⟨day, hday⟩, hwrites⟩
  · rintro ⟨hnobody, ⟨authority, court, hauthority, hname⟩, ⟨day, hday⟩,
      hwrites⟩
    obtain ⟨drafter, drafted, hdrafter, hdrafted, hdate⟩ :=
      exists_drafted hwrites language
    have hcourt :
        (standard images courts venues).stamper.court file = .ok court :=
      Stamper.court_eq_ok_iff.mpr ⟨authority, hauthority, hname⟩
    have hissued :
        dateOfIssue drafted.dateOfIssue file.answers language =
          some (day.printed language) := by
      rw [hdate]
      exact dateOfIssue_none_eq_some_iff.mpr ⟨day, hday, rfl⟩
    obtain ⟨particulars, hperformed, hnone⟩ :=
      (Stamper.performs_nobody_iff ⟨file, status, language⟩).mpr
        ⟨hnobody, ⟨court, hcourt⟩, ⟨_, hissued⟩⟩
    exact ⟨_, prepare_eq_ok_iff.mpr
      ⟨checkLanguage_of_writes hwrites language, drafter, drafted, particulars,
        standard_lookUp_drafter_eq_ok_iff.mpr hdrafter, hdrafted, hperformed,
          rfl⟩, hnone⟩

def childlessBlankOrder : CaseFile :=
  { id := 1234567890123456
    familyManNumber := some "SA21C50011"
    localAuthority := some "SA"
    localAuthorityName := some "Swansea City Council"
    answers := {
      order := some .blank
      approvalDate := Calendar.Date.of? 2021 6 5
      title := some "Order for contact"
      directions := some "The child may have contact." } }

/-- A sealed blank order about nobody is rendered. -/
theorem childless_blank_order_rendered :
    ∃ exchange ∈ Collaborators.obliging.exchangesFrom ()
        ((standard {} [("SA", "Family Court sitting at Swansea")] []).generate ·
          .blank childlessBlankOrder .sealed .pdf .english),
      exchange.call.RendersNobody := by
  have hnobody : childlessBlankOrder.SelectsNobody := rfl
  exact (generate_rendersNobody_iff .obliging ()
    {} _ [] .blank childlessBlankOrder .sealed
    .pdf .english).mpr ⟨hnobody, ⟨_, _, rfl, rfl⟩, ⟨_, rfl⟩, ⟨_, rfl⟩⟩

end Engine

/-! ## What reaches the renderer

The renderer is called only with particulars that are complete: a drafter has
given them their order, title, body and legal basis, and the stamper all that
the court adds.  If the language does not suit the order, if nobody drafts it,
if drafting fails or if stamping does, then nobody is called and the first of
these failures is returned. -/

/-- Particulars of an order that lack nothing that a document of this status and
language shows. -/
structure Particulars.Complete (images : ImageSet) (courts : NameTable)
    (order : Order)
    (file : CaseFile) (status : OrderStatus) (language : Language)
    (layout : Layout) (particulars : Particulars) : Prop where
  draft : particulars.IsDraft order layout
  dateOfIssue_written :
    ∃ issued, particulars.dateOfIssue = some issued ∧ allBlank issued = false
  courtName_eq :
    ∃ authority court, nonBlank? file.localAuthority = some authority ∧
      courts.name? authority = some court ∧ particulars.courtName = some court
  caseNumber_eq :
    particulars.caseNumber = some (FamilyOrders.caseNumber file.id)
  crest_eq : particulars.crest = some images.crest
  draftWatermark_eq :
    particulars.draftWatermark =
      if status = .draft then some images.draftWatermark else none
  courtSeal_eq :
    particulars.courtSeal =
      if status = .sealed then some (images.sealFor language) else none

theorem Particulars.IsDraft.of_sameDraft
    {order : Order} {layout : Layout} {drafted stamped : Particulars}
    (hdraft : drafted.IsDraft order layout)
    (hsame : stamped.SameDraft drafted) : stamped.IsDraft order layout where
  order_eq := hsame.order.trans hdraft.order_eq
  legalBasis_eq := hsame.legalBasis.trans hdraft.legalBasis_eq
  title_written := by
    rw [hsame.title]
    exact hdraft.title_written
  details_written := by
    rw [hsame.details]
    exact hdraft.details_written
  emergency_iff := by
    rw [hsame.emergency]
    exact hdraft.emergency_iff

theorem Stamper.complete_of_perform
    {stamper : Stamper} {stamping : Stamping} {order : Order} {layout : Layout}
    {drafted stamped : Particulars} (hdraft : drafted.IsDraft order layout)
    (hperform : stamper.perform stamping drafted = .ok stamped) :
    stamped.Complete stamper.images stamper.courts order stamping.file
      stamping.status stamping.language layout := by
  have hmarks := marks_of_perform hperform
  have hsame := sameDraft_of_perform hperform
  obtain ⟨settled, hsettled⟩ := nonBlank_of_perform hperform
  obtain ⟨children, court, issued, -, hcourt, -, rfl⟩ :=
    perform_eq_ok_iff.mp hperform
  obtain ⟨authority, hauthority, hname⟩ := court_eq_ok_iff.mp hcourt
  constructor
  case draft => exact hdraft.of_sameDraft hsame
  case dateOfIssue_written => exact ⟨settled, nonBlank?_eq_some_iff.mp hsettled⟩
  case courtName_eq => exact ⟨authority, court, hauthority, hname, rfl⟩
  case caseNumber_eq => rfl
  case crest_eq => rfl
  case draftWatermark_eq =>
    rw [hmarks.1]
    cases stamping.status <;> rfl
  case courtSeal_eq =>
    rw [hmarks.2]
    cases stamping.status <;> rfl

namespace Engine

/-- The language suits the order, its drafter succeeds, and so does the stamper
with what was drafted. -/
structure Writes (images : ImageSet) (courts venues : NameTable) (order : Order)
    (file : CaseFile) (status : OrderStatus) (language : Language)
    (drafter : Drafter) (stamped : Particulars) : Prop where
  language_ok : checkLanguage order language = .ok ()
  drafter_eq : drafterFor? venues order = some drafter
  stamp_eq :
    ∃ drafted, drafter.draft file language = .ok drafted ∧
      Stamper.stamp { images, courts } drafted file status language =
        .ok stamped

/-- What is asked of the renderer for an order, and what is returned if nothing
is. -/
structure RenderLaw (images : ImageSet) (courts venues : NameTable)
    (order : Order)
    (file : CaseFile) (status : OrderStatus) (format : FileFormat)
    (language : Language)
    (exchanges : List Exchange) (outcome : Except OrderError Produced) :
    Prop where
  at_most_once :
    callKinds exchanges = [] ∨ callKinds exchanges = [.render]
  renders_iff :
    callKinds exchanges = [.render] ↔
      ∃ drafter stamped,
        Writes images courts venues order file status language drafter stamped
  rendered :
    ∀ exchange ∈ exchanges, ∃ drafter stamped,
      Writes images courts venues order file status language drafter stamped ∧
        exchange.call = .render drafter.layout format language stamped ∧
        stamped.Complete images courts order file status language drafter.layout
  wrong_language :
    ∀ error, checkLanguage order language = .error error →
      exchanges = [] ∧ outcome = .error error
  no_drafter :
    checkLanguage order language = .ok () → drafterFor? venues order = none →
      exchanges = [] ∧ outcome = .error (.missingGenerator order)
  not_drafted :
    ∀ drafter error, checkLanguage order language = .ok () →
      drafterFor? venues order = some drafter →
        drafter.draft file language = .error error →
      exchanges = [] ∧ outcome = .error error
  not_stamped :
    ∀ drafter drafted error, checkLanguage order language = .ok () →
      drafterFor? venues order = some drafter →
        drafter.draft file language = .ok drafted →
      Stamper.stamp { images, courts } drafted file status language =
        .error error →
      exchanges = [] ∧ outcome = .error error

variable {images : ImageSet} {courts venues : NameTable} {order : Order}
  {file : CaseFile}
  {status : OrderStatus} {format : FileFormat} {language : Language}
  {exchanges : List Exchange} {outcome : Except OrderError Produced}

theorem standard_prepare_eq_ok_iff {prepared : Prepared} :
    (standard images courts venues).prepare order file status language =
      .ok prepared ↔
      ∃ drafter, prepared.layout = drafter.layout ∧
        Writes images courts venues order file status language drafter
          prepared.particulars := by
  rw [prepare_eq_ok_iff]
  constructor
  · rintro ⟨hlanguage, drafter, drafted, stamped, hdrafter, hdrafted, hstamped,
      rfl⟩
    exact ⟨drafter, rfl, hlanguage,
      standard_lookUp_drafter_eq_ok_iff.mp hdrafter, drafted, hdrafted,
        hstamped⟩
  · rintro ⟨drafter, hlayout, hlanguage, hdrafter, drafted, hdrafted, hstamped⟩
    refine ⟨hlanguage, drafter, drafted, prepared.particulars,
      standard_lookUp_drafter_eq_ok_iff.mpr hdrafter, hdrafted, hstamped, ?_⟩
    rw [← hlayout]

theorem Writes.exists_performed
    {drafter : Drafter} {stamped : Particulars}
    (hwrites :
      Writes images courts venues order file status language drafter stamped) :
    ∃ drafted, drafter.draft file language = .ok drafted ∧
      Stamper.perform { images, courts } ⟨file, status, language⟩ drafted =
        .ok stamped :=
  hwrites.stamp_eq

theorem Writes.complete
    {drafter : Drafter} {stamped : Particulars}
    (hwrites :
      Writes images courts venues order file status language drafter stamped) :
    stamped.Complete images courts order file status language
      drafter.layout := by
  obtain ⟨drafted, hdrafted, hperform⟩ := hwrites.exists_performed
  have hdraft := isDraft_of_draft hwrites.drafter_eq hdrafted
  exact Stamper.complete_of_perform hdraft hperform

/-- What is written comes from the draft and from the children that are
selected; the date of issue is the draft's, if it has one. -/
theorem Writes.exists_draft
    {drafter : Drafter} {stamped : Particulars}
    (hwrites :
      Writes images courts venues order file status language drafter stamped) :
    ∃ drafted children,
      drafter.draft file language = .ok drafted ∧
      file.selectedChildren = .ok children ∧
      stamped.SameDraft drafted ∧
      stamped.children = children.map (·.particulars language) ∧
      stamped.dateOfIssue =
        dateOfIssue drafted.dateOfIssue file.answers language := by
  obtain ⟨drafted, hdrafted, hperform⟩ := hwrites.exists_performed
  have hsame := Stamper.sameDraft_of_perform hperform
  have hissued := Stamper.dateOfIssue_of_perform hperform
  obtain ⟨children, court, issued, hchildren, -, -, rfl⟩ :=
    Stamper.perform_eq_ok_iff.mp hperform
  exact ⟨drafted, children, hdrafted, hchildren, hsame, rfl, hissued⟩

/-- Whatever the renderer is asked for has been written. -/
theorem Generation.exists_writes
    (hgeneration :
      (standard images courts venues).Generation order file status format
      language exchanges outcome)
    {exchange : Exchange} (hmem : exchange ∈ exchanges) :
    ∃ drafter stamped,
      Writes images courts venues order file status language drafter stamped ∧
        exchange.call = .render drafter.layout format language stamped := by
  cases hgeneration with
  | notPrepared hprepare => contradiction
  | notRendered hprepare =>
      obtain ⟨drafter, hlayout, hwrites⟩ :=
        standard_prepare_eq_ok_iff.mp hprepare
      rw [List.mem_singleton.mp hmem, hlayout]
      exact ⟨drafter, _, hwrites, rfl⟩
  | rendered hprepare =>
      obtain ⟨drafter, hlayout, hwrites⟩ :=
        standard_prepare_eq_ok_iff.mp hprepare
      rw [List.mem_singleton.mp hmem, hlayout]
      exact ⟨drafter, _, hwrites, rfl⟩

theorem Generation.renders_iff
    {engine : Engine}
    (hgeneration :
      engine.Generation order file status format language exchanges outcome) :
    callKinds exchanges = [.render] ↔
      ∃ prepared, engine.prepare order file status language = .ok prepared := by
  cases hgeneration with
  | notPrepared hprepare => simp [hprepare, callKinds]
  | notRendered hprepare => simp [hprepare, callKinds, Call.kind]
  | rendered hprepare => simp [hprepare, callKinds, Call.kind]

/-- The renderer is called at most once, exactly when drafting and stamping have
succeeded, and with what they have made, which is complete. -/
theorem generate_renderLaw
    (collaborators : Collaborators σ) (state : σ) (images : ImageSet)
    (courts venues : NameTable) (order : Order) (file : CaseFile)
    (status : OrderStatus) (format : FileFormat) (language : Language) :
    RenderLaw images courts venues order file status format language
      (collaborators.exchangesFrom state
        ((standard images courts venues).generate · order file status format
          language))
      (outcomeFrom state
        ((standard images courts venues).generate collaborators order file
          status format language)) := by
  have hgeneration :=
    (standard images courts venues).generation_of_generate collaborators
    state order file status format language
  constructor
  case at_most_once =>
    rcases hgeneration.kinds_eq with honce | ⟨hnever, -⟩
    · exact .inr honce
    · exact .inl hnever
  case renders_iff =>
    rw [hgeneration.renders_iff]
    constructor
    · rintro ⟨prepared, hprepare⟩
      obtain ⟨drafter, -, hwrites⟩ := standard_prepare_eq_ok_iff.mp hprepare
      exact ⟨drafter, prepared.particulars, hwrites⟩
    · rintro ⟨drafter, stamped, hwrites⟩
      exact ⟨⟨drafter.layout, stamped⟩,
        standard_prepare_eq_ok_iff.mpr ⟨drafter, rfl, hwrites⟩⟩
  case rendered =>
    intro exchange hmem
    cases hprepare :
      (standard images courts venues).prepare order file status language with
    | error error =>
        rw [(hgeneration.of_prepare_error hprepare).1] at hmem
        contradiction
    | ok prepared =>
        obtain ⟨attachments, hattachments⟩ := attachments_of_prepare hprepare
        obtain ⟨reply, hexchanges, -⟩ :=
          hgeneration.of_prepare_ok hprepare hattachments
        rw [hexchanges] at hmem
        obtain ⟨drafter, hlayout, hwrites⟩ :=
          standard_prepare_eq_ok_iff.mp hprepare
        refine ⟨drafter, prepared.particulars, hwrites, ?_, hwrites.complete⟩
        rw [List.mem_singleton.mp hmem, hlayout]
  case wrong_language =>
    intro error hlanguage
    apply hgeneration.of_prepare_error
    rw [prepare, hlanguage]
    rfl
  case no_drafter =>
    intro hlanguage hdrafter
    apply hgeneration.of_prepare_error
    rw [prepare, hlanguage, standard_lookUp_drafter, hdrafter]
    rfl
  case not_drafted =>
    intro drafter error hlanguage hdrafter hdrafted
    apply hgeneration.of_prepare_error
    rw [prepare, hlanguage, standard_lookUp_drafter_eq_ok_iff.mpr hdrafter]
    change drafter.draft file language >>= _ = _
    rw [hdrafted]
    rfl
  case not_stamped =>
    intro drafter drafted error hlanguage hdrafter hdrafted hstamped
    apply hgeneration.of_prepare_error
    rw [prepare, hlanguage, standard_lookUp_drafter_eq_ok_iff.mpr hdrafter]
    change drafter.draft file language >>= _ = _
    rw [hdrafted]
    change Stamper.stamp { images, courts } drafted file status language >>= _ =
      _
    rw [hstamped]
    rfl

end Engine

/-! ## Which orders are rendered

An order reaches the renderer exactly when its case tells all that the order
asks for.  One drafter or another asks for it, or the stamper does, at different
points and in different ways; together they come to one condition on the case.
-/

variable {venues : NameTable} {order : Order} {file : CaseFile}
  {language : Language} {seed drafted : Particulars}

/-! ### Drafting -/

/-- The order's own questions are answered.  Nothing makes an uploaded order
drafted. -/
def CaseFile.TellsOrder (venues : NameTable) (file : CaseFile) : Order → Prop
  | .blank => Filled file.answers.directions
  | .dischargeOfCare =>
      venues.Knows file.answers.careOrderCourt ∧
        ∃ issued, file.answers.careOrderDate = some issued
  | .care => file.Wordable
  | .interimCare | .interimSupervision =>
      file.Wordable ∧
        file.answers.TellEndOf file.answers.endOrProceedings [.day, .moment,
          .endOfProceedings]
  | .supervision =>
      file.Wordable ∧ file.answers.TellEndOf file.answers.endOrMonths [.day,
        .moment, .months]
  | .emergencyProtection => file.Wordable ∧ file.answers.TellEmergency
  | .variationOfEmergencyProtection | .other => False

theorem TemplatedDrafter.draft_succeeds_iff (drafter : TemplatedDrafter) :
    Succeeds (drafter.draft file language) ↔
      Succeeds (drafter.fill (.ofOrder drafter.order) file language) :=
  Succeeds.of_bind_ok_iff fun _ => .of_pure _

namespace Drafting

theorem draftBlank_succeeds_iff :
    Succeeds (draftBlank file language) ↔ Filled file.answers.directions := by
  rw [← exists_nonBlank?_iff, ← Succeeds.need_iff]
  exact Succeeds.of_bind_ok_iff fun _ => .of_pure _

theorem fillDischarge_succeeds_iff :
    Succeeds (fillDischarge venues seed file language) ↔
      venues.Knows file.answers.careOrderCourt ∧
        ∃ issued, file.answers.careOrderDate = some issued := by
  have hvenue : ∀ id, (∃ venue, venueName venues id = .ok venue) ↔
      ∃ venue, venues.name? id = some venue := by
    intro id
    cases hname : venues.name? id <;> simp [venueName, hname]
  rw [NameTable.knows_iff]
  simp only [← hvenue, Succeeds, fillDischarge_eq_ok_iff]
  constructor
  · rintro ⟨_, id, issued, venue, hid, hissued, hvenue, -⟩
    exact ⟨⟨id, hid, venue, hvenue⟩, issued, hissued⟩
  · rintro ⟨⟨id, hid, venue, hvenue⟩, issued, hissued⟩
    exact ⟨_, id, issued, venue, hid, hissued, hvenue, rfl⟩

theorem fillCare_succeeds_iff :
    Succeeds (fillCare seed file language) ↔ file.Wordable := by
  have hworded : Succeeds (fillCare seed file language) ↔
      file.Wordable ∧ True :=
    CaseFile.worded_succeeds_iff fun _ _ => iff_of_true (.of_pure _) trivial
  rw [hworded, and_true]

theorem interimCareEnd_succeeds_iff (ending : Ending) :
    Succeeds (interimCareEnd language ending) ↔
      ending.kind ∈ [.day, .moment, .endOfProceedings] := by
  cases ending <;> simp [interimCareEnd, Ending.kind]

theorem fillInterimCare_succeeds_iff :
    Succeeds (fillInterimCare seed file language) ↔
      file.Wordable ∧
        file.answers.TellEndOf file.answers.endOrProceedings
          [.day, .moment, .endOfProceedings] :=
  CaseFile.worded_succeeds_iff fun _ _ =>
    Answers.lasting_succeeds_iff interimCareEnd_succeeds_iff fun _ => .of_pure _

theorem supervisionEnd_succeeds_iff (ending : Ending) :
    Succeeds (supervisionEnd language ending) ↔
      ending.kind ∈ [.day, .moment, .months] := by
  cases ending <;> simp [supervisionEnd, Ending.kind]

theorem interimSupervisionEnd_succeeds_iff (ending : Ending) :
    Succeeds (interimSupervisionEnd language ending) ↔
      ending.kind ∈ [.day, .moment, .endOfProceedings] := by
  cases ending <;> simp [interimSupervisionEnd, Ending.kind]

theorem fillSupervisionWith_succeeds_iff
    {kind : Answers → Option EndKind} {suited : List EndKind}
    {lasting : Language → Ending → Except OrderError String}
    (hlasting : ∀ ending, Succeeds (lasting language ending) ↔
      ending.kind ∈ suited) :
    Succeeds (fillSupervisionWith kind lasting seed file language) ↔
      file.Wordable ∧ file.answers.TellEndOf (kind file.answers) suited :=
  CaseFile.worded_succeeds_iff fun _ _ =>
    Answers.lasting_succeeds_iff hlasting fun _ => .of_pure _

theorem fillEmergencyProtection_succeeds_iff :
    Succeeds (fillEmergencyProtection seed file language) ↔
      file.Wordable ∧ file.answers.TellEmergency := by
  apply CaseFile.worded_succeeds_iff
  intro number authority
  cases hkind : file.answers.emergencyKind with
  | none =>
      refine iff_of_false (Succeeds.not_error_bind _ _) ?_
      intro htold
      obtain ⟨kind, hchosen⟩ := htold.kind_chosen
      rw [hkind] at hchosen
      contradiction
  | some kind =>
      rw [need_some, Succeeds.ok_bind_iff,
        Succeeds.bind_iff fun times _ => Succeeds.bind_iff fun details _ =>
          Succeeds.of_bind_ok_iff fun exclusion => .of_pure _,
        Answers.emergencyTimes_succeeds_iff,
          Answers.emergencySentence_succeeds_iff,
        Answers.exclusion_succeeds_iff, Answers.oneLineAddress_iff]
      constructor
      · rintro ⟨htimes, haddress, hexclusion⟩
        exact ⟨⟨kind, hkind⟩,
          htimes, by simpa [hkind] using haddress, hexclusion⟩
      · rintro ⟨-, htimes, haddress, hexclusion⟩
        exact ⟨htimes, by simpa [hkind] using haddress, hexclusion⟩

theorem draft_succeeds_iff
    {drafter : Drafter} (hdrafter : drafterFor? venues order = some drafter) :
    Succeeds (drafter.draft file language) ↔ file.TellsOrder venues order := by
  cases draftedBy_of_drafterFor? hdrafter with
  | blank =>
      exact draftBlank_succeeds_iff
  | emergencyProtection =>
      exact emergencyProtection.draft_succeeds_iff.trans
        fillEmergencyProtection_succeeds_iff
  | care =>
      exact care.draft_succeeds_iff.trans fillCare_succeeds_iff
  | dischargeOfCare =>
      exact (dischargeOfCare venues).draft_succeeds_iff.trans
        fillDischarge_succeeds_iff
  | interimCare =>
      exact interimCare.draft_succeeds_iff.trans fillInterimCare_succeeds_iff
  | supervision =>
      exact supervision.draft_succeeds_iff.trans
        (fillSupervisionWith_succeeds_iff supervisionEnd_succeeds_iff)
  | interimSupervision =>
      exact interimSupervision.draft_succeeds_iff.trans
        (fillSupervisionWith_succeeds_iff interimSupervisionEnd_succeeds_iff)

/-- Drafters of orders with Welsh wording leave the date of issue to the
stamper. -/
theorem undated_of_draft
    {drafter : Drafter} (hwelsh : order.hasWelsh = true)
    (hdrafter : drafterFor? venues order = some drafter)
    (hdrafted : drafter.draft file language = .ok drafted) :
    drafted.dateOfIssue = none := by
  have haccord := draft_languages hwelsh hdrafter file
  cases language with
  | english =>
      rw [hdrafted] at haccord
      generalize drafter.draft file .welsh = translated at haccord
      cases haccord with
      | succeeded hretold => exact hretold.undated
  | welsh =>
      rw [hdrafted] at haccord
      generalize drafter.draft file .english = original at haccord
      cases haccord with
      | succeeded hretold =>
          rw [hretold.same]
          exact hretold.undated

theorem dated_of_fillEmergencyProtection
    {filled : Particulars}
    (hfilled : fillEmergencyProtection seed file language = .ok filled) :
    ∃ approved, file.answers.approvalMoment = some approved ∧
      filled.dateOfIssue = some (approved.printed language) := by
  obtain ⟨number, authority, kind, approved, ends, sentence, exclusion, -, -, -,
    htimes, -, -, rfl⟩ := exists_of_fillEmergencyProtection hfilled
  exact ⟨approved, (emergencyTimes_eq_ok_iff.mp htimes).1, rfl⟩

end Drafting

/-! ### Stamping -/

theorem Answers.exists_approvalDay_iff {answers : Answers} :
    (∃ day, answers.approvalDay = some day) ↔
      (∃ date, answers.approvalDate = some date) ∨
        ∃ moment, answers.approvalMoment = some moment := by
  cases hdate : answers.approvalDate <;> cases hmoment :
    answers.approvalMoment <;>
    simp [approvalDay, hdate, hmoment]

/-- A draft can be dated by its day of approval; an emergency protection order
is dated already. -/
theorem exists_dateOfIssue_iff
    {drafter : Drafter} (hdrafter : drafterFor? venues order = some drafter)
    (hdrafted : drafter.draft file language = .ok drafted) :
    (∃ issued, dateOfIssue drafted.dateOfIssue file.answers language =
      some issued) ↔
      (order ≠ .emergencyProtection →
        ∃ day, file.answers.approvalDay = some day) := by
  by_cases hemergency : order = .emergencyProtection
  · subst hemergency
    obtain rfl := Option.some.inj hdrafter
    obtain ⟨filled, hfilled, rfl⟩ :=
      TemplatedDrafter.draft_eq_ok_iff.mp hdrafted
    obtain ⟨approved, -, hdated⟩ := dated_of_fillEmergencyProtection hfilled
    have hwritten :
        nonBlank? filled.dateOfIssue = some (approved.printed language) :=
      nonBlank?_eq_some_iff.mpr ⟨hdated, approved.allBlank_printed language⟩
    have hissued := dateOfIssue_stays hwritten file.answers language
    rw [hdated] at hissued
    simp [hdated, hissued]
  · have hwelsh : order.hasWelsh = true := by
      cases order <;> first | rfl | contradiction
    rw [undated_of_draft hwelsh hdrafter hdrafted]
    simp only [dateOfIssue_none_eq_some_iff, ne_eq, hemergency,
      not_false_eq_true, forall_const]
    rw [exists_comm]
    simp

theorem Stamper.stamp_succeeds_iff (stamper : Stamper) (status : OrderStatus) :
    Succeeds (stamper.stamp drafted file status language) ↔
      file.TellsChildren ∧ stamper.courts.Knows file.localAuthority ∧
        ∃ issued,
          dateOfIssue drafted.dateOfIssue file.answers language =
            some issued := by
  have hcourt :
      Succeeds (stamper.court file) ↔
        stamper.courts.Knows file.localAuthority := by
    simp only [Succeeds, court_eq_ok_iff, NameTable.knows_iff]
    grind
  have hissued :
      Succeeds (need .approvalDate
        (dateOfIssue drafted.dateOfIssue file.answers language)) ↔
        ∃ issued,
          dateOfIssue drafted.dateOfIssue file.answers language = some issued :=
    Succeeds.need_iff
  rw [stamp, Succeeds.bind_iff fun children _ =>
    Succeeds.bind_iff fun court _ =>
    Succeeds.of_bind_ok_iff fun issued =>
      .of_pure _, CaseFile.selectedChildren_succeeds_iff,
    hcourt, hissued]

/-! ### Rendering -/

/-- The case tells all that the order asks for. -/
structure CaseFile.TellsAll (courts venues : NameTable) (order : Order)
    (file : CaseFile) : Prop where
  children_told : file.TellsChildren
  court_known : courts.Knows file.localAuthority
  approved :
    order ≠ .emergencyProtection →
      (∃ date, file.answers.approvalDate = some date) ∨
        ∃ moment, file.answers.approvalMoment = some moment
  order_told : file.TellsOrder venues order

namespace Engine

variable {engine : Engine} {images : ImageSet} {courts : NameTable}
  {status : OrderStatus} {format : FileFormat} {exchanges : List Exchange}
  {outcome : Except OrderError Produced}

theorem checkLanguage_eq_ok_iff :
    checkLanguage order language = .ok () ↔
      (language = .welsh → order.hasWelsh = true) := by
  cases language <;> cases hwelsh :
    order.hasWelsh <;> simp [checkLanguage, hwelsh]

theorem prepare_succeeds_iff :
    Succeeds ((standard images courts venues).prepare order file status
      language) ↔
      (language = .welsh → order.hasWelsh = true) ∧
      file.TellsAll courts venues order := by
  rw [← checkLanguage_eq_ok_iff]
  constructor
  · rintro ⟨prepared, hprepare⟩
    obtain ⟨drafter, -, hlanguage, hdrafter, drafted, hdrafted, hstamped⟩ :=
      standard_prepare_eq_ok_iff.mp hprepare
    obtain ⟨hchildren, hcourt, hissued⟩ :=
      (Stamper.stamp_succeeds_iff _ status).mp ⟨_, hstamped⟩
    rw [exists_dateOfIssue_iff hdrafter hdrafted,
      Answers.exists_approvalDay_iff] at hissued
    exact ⟨hlanguage, hchildren, hcourt, hissued,
      (draft_succeeds_iff hdrafter).mp ⟨drafted, hdrafted⟩⟩
  · rintro ⟨hlanguage, hchildren, hcourt, happroved, htold⟩
    obtain ⟨drafter, hdrafter⟩ :
      ∃ drafter, drafterFor? venues order = some drafter := by
      cases order <;> first | exact ⟨_, rfl⟩ | contradiction
    have hdrafts : Succeeds (drafter.draft file language) :=
      (draft_succeeds_iff hdrafter).mpr htold
    obtain ⟨drafted, hdrafted⟩ := hdrafts
    rw [← Answers.exists_approvalDay_iff,
      ← exists_dateOfIssue_iff hdrafter hdrafted]
      at happroved
    obtain ⟨stamped, hstamped⟩ :=
      (Stamper.stamp_succeeds_iff { images, courts } status).mpr
      ⟨hchildren, hcourt, happroved⟩
    exact ⟨⟨drafter.layout, stamped⟩, standard_prepare_eq_ok_iff.mpr
      ⟨drafter, rfl, hlanguage, hdrafter, drafted, hdrafted, hstamped⟩⟩

/-- The renderer is reached exactly when the order has wording in its language
and the case tells all that the order asks for. -/
theorem generate_reachesRenderer_iff
    (collaborators : Collaborators σ) (state : σ) (images : ImageSet)
    (courts venues : NameTable) (order : Order) (file : CaseFile)
    (status : OrderStatus) (format : FileFormat) (language : Language) :
    .render ∈ callKinds (collaborators.exchangesFrom state
        ((standard images courts venues).generate · order file status format
          language)) ↔
      (language = .welsh → order.hasWelsh = true) ∧
      file.TellsAll courts venues order := by
  have hgeneration :=
    (standard images courts venues).generation_of_generate collaborators
    state order file status format language
  rw [← prepare_succeeds_iff, Succeeds, ← hgeneration.renders_iff]
  rcases hgeneration.kinds_eq with honce | ⟨hnever, -⟩
  · simp [honce]
  · simp [hnever]

end Engine

end FamilyOrders
