import FamilyOrders.Proofs.Creation.CallSequence
import FamilyOrders.Proofs.Creation.LeftoverAnswers
import FamilyOrders.Proofs.Creation.NumberAgreement

/-!
# Stored content and attachments

What is uploaded is what was produced, and what is attached goes back to the
particulars.
-/

namespace FamilyOrders

/-! ## What is stored

Content reaches the store from the renderer, from the sealing service or
straight from the user's upload.  Whichever it was, its bytes are kept as they
came, and the format that came with them, not the one that was asked for, gives
the name and the media type. -/

/-- The calls that gave the content of a document, and the format in which it
came. -/
inductive Provenance (order : Order) (file : CaseFile) :
    List Exchange → Bytes → FileFormat → Prop
  | rendered {layout : Layout} {asked : FileFormat} {language : Language}
      {particulars : Particulars} {rendered : Rendered}
      (hsource : order.source = .digital) :
      Provenance order file
        [⟨.render layout asked language particulars, .ok rendered⟩]
        rendered.bytes rendered.format
  | passedOn {document : DocumentReference} {bytes : Bytes}
      {announced : FileFormat} (hsource : order.source = .manualUpload)
      (hfile : file.answers.uploadedFile = some document)
      (hannounced : FileFormat.ofFileName? document.filename = some announced) :
      Provenance order file [⟨.download document, .ok bytes⟩] bytes announced
  | sealed {document : DocumentReference} {bytes : Bytes} {language : Language}
      {stamped : Rendered}
      (hsource : order.source = .manualUpload)
      (hfile : file.answers.uploadedFile = some document) :
      Provenance order file
        [⟨.download document, .ok bytes⟩,
          ⟨.sealDocument bytes document.filename language, .ok stamped⟩]
        stamped.bytes stamped.format

namespace Engine

/-- What is stored of an order in the given format, and what the caller is told
of it. -/
structure StoredAs (engine : Engine) (order : Order) (file : CaseFile)
    (status : OrderStatus) (language : Language) (exchanges : List Exchange)
    (outcome : Except OrderError CreatedDocument) (bytes : Bytes)
    (name mediaType : String) (reply : Except OrderError DocumentReference)
    (format : FileFormat) : Prop where
  chosen :
    file.answers.order = some order
  provenance :
    ∃ earlier,
      exchanges = earlier ++ [⟨.upload bytes name mediaType, reply⟩] ∧
        Provenance order file earlier bytes format
  mediaType_eq :
    mediaType = format.mediaType
  extension :
    ∃ stem, name = stem ++ "." ++ format.fileExtension
  draft_name :
    status = .draft → name = draftFileName format language
  final_name :
    status ≠ .draft → name = order.fileName format file.answers.title
  told :
    ∀ created, outcome = .ok created →
      reply = .ok created.document ∧
      created.title = order.displayTitle file.answers.title
  digital_attachments :
    ∀ created, outcome = .ok created → order.source = .digital →
      engine.attachments order file = .ok created.attachments
  uploaded_attachments :
    ∀ created, outcome = .ok created → order.source = .manualUpload →
      created.attachments = []

variable {engine : Engine} {order : Order} {file : CaseFile}
  {status : OrderStatus}
  {format : FileFormat} {language : Language} {exchanges : List Exchange}
  {produced : Produced}

theorem Production.provenance
    (hproduction : engine.Production order file status format language exchanges
      (.ok produced)) :
    Provenance order file exchanges produced.bytes produced.format := by
  cases hproduction with
  | digital hsource hgeneration =>
      cases hgeneration with
      | rendered => exact .rendered hsource
  | manualUpload hsource hpassing =>
      cases hpassing with
      | passedOn hupload =>
          obtain ⟨hfile, hannounced⟩ := CaseFile.upload_eq_ok_iff.mp hupload
          exact .passedOn hsource hfile hannounced
      | sealed hupload =>
          exact .sealed hsource (CaseFile.upload_eq_ok_iff.mp hupload).1

theorem Production.attachments_digital
    (hproduction : engine.Production order file status format language exchanges
      (.ok produced))
    (hsource : order.source = .digital) :
    engine.attachments order file = .ok produced.attachments := by
  cases hproduction with
  | digital _ hgeneration =>
      cases hgeneration with
      | rendered _ hattachments => exact hattachments
  | manualUpload hmanual =>
      rw [hsource] at hmanual
      contradiction

theorem Production.attachments_manualUpload
    (hproduction : engine.Production order file status format language exchanges
      (.ok produced))
    (hsource : order.source = .manualUpload) :
    produced.attachments = [] := by
  cases hproduction with
  | digital hdigital =>
      rw [hsource] at hdigital
      contradiction
  | manualUpload _ hpassing => cases hpassing <;> rfl

end Engine

theorem draftFileName_extension
    (format : FileFormat) (language : Language) :
    ∃ stem,
      draftFileName format language = stem ++ "." ++ format.fileExtension := by
  cases language with
  | english => exact ⟨"Preview order", rfl⟩
  | welsh => exact ⟨"Preview order - Welsh", rfl⟩

theorem documentName_extension
    (order : Order) (status : OrderStatus) (format : FileFormat)
    (language : Language) (title : Option String) :
    ∃ stem, documentName order status format language title =
      stem ++ "." ++ format.fileExtension := by
  cases status with
  | draft => exact draftFileName_extension format language
  | «sealed» => exact ⟨order.fileStem title, rfl⟩
  | plain => exact ⟨order.fileStem title, rfl⟩

theorem documentName_of_ne_draft
    {status : OrderStatus} (hstatus : status ≠ .draft) (order : Order)
    (format : FileFormat) (language : Language) (title : Option String) :
    documentName order status format language title =
      order.fileName format title := by
  cases status with
  | draft => contradiction
  | «sealed» => rfl
  | plain => rfl

namespace Engine

variable {engine : Engine} {file : CaseFile} {status : OrderStatus}
  {format : FileFormat} {language : Language} {exchanges : List Exchange}
  {outcome : Except OrderError CreatedDocument} {bytes : Bytes}
  {name mediaType : String} {reply : Except OrderError DocumentReference}

/-- An upload closes the run, with what was produced until then. -/
theorem Creation.of_upload
    (hcreation : engine.Creation file status format language exchanges outcome)
    (hupload : ⟨.upload bytes name mediaType, reply⟩ ∈ exchanges) :
    ∃ order earlier produced,
      file.answers.order = some order ∧
      engine.Production order file status format language earlier
        (.ok produced) ∧
      exchanges = earlier ++ [⟨.upload bytes name mediaType, reply⟩] ∧
      Call.upload bytes name mediaType =
        uploadCall order file status language produced ∧
      outcome = reply.map fun document =>
        { document
          title := order.displayTitle file.answers.title
          attachments := produced.attachments } := by
  cases horder : file.answers.order with
  | none =>
      rw [hcreation.nothing_of_none horder] at hupload
      contradiction
  | some order =>
      rcases hcreation.of_order horder with
        ⟨error, hproduction, -⟩ | ⟨earlier, produced, answer, hproduction, rfl,
          houtcome⟩
      · exact absurd (kind_mem_callKinds hupload) hproduction.upload_notMem
      · rcases List.mem_append.mp hupload with hbefore | hlatest
        · exact absurd (kind_mem_callKinds hbefore) hproduction.upload_notMem
        · cases List.mem_singleton.mp hlatest
          exact ⟨order, earlier, produced, rfl, hproduction, rfl, rfl, houtcome⟩

theorem stored_as_produced
    {collaborators : Collaborators σ} {state : σ}
    (hupload : ⟨.upload bytes name mediaType, reply⟩ ∈
      collaborators.exchangesFrom state
        (engine.create · file status format language)) :
    ∃ order came,
      engine.StoredAs order file status language
        (collaborators.exchangesFrom state
          (engine.create · file status format language))
        (outcomeFrom state
          (engine.create collaborators file status format language))
        bytes name mediaType reply came := by
  have hcreation :=
    engine.creation_of_create collaborators state file status format language
  obtain ⟨order, earlier, produced, horder, hproduction, hexchanges, hcall,
    houtcome⟩ :=
    hcreation.of_upload hupload
  obtain ⟨hbytes, hname, hmediaType⟩ := Call.upload.inj hcall
  have htold : ∀ created,
      outcomeFrom state (engine.create collaborators file status format
        language) =
          .ok created →
      reply = .ok created.document ∧
        created.title = order.displayTitle file.answers.title ∧
        created.attachments = produced.attachments := by
    intro created hcreated
    rw [houtcome] at hcreated
    cases reply with
    | error error => contradiction
    | ok document =>
        obtain rfl := Except.ok.inj hcreated
        exact ⟨rfl, rfl, rfl⟩
  refine ⟨order, produced.format, ?_⟩
  constructor
  case chosen => exact horder
  case provenance =>
    refine ⟨earlier, hexchanges, ?_⟩
    rw [hbytes]
    exact hproduction.provenance
  case mediaType_eq => exact hmediaType
  case extension =>
    rw [hname]
    exact documentName_extension order status produced.format language
      file.answers.title
  case draft_name =>
    rintro rfl
    exact hname
  case final_name =>
    intro hstatus
    rw [hname]
    exact documentName_of_ne_draft hstatus order produced.format language
      file.answers.title
  case told =>
    intro created hcreated
    obtain ⟨hreply, htitle, -⟩ := htold created hcreated
    exact ⟨hreply, htitle⟩
  case digital_attachments =>
    intro created hcreated hsource
    obtain ⟨-, -, hattachments⟩ := htold created hcreated
    rw [hattachments]
    exact hproduction.attachments_digital hsource
  case uploaded_attachments =>
    intro created hcreated hsource
    obtain ⟨-, -, hattachments⟩ := htold created hcreated
    rw [hattachments]
    exact hproduction.attachments_manualUpload hsource

def scannedOrder : CaseFile :=
  { answers := {
      order := some .other
      title := some "Contact"
      uploadedFile := some (.named "scan.docx")
      needSealing := some .yes } }

/-- A scan uploaded as a Word document and wanted as a web page is stored as the
PDF it became. -/
theorem scan_stored_as_pdf :
    let engine := standard {} [] []
    let exchanges :=
      Collaborators.obliging.exchangesFrom ()
        (engine.create · scannedOrder .sealed .html .english)
    let name := documentName .other .sealed .pdf .english (some "Contact")
    name = "contact.pdf" ∧
      ∃ order came,
        engine.StoredAs order scannedOrder .sealed .english exchanges
          (outcomeFrom ()
            (engine.create Collaborators.obliging scannedOrder .sealed .html
              .english))
          [1] name "application/pdf" (.ok (.named name)) came := by
  intro engine exchanges name
  have hlast :
      exchanges.getLast? =
        some ⟨.upload [1] name "application/pdf", .ok (.named name)⟩ := rfl
  exact ⟨by decide, stored_as_produced (List.mem_of_getLast? hlast)⟩

end Engine

/-! ## What goes out with an order

The sentence on an excluded person is drafted before an order is rendered, and
the power of arrest is looked for afterwards; either reads the answers by
itself.  Still the two agree: the power of arrest goes out with an order whose
rendered particulars have such a sentence, and nothing goes out with any other,
whatever document was left on the case. -/

open FamilyOrders.Drafting

/-- These documents are what is to go out with an order rendered from the
particulars. -/
structure Particulars.Accompanied (order : Order) (file : CaseFile)
    (particulars : Particulars)
    (attachments : List DocumentReference) : Prop where
  excluding :
    ∀ sentence document, particulars.exclusion? = some sentence →
      file.answers.powerOfArrest = some document → attachments = [document]
  not_excluding : particulars.exclusion? = none → attachments = []
  no_document : file.answers.powerOfArrest = none → attachments = []
  other_order : order ≠ .emergencyProtection → attachments = []

/-! ### Sentences on excluded persons -/

theorem Particulars.exclusion?_of_isDraft
    {order : Order} {drafted : Particulars}
    (hdraft : drafted.IsDraft order .standard) : drafted.exclusion? = none := by
  have hemergency : drafted.emergency = none := by
    rw [← Option.not_isSome_iff_eq_none, hdraft.emergency_iff]
    exact nofun
  rw [exclusion?, hemergency]
  rfl

namespace Drafting

variable {venues : NameTable} {order : Order} {file : CaseFile}
  {language : Language} {drafter : Drafter} {drafted : Particulars}

theorem exclusion?_emergencyProtection
    (hdrafted : emergencyProtection.draft file language = .ok drafted) :
    drafted.exclusion?.isSome = saidYes file.answers.exclusionRequirement := by
  obtain ⟨filled, hfilled, rfl⟩ := TemplatedDrafter.draft_eq_ok_iff.mp hdrafted
  obtain ⟨number, authority, kind, approved, ends, sentence, exclusion, -, -, -,
    -, -, hexclusion, rfl⟩ := exists_of_fillEmergencyProtection hfilled
  change exclusion.isSome = _
  rcases exclusion_cases hexclusion with ⟨hrequired, rfl⟩ | ⟨hrequired,
    excluded, start, -, rfl⟩
  · rw [hrequired]
    rfl
  · rw [hrequired]
    rfl

theorem layout_of_drafterFor?
    (horder : order ≠ .emergencyProtection)
    (hdrafter : drafterFor? venues order = some drafter) :
    drafter.layout = .standard := by
  cases draftedBy_of_drafterFor? hdrafter with
  | emergencyProtection => contradiction
  | blank | care | dischargeOfCare | interimCare | supervision
    | interimSupervision => rfl

end Drafting

namespace Engine

variable {images : ImageSet} {courts venues : NameTable} {order : Order}
  {file : CaseFile}
  {status : OrderStatus} {language : Language} {drafter : Drafter}
  {stamped : Particulars}

/-- An order tells of an excluded person exactly when it is an emergency
protection order whose answers require an exclusion. -/
theorem Writes.exclusion?_isSome_iff
    (hwrites :
      Writes images courts venues order file status language drafter stamped) :
    stamped.exclusion?.isSome = true ↔
      order = .emergencyProtection ∧
      saidYes file.answers.exclusionRequirement = true := by
  obtain ⟨drafted, -, hdrafted, -, hsame, -, -⟩ := hwrites.exists_draft
  have hstamped : stamped.exclusion? = drafted.exclusion? := by
    rw [Particulars.exclusion?, hsame.emergency]
    rfl
  rw [hstamped]
  by_cases horder : order = .emergencyProtection
  · subst horder
    obtain rfl := Option.some.inj hwrites.drafter_eq
    rw [exclusion?_emergencyProtection hdrafted]
    simp
  · have hdraft := isDraft_of_draft hwrites.drafter_eq hdrafted
    rw [layout_of_drafterFor? horder hwrites.drafter_eq] at hdraft
    rw [Particulars.exclusion?_of_isDraft hdraft]
    simp [horder]

theorem Writes.accompanied
    (hwrites :
      Writes images courts venues order file status language drafter stamped)
    {attachments : List DocumentReference}
    (hattachments :
      (standard images courts venues).attachments order file =
        .ok attachments) :
    stamped.Accompanied order file attachments := by
  have hexcludes := hwrites.exclusion?_isSome_iff
  rw [standard_attachments, Except.ok.injEq] at hattachments
  subst hattachments
  unfold powerOfArrest
  constructor
  case excluding =>
    intro sentence document hsentence hdocument
    rw [hsentence] at hexcludes
    obtain ⟨horder, hrequired⟩ := hexcludes.mp rfl
    rw [if_pos horder, if_pos hrequired, hdocument]
    rfl
  case not_excluding =>
    intro hnone
    rw [hnone] at hexcludes
    by_cases horder : order = .emergencyProtection
    · have hrequired : saidYes file.answers.exclusionRequirement ≠ true :=
        fun hyes => Bool.false_ne_true (hexcludes.mpr ⟨horder, hyes⟩)
      rw [if_pos horder, if_neg hrequired]
    · rw [if_neg horder]
  case no_document =>
    intro hdocument
    rw [hdocument, Option.toList_none, ite_self, ite_self]
  case other_order =>
    intro horder
    rw [if_neg horder]

/-- What goes out with a generated order is told by the particulars it was
rendered from. -/
theorem generate_accompanied
    (collaborators : Collaborators σ) (state : σ) (images : ImageSet)
    (courts venues : NameTable) (order : Order) (file : CaseFile)
    (status : OrderStatus)
    (format : FileFormat) (language : Language) {produced : Produced}
    (hproduced :
      outcomeFrom state
        ((standard images courts venues).generate collaborators order file
          status format language) = .ok produced) :
    ∃ layout stamped rendered,
      collaborators.exchangesFrom state
          ((standard images courts venues).generate · order file status format
            language) =
        [⟨.render layout format language stamped, .ok rendered⟩] ∧
      produced = rendered.produced produced.attachments ∧
      stamped.Accompanied order file produced.attachments := by
  have hgeneration :=
    (standard images courts venues).generation_of_generate collaborators
    state order file status format language
  rw [hproduced] at hgeneration
  generalize collaborators.exchangesFrom state
    ((standard images courts venues).generate · order file status format
      language) = exchanges
    at hgeneration ⊢
  cases hgeneration with
  | @rendered prepared rendered attachments hprepare hattachments =>
      obtain ⟨drafter, -, hwrites⟩ := standard_prepare_eq_ok_iff.mp hprepare
      exact ⟨prepared.layout, prepared.particulars, rendered, rfl, rfl,
        hwrites.accompanied hattachments⟩

/-- The removal of a child from a home from which a person is excluded, with a
power of arrest. -/
def removalWithArrest : CaseFile :=
  { removalCase with
    answers := { removalCase.answers with
      exclusionRequirement := some .yes
      excludedPerson := some "John Jones"
      exclusionStart := Calendar.Date.of? 2021 6 5
      powerOfArrest := some (.named "power-of-arrest.pdf") } }

/-- The power of arrest goes out with the order that excludes the person. -/
theorem arrest_goes_with_exclusion :
    ∃ layout stamped rendered sentence,
      Collaborators.obliging.exchangesFrom ()
          ((standard {} [("SA", "Family Court sitting at Swansea")]
            []).generate · .emergencyProtection removalWithArrest .sealed .pdf
            .english) =
        [⟨.render layout .pdf .english stamped, .ok rendered⟩] ∧
      stamped.exclusion? = some sentence ∧
      stamped.Accompanied .emergencyProtection removalWithArrest
        [.named "power-of-arrest.pdf"] := by
  have hproduced :
      outcomeFrom ()
        ((standard {} [("SA", "Family Court sitting at Swansea")] []).generate
        .obliging .emergencyProtection removalWithArrest .sealed .pdf
          .english) =
      .ok ⟨[], .pdf, [.named "power-of-arrest.pdf"]⟩ := rfl
  obtain ⟨layout, stamped, rendered, hexchanges, -, haccompanied⟩ :=
    generate_accompanied .obliging ()
      {} [("SA", "Family Court sitting at Swansea")] []
      .emergencyProtection removalWithArrest .sealed .pdf .english hproduced
  cases hexclusion : stamped.exclusion? with
  | none =>
      exact absurd (haccompanied.not_excluding hexclusion)
        (List.cons_ne_nil _ _)
  | some sentence =>
      exact ⟨layout, stamped, rendered, sentence, hexchanges, hexclusion,
        haccompanied⟩

end Engine

end FamilyOrders
