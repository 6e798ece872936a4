import FamilyOrders.Proofs.Actions
import FamilyOrders.Proofs.Creation.Runs

/-!
# The sequence of calls

What is asked of the collaborators in a creation, in which order, and that the
same answers give the same run.
-/

namespace FamilyOrders

/-! ## The sequence of calls

Which collaborators the making of a document calls, in which order, and how this
decides the result.  A run makes calls as long as they are fulfilled: it ends
with the error of what could not be settled before the first call, or with the
error of its last call, or well. -/

inductive CallKind
  | render
  | download
  | sealDocument
  | upload
  deriving DecidableEq

def Call.kind : Call → CallKind
  | .render .. => .render
  | .download _ => .download
  | .sealDocument .. => .sealDocument
  | .upload .. => .upload

def callKinds (exchanges : List Exchange) : List CallKind :=
  exchanges.map (·.call.kind)

@[simp] theorem callKinds_concat (exchanges : List Exchange) (last : Exchange) :
    callKinds (exchanges ++ [last]) = callKinds exchanges ++ [last.call.kind] :=
  List.map_append

theorem kind_mem_callKinds {exchange : Exchange} {exchanges : List Exchange}
    (hmem : exchange ∈ exchanges) :
    exchange.call.kind ∈ callKinds exchanges :=
  List.mem_map_of_mem hmem

/-! ### One call after the other -/

/-- All calls but the last are fulfilled, and the last error is the one that is
returned. -/
inductive Course (settled : Except OrderError Unit) :
    List Exchange → Except OrderError α → Prop
  | unsettled {error : OrderError}
      (hsettled : settled = .error error) :
      Course settled [] (.error error)
  | failed (earlier : List Exchange) {last : Exchange} {error : OrderError}
      (hsettled : settled = .ok ())
      (hearlier : ∀ exchange ∈ earlier, exchange.Succeeded)
      (hlast : last.failure? = some error) :
      Course settled (earlier ++ [last]) (.error error)
  | fulfilled {exchanges : List Exchange} {a : α}
      (hsettled : settled = .ok ())
      (hall : ∀ exchange ∈ exchanges, exchange.Succeeded) :
      Course settled exchanges (.ok a)

namespace Course

variable {settled : Except OrderError Unit} {exchanges : List Exchange}
  {outcome : Except OrderError α}

theorem succeeded_of_mem_dropLast
    (hcourse : Course settled exchanges outcome) :
    ∀ exchange ∈ exchanges.dropLast, exchange.Succeeded := by
  intro exchange hmem
  cases hcourse with
  | unsettled => simp at hmem
  | failed earlier hsettled hearlier hlast =>
      rw [List.dropLast_concat] at hmem
      exact hearlier exchange hmem
  | fulfilled hsettled hall =>
      exact hall exchange (List.dropLast_subset exchanges hmem)

theorem error_iff
    (hcourse : Course settled exchanges outcome) (error : OrderError) :
    outcome = .error error ↔
      settled = .error error ∨
        ∃ exchange ∈ exchanges, exchange.failure? = some error := by
  cases hcourse with
  | unsettled hsettled => simp [hsettled]
  | @failed earlier last found hsettled hearlier hlast =>
      constructor
      · intro heq
        obtain rfl := Except.error.inj heq
        exact .inr ⟨last, by simp, hlast⟩
      · rintro (hunsettled | ⟨exchange, hmem, hfailure⟩)
        · rw [hsettled] at hunsettled
          contradiction
        · rcases List.mem_append.mp hmem with hbefore | hlatest
          · rw [hearlier exchange hbefore] at hfailure
            contradiction
          · rw [List.mem_singleton.mp hlatest, hlast] at hfailure
            rw [Option.some.inj hfailure]
  | fulfilled hsettled hall =>
      constructor
      · intro heq
        contradiction
      · rintro (hunsettled | ⟨exchange, hmem, hfailure⟩)
        · rw [hsettled] at hunsettled
          contradiction
        · rw [hall exchange hmem] at hfailure
          contradiction

theorem of_error
    {error : OrderError}
    (hcourse : Course settled exchanges (.error error : Except _ β)) :
    Course settled exchanges (.error error : Except _ α) := by
  cases hcourse with
  | unsettled hsettled => exact .unsettled hsettled
  | failed earlier hsettled hearlier hlast =>
      exact .failed earlier hsettled hearlier hlast

theorem of_ok
    {a : α} (hcourse : Course settled exchanges (.ok a)) :
    settled = .ok () ∧ ∀ exchange ∈ exchanges, exchange.Succeeded := by
  cases hcourse with
  | fulfilled hsettled hall => exact ⟨hsettled, hall⟩

theorem nothing_of_unsettled
    {error : OrderError} (hcourse : Course settled exchanges outcome)
    (herror : settled = .error error) :
    exchanges = [] ∧ outcome = .error error := by
  cases hcourse with
  | unsettled hsettled =>
      rw [hsettled] at herror
      exact ⟨rfl, by rw [Except.error.inj herror]⟩
  | failed earlier hsettled => rw [hsettled] at herror; contradiction
  | fulfilled hsettled => rw [hsettled] at herror; contradiction

end Course

/-! ### What the calls wait for -/

theorem CaseFile.sealDue_iff {file : CaseFile} {status : OrderStatus} :
    file.sealDue status = true ↔
      file.answers.needSealing = some .yes ∧ status = .sealed := by
  simp [CaseFile.sealDue, saidYes]

namespace Engine

/-- What has to be settled before anyone is called about an order. -/
def settleOrder (engine : Engine) (order : Order) (file : CaseFile)
    (status : OrderStatus) (language : Language) : Except OrderError Unit :=
  match order.source with
  | .digital => (engine.prepare order file status language).map fun _ => ()
  | .manualUpload => file.upload.map fun _ => ()

def settle (engine : Engine) (file : CaseFile) (status : OrderStatus)
    (language : Language) :
    Except OrderError Unit := do
  let order ← need .orderType file.answers.order
  engine.settleOrder order file status language

variable {engine : Engine} {order : Order} {file : CaseFile}
  {status : OrderStatus}
  {format : FileFormat} {language : Language} {exchanges : List Exchange}

theorem settle_of_order (horder : file.answers.order = some order) :
    engine.settle file status language =
      engine.settleOrder order file status language := by
  rw [settle, need_eq_ok_iff.mpr horder]
  rfl

theorem settleOrder_digital (hsource : order.source = .digital) :
    engine.settleOrder order file status language =
      (engine.prepare order file status language).map fun _ => () := by
  simp only [settleOrder, hsource]

theorem settleOrder_manualUpload (hsource : order.source = .manualUpload) :
    engine.settleOrder order file status language =
      file.upload.map fun _ => () := by
  simp only [settleOrder, hsource]

theorem Production.course
    {outcome : Except OrderError Produced}
    (hproduction :
      engine.Production order file status format language exchanges outcome) :
    Course (engine.settleOrder order file status language) exchanges
      outcome := by
  cases hproduction with
  | digital hsource hgeneration =>
      rw [settleOrder_digital hsource]
      cases hgeneration with
      | notPrepared hprepare => exact .unsettled (by rw [hprepare]; rfl)
      | notRendered hprepare =>
          exact .failed [] (by rw [hprepare]; rfl) (by simp) rfl
      | rendered hprepare =>
          exact .fulfilled (by rw [hprepare]; rfl)
            (List.forall_mem_singleton.mpr rfl)
  | manualUpload hsource hpassing =>
      rw [settleOrder_manualUpload hsource]
      cases hpassing with
      | notAccepted hupload => exact .unsettled (by rw [hupload]; rfl)
      | notDownloaded hupload =>
          exact .failed [] (by rw [hupload]; rfl) (by simp) rfl
      | passedOn hupload =>
          exact .fulfilled (by rw [hupload]; rfl)
            (List.forall_mem_singleton.mpr rfl)
      | notSealed hupload =>
          exact .failed [_] (by rw [hupload]; rfl)
            (List.forall_mem_singleton.mpr rfl) rfl
      | sealed hupload =>
          exact .fulfilled (by rw [hupload]; rfl)
            (List.forall_mem_cons.mpr ⟨rfl, List.forall_mem_singleton.mpr rfl⟩)

theorem Creation.course
    {outcome : Except OrderError CreatedDocument}
    (hcreation :
      engine.Creation file status format language exchanges outcome) :
    Course (engine.settle file status language) exchanges outcome := by
  cases hcreation with
  | noOrder horder => exact .unsettled (by rw [settle, horder]; rfl)
  | notProduced horder hproduction =>
      rw [settle_of_order horder]
      exact hproduction.course.of_error
  | notStored horder hproduction =>
      obtain ⟨hsettled, hall⟩ := hproduction.course.of_ok
      exact .failed _ (by rw [settle_of_order horder, hsettled]) hall rfl
  | stored horder hproduction =>
      obtain ⟨hsettled, hall⟩ := hproduction.course.of_ok
      refine .fulfilled (by rw [settle_of_order horder, hsettled]) ?_
      exact List.forall_mem_append.mpr ⟨hall, List.forall_mem_singleton.mpr rfl⟩

end Engine

/-! ### Which calls -/

variable {engine : Engine} {order : Order} {file : CaseFile}
  {status : OrderStatus}
  {format : FileFormat} {language : Language} {exchanges : List Exchange}

theorem Engine.Generation.kinds_eq
    {outcome : Except OrderError Produced}
    (hgeneration :
      engine.Generation order file status format language exchanges outcome) :
    callKinds exchanges = [.render] ∨
      callKinds exchanges = [] ∧ ∀ produced, outcome ≠ .ok produced := by
  cases hgeneration with
  | notPrepared => exact .inr ⟨rfl, by simp⟩
  | notRendered => exact .inl rfl
  | rendered => exact .inl rfl

theorem Passing.kinds_eq
    {outcome : Except OrderError Produced}
    (hpassing : Passing file status language exchanges outcome) :
    callKinds exchanges = [.download] ∨
    callKinds exchanges = [.download, .sealDocument] ∨
      callKinds exchanges = [] ∧ ∀ produced, outcome ≠ .ok produced := by
  cases hpassing with
  | notAccepted => exact .inr (.inr ⟨rfl, by simp⟩)
  | notDownloaded => exact .inl rfl
  | passedOn => exact .inl rfl
  | notSealed => exact .inr (.inl rfl)
  | sealed => exact .inr (.inl rfl)

theorem Passing.seals_iff
    {outcome : Except OrderError Produced}
    (hpassing : Passing file status language exchanges outcome) :
    .sealDocument ∈ callKinds exchanges ↔
      (∃ exchange ∈ exchanges, exchange.call.kind = .download ∧
        exchange.Succeeded) ∧
        file.sealDue status = true := by
  cases hpassing with
  | notAccepted => simp [callKinds]
  | notDownloaded =>
      refine iff_of_false (by simp [callKinds, Call.kind]) ?_
      rintro ⟨⟨exchange, hmem, -, hsucceeded⟩, -⟩
      rw [List.mem_singleton.mp hmem] at hsucceeded
      contradiction
  | passedOn hupload hdue => simp [callKinds, Call.kind, hdue]
  | notSealed hupload hdue =>
      refine iff_of_true (by simp [callKinds, Call.kind]) ⟨?_, hdue⟩
      exact ⟨_, List.mem_cons_self, rfl, rfl⟩
  | sealed hupload hdue =>
      refine iff_of_true (by simp [callKinds, Call.kind]) ⟨?_, hdue⟩
      exact ⟨_, List.mem_cons_self, rfl, rfl⟩

namespace Engine

theorem Generation.seals_iff
    {outcome : Except OrderError Produced}
    (hgeneration :
      engine.Generation order file status format language exchanges outcome) :
    .sealDocument ∈ callKinds exchanges ↔
      (∃ exchange ∈ exchanges, exchange.call.kind = .download ∧
        exchange.Succeeded) ∧
        file.sealDue status = true := by
  cases hgeneration <;> simp [callKinds, Call.kind]

theorem Production.seals_iff
    {outcome : Except OrderError Produced}
    (hproduction :
      engine.Production order file status format language exchanges outcome) :
    .sealDocument ∈ callKinds exchanges ↔
      (∃ exchange ∈ exchanges, exchange.call.kind = .download ∧
        exchange.Succeeded) ∧
        file.sealDue status = true := by
  cases hproduction with
  | digital hsource hgeneration => exact hgeneration.seals_iff
  | manualUpload hsource hpassing => exact hpassing.seals_iff

theorem Production.kinds_eq
    {outcome : Except OrderError Produced}
    (hproduction :
      engine.Production order file status format language exchanges outcome) :
    (order.source = .digital ∧
      (callKinds exchanges = [.render] ∨
        callKinds exchanges = [] ∧ ∀ produced, outcome ≠ .ok produced)) ∨
    (order.source = .manualUpload ∧
      (callKinds exchanges = [.download] ∨
        callKinds exchanges = [.download, .sealDocument] ∨
        callKinds exchanges = [] ∧ ∀ produced, outcome ≠ .ok produced)) := by
  cases hproduction with
  | digital hsource hgeneration => exact .inl ⟨hsource, hgeneration.kinds_eq⟩
  | manualUpload hsource hpassing => exact .inr ⟨hsource, hpassing.kinds_eq⟩

theorem Production.upload_notMem
    {outcome : Except OrderError Produced}
    (hproduction :
      engine.Production order file status format language exchanges outcome) :
    .upload ∉ callKinds exchanges := by
  rcases hproduction.kinds_eq with ⟨-, h | ⟨h, -⟩⟩ | ⟨-, h | h | ⟨h, -⟩⟩ <;>
    simp [h]

/-- How the calls of a creation are made and what comes of them. -/
structure CallLaw (engine : Engine) (file : CaseFile) (status : OrderStatus)
    (language : Language) (exchanges : List Exchange)
    (outcome : Except OrderError CreatedDocument) : Prop where
  digital :
    ∀ order, file.answers.order = some order → order.source = .digital →
      callKinds exchanges ∈ [[], [.render], [.render, .upload]]
  manualUpload :
    ∀ order, file.answers.order = some order → order.source = .manualUpload →
      callKinds exchanges ∈
        [[], [.download], [.download, .upload], [.download, .sealDocument],
          [.download, .sealDocument, .upload]]
  seals_iff :
    .sealDocument ∈ callKinds exchanges ↔
      (∃ exchange ∈ exchanges, exchange.call.kind = .download ∧
        exchange.Succeeded) ∧
        file.answers.needSealing = some .yes ∧ status = .sealed
  uploads_iff :
    .upload ∈ callKinds exchanges ↔
      engine.settle file status language = .ok () ∧
        ∀ exchange ∈ exchanges, exchange.call.kind ≠ .upload →
          exchange.Succeeded
  before_last :
    ∀ exchange ∈ exchanges.dropLast, exchange.Succeeded ∧
    exchange.call.kind ≠ .upload
  succeeds_iff :
    (∃ created, outcome = .ok created) ↔
      ∃ exchange ∈ exchanges, exchange.call.kind = .upload ∧ exchange.Succeeded
  fails_iff :
    ∀ error, outcome = .error error ↔
      engine.settle file status language = .error error ∨
        ∃ exchange ∈ exchanges, exchange.failure? = some error
  without_order :
    file.answers.order = none →
      exchanges = [] ∧ outcome = .error (.missingField .orderType)
  without_file :
    ∀ order, file.answers.order = some order → order.source = .manualUpload →
      file.answers.uploadedFile = none →
        exchanges = [] ∧ outcome = .error (.missingField .uploadedFile)
  unsupported_file :
    ∀ order document, file.answers.order = some order →
      order.source = .manualUpload →
      file.answers.uploadedFile = some document →
      FileFormat.ofFileName? document.filename = none →
        exchanges = [] ∧
          outcome = .error (.invalidInput
            (.unsupportedUpload document.filename))

theorem Creation.nothing_of_none
    {outcome : Except OrderError CreatedDocument}
    (hcreation : engine.Creation file status format language exchanges outcome)
    (horder : file.answers.order = none) :
    exchanges = [] :=
  (hcreation.course.nothing_of_unsettled (by rw [settle, horder]; rfl)).1

/-- With an order chosen, a creation is a production, and an upload where this
gave content. -/
theorem Creation.of_order
    {outcome : Except OrderError CreatedDocument}
    (hcreation : engine.Creation file status format language exchanges outcome)
    (horder : file.answers.order = some order) :
    (∃ error,
      engine.Production order file status format language exchanges
        (.error error) ∧
        outcome = .error error) ∨
    ∃ earlier produced reply,
      engine.Production order file status format language earlier
        (.ok produced) ∧
        exchanges = earlier ++
          [⟨uploadCall order file status language produced, reply⟩] ∧
        outcome = reply.map fun document =>
          { document
            title := order.displayTitle file.answers.title
            attachments := produced.attachments } := by
  cases hcreation with
  | noOrder hnone =>
      rw [hnone] at horder
      contradiction
  | notProduced hsome hproduction =>
      obtain rfl := Option.some.inj (hsome.symm.trans horder)
      exact .inl ⟨_, hproduction, rfl⟩
  | notStored hsome hproduction =>
      obtain rfl := Option.some.inj (hsome.symm.trans horder)
      exact .inr ⟨_, _, _, hproduction, rfl, rfl⟩
  | stored hsome hproduction =>
      obtain rfl := Option.some.inj (hsome.symm.trans horder)
      exact .inr ⟨_, _, _, hproduction, rfl, rfl⟩

theorem Creation.kinds_digital
    {outcome : Except OrderError CreatedDocument}
    (hcreation : engine.Creation file status format language exchanges outcome)
    (horder : file.answers.order = some order)
    (hsource : order.source = .digital) :
    callKinds exchanges ∈ [[], [.render], [.render, .upload]] := by
  rcases hcreation.of_order horder with
    ⟨error, hproduction, -⟩ | ⟨earlier, produced, reply, hproduction, rfl, -⟩
  · rcases hproduction.kinds_eq with ⟨-, h | ⟨h, -⟩⟩ | ⟨hmanual, -⟩
    · simp [h]
    · simp [h]
    · rw [hsource] at hmanual
      contradiction
  · rcases hproduction.kinds_eq with ⟨-, h | ⟨-, hfailed⟩⟩ | ⟨hmanual, -⟩
    · rw [callKinds_concat, h]
      simp [uploadCall, Call.kind]
    · exact absurd rfl (hfailed produced)
    · rw [hsource] at hmanual
      contradiction

theorem Creation.kinds_manualUpload
    {outcome : Except OrderError CreatedDocument}
    (hcreation : engine.Creation file status format language exchanges outcome)
    (horder : file.answers.order = some order)
    (hsource : order.source = .manualUpload) :
    callKinds exchanges ∈
      [[], [.download], [.download, .upload], [.download, .sealDocument],
        [.download, .sealDocument, .upload]] := by
  rcases hcreation.of_order horder with
    ⟨error, hproduction, -⟩ | ⟨earlier, produced, reply, hproduction, rfl, -⟩
  · rcases hproduction.kinds_eq with ⟨hdigital, -⟩ | ⟨-, h | h | ⟨h, -⟩⟩
    · rw [hsource] at hdigital
      contradiction
    · simp [h]
    · simp [h]
    · simp [h]
  · rcases hproduction.kinds_eq with ⟨hdigital, -⟩ | ⟨-, h | h | ⟨-, hfailed⟩⟩
    · rw [hsource] at hdigital
      contradiction
    · rw [callKinds_concat, h]
      simp [uploadCall, Call.kind]
    · rw [callKinds_concat, h]
      simp [uploadCall, Call.kind]
    · exact absurd rfl (hfailed produced)

theorem Creation.seals_iff
    {outcome : Except OrderError CreatedDocument}
    (hcreation :
      engine.Creation file status format language exchanges outcome) :
    .sealDocument ∈ callKinds exchanges ↔
      (∃ exchange ∈ exchanges, exchange.call.kind = .download ∧
        exchange.Succeeded) ∧
        file.answers.needSealing = some .yes ∧ status = .sealed := by
  rw [← CaseFile.sealDue_iff]
  cases horder : file.answers.order with
  | none =>
      rw [hcreation.nothing_of_none horder]
      simp [callKinds]
  | some order =>
      rcases hcreation.of_order horder with
        ⟨error, hproduction, -⟩ | ⟨earlier, produced, reply, hproduction, rfl,
          -⟩
      · exact hproduction.seals_iff
      · have hearlier := hproduction.seals_iff
        simpa [uploadCall, Call.kind, or_and_right, exists_or] using hearlier

/-- Content is uploaded once everything else that was called has been fulfilled.
-/
theorem Creation.uploads_iff
    {outcome : Except OrderError CreatedDocument}
    (hcreation :
      engine.Creation file status format language exchanges outcome) :
    .upload ∈ callKinds exchanges ↔
      engine.settle file status language = .ok () ∧
        ∀ exchange ∈ exchanges, exchange.call.kind ≠ .upload →
          exchange.Succeeded := by
  cases horder : file.answers.order with
  | none =>
      refine iff_of_false
        (by rw [hcreation.nothing_of_none horder]; simp [callKinds]) ?_
      rintro ⟨hsettled, -⟩
      rw [settle, horder] at hsettled
      contradiction
  | some order =>
      rw [settle_of_order horder]
      rcases hcreation.of_order horder with
        ⟨error, hproduction, -⟩ | ⟨earlier, produced, reply, hproduction, rfl,
          -⟩
      · refine iff_of_false hproduction.upload_notMem ?_
        rintro ⟨hsettled, hall⟩
        rcases (hproduction.course.error_iff error).mp rfl with
          hunsettled | ⟨exchange, hmem, hfailure⟩
        · rw [hsettled] at hunsettled
          contradiction
        · have hkind : exchange.call.kind ≠ .upload := by
            intro hkind
            exact hproduction.upload_notMem (hkind ▸ kind_mem_callKinds hmem)
          rw [hall exchange hmem hkind] at hfailure
          contradiction
      · obtain ⟨hsettled, hall⟩ := hproduction.course.of_ok
        refine iff_of_true (by simp [uploadCall, Call.kind])
          ⟨hsettled, ?_⟩
        intro exchange hmem hother
        rcases List.mem_append.mp hmem with hbefore | hlatest
        · exact hall exchange hbefore
        · rw [List.mem_singleton.mp hlatest] at hother
          exact absurd rfl hother

theorem Creation.upload_last
    {outcome : Except OrderError CreatedDocument}
    (hcreation :
      engine.Creation file status format language exchanges outcome) :
    .upload ∉ callKinds exchanges.dropLast := by
  cases horder : file.answers.order with
  | none =>
      rw [hcreation.nothing_of_none horder]
      simp [callKinds]
  | some order =>
      rcases hcreation.of_order horder with
        ⟨error, hproduction, -⟩ | ⟨earlier, produced, reply, hproduction, rfl,
          -⟩
      · intro hmem
        obtain ⟨exchange, hbefore, hkind⟩ := List.mem_map.mp hmem
        have hexchange := List.dropLast_subset exchanges hbefore
        exact hproduction.upload_notMem (hkind ▸ kind_mem_callKinds hexchange)
      · rw [List.dropLast_concat]
        exact hproduction.upload_notMem

theorem Creation.succeeds_iff
    {outcome : Except OrderError CreatedDocument}
    (hcreation :
      engine.Creation file status format language exchanges outcome) :
    (∃ created, outcome = .ok created) ↔
      ∃ exchange ∈ exchanges, exchange.call.kind = .upload ∧
      exchange.Succeeded := by
  cases hcreation with
  | noOrder => simp
  | notProduced horder hproduction =>
      refine iff_of_false (by simp) ?_
      rintro ⟨exchange, hmem, hkind, -⟩
      exact hproduction.upload_notMem (hkind ▸ kind_mem_callKinds hmem)
  | notStored horder hproduction =>
      refine iff_of_false (by simp) ?_
      rintro ⟨exchange, hmem, hkind, hsucceeded⟩
      rcases List.mem_append.mp hmem with hbefore | hlatest
      · exact hproduction.upload_notMem (hkind ▸ kind_mem_callKinds hbefore)
      · rw [List.mem_singleton.mp hlatest] at hsucceeded
        contradiction
  | stored horder hproduction =>
      exact iff_of_true ⟨_, rfl⟩
        ⟨_, List.mem_append_right _ (List.mem_singleton.mpr rfl), rfl, rfl⟩

theorem create_callLaw
    (collaborators : Collaborators σ) (state : σ) (engine : Engine)
    (file : CaseFile)
    (status : OrderStatus) (format : FileFormat) (language : Language) :
    engine.CallLaw file status language
      (collaborators.exchangesFrom state
        (engine.create · file status format language))
      (outcomeFrom state
        (engine.create collaborators file status format language)) := by
  have hcreation :=
    engine.creation_of_create collaborators state file status format language
  have hcourse := hcreation.course
  constructor
  case digital =>
    intro order horder hsource
    exact hcreation.kinds_digital horder hsource
  case manualUpload =>
    intro order horder hsource
    exact hcreation.kinds_manualUpload horder hsource
  case seals_iff => exact hcreation.seals_iff
  case uploads_iff => exact hcreation.uploads_iff
  case before_last =>
    intro exchange hmem
    refine ⟨hcourse.succeeded_of_mem_dropLast exchange hmem, ?_⟩
    intro hkind
    exact hcreation.upload_last (hkind ▸ kind_mem_callKinds hmem)
  case succeeds_iff => exact hcreation.succeeds_iff
  case fails_iff => exact hcourse.error_iff
  case without_order =>
    intro horder
    exact hcourse.nothing_of_unsettled (by rw [settle, horder]; rfl)
  case without_file =>
    intro order horder hsource hfile
    refine hcourse.nothing_of_unsettled ?_
    rw [settle_of_order horder, settleOrder_manualUpload hsource,
      CaseFile.upload_of_none hfile]
    rfl
  case unsupported_file =>
    intro order document horder hsource hfile hformat
    refine hcourse.nothing_of_unsettled ?_
    rw [settle_of_order horder, settleOrder_manualUpload hsource,
      CaseFile.upload_of_unsupported hfile hformat]
    rfl

end Engine

/-! ## Exchanges replayed

The exchanges of a task tell how its collaborators came from one state to the
other: making the same calls again, one after the other, has the same outcomes
and ends in the same state. -/

namespace Collaborators

variable {collaborators : Collaborators σ} {state middle after : σ}
  {exchanges earlier later : List Exchange}

/-- What a call does, by itself. -/
def perform (collaborators : Collaborators σ) : (call : Call) →
    Action σ call.Reply
  | .render layout format language particulars =>
    collaborators.render layout particulars format language
  | .download document => collaborators.download document
  | .sealDocument bytes filename language =>
    collaborators.sealDocument bytes filename language
  | .upload bytes filename mediaType =>
    collaborators.upload bytes filename mediaType

/-- Making the calls in this order has these outcomes and leads from one state
to the other. -/
inductive Replays (collaborators : Collaborators σ) : σ → List Exchange → σ →
    Prop
  | none {state : σ} : Replays collaborators state [] state
  | next {state middle after : σ} {call : Call}
      {outcome : Except OrderError call.Reply} {later : List Exchange}
      (hcall : (collaborators.perform call).run.run state = (outcome, middle))
      (hlater : Replays collaborators middle later after) :
      Replays collaborators state (⟨call, outcome⟩ :: later) after

namespace Replays

theorem append
    (hearlier : collaborators.Replays state earlier middle)
    (hlater : collaborators.Replays middle later after) :
    collaborators.Replays state (earlier ++ later) after := by
  induction hearlier with
  | none => exact hlater
  | next hcall _ ih => exact .next hcall (ih hlater)

theorem of_append
    (hreplays : collaborators.Replays state (earlier ++ later) after) :
    ∃ middle, collaborators.Replays state earlier middle ∧
      collaborators.Replays middle later after := by
  induction earlier generalizing state with
  | nil => exact ⟨state, .none, hreplays⟩
  | cons first earlier ih =>
      cases hreplays with
      | next hcall hrest =>
          obtain ⟨middle, hearlier, hlater⟩ := ih hrest
          exact ⟨middle, .next hcall hearlier, hlater⟩

theorem of_single
    {call : Call} {outcome : Except OrderError call.Reply}
    (hreplays : collaborators.Replays state [⟨call, outcome⟩] after) :
    (collaborators.perform call).run.run state = (outcome, after) := by
  cases hreplays with
  | next hcall hnone =>
      cases hnone
      exact hcall

theorem related
    {R : σ → σ → Prop} (hchains : Chains R)
    (hcalls : ∀ call, Moves R (collaborators.perform call))
    (hreplays : collaborators.Replays state exchanges after) :
    R state after := by
  induction hreplays with
  | none => exact hchains.refl _
  | next hcall _ ih => exact hchains.trans ((hcalls _).of_run hcall) ih

end Replays

/-- Beside the state, the list of exchanges has grown by those that led there.
-/
def Recorded (collaborators : Collaborators σ)
    (before after : σ × List Exchange) : Prop :=
  ∃ made, after.2 = before.2 ++ made ∧
  collaborators.Replays before.1 made after.1

theorem chains_recorded (collaborators : Collaborators σ) :
    Chains collaborators.Recorded where
  refl state := ⟨[], (List.append_nil _).symm, .none⟩
  trans := by
    rintro before middle after ⟨earlier, hearlier, hfirst⟩
      ⟨later, hlater, hsecond⟩
    refine ⟨earlier ++ later, ?_, hfirst.append hsecond⟩
    rw [hlater, hearlier, List.append_assoc]

theorem moves_noted
    (collaborators : Collaborators σ) (call : Call) :
    Moves collaborators.Recorded (noted call (collaborators.perform call)) := by
  rintro ⟨state, seen⟩
  rcases hcall :
    (collaborators.perform call).run.run state with ⟨outcome, after⟩
  have hrun : (noted call (collaborators.perform call)).run.run (state, seen) =
      (outcome, after, seen ++ [⟨call, outcome⟩]) := by
    change ((((collaborators.perform call).run.run state).1,
      ((collaborators.perform call).run.run state).2,
      seen ++ [⟨call, ((collaborators.perform call).run.run state).1⟩]) : _ × _
        × _) = _
    rw [hcall]
  rw [hrun]
  exact ⟨[⟨call, outcome⟩], rfl, .next hcall .none⟩

theorem moves_perform_watched
    (collaborators : Collaborators σ) (call : Call) :
    Moves collaborators.Recorded (collaborators.watched.perform call) := by
  have hnoted := collaborators.moves_noted call
  cases call with
  | render => exact hnoted
  | download => exact hnoted
  | sealDocument => exact hnoted
  | upload => exact hnoted

end Collaborators

namespace Engine

variable {R : σ → σ → Prop} {collaborators : Collaborators σ}

theorem moves_generate
    (engine : Engine) (hchains : Chains R)
    (hrender : ∀ layout particulars format language,
      Moves R (collaborators.render layout particulars format language))
    (order : Order) (file : CaseFile) (status : OrderStatus)
    (format : FileFormat) (language : Language) :
    Moves R (engine.generate collaborators order file status format
      language) := by
  unfold generate
  apply Moves.bind hchains (.value hchains _)
  intro prepared
  apply Moves.bind hchains
    (hrender prepared.layout prepared.particulars format language)
  intro rendered
  apply Moves.bind hchains (.value hchains _)
  intro attachments
  exact .value hchains (.ok _)

theorem moves_passUploaded
    (hchains : Chains R)
    (hdownload : ∀ document, Moves R (collaborators.download document))
    (hseal : ∀ bytes filename language,
      Moves R (collaborators.sealDocument bytes filename language))
    (file : CaseFile) (status : OrderStatus) (language : Language) :
    Moves R (passUploaded collaborators file status language) := by
  unfold passUploaded
  apply Moves.bind hchains (.value hchains _)
  rintro ⟨document, announced⟩
  apply Moves.bind hchains (hdownload document)
  intro bytes
  split
  · apply Moves.bind hchains (hseal bytes document.filename language)
    intro stamped
    exact .value hchains (.ok _)
  · exact .value hchains (.ok _)

/-- Producing content calls everyone but the store's upload. -/
theorem moves_produce
    (engine : Engine) (hchains : Chains R)
    (hrender : ∀ layout particulars format language,
      Moves R (collaborators.render layout particulars format language))
    (hdownload : ∀ document, Moves R (collaborators.download document))
    (hseal : ∀ bytes filename language,
      Moves R (collaborators.sealDocument bytes filename language))
    (order : Order) (file : CaseFile) (status : OrderStatus)
    (format : FileFormat) (language : Language) :
    Moves R (engine.produce collaborators order file status format
      language) := by
  unfold produce
  split
  · exact moves_passUploaded hchains hdownload hseal file status language
  · exact engine.moves_generate hchains hrender order file status format
      language

theorem moves_create
    (engine : Engine) (hchains : Chains R)
    (hcalls : ∀ call, Moves R (collaborators.perform call))
    (file : CaseFile) (status : OrderStatus) (format : FileFormat)
    (language : Language) :
    Moves R (engine.create collaborators file status format language) := by
  unfold create
  apply Moves.bind hchains (.value hchains _)
  intro order
  apply Moves.bind hchains
  · apply engine.moves_produce hchains
    · exact fun layout particulars format language =>
        hcalls (.render layout format language particulars)
    · exact fun document => hcalls (.download document)
    · exact fun bytes filename language =>
        hcalls (.sealDocument bytes filename language)
  intro produced
  apply Moves.bind hchains (hcalls (.upload produced.bytes _ _))
  intro document
  exact .value hchains (.ok _)

/-- The exchanges of a creation lead from the state before it to the state after
it. -/
theorem replays_create
    (engine : Engine) (collaborators : Collaborators σ) (state : σ)
    (file : CaseFile) (status : OrderStatus) (format : FileFormat)
    (language : Language) :
    collaborators.Replays state
      (collaborators.exchangesFrom state
        (engine.create · file status format language))
      ((engine.create collaborators file status format language).run.run
        state).2 := by
  obtain ⟨exchanges, outcome, after, hshows, -⟩ :=
    engine.shows_create collaborators state file status format language
  have hmoves := engine.moves_create collaborators.chains_recorded
    collaborators.moves_perform_watched file status format language
  obtain ⟨made, hmade, hreplays⟩ := hmoves.of_run (hshows.watched_run [])
  rw [hshows.exchangesFrom_eq, hshows.plain_run]
  obtain rfl : exchanges = made := by simpa using hmade
  exact hreplays

end Engine

end FamilyOrders
