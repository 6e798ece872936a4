import FamilyOrders.Creation.Basic
import FamilyOrders.Proofs.Actions

/-!
# Runs of the engine

How an order is prepared, what is asked of the collaborators in a run, and how a
run ends.
-/

namespace FamilyOrders

/-! ## Preparing an order

When the particulars of an order are ready for the renderer, and when an
uploaded order is accepted.  The registry that gave the drafter of an order
gives its collector too, so nothing is missing once the document is rendered. -/

namespace Engine

variable {engine : Engine} {order : Order} {file : CaseFile}
  {status : OrderStatus} {language : Language}

theorem lookUp_bind (lookup : Holder.Lookup α)
    (next : α → Except OrderError β) :
    engine.lookUp (lookup >>= fun a => liftM (next a)) =
      engine.lookUp lookup >>= next := by
  rw [lookUp, lookUp, ExceptT.run_bind, StateT.run_bind]
  cases (lookup.run.run engine.holder) with
  | mk answer holder => cases answer <;> rfl

theorem lookUp_drafter (engine : Engine) (order : Order) :
    engine.lookUp (Holder.drafter order) =
      engine.lookUp Holder.registry >>= fun registry =>
        registry.drafter order :=
  lookUp_bind Holder.registry fun registry => registry.drafter order

theorem lookUp_collector? (engine : Engine) (order : Order) :
    engine.lookUp (Holder.collector? order) =
      engine.lookUp Holder.registry >>= fun registry =>
        .ok (registry.collector? order) :=
  lookUp_bind Holder.registry fun registry => .ok (registry.collector? order)

/-- The standard registry serves every order that has a standard drafter. -/
theorem standard_lookUp_drafter
    (images : ImageSet) (courts venues : NameTable) (order : Order) :
    (standard images courts venues).lookUp (Holder.drafter order) =
      match Drafting.drafterFor? venues order with
      | some drafter => .ok drafter
      | none => .error (.missingGenerator order) := by
  cases order <;> rfl

theorem standard_lookUp_drafter_eq_ok_iff
    {images : ImageSet} {courts venues : NameTable} {drafter : Drafter} :
    (standard images courts venues).lookUp (Holder.drafter order) =
        .ok drafter ↔
      Drafting.drafterFor? venues order = some drafter := by
  rw [standard_lookUp_drafter]
  cases Drafting.drafterFor? venues order <;> simp

theorem prepare_eq_ok_iff {prepared : Prepared} :
    engine.prepare order file status language = .ok prepared ↔
      checkLanguage order language = .ok () ∧
      ∃ drafter drafted particulars,
        engine.lookUp (Holder.drafter order) = .ok drafter ∧
        drafter.draft file language = .ok drafted ∧
        engine.stamper.stamp drafted file status language = .ok particulars ∧
        { layout := drafter.layout, particulars } = prepared := by
  simp only [prepare, bind_eq_ok_iff, pure, Except.pure, Except.ok.injEq]
  constructor
  · rintro ⟨⟨⟩, hlanguage, drafter, hdrafter, drafted, hdrafted, particulars,
      hstamped, hsame⟩
    exact ⟨hlanguage, drafter, drafted, particulars, hdrafter, hdrafted,
      hstamped, hsame⟩
  · rintro ⟨hlanguage, drafter, drafted, particulars, hdrafter, hdrafted,
      hstamped, hsame⟩
    exact ⟨(), hlanguage, drafter, hdrafter, drafted, hdrafted, particulars,
      hstamped, hsame⟩

/-- A registry that knew the drafter knows the collectors too, so nothing is
missing once the document is rendered. -/
theorem attachments_of_prepare {prepared : Prepared}
    (hprepare : engine.prepare order file status language = .ok prepared) :
    ∃ attachments, engine.attachments order file = .ok attachments := by
  obtain ⟨-, drafter, drafted, particulars, hdrafter, -, -, -⟩ :=
    prepare_eq_ok_iff.mp hprepare
  rw [lookUp_drafter] at hdrafter
  obtain ⟨registry, hregistry, -⟩ := bind_eq_ok_iff.mp hdrafter
  have hcollector :
      engine.lookUp (Holder.collector? order) =
        .ok (registry.collector? order) := by
    rw [lookUp_collector?, hregistry]
    rfl
  cases hfound : registry.collector? order with
  | none => exact ⟨[], by rw [attachments, hcollector, hfound]; rfl⟩
  | some collector =>
      exact ⟨collector.collect
        file, by rw [attachments, hcollector, hfound]; rfl⟩

end Engine

namespace CaseFile

variable {file : CaseFile} {document : DocumentReference}

theorem upload_of_none (hfile : file.answers.uploadedFile = none) :
    file.upload = .error (.missingField .uploadedFile) := by
  rw [upload, hfile]
  rfl

theorem upload_of_unsupported
    (hfile : file.answers.uploadedFile = some document)
    (hformat : FileFormat.ofFileName? document.filename = none) :
    file.upload =
      .error (.invalidInput (.unsupportedUpload document.filename)) := by
  rw [upload, need_eq_ok_iff.mpr hfile, bind_eq_error_iff]
  refine .inr ⟨document, rfl, ?_⟩
  rw [hformat]
  rfl

theorem upload_eq_ok_iff {format : FileFormat} :
    file.upload = .ok (document, format) ↔
      file.answers.uploadedFile = some document ∧
        FileFormat.ofFileName? document.filename = some format := by
  rw [upload, bind_eq_ok_iff]
  constructor
  · rintro ⟨found, hneed, haccepted⟩
    rw [need_eq_ok_iff] at hneed
    cases hformat : FileFormat.ofFileName? found.filename with
    | none => rw [hformat] at haccepted; contradiction
    | some announced =>
        rw [hformat] at haccepted
        cases haccepted
        exact ⟨hneed, hformat⟩
  · rintro ⟨hfile, hformat⟩
    refine ⟨document, need_eq_ok_iff.mpr hfile, ?_⟩
    rw [hformat]
    rfl

end CaseFile

/-! ## Runs of the making of a document

All the ways in which the making of a document can go, by the exchanges with
collaborators and how it ends: first the content is generated or passed on, then
it is stored.  Every run, with any collaborators in any state, is one of them.
-/

/-- The exchanges by which a digital order is generated, and how this ends. -/
inductive Engine.Generation (engine : Engine) (order : Order) (file : CaseFile)
    (status : OrderStatus) (format : FileFormat) (language : Language) :
    List Exchange → Except OrderError Produced → Prop
  | notPrepared {error : OrderError}
      (hprepare : engine.prepare order file status language = .error error) :
      Generation engine order file status format language [] (.error error)
  | notRendered {prepared : Prepared} {error : OrderError}
      (hprepare : engine.prepare order file status language = .ok prepared) :
      Generation engine order file status format language
        [⟨.render prepared.layout format language prepared.particulars,
          .error error⟩]
        (.error error)
  | rendered {prepared : Prepared} {rendered : Rendered}
      {attachments : List DocumentReference}
      (hprepare : engine.prepare order file status language = .ok prepared)
      (hattachments : engine.attachments order file = .ok attachments) :
      Generation engine order file status format language
        [⟨.render prepared.layout format language prepared.particulars,
          .ok rendered⟩]
        (.ok
          { bytes := rendered.bytes, format := rendered.format, attachments })

/-- The exchanges by which an uploaded order is passed on, and how this ends. -/
inductive Passing (file : CaseFile) (status : OrderStatus)
    (language : Language) :
    List Exchange → Except OrderError Produced → Prop
  | notAccepted {error : OrderError}
      (hupload : file.upload = .error error) :
      Passing file status language [] (.error error)
  | notDownloaded {document : DocumentReference} {announced : FileFormat}
      {error : OrderError}
      (hupload : file.upload = .ok (document, announced)) :
      Passing file status language [⟨.download document, .error error⟩]
        (.error error)
  | passedOn {document : DocumentReference} {announced : FileFormat}
      {bytes : Bytes} (hupload : file.upload = .ok (document, announced))
      (hdue : file.sealDue status = false) :
      Passing file status language [⟨.download document, .ok bytes⟩]
        (.ok { bytes, format := announced, attachments := [] })
  | notSealed {document : DocumentReference} {announced : FileFormat}
      {bytes : Bytes} {error : OrderError}
      (hupload : file.upload = .ok (document, announced))
      (hdue : file.sealDue status = true) :
      Passing file status language
        [⟨.download document, .ok bytes⟩,
          ⟨.sealDocument bytes document.filename language, .error error⟩]
        (.error error)
  | sealed {document : DocumentReference} {announced : FileFormat}
      {bytes : Bytes} {stamped : Rendered}
      (hupload : file.upload = .ok (document, announced))
      (hdue : file.sealDue status = true) :
      Passing file status language
        [⟨.download document, .ok bytes⟩,
          ⟨.sealDocument bytes document.filename language, .ok stamped⟩]
        (.ok {
          bytes := stamped.bytes
          format := stamped.format
          attachments := [] })

namespace Engine

inductive Production (engine : Engine) (order : Order) (file : CaseFile)
    (status : OrderStatus) (format : FileFormat) (language : Language) :
    List Exchange → Except OrderError Produced → Prop
  | digital {exchanges : List Exchange} {outcome : Except OrderError Produced}
      (hsource : order.source = .digital)
      (hgeneration :
        engine.Generation order file status format language exchanges outcome) :
      Production engine order file status format language exchanges outcome
  | manualUpload {exchanges : List Exchange}
      {outcome : Except OrderError Produced}
      (hsource : order.source = .manualUpload)
      (hpassing : Passing file status language exchanges outcome) :
      Production engine order file status format language exchanges outcome

/-- The upload of produced content, under the name of its document. -/
def uploadCall (order : Order) (file : CaseFile) (status : OrderStatus)
    (language : Language) (produced : Produced) : Call :=
  .upload produced.bytes
    (documentName order status produced.format language file.answers.title)
    produced.format.mediaType

inductive Creation (engine : Engine) (file : CaseFile) (status : OrderStatus)
    (format : FileFormat) (language : Language) :
    List Exchange → Except OrderError CreatedDocument → Prop
  | noOrder
      (horder : file.answers.order = none) :
      Creation engine file status format language []
        (.error (.missingField .orderType))
  | notProduced {order : Order} {exchanges : List Exchange} {error : OrderError}
      (horder : file.answers.order = some order)
      (hproduction :
        engine.Production order file status format language exchanges
          (.error error)) :
      Creation engine file status format language exchanges (.error error)
  | notStored {order : Order} {exchanges : List Exchange} {produced : Produced}
      {error : OrderError}
      (horder : file.answers.order = some order)
      (hproduction :
        engine.Production order file status format language exchanges
          (.ok produced)) :
      Creation engine file status format language
        (exchanges ++ [⟨uploadCall order file status language produced,
          .error error⟩])
        (.error error)
  | stored {order : Order} {exchanges : List Exchange} {produced : Produced}
      {document : DocumentReference}
      (horder : file.answers.order = some order)
      (hproduction :
        engine.Production order file status format language exchanges
          (.ok produced)) :
      Creation engine file status format language
        (exchanges ++ [⟨uploadCall order file status language produced,
          .ok document⟩])
        (.ok {
          document
          title := order.displayTitle file.answers.title
          attachments := produced.attachments })

variable (engine : Engine) (collaborators : Collaborators σ) (state : σ)

theorem shows_generate
    (order : Order) (file : CaseFile) (status : OrderStatus)
    (format : FileFormat) (language : Language) :
    ∃ exchanges outcome after,
      Shows (engine.generate collaborators order file status format language)
          (engine.generate collaborators.watched order file status format
            language)
          state exchanges outcome after ∧
        engine.Generation order file status format language exchanges
          outcome := by
  cases hprepare : engine.prepare order file status language with
  | error error =>
      have hprepared := Shows.value hprepare state
      exact ⟨_, _, _, hprepared.bind_error, .notPrepared hprepare⟩
  | ok prepared =>
      have hprepared := Shows.value hprepare state
      obtain ⟨attachments, hattachments⟩ := attachments_of_prepare hprepare
      rcases hrender :
        (collaborators.render prepared.layout prepared.particulars format
        language).run.run state with ⟨outcome, after⟩
      have hrendered :=
        Shows.exchange (.render prepared.layout format language
          prepared.particulars) hrender
      cases outcome with
      | error error =>
          exact ⟨_, _, _, hprepared.bind_ok hrendered.bind_error,
            .notRendered hprepare⟩
      | ok rendered =>
          have hattached := Shows.value hattachments after
          exact ⟨_, _, _,
            hprepared.bind_ok (hrendered.bind_ok
              (hattached.bind_ok (Shows.value rfl after))),
            .rendered hprepare hattachments⟩

theorem shows_passUploaded
    (file : CaseFile) (status : OrderStatus) (language : Language) :
    ∃ exchanges outcome after,
      Shows (passUploaded collaborators file status language)
          (passUploaded collaborators.watched file status language)
          state exchanges outcome after ∧
        Passing file status language exchanges outcome := by
  cases hupload : file.upload with
  | error error =>
      have haccepted := Shows.value hupload state
      exact ⟨_, _, _, haccepted.bind_error, .notAccepted hupload⟩
  | ok accepted =>
      obtain ⟨document, announced⟩ := accepted
      have haccepted := Shows.value hupload state
      rcases hdownload :
        (collaborators.download document).run.run state with ⟨outcome, middle⟩
      have hfetched := Shows.exchange (.download document) hdownload
      cases outcome with
      | error error =>
          exact ⟨_, _, _, haccepted.bind_ok hfetched.bind_error,
            .notDownloaded hupload⟩
      | ok bytes =>
          cases hdue : file.sealDue status with
          | false =>
              refine ⟨_, _, middle, haccepted.bind_ok (hfetched.bind_ok ?_),
                .passedOn hupload hdue⟩
              simp only [hdue]
              exact Shows.value rfl middle
          | true =>
              rcases hseal : (collaborators.sealDocument bytes document.filename
                language).run.run middle with ⟨outcome, after⟩
              have hstamped :=
                Shows.exchange (.sealDocument bytes document.filename language)
                  hseal
              cases outcome with
              | error error =>
                  refine ⟨_, .error error, after,
                    haccepted.bind_ok (hfetched.bind_ok ?_),
                      .notSealed hupload hdue⟩
                  simp only [hdue]
                  exact hstamped.bind_error
              | ok stamped =>
                  refine ⟨_, .ok ⟨stamped.bytes, stamped.format, []⟩, after,
                    haccepted.bind_ok (hfetched.bind_ok ?_),
                      .sealed hupload hdue⟩
                  simp only [hdue]
                  exact hstamped.bind_ok (Shows.value rfl after)

theorem shows_produce
    (order : Order) (file : CaseFile) (status : OrderStatus)
    (format : FileFormat) (language : Language) :
    ∃ exchanges outcome after,
      Shows (engine.produce collaborators order file status format language)
          (engine.produce collaborators.watched order file status format
            language)
          state exchanges outcome after ∧
        engine.Production order file status format language exchanges
          outcome := by
  cases hsource : order.source with
  | digital =>
      obtain ⟨exchanges, outcome, after, hshows, hgeneration⟩ :=
        engine.shows_generate collaborators state order file status format
          language
      simp only [produce, hsource]
      exact ⟨exchanges, outcome, after, hshows, .digital hsource hgeneration⟩
  | manualUpload =>
      obtain ⟨exchanges, outcome, after, hshows, hpassing⟩ :=
        shows_passUploaded collaborators state file status language
      simp only [produce, hsource]
      exact ⟨exchanges, outcome, after, hshows, .manualUpload hsource hpassing⟩

theorem shows_create
    (file : CaseFile) (status : OrderStatus) (format : FileFormat)
    (language : Language) :
    ∃ exchanges outcome after,
      Shows (engine.create collaborators file status format language)
          (engine.create collaborators.watched file status format language)
          state exchanges outcome after ∧
        engine.Creation file status format language exchanges outcome := by
  cases horder : file.answers.order with
  | none =>
      have hneed :
          need .orderType file.answers.order =
            .error (.missingField .orderType) := by
        rw [horder]
        rfl
      exact ⟨_, _, _, (Shows.value hneed state).bind_error, .noOrder horder⟩
  | some order =>
      have hneed : need .orderType file.answers.order = .ok order :=
        need_eq_ok_iff.mpr horder
      have hordered := Shows.value hneed state
      obtain ⟨exchanges, outcome, middle, hproduced, hproduction⟩ :=
        engine.shows_produce collaborators state order file status format
          language
      cases outcome with
      | error error =>
          exact ⟨_, _, _, hordered.bind_ok hproduced.bind_error,
            .notProduced horder hproduction⟩
      | ok produced =>
          rcases hupload : (collaborators.upload produced.bytes
            (documentName order status produced.format language
              file.answers.title)
            produced.format.mediaType).run.run middle with ⟨outcome, after⟩
          have huploaded :=
            Shows.exchange (uploadCall order file status language produced)
              hupload
          cases outcome with
          | error error =>
              exact ⟨_, _, _, hordered.bind_ok
                (hproduced.bind_ok huploaded.bind_error),
                .notStored horder hproduction⟩
          | ok document =>
              exact ⟨_, _, after,
                hordered.bind_ok
                  (hproduced.bind_ok
                    (huploaded.bind_ok (Shows.value rfl after))),
                .stored horder hproduction⟩

/-- What is seen of a generation, and how it ends unwatched. -/
theorem generation_of_generate
    (order : Order) (file : CaseFile) (status : OrderStatus)
    (format : FileFormat) (language : Language) :
    engine.Generation order file status format language
      (collaborators.exchangesFrom state
        (engine.generate · order file status format language))
      (outcomeFrom state
        (engine.generate collaborators order file status format language)) := by
  obtain ⟨exchanges, outcome, after, hshows, hgeneration⟩ :=
    engine.shows_generate collaborators state order file status format language
  rw [hshows.exchangesFrom_eq, hshows.outcomeFrom_eq]
  exact hgeneration

/-- What is seen of a creation, and how it ends unwatched. -/
theorem creation_of_create
    (file : CaseFile) (status : OrderStatus) (format : FileFormat)
    (language : Language) :
    engine.Creation file status format language
      (collaborators.exchangesFrom state
        (engine.create · file status format language))
      (outcomeFrom state
        (engine.create collaborators file status format language)) := by
  obtain ⟨exchanges, outcome, after, hshows, hcreation⟩ :=
    engine.shows_create collaborators state file status format language
  rw [hshows.exchangesFrom_eq, hshows.outcomeFrom_eq]
  exact hcreation

end Engine

/-! ## How creations end

A creation is the production of content, and then its upload where there is any.
-/

/-- How a creation ends: there is no order, its content fails to come about, or
the content comes about and is given to the store. -/
inductive Engine.Ends (engine : Engine) (collaborators : Collaborators σ)
    (file : CaseFile)
    (status : OrderStatus) (format : FileFormat) (language : Language)
    (state after : σ) : Except OrderError CreatedDocument → Prop
  | noOrder
      (horder : file.answers.order = none) (hafter : after = state) :
      Ends engine collaborators file status format language state after
        (.error (.missingField .orderType))
  | notProduced {order : Order} {error : OrderError}
      (horder : file.answers.order = some order)
      (hproduce :
        (engine.produce collaborators order file status format language).run.run
          state = (.error error, after)) :
      Ends engine collaborators file status format language state after
        (.error error)
  | notStored {order : Order} {produced : Produced} {middle : σ}
      {error : OrderError}
      (horder : file.answers.order = some order)
      (hproduce :
        (engine.produce collaborators order file status format language).run.run
          state = (.ok produced, middle))
      (hupload : (collaborators.upload produced.bytes
        (documentName order status produced.format language file.answers.title)
        produced.format.mediaType).run.run middle = (.error error, after)) :
      Ends engine collaborators file status format language state after
        (.error error)
  | stored {order : Order} {produced : Produced} {middle : σ}
      {document : DocumentReference}
      (horder : file.answers.order = some order)
      (hproduce :
        (engine.produce collaborators order file status format language).run.run
          state = (.ok produced, middle))
      (hupload : (collaborators.upload produced.bytes
        (documentName order status produced.format language file.answers.title)
        produced.format.mediaType).run.run middle = (.ok document, after)) :
      Ends engine collaborators file status format language state after
        (.ok {
          document
          title := order.displayTitle file.answers.title
          attachments := produced.attachments })

theorem Engine.ends_create
    (engine : Engine) (collaborators : Collaborators σ) (file : CaseFile)
    (status : OrderStatus) (format : FileFormat) (language : Language)
    (state : σ) :
    engine.Ends collaborators file status format language state
      ((engine.create collaborators file status format language).run.run
        state).2
      (outcomeFrom state
        (engine.create collaborators file status format language)) := by
  unfold create outcomeFrom
  rw [run_bind, run_liftM]
  cases horder : file.answers.order with
  | none => exact .noOrder horder rfl
  | some order =>
      dsimp only [need]
      rw [run_bind]
      rcases hproduce : (engine.produce collaborators order file status format
        language).run.run state with ⟨outcome, middle⟩
      cases outcome with
      | error error => exact .notProduced horder hproduce
      | ok produced =>
          dsimp only
          rw [run_bind]
          rcases hupload : (collaborators.upload produced.bytes
            (documentName order status produced.format language
              file.answers.title)
            produced.format.mediaType).run.run middle with ⟨outcome, after⟩
          cases outcome with
          | error error => exact .notStored horder hproduce hupload
          | ok document => exact .stored horder hproduce hupload

theorem Engine.run_create_of_produce_error
    {engine : Engine} {collaborators : Collaborators σ} {file : CaseFile}
    {status : OrderStatus} {format : FileFormat} {language : Language}
    {state after : σ} {order : Order} {error : OrderError}
    (horder : file.answers.order = some order)
    (hproduce :
      (engine.produce collaborators order file status format language).run.run
        state = (.error error, after)) :
    (engine.create collaborators file status format language).run.run state =
      (.error error, after) := by
  unfold create
  rw [run_bind, run_liftM, horder]
  dsimp only [need]
  rw [run_bind, hproduce]

end FamilyOrders
