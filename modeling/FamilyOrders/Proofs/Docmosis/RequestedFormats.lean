import FamilyOrders.Proofs.Actions
import FamilyOrders.Proofs.Creation.Runs
import FamilyOrders.Proofs.Docmosis.Requests

/-!
# Formats asked of the rendering service

HTML is for previews.  No file name announces it and nobody can type it, so that
an uploaded order never becomes HTML.  But the client passes on whatever format
it is asked to render: where a creation is asked for HTML and the order is
rendered by the service, HTML is asked of the service.
-/

namespace FamilyOrders

open FamilyOrders.Text FamilyOrders.Docmosis

variable {σ τ ε ε' α β : Type}

/-! ## Requests -/

/-- The same action, beside a second state that it leaves as it is. -/
def onFirst (action : Action σ α) : Action (σ × τ) α :=
  ExceptT.mk fun (state, other) =>
    let (outcome, after) := action.run.run state
    (outcome, after, other)

/-- The same collaborators, beside a second state that they leave as it is. -/
def Collaborators.onFirst (collaborators : Collaborators σ) : Collaborators
    (σ × τ) where
  render layout particulars format language :=
    FamilyOrders.onFirst
      (collaborators.render layout particulars format language)
  download document := FamilyOrders.onFirst (collaborators.download document)
  sealDocument bytes filename language :=
    FamilyOrders.onFirst (collaborators.sealDocument bytes filename language)
  upload bytes filename mediaType :=
    FamilyOrders.onFirst (collaborators.upload bytes filename mediaType)

namespace Docmosis

/-- The same service, with a list of the requests beside its state. -/
def Service.logged (service : Service σ) : Service (σ × List Request) :=
  fun request (state, sent) =>
    let (reply, after) := service request state
    (reply, after, sent ++ [request])

/-- The document is to come back under a name with this extension. -/
def Request.AsksFor (extension : String) (request : Request) : Prop :=
  ∃ members stem, request.body = .object members ∧
    Json.lookup? "outputName" members =
      some (.string (stem ++ "." ++ extension))

/-- Whether anything can be posted to the address. -/
def isPostable (domains : Url.DomainRules) (address : String) : Bool :=
  match Url.parse domains address with
  | .ok url => isWebAddress url
  | .error _ => false

/-- Collaborators of whom the client of a service seals, and also renders if it
is to. -/
def Client.serving (client : Client) (service : Service σ) (renders : Bool)
    (others : Collaborators σ) : Collaborators σ where
  render := if renders then client.render service else others.render
  download := others.download
  sealDocument := client.sealDocument service
  upload := others.upload

/-- The requests to the service that a task with the client makes. -/
def Client.requestsFrom (client : Client) (service : Service σ) (renders : Bool)
    (others : Collaborators σ) (state : σ)
    (task : Collaborators (σ × List Request) → Action (σ × List Request) α) :
    List Request :=
  ((task (client.serving service.logged renders others.onFirst)).run.run
    (state, [])).2.2

/-- From any state the action sends requests of which the property holds. -/
def Sends (P : List Request → Prop)
    (action : ExceptT ε (StateM (σ × List Request)) α) : Prop :=
  ∀ state sent, ∃ requests, P requests ∧
  (action.run.run (state, sent)).2.2 = sent ++ requests

/-- Nothing is sent. -/
abbrev Silent (action : ExceptT ε (StateM (σ × List Request)) α) : Prop :=
  Sends (· = []) action

namespace Sends

variable {P : List Request → Prop}

theorem weaken
    {Q : List Request → Prop} {action : ExceptT ε (StateM (σ × List Request)) α}
    (hsends : Sends P action) (hweaker : ∀ requests, P requests → Q requests) :
    Sends Q action := by
  intro state sent
  obtain ⟨requests, hrequests, hlog⟩ := hsends state sent
  exact ⟨requests, hweaker requests hrequests, hlog⟩

theorem value (outcome : Except OrderError α) :
    Silent (liftM outcome : Action (σ × List Request) α) := by
  intro state sent
  rw [run_liftM]
  exact ⟨[], rfl, (List.append_nil sent).symm⟩

theorem onFirst (action : Action σ α) :
    Silent (FamilyOrders.onFirst action : Action (σ × List Request) α) := by
  intro state sent
  exact ⟨[], rfl, (List.append_nil sent).symm⟩

theorem adapt
    {action : ExceptT ε (StateM (σ × List Request)) α} (hsends : Sends P action)
    (blame : ε → ε') : Sends P (ExceptT.adapt blame action) :=
  hsends

/-- What comes after the requests sends nothing more. -/
theorem bind_silent
    {action : ExceptT ε (StateM (σ × List Request)) α}
    {next : α → ExceptT ε (StateM (σ × List Request)) β}
    (hfirst : Sends P action) (hnext : ∀ a, Silent (next a)) :
    Sends P (action >>= next) := by
  intro state sent
  obtain ⟨requests, hrequests, hlog⟩ := hfirst state sent
  refine ⟨requests, hrequests, ?_⟩
  rw [run_bind]
  rcases hrun : action.run.run (state, sent) with ⟨outcome, middle, logged⟩
  rw [hrun] at hlog
  cases outcome with
  | error error => exact hlog
  | ok a =>
      obtain ⟨more, rfl, hmore⟩ := hnext a middle logged
      exact hmore.trans ((List.append_nil logged).trans hlog)

/-- What comes before the requests sends nothing, and may be all there is. -/
theorem silent_bind
    {action : ExceptT ε (StateM (σ × List Request)) α}
    {next : α → ExceptT ε (StateM (σ × List Request)) β}
    (hnone : P []) (hfirst : Silent action) (hnext : ∀ a, Sends P (next a)) :
    Sends P (action >>= next) := by
  intro state sent
  obtain ⟨none, rfl, hlog⟩ := hfirst state sent
  rw [run_bind]
  rcases hrun : action.run.run (state, sent) with ⟨outcome, middle, logged⟩
  rw [hrun] at hlog
  cases outcome with
  | error error => exact ⟨[], hnone, hlog⟩
  | ok a =>
      obtain ⟨requests, hrequests, hmore⟩ := hnext a middle logged
      refine ⟨requests, hrequests, ?_⟩
      rw [← List.append_nil sent]
      exact hmore.trans (congrArg (· ++ requests) hlog)

end Sends

/-! ## Posting -/

/-- What is sent of a request. -/
def posted (domains : Url.DomainRules) (request : Request) : List Request :=
  if isPostable domains request.address then [request] else []

theorem sends_post
    (domains : Url.DomainRules) (service : Service σ) (address : String)
    (body : Json) :
    Sends (· = posted domains (.posting address body))
      (post domains service.logged address body) := by
  intro state sent
  refine ⟨_, rfl, ?_⟩
  change _ = sent ++ if isPostable domains address then _ else _
  rw [run_post, isPostable]
  cases Url.parse domains address with
  | error fault => exact (List.append_nil sent).symm
  | ok url =>
      dsimp only
      by_cases hweb : isWebAddress url = true
      · rw [if_pos hweb, if_pos hweb]
        rfl
      · rw [if_neg hweb, if_neg hweb]
        exact (List.append_nil sent).symm

/-- The request to render a document. -/
def renderRequest (client : Client) (layout : Layout)
    (particulars : Particulars)
    (format : FileFormat) (language : Language) : Request :=
  .posting client.renderAddress
    (renderBody client layout particulars format language)

namespace Client

variable (client : Client) (service : Service σ)

theorem sends_render
    (layout : Layout) (particulars : Particulars) (format : FileFormat)
    (language : Language) :
    Sends
      (· = posted client.domains
        (renderRequest client layout particulars format language))
      (client.render service.logged layout particulars format language) := by
  unfold render
  exact ((sends_post _ service _ _).adapt _).bind_silent fun _ => .value (.ok _)

theorem sends_sealDocument (bytes : Bytes) (filename : String)
    (language : Language) :
    Sends (fun requests => ∃ request,
      IsConvertRequest client bytes filename language request ∧
        requests = posted client.domains request)
      (client.sealDocument service.logged bytes filename language) := by
  unfold sealDocument
  apply Sends.bind_silent
  · apply Sends.weaken ((sends_post _ service _ _).adapt _)
    rintro _ rfl
    exact ⟨_, isConvertRequest client bytes filename language, rfl⟩
  · exact fun _ => .value (.ok _)

end Client

/-! ## Creations -/

/-- What is sent when the client is to render what was made ready, if anything
was. -/
def Client.renderings (client : Client) (renders : Bool)
    (prepared : Except OrderError Prepared)
    (format : FileFormat) (language : Language) : List Request :=
  match renders, prepared with
  | true, .ok prepared =>
      posted client.domains
        (renderRequest client prepared.layout prepared.particulars format
          language)
  | _, _ => []

/-- A sealing request for the document that was uploaded, or nothing. -/
def Client.Sealings (client : Client) (file : CaseFile) (language : Language)
    (requests : List Request) : Prop :=
  requests = [] ∨
    ∃ document announced bytes request,
      file.upload = .ok (document, announced) ∧
      IsConvertRequest client bytes document.filename language request ∧
        requests = posted client.domains request

/-- What a creation sends: an order is either rendered or sealed. -/
structure RequestLaw (engine : Engine) (client : Client) (renders : Bool)
    (file : CaseFile)
    (status : OrderStatus) (format : FileFormat) (language : Language)
    (requests : List Request) : Prop where
  no_order : file.answers.order = none → requests = []
  digital :
    ∀ order, file.answers.order = some order → order.source = .digital →
      requests =
        client.renderings renders (engine.prepare order file status language)
          format language
  uploaded :
    ∀ order, file.answers.order = some order → order.source = .manualUpload →
      client.Sealings file language requests

section Creation

variable (client : Client) (service : Service σ) (renders : Bool)
  (others : Collaborators σ)
  (engine : Engine) (order : Order) (file : CaseFile) (status : OrderStatus)
  (format : FileFormat) (language : Language)

theorem sends_render_serving (prepared : Prepared) :
    Sends (· = client.renderings renders (.ok prepared) format language)
      ((client.serving service.logged renders others.onFirst).render
        prepared.layout prepared.particulars format language) := by
  cases renders with
  | true => exact client.sends_render service _ _ format language
  | false => exact .onFirst _

theorem sends_generate :
    Sends
      (· = client.renderings renders (engine.prepare order file status language)
        format language)
      (engine.generate (client.serving service.logged renders others.onFirst)
        order file status format language) := by
  unfold Engine.generate
  cases engine.prepare order file status language with
  | error error =>
      have hnone :
          client.renderings renders (.error error) format language = [] := by
        cases renders <;> rfl
      rw [hnone]
      exact .value (.error error)
  | ok prepared =>
      have hrender :=
        sends_render_serving client service renders others format language
          prepared
      exact hrender.bind_silent fun _ => .silent_bind rfl (.value _) fun _ =>
        .value (.ok _)

theorem sends_passUploaded :
    Sends (client.Sealings file language)
      (passUploaded (client.serving service.logged renders others.onFirst) file
        status language) := by
  unfold passUploaded
  cases hupload : file.upload with
  | error error =>
      exact (Sends.value (.error error)).weaken fun _ hnone => .inl hnone
  | ok accepted =>
      obtain ⟨document, announced⟩ := accepted
      have hdownload : Silent
          ((client.serving service.logged renders others.onFirst).download
            document) :=
        .onFirst (others.download document)
      apply Sends.silent_bind (.inl rfl) hdownload
      intro bytes
      split
      · have hseal :=
          client.sends_sealDocument service bytes document.filename language
        apply (hseal.bind_silent fun _ => .value (.ok _)).weaken
        rintro requests ⟨request, hconvert, hrequests⟩
        exact .inr ⟨document, announced, bytes, request, hupload, hconvert,
          hrequests⟩
      · exact (Sends.value (.ok _)).weaken fun _ hnone => .inl hnone

theorem sends_produce (horder : file.answers.order = some order) :
    Sends (RequestLaw engine client renders file status format language)
      (engine.produce (client.serving service.logged renders others.onFirst)
        order file status format language) := by
  unfold Engine.produce
  cases hsource : order.source with
  | digital =>
      apply (sends_generate client service renders others engine order file
        status format language).weaken
      rintro requests rfl
      constructor
      case no_order => simp [horder]
      case digital =>
        intro found hfound _
        obtain rfl := Option.some.inj (horder.symm.trans hfound)
        rfl
      case uploaded =>
        intro found hfound hmanual
        obtain rfl := Option.some.inj (horder.symm.trans hfound)
        exact absurd (hsource.symm.trans hmanual) (by decide)
  | manualUpload =>
      apply (sends_passUploaded client service renders others file status
        language).weaken
      intro requests hsealings
      constructor
      case no_order => simp [horder]
      case digital =>
        intro found hfound hdigital
        obtain rfl := Option.some.inj (horder.symm.trans hfound)
        exact absurd (hsource.symm.trans hdigital) (by decide)
      case uploaded => exact fun _ _ _ => hsealings

theorem sends_create :
    Sends (RequestLaw engine client renders file status format language)
      (engine.create (client.serving service.logged renders others.onFirst) file
        status format language) := by
  unfold Engine.create
  cases horder : file.answers.order with
  | none =>
      apply (Sends.value (.error _)).weaken
      rintro requests rfl
      constructor
      case no_order => exact fun _ => rfl
      case digital => simp [horder]
      case uploaded => simp [horder]
  | some order =>
      have hproduce :=
        sends_produce client service renders others engine order file status
          format language horder
      exact hproduce.bind_silent fun produced =>
        .bind_silent (.onFirst (others.upload produced.bytes _ _)) fun _ =>
          .value (.ok _)

end Creation

/-! ## Formats -/

theorem Request.AsksFor.unique
    {request : Request} {ending other : String} (hending : '.' ∉ ending.toList)
    (hother : '.' ∉ other.toList) (hasks : request.AsksFor ending)
    (hasked : request.AsksFor other) :
    ending = other := by
  obtain ⟨members, stem, hbody, hname⟩ := hasks
  obtain ⟨_, stem', hbody', hname'⟩ := hasked
  rw [hbody] at hbody'
  obtain rfl := Json.object.inj hbody'
  rw [hname] at hname'
  have hchars :
      (stem ++ "." ++ ending).toList = (stem' ++ "." ++ other).toList :=
    congrArg String.toList (Json.string.inj (Option.some.inj hname'))
  have hsplit (stem ending : String) :
      (stem ++ "." ++ ending).toList = stem.toList ++ '.' :: ending.toList := by
    simp
  have hsame := congrArg FileFormat.splitAtLastDot hchars
  rw [hsplit, hsplit, FileFormat.splitAtLastDot_append hending,
    FileFormat.splitAtLastDot_append hother] at hsame
  exact String.toList_inj.mp (Prod.mk.inj (Option.some.inj hsame)).2

theorem renderRequest_asksFor
    (client : Client) (layout : Layout) (particulars : Particulars)
    (format : FileFormat) (language : Language) :
    (renderRequest client layout particulars format language).AsksFor
    format.fileExtension :=
  ⟨_, "order", rfl, rfl⟩

theorem IsConvertRequest.asksFor
    {client : Client} {bytes : Bytes} {filename : String} {language : Language}
    {request : Request}
    (hconvert : IsConvertRequest client bytes filename language request) :
    request.AsksFor "pdf" := by
  obtain ⟨output, document, image, hbody, hsealed, -⟩ := hconvert.body
  have hpdf (stem : String) : stem ++ "." ++ "pdf" = stem ++ ".pdf" :=
    String.append_assoc
  obtain ⟨stem, rfl⟩ : ∃ stem, output = stem ++ "." ++ "pdf" := by
    cases hsealed with
    | @replaced stem ending hending => exact ⟨stem, (hpdf stem).symm⟩
    | appended hdot => exact ⟨filename, (hpdf filename).symm⟩
  exact ⟨_, stem, hbody, rfl⟩

end Docmosis

/-! ## Previews -/

namespace FileFormat

theorem ofFileName?_ne_html (name : String) :
    ofFileName? name ≠ some .html := by
  unfold ofFileName?
  split
  · split <;> simp
  · simp

theorem ofName?_ne_html (text : String) : ofName? text ≠ some .html := by
  unfold ofName?
  split <;> simp

theorem fileExtension_eq_html_iff {format : FileFormat} :
    format.fileExtension = "html" ↔ format = .html := by
  cases format <;> decide

end FileFormat

namespace Docmosis

/-- An order is drafted digitally and the service is to render it, at an address
to which anything can be posted. -/
def Client.RendersOrder (client : Client) (renders : Bool) (engine : Engine)
    (file : CaseFile) (status : OrderStatus) (language : Language) : Prop :=
  renders = true ∧
    isPostable client.domains (client.base ++ "/rs/render") = true ∧
    ∃ order, file.answers.order = some order ∧ order.source = .digital ∧
      Succeeds (engine.prepare order file status language)

/-- A creation asks the service at most once, for the format that was asked of
itself or for a PDF.  It is asked for HTML exactly when the creation is and the
service renders the order. -/
structure FormatLaw (engine : Engine) (client : Client) (renders : Bool)
    (file : CaseFile)
    (status : OrderStatus) (format : FileFormat) (language : Language)
    (requests : List Request) : Prop where
  at_most_once : requests.length ≤ 1
  asks_for :
    ∀ request ∈ requests, request.AsksFor format.fileExtension ∨
    request.AsksFor "pdf"
  html_iff :
    (∃ request ∈ requests, request.AsksFor "html") ↔
      format = .html ∧ client.RendersOrder renders engine file status language

theorem posted_of_isPostable
    {domains : Url.DomainRules} (request : Request)
    (hpost : isPostable domains request.address = true) :
    posted domains request = [request] :=
  if_pos hpost

theorem posted_of_not_isPostable
    {domains : Url.DomainRules} (request : Request)
    (hpost : ¬isPostable domains request.address = true) :
    posted domains request = [] :=
  if_neg hpost

variable {client : Client} {renders : Bool} {engine : Engine} {file : CaseFile}
  {status : OrderStatus} {format : FileFormat} {language : Language}
  {requests : List Request}

theorem FormatLaw.of_nil
    (hrenders : ¬client.RendersOrder renders engine file status language) :
    FormatLaw engine client renders file status format language [] where
  at_most_once := Nat.zero_le 1
  asks_for := by simp
  html_iff := by simp [hrenders]

theorem FormatLaw.of_request
    {request : Request} {ending : String} (hdot : '.' ∉ ending.toList)
    (hasks : request.AsksFor ending)
    (hformat : ending = format.fileExtension ∨ ending = "pdf")
    (hhtml : ending = "html" ↔
      format = .html ∧ client.RendersOrder renders engine file status
        language) :
    FormatLaw engine client renders file status format language [request] := by
  constructor
  case at_most_once => exact Nat.le_refl 1
  case asks_for =>
    intro found hfound
    obtain rfl := List.mem_singleton.mp hfound
    rcases hformat with rfl | rfl
    · exact .inl hasks
    · exact .inr hasks
  case html_iff =>
    rw [← hhtml]
    constructor
    · rintro ⟨found, hfound, hasked⟩
      obtain rfl := List.mem_singleton.mp hfound
      exact hasks.unique hdot (by decide) hasked
    · rintro rfl
      exact ⟨request, List.mem_singleton_self request, hasks⟩

theorem RequestLaw.formatLaw_of_digital
    {order : Order} (horder : file.answers.order = some order)
    (hsource : order.source = .digital) (hlaw :
      RequestLaw engine client renders file status format language requests) :
    FormatLaw engine client renders file status format language requests := by
  have hrenders : client.RendersOrder renders engine file status language ↔
      renders = true ∧
        isPostable client.domains (client.base ++ "/rs/render") = true ∧
        Succeeds (engine.prepare order file status language) := by
    simp [Client.RendersOrder, horder, hsource]
  rw [hlaw.digital order horder hsource]
  unfold Client.renderings
  cases renders with
  | false => exact .of_nil (by simp [hrenders])
  | true =>
      cases hprepare : engine.prepare order file status language with
      | error error => exact .of_nil (by simp [hrenders, hprepare, Succeeds])
      | ok prepared =>
          rw [hprepare] at hrenders
          dsimp only
          by_cases hpost :
              isPostable client.domains (client.base ++ "/rs/render") = true
          · rw [posted_of_isPostable (renderRequest _ _ _ _ _) hpost]
            have hasks :=
              renderRequest_asksFor client prepared.layout prepared.particulars
                format
              language
            refine .of_request (by cases format <;> decide) hasks (.inl rfl) ?_
            rw [FileFormat.fileExtension_eq_html_iff, hrenders]
            exact (and_iff_left ⟨rfl, hpost, prepared, rfl⟩).symm
          · rw [posted_of_not_isPostable (renderRequest _ _ _ _ _) hpost]
            exact .of_nil (by simp [hrenders, hpost])

theorem RequestLaw.formatLaw_of_uploaded
    {order : Order} (horder : file.answers.order = some order)
    (hsource : order.source = .manualUpload)
    (hlaw :
      RequestLaw engine client renders file status format language requests) :
    FormatLaw engine client renders file status format language requests := by
  have hrenders : ¬client.RendersOrder renders engine file status language := by
    simp [Client.RendersOrder, horder, hsource]
  rcases hlaw.uploaded order horder hsource with
    rfl | ⟨document, announced, bytes, request, -, hconvert, rfl⟩
  · exact .of_nil hrenders
  · by_cases hpost : isPostable client.domains request.address = true
    · rw [posted_of_isPostable request hpost]
      refine .of_request (by decide) hconvert.asksFor (.inr rfl) ?_
      exact iff_of_false (by decide) fun hboth => hrenders hboth.2
    · rw [posted_of_not_isPostable request hpost]
      exact .of_nil hrenders

theorem RequestLaw.formatLaw
    (hlaw :
      RequestLaw engine client renders file status format language requests) :
    FormatLaw engine client renders file status format language requests := by
  cases horder : file.answers.order with
  | none =>
      rw [hlaw.no_order horder]
      exact .of_nil (by simp [Client.RendersOrder, horder])
  | some order =>
      cases hsource : order.source with
      | digital => exact hlaw.formatLaw_of_digital horder hsource
      | manualUpload => exact hlaw.formatLaw_of_uploaded horder hsource

theorem format_of_sealDocument
    {service : Service σ} {bytes : Bytes} {filename : String} {state after : σ}
    {stamped : Rendered} (hstamped :
      (client.sealDocument service bytes filename language).run.run state =
        (.ok stamped, after)) :
    stamped.format = .pdf := by
  unfold Client.sealDocument at hstamped
  obtain ⟨content, middle, -, hlast⟩ := run_bind_eq_ok_iff.mp hstamped
  cases hlast
  rfl

/-- An uploaded order has the format that its name announces, or is a PDF. -/
theorem format_of_passUploaded
    {service : Service σ} {others : Collaborators σ} {state after : σ}
    {produced : Produced}
    (hpassed : (passUploaded (client.serving service renders others) file status
      language).run.run state = (.ok produced, after)) :
    produced.format ≠ .html := by
  unfold passUploaded at hpassed
  obtain ⟨⟨document, announced⟩, start, hupload, hfetched⟩ :=
    run_bind_eq_ok_iff.mp hpassed
  obtain ⟨bytes, middle, -, hlast⟩ := run_bind_eq_ok_iff.mp hfetched
  split at hlast
  · obtain ⟨stamped, last, hstamped, hproduced⟩ := run_bind_eq_ok_iff.mp hlast
    cases hproduced
    rw [format_of_sealDocument hstamped]
    nofun
  · cases hlast
    rw [run_liftM] at hupload
    have haccepted := CaseFile.upload_eq_ok_iff.mp (Prod.mk.inj hupload).1
    rintro rfl
    exact FileFormat.ofFileName?_ne_html _ haccepted.2

/-- What is asked of the service in a creation, and what can become of an
uploaded order. -/
structure HtmlLaw (engine : Engine) (client : Client) (service : Service σ)
    (renders : Bool)
    (others : Collaborators σ) (file : CaseFile) (status : OrderStatus)
    (format : FileFormat) (language : Language) (state : σ) : Prop where
  requested :
    FormatLaw engine client renders file status format language
      (client.requestsFrom service renders others state
        (engine.create · file status format language))
  never_announced : ∀ name, FileFormat.ofFileName? name ≠ some .html
  never_typed : ∀ text, FileFormat.ofName? text ≠ some .html
  never_passed :
    ∀ order produced, order.source = .manualUpload →
      outcomeFrom state (engine.produce
        (client.serving service renders others) order file status
        format language) = .ok produced →
      produced.format ≠ .html

/-- A creation that is asked for HTML asks the service for it where the service
renders the order; nothing else does, and no uploaded order becomes HTML. -/
theorem htmlLaw
    (engine : Engine) (client : Client) (service : Service σ) (renders : Bool)
    (others : Collaborators σ) (file : CaseFile) (status : OrderStatus)
    (format : FileFormat) (language : Language) (state : σ) :
    HtmlLaw engine client service renders others file status format language
      state := by
  constructor
  case requested =>
    obtain ⟨requests, hlaw, hlog⟩ :=
      sends_create client service renders others engine file status format
        language state []
    rw [Client.requestsFrom, hlog, List.nil_append]
    exact hlaw.formatLaw
  case never_announced => exact FileFormat.ofFileName?_ne_html
  case never_typed => exact FileFormat.ofName?_ne_html
  case never_passed =>
    intro order produced hsource hproduced
    unfold Engine.produce at hproduced
    simp only [hsource] at hproduced
    exact format_of_passUploaded (Prod.ext hproduced rfl)

/-- A service that answers whatever it is asked. -/
def obligingService : Service Unit :=
  fun _ => pure (.received 200 [] true)

def localClient : Client :=
  { base := "http://localhost:8080", accessKey := "key", images := {} }

def careOfOne : CaseFile :=
  { localAuthority := some "SA"
    localAuthorityName := some "Swansea City Council"
    children := [{ id := "1", party := {} }]
    answers := {
      order := some .care
      approvalDate := Calendar.Date.of? 2021 6 5 } }

/-- A care order that is created as HTML is asked of the service as HTML. -/
theorem care_order_requested_as_html :
    ∃ request ∈ localClient.requestsFrom obligingService true .obliging ()
        ((Engine.standard {} [("SA", "Family Court sitting at Swansea")]
          []).create · careOfOne .sealed .html .english),
      request.AsksFor "html" := by
  have hlaw :=
    htmlLaw (.standard {} [("SA", "Family Court sitting at Swansea")] [])
      localClient
    obligingService true .obliging careOfOne .sealed .html .english ()
  have hpost :
      isPostable localClient.domains (localClient.base ++ "/rs/render") =
        true := by
    decide +kernel
  exact hlaw.requested.html_iff.mpr ⟨rfl, rfl, hpost, .care, rfl, rfl, ⟨_, rfl⟩⟩

end Docmosis

end FamilyOrders
