import FamilyOrders.Docmosis.Client
import FamilyOrders.Proofs.Actions
import FamilyOrders.Proofs.Encodings
import FamilyOrders.Proofs.FileNames
import FamilyOrders.Proofs.Urls.WebUrls
import Mathlib.Data.List.DropRight

/-!
# Requests to the service

The address that a request goes to, what is made of the reply, and what the
request holds.
-/

namespace FamilyOrders

/-! ## Posting to the rendering service

An exchange sends at most one request, to the one address it is about, and does
nothing else.  So it does to the state what the service does, and how services
answer at other addresses is all the same to it. -/

theorem run_adapt
    (blame : ε → ε') (action : ExceptT ε (StateM σ) α) (state : σ) :
    (ExceptT.adapt blame action).run.run state =
      ((action.run.run state).1.mapError blame, (action.run.run state).2) :=
  rfl

theorem Moves.adapt
    {R : σ → σ → Prop} {action : ExceptT ε (StateM σ) α}
    (hmoves : Moves R action) (blame : ε → ε') :
    Moves R (ExceptT.adapt blame action) :=
  hmoves

namespace Docmosis

theorem run_post
    (domains : Url.DomainRules) (service : Service σ) (address : String)
    (body : Json) (state : σ) :
    (post domains service address body).run.run state =
      match Url.parse domains address with
      | .error _ => (.error (.unsupportedScheme address address), state)
      | .ok url =>
        if isWebAddress url then
          ((service (.posting address body) state).1.outcome address
              (withoutCredentials url).text,
            (service (.posting address body) state).2)
        else
          (.error (.unsupportedScheme address (withoutCredentials url).text),
            state) := by
  unfold post
  cases Url.parse domains address with
  | error fault => rfl
  | ok url =>
      dsimp only
      by_cases hweb : isWebAddress url
      · rw [if_pos hweb, if_pos hweb, run_bind]
        change (liftM ((service (.posting address body) state).1.outcome address
          (withoutCredentials url).text) : ExceptT Failure
            (StateM σ) Bytes).run.run
            (service (.posting address body) state).2 = _
        cases (service (.posting address body) state).1.outcome address
            (withoutCredentials url).text with
        | error failure => rfl
        | ok bytes => rfl
      · rw [if_neg hweb, if_neg hweb]
        rfl

theorem moves_post
    {R : σ → σ → Prop} (hchains : Chains R) {service : Service σ}
    (hservice : ∀ request state, R state (service request state).2)
    (domains : Url.DomainRules) (address : String) (body : Json) :
    Moves R (post domains service address body) := by
  intro state
  rw [run_post]
  cases Url.parse domains address with
  | error fault => exact hchains.refl state
  | ok url =>
      dsimp only
      by_cases hweb : isWebAddress url
      · rw [if_pos hweb]
        exact hservice (.posting address body) state
      · rw [if_neg hweb]
        exact hchains.refl state

theorem post_congr
    {service other : Service σ} {address : String} {body : Json}
    (domains : Url.DomainRules)
    (hsame : service (.posting address body) = other (.posting address body)) :
    post domains service address body = post domains other address body := by
  unfold post
  rw [hsame]

namespace Client

variable {R : σ → σ → Prop} {service other : Service σ}

theorem moves_render
    (hchains : Chains R)
    (hservice : ∀ request state, R state (service request state).2)
    (client : Client) (layout : Layout) (particulars : Particulars)
    (format : FileFormat) (language : Language) :
    Moves R (client.render service layout particulars format language) := by
  unfold render
  apply Moves.bind hchains ((moves_post hchains hservice _ _ _).adapt _)
  intro bytes
  exact .value hchains (.ok _)

theorem moves_sealDocument
    (hchains : Chains R)
    (hservice : ∀ request state, R state (service request state).2)
    (client : Client) (bytes : Bytes) (filename : String)
    (language : Language) :
    Moves R (client.sealDocument service bytes filename language) := by
  unfold sealDocument
  apply Moves.bind hchains ((moves_post hchains hservice _ _ _).adapt _)
  intro stamped
  exact .value hchains (.ok _)

theorem sealDocument_congr
    {client : Client}
    (hsame :
      ∀ request, request.address = client.convertAddress →
        service request = other request)
    (bytes : Bytes) (filename : String) (language : Language) :
    client.sealDocument service bytes filename language =
      client.sealDocument other bytes filename language := by
  unfold sealDocument exchange
  rw [post_congr client.domains (hsame (.posting client.convertAddress _) rfl)]

theorem convertAddress_ne_renderAddress (client : Client) :
    client.convertAddress ≠ client.renderAddress := by
  intro hsame
  have hchars := congrArg String.toList hsame
  simp [convertAddress, renderAddress] at hchars

end Client

end Docmosis

end FamilyOrders

namespace FamilyOrders.Docmosis

/-! ## Addresses of the rendering service

What is appended to the configured address, once its last slashes are gone,
makes the path of the same place longer.  So the address of an endpoint on the
web is read as a URL on the same host, and the address of any other service is
never taken for one on the web. -/

open FamilyOrders.Text
open FamilyOrders.Url

theorem toList_dropTrailingSlashes (text : String) :
    (dropTrailingSlashes text).toList = text.toList.rdropWhile (· = '/') := by
  rw [dropTrailingSlashes, String.toList_ofList]
  rfl

section Slashes

variable {cs : List Char}

theorem rdropWhile_slash_of_last
    (hlast : cs.getLast? ≠ some '/') :
    cs.rdropWhile (· = '/') = cs := by
  rw [List.rdropWhile_eq_self_iff]
  intro hsome hslash
  rw [List.getLast?_eq_some_getLast hsome] at hlast
  exact hlast (congrArg some (of_decide_eq_true hslash))

theorem rdropWhile_slash_append
    (hlast : cs.getLast? ≠ some '/') (rest : List Char) :
    (cs ++ rest).rdropWhile (· = '/') = cs ++ rest.rdropWhile (· = '/') := by
  induction rest using List.reverseRecOn with
  | nil => simpa using rdropWhile_slash_of_last hlast
  | append_singleton rest c ih =>
      rw [← List.append_assoc, List.rdropWhile_concat, List.rdropWhile_concat]
      split
      · exact ih
      · rw [List.append_assoc]

theorem rdropWhile_slash_flatMap
    {names : List (List Char)} (hnames : ∀ name ∈ names, '/' ∉ name) :
    (names.flatMap ('/' :: ·)).rdropWhile (· = '/') =
      (names.rdropWhile List.isEmpty).flatMap ('/' :: ·) := by
  induction names using List.reverseRecOn with
  | nil => rfl
  | append_singleton names name ih =>
      obtain ⟨hmore, hname⟩ := List.forall_mem_append.mp hnames
      have hslash : '/' ∉ name := hname name List.mem_cons_self
      rw [List.flatMap_append, List.flatMap_singleton]
      by_cases hempty : name = []
      · rw [hempty, List.rdropWhile_concat_pos _ _ _ (by decide), ih hmore,
          List.rdropWhile_concat_pos _ _ _ rfl]
      · have hends :
          (names.flatMap ('/' :: ·) ++ '/' :: name).getLast? ≠ some '/' := by
          rw [List.getLast?_append, List.getLast?_cons,
            List.getLast?_eq_some_getLast hempty]
          intro heq
          exact hslash (Option.some.inj heq ▸ List.getLast_mem hempty)
        rw [rdropWhile_slash_of_last hends,
          List.rdropWhile_concat_neg _ _ _ (by simpa using hempty),
            List.flatMap_append, List.flatMap_singleton]

/-- What is dropped are the slashes at the end, all of them. -/
theorem dropTrailingSlashes_spec (text : String) :
    ∃ slashes, (∀ c ∈ slashes, c = '/') ∧
      text.toList = (dropTrailingSlashes text).toList ++ slashes ∧
      (dropTrailingSlashes text).toList.getLast? ≠ some '/' := by
  rw [toList_dropTrailingSlashes]
  refine ⟨text.toList.rtakeWhile (· = '/'), ?_, ?_, ?_⟩
  · intro c hc
    simpa using List.mem_rtakeWhile_imp hc
  · exact List.rdropWhile_append_rtakeWhile.symm
  · intro hlast
    have hsome : text.toList.rdropWhile (· = '/') ≠ [] := by
      intro hnil
      rw [hnil] at hlast
      cases hlast
    rw [List.getLast?_eq_some_getLast hsome] at hlast
    exact List.rdropWhile_last_not _ _ hsome
      (decide_eq_true (Option.some.inj hlast))

end Slashes

/-! ### Services on the web -/

section Web

variable {domains : DomainRules} {scheme endpoint : List Char}
variable {authority : Authority} {names : List (List Char)}

/-- The names of the path without empty ones at the end, and the way to an
endpoint. -/
def endpointNames (names : List (List Char)) (endpoint : List Char) : List
    (List Char) :=
  names.rdropWhile List.isEmpty ++ ["rs".toList, endpoint]

theorem isPlace_endpoint
    (hplace : IsPlace domains scheme authority names)
    (hendpoint : IsSegment endpoint) :
    IsPlace domains scheme authority (endpointNames names endpoint) where
  isScheme := hplace.isScheme
  isWeb := hplace.isWeb
  isAuthority := hplace.isAuthority
  names_ne_nil := List.append_ne_nil_of_right_ne_nil _ (List.cons_ne_nil _ _)
  segments := by
    have hservice : IsSegment "rs".toList :=
      isSegment_of_all (by decide) (by decide) (by decide)
    refine List.forall_mem_append.mpr ⟨?_, ?_⟩
    · exact fun name hname =>
        hplace.segments name ((List.rdropWhile_prefix _ _).mem hname)
    · exact List.forall_mem_cons.mpr
        ⟨hservice, List.forall_mem_singleton.mpr hendpoint⟩

theorem text_endpoint
    {suffix : String} (hplace : IsPlace domains scheme authority names)
    (hsuffix : suffix.toList = "/rs/".toList ++ endpoint) :
    dropTrailingSlashes (ofPlace scheme authority names).text ++ suffix =
      (ofPlace scheme authority (endpointNames names endpoint)).text := by
  have hnames : ∀ name ∈ names, '/' ∉ name := by
    intro name hname hslash
    have hplain := (hplace.segments name hname).plain '/' hslash
    revert hplain
    decide
  have hlast :
      (scheme ++ ':' :: '/' :: '/' :: authority.chars).getLast? ≠ some '/' := by
    have hsome := hplace.isAuthority.chars_ne_nil
    have hchar := hplace.isAuthority.mem_chars (List.getLast_mem hsome)
    simp only [List.getLast?_append, List.getLast?_cons,
      List.getLast?_eq_some_getLast hsome]
    intro heq
    have hslash : authority.chars.getLast hsome = '/' := Option.some.inj heq
    rw [hslash] at hchar
    revert hchar
    decide
  have hsplit : ∀ names, (ofPlace scheme authority names).chars =
      (scheme ++ ':' :: '/' :: '/' :: authority.chars) ++ names.flatMap
      ('/' :: ·) := by
    intro names
    simp [chars_ofPlace]
  rw [← String.toList_inj, String.toList_append, toList_dropTrailingSlashes,
    text, text, String.toList_ofList, String.toList_ofList, hsuffix, hsplit,
      hsplit,
    rdropWhile_slash_append hlast, rdropWhile_slash_flatMap hnames,
      endpointNames,
    List.flatMap_append, List.append_assoc, List.append_assoc]
  simp

end Web

/-- A URL as the address of a service may be configured. -/
structure IsServiceUrl (domains : DomainRules) (url : Url) : Prop where
  parsed : ∃ text, Url.parse domains text = .ok url
  query : url.query = none
  fragment : url.fragment = none

/-- Where a suffix of an address leads to. -/
structure IsEndpoint (suffix : String) : Prop where
  segment :
    ∃ endpoint, IsSegment endpoint ∧ suffix.toList = "/rs/".toList ++ endpoint
  last : suffix.toList.getLast?.map isControlOrSpace = some false

/-- The schemes by which requests can be sent. -/
def IsHttp (url : Url) : Prop :=
  url.scheme = "http".toList ∨ url.scheme = "https".toList

theorem isWebAddress_iff {url : Url} :
    isWebAddress url = true ↔ url.authority.isSome = true ∧ IsHttp url := by
  simp only [isWebAddress, IsHttp, Bool.and_eq_true, Bool.or_eq_true,
    decide_eq_true_eq]

theorem isWeb_of_isHttp
    {url : Url} (hhttp : IsHttp url) :
    Url.isWeb url.scheme = true := by
  rcases hhttp with hscheme | hscheme
  · rw [hscheme]
    decide
  · rw [hscheme]
    decide

section Endpoints

variable {domains : DomainRules} {url target : Url} {suffix : String}

theorem parse_endpoint
    (hsound : domains.IsSound) (hurl : IsServiceUrl domains url)
    (hsuffix : IsEndpoint suffix) (hhttp : IsHttp url) :
    ∃ target,
      Url.parse domains (dropTrailingSlashes url.text ++ suffix) = .ok target ∧
      target.text = dropTrailingSlashes url.text ++ suffix ∧
      target.scheme = url.scheme ∧ target.authority = url.authority ∧
      isWebAddress target = true := by
  obtain ⟨text, hparse⟩ := hurl.parsed
  obtain ⟨endpoint, hendpoint, hchars⟩ := hsuffix.segment
  obtain ⟨authority, names, hplace, hofPlace⟩ :=
    isPlace_of_parse hsound hparse
      (isWeb_of_isHttp hhttp) hurl.query hurl.fragment
  have htext := text_endpoint hplace hchars
  rw [← hofPlace] at htext
  refine ⟨ofPlace url.scheme authority (endpointNames names endpoint), ?_,
    htext.symm, rfl, ?_, ?_⟩
  · rw [htext]
    exact (isPlace_endpoint hplace hendpoint).parse_text
  · rw [hofPlace]
    rfl
  · exact isWebAddress_iff.mpr ⟨rfl, hhttp⟩

theorem scheme_of_endpoint
    (hurl : IsServiceUrl domains url) (hsuffix : IsEndpoint suffix)
    (htarget :
      Url.parse domains (dropTrailingSlashes url.text ++ suffix) = .ok target) :
    target.scheme = url.scheme := by
  obtain ⟨text, hparse⟩ := hurl.parsed
  have hcolon : (url.scheme ++ [':']).getLast? ≠ some '/' := by
    rw [List.getLast?_concat]
    decide
  obtain ⟨rest, hrest⟩ : ∃ rest, url.chars = (url.scheme ++ [':']) ++ rest :=
    ⟨_, by rw [Url.chars, List.append_assoc, List.append_assoc,
      List.append_assoc, List.append_assoc]; rfl⟩
  have haddress : dropTrailingSlashes url.text ++ suffix =
      String.ofList (url.scheme ++ ':' ::
        (rest.rdropWhile (· = '/') ++ suffix.toList)) := by
    rw [← String.toList_inj, String.toList_append, toList_dropTrailingSlashes,
      Url.text, String.toList_ofList, String.toList_ofList, hrest,
        rdropWhile_slash_append hcolon]
    simp
  rw [haddress] at htarget
  refine scheme_of_parse (isScheme_of_parse hparse) ?_ htarget
  intro c hc
  obtain ⟨last, hlast, hvisible⟩ := Option.map_eq_some_iff.mp hsuffix.last
  rw [List.getLast?_append, hlast] at hc
  obtain rfl := Option.some.inj hc
  exact hvisible

/-- What is not on the web does not get there. -/
theorem not_isWebAddress_endpoint
    (hurl : IsServiceUrl domains url) (hsuffix : IsEndpoint suffix)
    (hhttp : ¬ IsHttp url)
    (htarget :
      Url.parse domains (dropTrailingSlashes url.text ++ suffix) = .ok target) :
    isWebAddress target = false := by
  rw [← Bool.not_eq_true]
  intro hweb
  have hscheme := (isWebAddress_iff.mp hweb).2
  rw [IsHttp, scheme_of_endpoint hurl hsuffix htarget] at hscheme
  exact hhttp hscheme

end Endpoints

/-! ## Requests to the rendering service

Rendering and sealing each post one request below the configured address, and
its reply decides what comes of it.  The request says what is to be rendered or
sealed: the document that is sent to be sealed can be read back from it. -/

open FamilyOrders.Text
open FamilyOrders.Url

/-! ### Replies -/

/-- A complete reply with a status of success gives its content, and any other
reply an error. -/
structure Decides (reply : Reply) (format : FileFormat)
    (blame : Failure → OrderError)
    (outcome : Except OrderError Rendered) : Prop where
  success : ∀ status bytes, reply = .received status bytes true → 200 ≤ status →
    status < 300 →
    outcome = .ok { bytes, format }
  failure :
    (∀ status bytes, reply = .received status bytes true →
      ¬ (200 ≤ status ∧ status < 300)) →
    ∃ failure, outcome = .error (blame failure)

/-- Exactly one request is sent, and its reply decides. -/
def SendsOnce (request : Request) (format : FileFormat)
    (blame : Failure → OrderError)
    (action : ∀ {σ : Type}, Service σ → Action σ Rendered) : Prop :=
  ∀ {σ : Type} (service : Service σ) (state : σ),
    ((action service).run.run state).2 = (service request state).2 ∧
      Decides (service request state).1 format blame
        ((action service).run.run state).1

/-- No request is sent, and there is an error. -/
def SendsNothing (blame : Failure → OrderError)
    (action : ∀ {σ : Type}, Service σ → Action σ Rendered) : Prop :=
  ∀ {σ : Type} (service : Service σ) (state : σ),
    ∃ failure, (action service).run.run state = (.error (blame failure), state)

theorem isSuccess_iff {status : Nat} :
    isSuccess status = true ↔ 200 ≤ status ∧ status < 300 := by
  simp [isSuccess]

theorem decides_outcome
    (reply : Reply) (address target : String) (format : FileFormat)
    (blame : Failure → OrderError) :
    Decides reply format blame
      (((reply.outcome address target).mapError blame).map fun bytes =>
        { bytes, format }) := by
  constructor
  case success =>
    rintro status bytes rfl hlow hhigh
    rw [Reply.outcome, if_pos (isSuccess_iff.mpr ⟨hlow, hhigh⟩)]
    rfl
  case failure =>
    intro hother
    cases reply with
    | unreachable => exact ⟨_, rfl⟩
    | received status body complete =>
        by_cases hstatus : isSuccess status = true
        · cases complete with
          | true =>
              exact absurd (isSuccess_iff.mp hstatus) (hother status body rfl)
          | false =>
              rw [Reply.outcome, if_pos hstatus]
              exact ⟨_, rfl⟩
        · rw [Reply.outcome, if_neg hstatus]
          exact ⟨_, rfl⟩

/-- An exchange whose content is that of a document. -/
def fetch (client : Client) (format : FileFormat) (blame : Failure → OrderError)
    (address : String) (body : Json) {σ : Type} (service : Service σ) :
    Action σ Rendered := do
  let bytes ← client.exchange service blame address body
  return { bytes, format }

section Fetching

variable {client : Client} {format : FileFormat} {blame : Failure → OrderError}
variable {address : String} {body : Json}

theorem run_fetch
    (service : Service σ) (state : σ) :
    (fetch client format blame address body service).run.run state =
      ((((post client.domains service address body).run.run state).1.mapError
          blame).map fun bytes => { bytes, format },
        ((post client.domains service address body).run.run state).2) := by
  rw [fetch, Client.exchange, run_bind, run_adapt]
  cases ((post client.domains service address body).run.run state).1 with
  | ok bytes => rfl
  | error failure => rfl

theorem sendsOnce_fetch
    {target : Url} (hparse : Url.parse client.domains address = .ok target)
    (hweb : isWebAddress target = true) :
    SendsOnce (.posting address body) format blame
      (fetch client format blame address body) := by
  intro σ service state
  rw [run_fetch, run_post, hparse]
  dsimp only
  rw [if_pos hweb]
  exact ⟨rfl, decides_outcome _ _ _ _ _⟩

theorem sendsNothing_fetch
    (hweb : ∀ target, Url.parse client.domains address = .ok target →
      isWebAddress target = false) :
    SendsNothing blame (fetch client format blame address body) := by
  intro σ service state
  rw [run_fetch, run_post]
  cases hparse : Url.parse client.domains address with
  | error fault => exact ⟨_, rfl⟩
  | ok target =>
      dsimp only
      rw [hweb target hparse, if_neg Bool.false_ne_true]
      exact ⟨_, rfl⟩

end Fetching

/-! ### What requests carry -/

/-- The name with what follows its last dot replaced, or with an ending it did
not have. -/
inductive IsSealedName : String → String → Prop
  | replaced {stem ending : String} (hending : '.' ∉ ending.toList) :
      IsSealedName (stem ++ "." ++ ending) (stem ++ ".pdf")
  | appended {filename : String} (hdot : '.' ∉ filename.toList) :
      IsSealedName filename (filename ++ ".pdf")

theorem isSealedName_sealedName (filename : String) :
    IsSealedName filename (sealedName filename) := by
  have hpdf (stem : String) :
      stem ++ "." ++ FileFormat.pdf.fileExtension = stem ++ ".pdf" :=
    String.append_assoc
  by_cases hdot : '.' ∈ filename.toList
  · obtain ⟨ending, stem, hsplit, hending⟩ :=
      List.eq_append_cons_of_mem (List.mem_reverse.mpr hdot)
    have hchars : filename.toList = stem.reverse ++ '.' :: ending.reverse := by
      rw [← List.reverse_reverse filename.toList, hsplit]
      simp
    have hlast : '.' ∉ ending.reverse := by simpa using hending
    have hname : filename =
        String.ofList stem.reverse ++ "." ++ String.ofList ending.reverse := by
      rw [← String.toList_inj, hchars]
      simp
    rw [sealedName, hchars, FileFormat.splitAtLastDot_append hlast]
    dsimp only
    rw [hpdf, hname]
    exact .replaced (by simpa using hlast)
  · rw [sealedName, FileFormat.splitAtLastDot_of_notMem hdot]
    dsimp only
    rw [hpdf]
    exact .appended hdot

/-- The name under which the service knows the template of a layout. -/
inductive IsTemplate : Layout → Language → String → Prop
  | order : IsTemplate .standard .english "FL-PLW-GOR-ENG-00728.doc"
  | orderInWelsh : IsTemplate .standard .welsh "FL-PLW-GOR-WEL-00728.doc"
  | protection :
      IsTemplate .emergencyProtection .english "FL-PLW-GOR-ENG-00744.doc"
  | protectionInWelsh :
      IsTemplate .emergencyProtection .welsh "FL-PLW-GOR-WEL-00744.doc"

/-- The name of a rendered document, which tells the format wanted. -/
inductive IsOutputName : FileFormat → String → Prop
  | pdf : IsOutputName .pdf "order.pdf"
  | word : IsOutputName .word "order.docx"
  | html : IsOutputName .html "order.html"

/-- The image of the court's seal that is for documents in a language. -/
inductive IsSeal (images : ImageSet) : Language → String → Prop
  | english : IsSeal images .english images.courtSeal
  | welsh : IsSeal images .welsh images.courtSealWelsh

/-- A request that posts JSON to an address. -/
structure IsPost (address : String) (request : Request) : Prop where
  method : request.method = "POST"
  address : request.address = address
  userAgent : request.userAgent = "order-docgen/0.1.0"
  contentType : request.contentType = "application/json"

/-- A request to render a document. -/
structure IsRenderRequest (client : Client) (layout : Layout)
    (particulars : Particulars) (format : FileFormat) (language : Language)
    (request : Request) : Prop where
  post : IsPost (client.base ++ "/rs/render") request
  body : ∃ template output,
    request.body = .object [
      ("accessKey", .string client.accessKey),
      ("templateName", .string template),
      ("outputName", .string output),
      ("data", particulars.toJson)] ∧
    IsTemplate layout language template ∧ IsOutputName format output

/-- A request to seal a document. -/
structure IsConvertRequest (client : Client) (bytes : Bytes) (filename : String)
    (language : Language) (request : Request) : Prop where
  post : IsPost (client.base ++ "/rs/convert") request
  body : ∃ output document image,
    request.body = .object [
      ("accessKey", .string client.accessKey),
      ("fileName", .string filename),
      ("outputName", .string output),
      ("document", .string document),
      ("stampImage", .string image)] ∧
    IsSealedName filename output ∧ base64Bytes? document.toList = some bytes ∧
      IsSeal client.images language image

theorem isPost_posting
    (address : String) (body : Json) :
    IsPost address (.posting address body) where
  method := rfl
  address := rfl
  userAgent := rfl
  contentType := rfl

theorem isRenderRequest
    (client : Client) (layout : Layout) (particulars : Particulars)
    (format : FileFormat) (language : Language) :
    IsRenderRequest client layout particulars format language
      (.posting client.renderAddress
        (renderBody client layout particulars format language)) where
  post := isPost_posting _ _
  body := by
    refine ⟨layout.templateName language, "order." ++ format.fileExtension, rfl,
      ?_, ?_⟩
    · cases layout with
      | standard =>
          cases language with
          | english => exact .order
          | welsh => exact .orderInWelsh
      | emergencyProtection =>
          cases language with
          | english => exact .protection
          | welsh => exact .protectionInWelsh
    · cases format with
      | pdf => exact .pdf
      | word => exact .word
      | html => exact .html

theorem isConvertRequest
    (client : Client) (bytes : Bytes) (filename : String)
    (language : Language) :
    IsConvertRequest client bytes filename language
      (.posting client.convertAddress
        (convertBody client bytes filename language)) where
  post := isPost_posting _ _
  body := by
    refine ⟨sealedName filename, base64 bytes, client.images.sealFor language,
      rfl, isSealedName_sealedName filename, ?_, ?_⟩
    · rw [base64, String.toList_ofList]
      exact base64Bytes?_base64Chars bytes
    · cases language with
      | english => exact .english
      | welsh => exact .welsh

/-! ### Clients -/

/-- What a client for the service at the URL does. -/
structure ExchangeLaw (domains : DomainRules) (url : Url) (accessKey : String)
    (images : ImageSet) (client : Client) : Prop where
  settings : client.accessKey = accessKey ∧ client.images = images
  base : ∃ slashes, (∀ c ∈ slashes, c = '/') ∧
    url.text.toList = client.base.toList ++ slashes ∧
      client.base.toList.getLast? ≠ some '/'
  /-- The addresses lead to the host of the URL. -/
  target : IsHttp url →
    ∀ suffix ∈ ["/rs/render", "/rs/convert"], ∃ target,
      Url.parse domains (client.base ++ suffix) = .ok target ∧
        target.text = client.base ++ suffix ∧
        target.scheme = url.scheme ∧ target.authority = url.authority
  render : IsHttp url →
    ∀ layout particulars format language, ∃ request,
      IsRenderRequest client layout particulars format language request ∧
        SendsOnce request format (fun failure => .render (.service failure))
          fun service =>
            client.render service layout particulars format language
  sealing : IsHttp url →
    ∀ bytes filename language, ∃ request,
      IsConvertRequest client bytes filename language request ∧
        SendsOnce request .pdf (fun failure => .sealing (.service failure))
          fun service => client.sealDocument service bytes filename language
  /-- There is nowhere to send a request to. -/
  renderElsewhere : ¬ IsHttp url →
    ∀ layout particulars format language,
      SendsNothing (fun failure => .render (.service failure))
        fun service => client.render service layout particulars format language
  sealingElsewhere : ¬ IsHttp url →
    ∀ bytes filename language,
      SendsNothing (fun failure => .sealing (.service failure))
        fun service => client.sealDocument service bytes filename language

section Sending

variable {client : Client} {target : Url}

theorem sendsOnce_render
    (hparse : Url.parse client.domains client.renderAddress = .ok target)
    (hweb : isWebAddress target = true) (layout : Layout)
    (particulars : Particulars) (format : FileFormat) (language : Language) :
    ∃ request,
      IsRenderRequest client layout particulars format language request ∧
        SendsOnce request format (fun failure => .render (.service failure))
          fun service =>
            client.render service layout particulars format language :=
  ⟨_, isRenderRequest client layout particulars format language,
    sendsOnce_fetch hparse hweb⟩

theorem sendsOnce_sealDocument
    (hparse : Url.parse client.domains client.convertAddress = .ok target)
    (hweb : isWebAddress target = true) (bytes : Bytes) (filename : String)
    (language : Language) :
    ∃ request, IsConvertRequest client bytes filename language request ∧
      SendsOnce request .pdf (fun failure => .sealing (.service failure))
        fun service => client.sealDocument service bytes filename language :=
  ⟨_, isConvertRequest client bytes filename language,
    sendsOnce_fetch hparse hweb⟩

theorem sendsNothing_render
    (hweb :
      ∀ target, Url.parse client.domains client.renderAddress = .ok target →
      isWebAddress target = false)
    (layout : Layout) (particulars : Particulars) (format : FileFormat)
    (language : Language) :
    SendsNothing (fun failure => .render (.service failure))
      fun service => client.render service layout particulars format language :=
  sendsNothing_fetch hweb

theorem sendsNothing_sealDocument
    (hweb :
      ∀ target, Url.parse client.domains client.convertAddress = .ok target →
      isWebAddress target = false)
    (bytes : Bytes) (filename : String) (language : Language) :
    SendsNothing (fun failure => .sealing (.service failure))
      fun service => client.sealDocument service bytes filename language :=
  sendsNothing_fetch hweb

end Sending

theorem isEndpoint_render : IsEndpoint "/rs/render" where
  segment := by
    refine ⟨"render".toList, ?_, rfl⟩
    exact isSegment_of_all (by decide) (by decide) (by decide)
  last := by decide

theorem isEndpoint_convert : IsEndpoint "/rs/convert" where
  segment := by
    refine ⟨"convert".toList, ?_, rfl⟩
    exact isSegment_of_all (by decide) (by decide) (by decide)
  last := by decide

theorem exchangeLaw
    {domains : DomainRules} {url : Url} (hsound : domains.IsSound)
    (hurl : IsServiceUrl domains url) (accessKey : String) (images : ImageSet) :
    ∃ client, Client.of domains (some url) accessKey images = .ok client ∧
      ExchangeLaw domains url accessKey images client := by
  obtain ⟨client, hclient, hbase, hdomains, hsettings⟩ :
      ∃ client, Client.of domains (some url) accessKey images = .ok client ∧
        client.base = dropTrailingSlashes url.text ∧ client.domains = domains ∧
          client.accessKey = accessKey ∧ client.images = images :=
    ⟨_, rfl, rfl, rfl, rfl, rfl⟩
  have hparse (suffix : String) (hsuffix : IsEndpoint suffix)
      (hhttp : IsHttp url) :=
    parse_endpoint hsound hurl hsuffix hhttp
  have helsewhere (suffix : String) (hsuffix : IsEndpoint suffix)
      (hhttp : ¬ IsHttp url) (target : Url)
      (htarget :
        Url.parse domains (dropTrailingSlashes url.text ++ suffix) =
          .ok target) :
      isWebAddress target = false :=
    not_isWebAddress_endpoint hurl hsuffix hhttp htarget
  rw [← hbase] at hparse helsewhere
  refine ⟨client, hclient, ?_⟩
  constructor
  case settings => exact hsettings
  case base =>
    rw [hbase]
    exact dropTrailingSlashes_spec url.text
  case target =>
    intro hhttp suffix hsuffix
    have hendpoint : IsEndpoint suffix := by
      simp only [List.mem_cons, List.not_mem_nil, or_false] at hsuffix
      rcases hsuffix with rfl | rfl
      · exact isEndpoint_render
      · exact isEndpoint_convert
    obtain ⟨target, htarget, htext, hscheme, hauthority, -⟩ :=
      hparse suffix hendpoint hhttp
    exact ⟨target, htarget, htext, hscheme, hauthority⟩
  case render =>
    intro hhttp
    obtain ⟨target, htarget, -, -, -, hweb⟩ := hparse _ isEndpoint_render hhttp
    exact sendsOnce_render (hdomains ▸ htarget) hweb
  case sealing =>
    intro hhttp
    obtain ⟨target, htarget, -, -, -, hweb⟩ := hparse _ isEndpoint_convert hhttp
    exact sendsOnce_sealDocument (hdomains ▸ htarget) hweb
  case renderElsewhere =>
    intro hhttp
    have hnowhere := helsewhere _ isEndpoint_render hhttp
    exact sendsNothing_render (hdomains ▸ hnowhere)
  case sealingElsewhere =>
    intro hhttp
    have hnowhere := helsewhere _ isEndpoint_convert hhttp
    exact sendsNothing_sealDocument (hdomains ▸ hnowhere)

/-- A service on this machine, at a port of its own. -/
def localUrl : Url :=
  Url.ofPlace "http".toList ⟨[], [], .domain "localhost".toList, some 8080⟩
    ["docs".toList, [], []]

theorem local_service_exchanges :
    simpleDomains.IsSound ∧
      Url.parse simpleDomains "http://localhost:8080/docs//" = .ok localUrl ∧
      ∃ client, Client.of simpleDomains (some localUrl) "key" {} = .ok client ∧
        client.base = "http://localhost:8080/docs" ∧
        ExchangeLaw simpleDomains localUrl "key" {} client := by
  have hparse : Url.parse simpleDomains "http://localhost:8080/docs//" =
      .ok localUrl := by
    decide +kernel
  obtain ⟨client, hclient, hlaw⟩ :=
    exchangeLaw isSound_simpleDomains ⟨⟨_, hparse⟩, rfl, rfl⟩ "key" {}
  refine ⟨isSound_simpleDomains, hparse, client, hclient, ?_, hlaw⟩
  obtain rfl := Except.ok.inj hclient
  decide

end FamilyOrders.Docmosis
