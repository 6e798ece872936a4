import FamilyOrders.Creation.Collaborators
import FamilyOrders.Error
import FamilyOrders.Particulars
import FamilyOrders.Text.Encoding
import FamilyOrders.Url.Parser

/-!
# The rendering service

Templates are rendered and uploaded orders sealed by one request each, posted
as JSON, and one reply.  A complete reply with a status of success gives its
content; everything else is a failure that names the address called.  Sealing
always gives a PDF.
-/

namespace FamilyOrders.Docmosis

open FamilyOrders.Text

/-! ## Exchanges -/

structure Request where
  method : String
  address : String
  userAgent : String
  contentType : String
  body : Json

/-- The request that posts a body. -/
def Request.posting (address : String) (body : Json) : Request :=
  { method := "POST"
    address
    userAgent := "order-docgen/0.1.0"
    contentType := "application/json"
    body }

inductive Reply
  /-- No connection was made. -/
  | unreachable
  /-- A reply, which may have broken off before its announced end. -/
  | received (status : Nat) (body : Bytes) (complete : Bool)

/-- Answers requests, and may keep a state between them. -/
abbrev Service (σ : Type) := Request → StateM σ Reply

def isSuccess (status : Nat) : Bool :=
  200 ≤ status && status < 300

/-- An address without its credentials. -/
def withoutCredentials (url : Url) : Url :=
  let anonymous (authority : Url.Authority) :=
    { authority with username := [], password := [] }
  { url with authority := url.authority.map anonymous }

/-- What a reply from the given address amounts to; `target` is the address
without credentials. -/
def Reply.outcome (address target : String) : Reply → Except Failure Bytes
  | .unreachable => .error (.unreachable address target)
  | .received status body complete =>
    if isSuccess status then
      if complete then .ok body else .error .truncatedReply
    else
      let detail := if complete then ofUtf8Lossy body else ""
      .error (.badStatus status address detail)

/-- Whether requests can be posted to the URL. -/
def isWebAddress (url : Url) : Bool :=
  url.authority.isSome &&
    (url.scheme = "http".toList || url.scheme = "https".toList)

/-- Posts a body to an address. -/
def post (domains : Url.DomainRules) (service : Service σ) (address : String)
    (body : Json) : ExceptT Failure (StateM σ) Bytes := do
  match Url.parse domains address with
  | .ok url =>
    let target := (withoutCredentials url).text
    if isWebAddress url then
      let reply ← service (.posting address body)
      reply.outcome address target
    else throw (.unsupportedScheme address target)
  | .error _ => throw (.unsupportedScheme address address)

/-! ## Clients -/

structure Client where
  /-- The address of the service, without slashes at its end. -/
  base : String
  accessKey : String
  images : ImageSet
  /-- How the host in an address is read. -/
  domains : Url.DomainRules := Url.simpleDomains

def dropTrailingSlashes (text : String) : String :=
  String.ofList (text.toList.reverse.dropWhile (· = '/')).reverse

/-- The client for a service at the configured address. -/
def Client.of (domains : Url.DomainRules) (url : Option Url)
    (accessKey : String) (images : ImageSet) : Except OrderError Client := do
  let url ← need .docmosisUrl url
  let base := dropTrailingSlashes url.text
  return { base, accessKey, images, domains }

def renderBody (client : Client) (layout : Layout) (particulars : Particulars)
    (format : FileFormat) (language : Language) : Json :=
  .object [
    ("accessKey", .string client.accessKey),
    ("templateName", .string (layout.templateName language)),
    ("outputName", .string ("order." ++ format.fileExtension)),
    ("data", particulars.toJson)]

/-- The file name with the part after its last dot replaced. -/
def sealedName (filename : String) : String :=
  let stem := match FileFormat.splitAtLastDot filename.toList with
    | some (stem, _) => String.ofList stem
    | none => filename
  stem ++ "." ++ FileFormat.pdf.fileExtension

def convertBody (client : Client) (bytes : Bytes) (filename : String)
    (language : Language) : Json :=
  .object [
    ("accessKey", .string client.accessKey),
    ("fileName", .string filename),
    ("outputName", .string (sealedName filename)),
    ("document", .string (base64 bytes)),
    ("stampImage", .string (client.images.sealFor language))]

namespace Client

def renderAddress (client : Client) : String :=
  client.base ++ "/rs/render"

def convertAddress (client : Client) : String :=
  client.base ++ "/rs/convert"

/-- An exchange whose failure is told as an error of the library. -/
def exchange (client : Client) (service : Service σ)
    (blame : Failure → OrderError) (address : String) (body : Json) :
    Action σ Bytes :=
  ExceptT.adapt blame (post client.domains service address body)

def render (client : Client) (service : Service σ) (layout : Layout)
    (particulars : Particulars) (format : FileFormat) (language : Language) :
    Action σ Rendered := do
  let bytes ←
    client.exchange service (fun failure => .render (.service failure))
      client.renderAddress
      (renderBody client layout particulars format language)
  return { bytes, format }

def sealDocument (client : Client) (service : Service σ) (bytes : Bytes)
    (filename : String) (language : Language) : Action σ Rendered := do
  let stamped ←
    client.exchange service (fun failure => .sealing (.service failure))
      client.convertAddress (convertBody client bytes filename language)
  return { bytes := stamped, format := .pdf }

end Client

end FamilyOrders.Docmosis
