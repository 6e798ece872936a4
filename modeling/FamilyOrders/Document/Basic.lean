import FamilyOrders.Text.Characters

/-!
# Documents

What is chosen about the form of a document: its language, its status and its
format, and the layouts and images it is set with.  All of them are read and
written by codes.
-/

namespace FamilyOrders

/-! ## Coded values

The enumerations of case data.  Each value has a code of its own, so a code
names at most one value and reading a code gives back the value it was written
for. -/

class Coded (α : Type) where
  values : List α
  code : α → String
  mem_values : ∀ a, a ∈ values
  code_injective : ∀ a b, code a = code b → a = b

/-- The value with the given code. -/
def Coded.ofCode? [Coded α] (text : String) : Option α :=
  (Coded.values : List α).find? fun a => Coded.code a == text

theorem Coded.ofCode?_code [Coded α] (a : α) : ofCode? (code a) = some a := by
  unfold ofCode?
  cases h : (Coded.values : List α).find? fun b => code b == code a with
  | none => exact absurd (List.find?_eq_none.1 h a (mem_values a)) (by simp)
  | some b => rw [code_injective b a (by simpa using List.find?_some h)]

/-! ## Languages

The two languages an order can be drawn up in. -/

open FamilyOrders.Text

inductive Language
  | english
  | welsh
  deriving DecidableEq

namespace Language

instance : Coded Language where
  values := [.english, .welsh]
  code
    | .english => "ENGLISH"
    | .welsh => "WELSH"
  mem_values language := by cases language <;> decide
  code_injective a b := by cases a <;> cases b <;> simp

def name : Language → String
  | .english => "english"
  | .welsh => "welsh"

/-- The language with the given name or two-letter tag, in whatever case it is
typed. -/
def ofName? (text : String) : Option Language :=
  match lowercaseText text with
  | "english" | "en" => some .english
  | "welsh" | "cy" => some .welsh
  | _ => none

/-- The tag of the language in a web page. -/
def tag : Language → String
  | .english => "en"
  | .welsh => "cy"

end Language

/-! ## Status of a document

Whether a document is a watermarked draft, carries the court's seal, or neither.
-/

inductive OrderStatus
  | sealed
  | draft
  | plain
  deriving DecidableEq

namespace OrderStatus

instance : Coded OrderStatus where
  values := [.sealed, .draft, .plain]
  code
    | .sealed => "SEALED"
    | .draft => "DRAFT"
    | .plain => "PLAIN"
  mem_values status := by cases status <;> decide
  code_injective a b := by cases a <;> cases b <;> simp

def name : OrderStatus → String
  | .sealed => "sealed"
  | .draft => "draft"
  | .plain => "plain"

/-- The status with the given name, in whatever case it is typed. -/
def ofName? (text : String) : Option OrderStatus :=
  match lowercaseText text with
  | "sealed" => some .sealed
  | "draft" => some .draft
  | "plain" => some .plain
  | _ => none

end OrderStatus

/-! ## File formats

The formats a document can have, how their files are named, and the format that
a file name announces.  HTML is for previews alone: no name typed by a user and
no uploaded file stands for it. -/

inductive FileFormat
  | pdf
  | word
  | html
  deriving DecidableEq

namespace FileFormat

instance : Coded FileFormat where
  values := [.pdf, .word, .html]
  code
    | .pdf => "PDF"
    | .word => "WORD"
    | .html => "HTML"
  mem_values format := by cases format <;> decide
  code_injective a b := by cases a <;> cases b <;> simp

def fileExtension : FileFormat → String
  | .pdf => "pdf"
  | .word => "docx"
  | .html => "html"

def mediaType : FileFormat → String
  | .pdf => "application/pdf"
  | .word =>
    "application/vnd.openxmlformats-officedocument.wordprocessingml.document"
  | .html => "text/html"

/-- The format with the given name, in whatever case it is typed. -/
def ofName? (text : String) : Option FileFormat :=
  match lowercaseText text with
  | "pdf" => some .pdf
  | "word" | "docx" | "doc" => some .word
  | _ => none

/-- The part before the last dot and the part after it. -/
def splitAtLastDot (cs : List Char) : Option (List Char × List Char) :=
  let after := (cs.reverse.takeWhile (· ≠ '.')).reverse
  if after.length = cs.length then none
  else some (cs.take (cs.length - after.length - 1), after)

/-- The format of an uploaded file, told by the end of its name. -/
def ofFileName? (name : String) : Option FileFormat :=
  match splitAtLastDot name.toList with
  | some (_, ending) =>
    match lowercaseText (String.ofList ending) with
    | "pdf" => some .pdf
    | "doc" | "docx" => some .word
    | _ => none
  | none => none

end FileFormat

/-! ## Layouts and images

The page layouts that orders are set in, with the names of their templates, and
the images that are stamped onto a page. -/

inductive Layout
  | standard
  | emergencyProtection
  deriving DecidableEq

namespace Layout

instance : Coded Layout where
  values := [.standard, .emergencyProtection]
  code
    | .standard => "OrderV2"
    | .emergencyProtection => "EpoV2"
  mem_values layout := by cases layout <;> decide
  code_injective a b := by cases a <;> cases b <;> simp

/-- The name under which the rendering service knows the template. -/
def templateName : Layout → Language → String
  | .standard, .english => "FL-PLW-GOR-ENG-00728.doc"
  | .standard, .welsh => "FL-PLW-GOR-WEL-00728.doc"
  | .emergencyProtection, .english => "FL-PLW-GOR-ENG-00744.doc"
  | .emergencyProtection, .welsh => "FL-PLW-GOR-WEL-00744.doc"

/-- The name of the preview template. -/
def previewName : Layout → String
  | .standard => "order-v2.html"
  | .emergencyProtection => "epo-v2.html"

end Layout

inductive StampImage
  | draftWatermark
  | courtSeal
  | crest
  deriving DecidableEq

/-- The reference by which the rendering service finds the image. -/
def StampImage.reference : StampImage → Language → String
  | .draftWatermark, _ => "[userImage:draft-watermark.png]"
  | .courtSeal, .english => "[userImage:familycourtseal.png]"
  | .courtSeal, .welsh => "[userImage:familycourtseal-bilingual.png]"
  | .crest, _ => "[userImage:crest.png]"

/-- The images in use at a court. -/
structure ImageSet where
  draftWatermark : String := StampImage.draftWatermark.reference .english
  courtSeal : String := StampImage.courtSeal.reference .english
  courtSealWelsh : String := StampImage.courtSeal.reference .welsh
  crest : String := StampImage.crest.reference .english
  deriving DecidableEq

def ImageSet.sealFor (images : ImageSet) : Language → String
  | .english => images.courtSeal
  | .welsh => images.courtSealWelsh

end FamilyOrders
