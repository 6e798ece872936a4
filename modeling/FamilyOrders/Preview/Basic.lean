import FamilyOrders.Creation.Collaborators
import FamilyOrders.Document.Basic
import FamilyOrders.Particulars

/-!
# Previews

Documents as web pages, without the rendering service.
-/

namespace FamilyOrders.Preview

/-! ## Preview templates

A template is markup with slots for particulars, parts that stand only under a
condition, and a part repeated for every child.  Filled in, it is a row of
literal markup and slot texts; slot texts are escaped when the page is written,
so they never act as markup. -/

/-- What a slot can refer to. -/
structure Scope where
  particulars : Particulars
  language : Language
  /-- The child of the row, within a part repeated for every child. -/
  child : Option ChildParticulars := none

inductive Piece
  | literal (markup : String)
  /-- The text in the scope; none is there to be asked for if there is no such
  field. -/
  | slot (field : Scope → Option String)
  | condition (test : Scope → Bool) (body : List Piece)
  | eachChild (body : List Piece)

/-- A part of a filled page. -/
inductive Segment
  | literal (markup : String)
  | slot (text : String)
  deriving DecidableEq

mutual

def Piece.segments (scope : Scope) : Piece → Option (List Segment)
  | .literal markup => some [.literal markup]
  | .slot field => (field scope).map fun text => [.slot text]
  | .condition test body =>
    if test scope then pieceSegments scope body else some []
  | .eachChild body =>
    (scope.particulars.children.mapM fun child =>
      pieceSegments { scope with child := some child } body).map List.flatten

/-- The parts of the filled page, unless it asks for a field that is not there.
-/
def pieceSegments (scope : Scope) : List Piece → Option (List Segment)
  | [] => some []
  | piece :: pieces => do
    let first ← piece.segments scope
    let rest ← pieceSegments scope pieces
    return first ++ rest

end

/-- A character as it is written in a slot. -/
def escapeChar (c : Char) : List Char :=
  if c = '&' then "&amp;".toList
  else if c = '<' then "&lt;".toList
  else if c = '>' then "&gt;".toList
  else if c = '"' then "&quot;".toList
  else if c = '\x27' then "&#x27;".toList
  else if c = '/' then "&#x2F;".toList
  else [c]

def escape (text : String) : List Char :=
  text.toList.flatMap escapeChar

def Segment.chars : Segment → List Char
  | .literal markup => markup.toList
  | .slot text => escape text

/-- A filled page as text. -/
def page (segments : List Segment) : String :=
  String.ofList (segments.flatMap Segment.chars)

/-! ## Preview pages

The two pages that an order is previewed on, one for each layout. -/

/-- Whether a field holds text. -/
def isFilled (field : Option String) : Bool :=
  (field.getD "") ≠ ""

/-- A slot for a field of the particulars; one that is not given is left empty.
-/
def field (select : Particulars → Option String) : Piece :=
  .slot fun scope => some ((select scope.particulars).getD "")

/-- A slot for a field of the judge. -/
def judgeField (select : JudgeParticulars → Option String) : Piece :=
  .slot fun scope => scope.particulars.judge.map fun judge =>
    (select judge).getD ""

/-- A slot for a field of the row's child. -/
def childField (select : ChildParticulars → Option String) : Piece :=
  .slot fun scope => scope.child.map fun child => (select child).getD ""

/-- A slot for a field that only emergency protection orders have. -/
def emergencyField (select : EmergencyParticulars → Option String) : Piece :=
  .slot fun scope => scope.particulars.emergency.map fun emergency =>
    (select emergency).getD ""

/-- A part that stands where the field holds text. -/
def whenFilled (select : Particulars → Option String) (body : List Piece) :
    Piece :=
  .condition (fun scope => isFilled (select scope.particulars)) body

def whenEmergencyFilled (select : EmergencyParticulars → Option String)
    (body : List Piece) : Piece :=
  whenFilled (fun particulars => particulars.emergency.bind select) body

/-- The page down to the legal basis. -/
def opening : List Piece :=
  [.literal "<!DOCTYPE html>\n<html lang=\"",
    .condition (fun scope => scope.language = .welsh) [.literal "cy"],
    .condition (fun scope => scope.language = .english) [.literal "en"],
    .literal "\">\n<head>\n  <meta charset=\"utf-8\">\n  <title>",
    field (some ·.title),
    .literal "</title>\n</head>\n<body",
    whenFilled (·.draftWatermark)
      [.literal " class=\"draft\" data-watermark=\"", field (·.draftWatermark),
        .literal "\""],
    .literal ">\n  <header>\n    <p class=\"crest\">",
    field (·.crest),
    .literal "</p>\n    <p>",
    field (·.courtName),
    .literal "</p>\n    <p>Case number: ",
    field (·.familyManNumber),
    .literal "</p>\n    <p>CCD number: ",
    field (·.caseNumber),
    .literal "</p>\n  </header>\n\n  <h1>",
    field (some ·.title),
    .literal "</h1>\n  <p class=\"legal-basis\">",
    field (some ·.legalBasis),
    .literal "</p>\n\n  "]

/-- The page from the date of issue on. -/
def closing : List Piece :=
  [.literal "\n  </section>\n\n  <footer>\n    <p>Date of issue: ",
    field (·.dateOfIssue),
    .literal "</p>\n    ",
    whenFilled (·.courtSeal) [.literal "<p class=\"seal\">",
      field (·.courtSeal), .literal "</p>"],
    .literal "\n  </footer>\n</body>\n</html>\n"]

def standardBody : List Piece :=
  [.condition (·.particulars.judge.isSome)
      [.literal "\n  <p>",
        judgeField (some ·.titleAndName),
        .literal "</p>\n  ",
        .condition (fun scope =>
          isFilled (scope.particulars.judge.bind (·.legalAdviser)))
          [.literal "<p>Legal adviser: ", judgeField (·.legalAdviser),
            .literal "</p>"],
        .literal "\n  "],
    .literal "\n\n  <table class=\"children\">\n    ",
    .eachChild
      [.literal "\n    <tr>\n      <td>",
        childField (some ·.name),
        .literal "</td>\n      <td>",
        childField (·.gender),
        .literal "</td>\n      <td>",
        childField (·.dateOfBirth),
        .literal "</td>\n    </tr>\n    "],
    .literal "\n  </table>\n\n  <section class=\"order\">\n    <p>",
    field (·.details),
    .literal "</p>\n    ",
    whenFilled (·.furtherDirections) [.literal "<p>",
      field (·.furtherDirections), .literal "</p>"]]

def emergencyBody : List Piece :=
  [.condition (·.particulars.judge.isSome)
      [.literal "<p>", judgeField (some ·.titleAndName), .literal "</p>"],
    .literal "\n\n  <table class=\"children\">\n    ",
    .eachChild
      [.literal "\n    <tr><td>",
        childField (some ·.name),
        .literal "</td><td>",
        childField (·.dateOfBirth),
        .literal "</td></tr>\n    "],
    .literal "\n  </table>\n  ",
    whenEmergencyFilled (·.childrenDescription)
      [.literal "<p class=\"description\">",
        emergencyField (·.childrenDescription), .literal "</p>"],
    .literal "\n\n  <section class=\"order\" data-epo-type=\"",
    emergencyField (some ·.kind),
    .literal "\">\n    <p>",
    field (·.details),
    .literal "</p>\n    ",
    .condition (fun scope => scope.particulars.emergency.any (·.includePhrase))
      [.literal
        "<p>Any person who can produce the child to the applicant must do so.</p>"],
    .literal "\n    ",
    whenEmergencyFilled (·.exclusionRequirement)
      [.literal "<p>", emergencyField (·.exclusionRequirement),
        .literal "</p>"],
    .literal "\n    ",
    whenFilled (·.furtherDirections) [.literal "<p>",
      field (·.furtherDirections), .literal "</p>"],
    .literal "\n    <p>This order ends on ",
    emergencyField (some ·.endsAt),
    .literal ".</p>"]

def template : Layout → List Piece
  | .standard => opening ++ standardBody ++ closing
  | .emergencyProtection => opening ++ emergencyBody ++ closing

/-! ## Previews

A preview is a web page that shows the wording and the marks of a document
without the rendering service.  It is HTML whatever format is asked for. -/

open FamilyOrders.Text

def html (layout : Layout) (particulars : Particulars) (language : Language) :
    Except OrderError String :=
  match pieceSegments { particulars, language } (template layout) with
  | some segments => .ok (page segments)
  | none => .error (.preview layout.previewName)

def render (layout : Layout) (particulars : Particulars) (language : Language) :
    Except OrderError Rendered := do
  let text ← html layout particulars language
  return { bytes := utf8 text, format := .html }

end FamilyOrders.Preview
