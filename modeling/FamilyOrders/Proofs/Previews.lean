import FamilyOrders.Preview.Basic
import FamilyOrders.Proofs.Actions
import FamilyOrders.Proofs.Encodings
import Mathlib.Data.List.Basic

/-!
# What previews are made of

A preview is the markup of its template with the texts of its slots escaped.
The marks that delimit markup come from the template alone, so nothing that a
case says can add to them, and every text can be read back from its slot.
-/

namespace FamilyOrders.Preview

open FamilyOrders.Text

/-! ## Escaped text -/

/-- Reads the references that stand for characters in slots. -/
def unescape : List Char → List Char
  | '&' :: 'a' :: 'm' :: 'p' :: ';' :: rest => '&' :: unescape rest
  | '&' :: 'l' :: 't' :: ';' :: rest => '<' :: unescape rest
  | '&' :: 'g' :: 't' :: ';' :: rest => '>' :: unescape rest
  | '&' :: 'q' :: 'u' :: 'o' :: 't' :: ';' :: rest => '"' :: unescape rest
  | '&' :: '#' :: 'x' :: '2' :: '7' :: ';' :: rest => '\x27' :: unescape rest
  | '&' :: '#' :: 'x' :: '2' :: 'F' :: ';' :: rest => '/' :: unescape rest
  | c :: rest => c :: unescape rest
  | [] => []

/-- A mark that delimits a tag or the value of an attribute. -/
def isMark (c : Char) : Bool :=
  c = '<' || c = '>' || c = '"'

theorem escapeChar_cases (c : Char) :
    c ∈ ['&', '<', '>', '"', '\x27', '/'] ∨
      c ≠ '&' ∧ isMark c = false ∧ escapeChar c = [c] := by
  by_cases hc : c ∈ ['&', '<', '>', '"', '\x27', '/']
  · exact .inl hc
  · simp only [List.mem_cons, List.not_mem_nil, or_false, not_or] at hc
    simp [escapeChar, isMark, hc]

theorem unescape_escapeChar_append (c : Char) (rest : List Char) :
    unescape (escapeChar c ++ rest) = c :: unescape rest := by
  rcases escapeChar_cases c with hescaped | ⟨hc, -, hself⟩
  · simp only [List.mem_cons, List.not_mem_nil, or_false] at hescaped
    rcases hescaped with rfl | rfl | rfl | rfl | rfl | rfl <;> simp [escapeChar,
      unescape]
  · simp [hself, unescape, hc]

@[simp] theorem unescape_escape (text : String) :
    unescape (escape text) = text.toList := by
  unfold escape
  induction text.toList with
  | nil => rfl
  | cons c rest ih => rw [List.flatMap_cons, unescape_escapeChar_append, ih]

theorem isMark_of_mem_escape
    {text : String} {d : Char} (hd : d ∈ escape text) :
    isMark d = false := by
  obtain ⟨c, -, hmem⟩ := List.mem_flatMap.mp hd
  have hchar : ∀ d ∈ escapeChar c, isMark d = false := by
    rcases escapeChar_cases c with hescaped | ⟨-, hmark, hself⟩
    · simp only [List.mem_cons, List.not_mem_nil, or_false] at hescaped
      rcases hescaped with rfl | rfl | rfl | rfl | rfl | rfl <;>
        simp [escapeChar, isMark]
    · simp [hself, hmark]
  exact hchar d hmem

example : escape "\"><b>" = "&quot;&gt;&lt;b&gt;".toList := by
  decide

/-! ## Filled templates -/

/-- The markup of the pieces that stand, in their order, with the texts of their
slots. -/
inductive Fills : Scope → List Piece → List Segment → Prop
  | nil {scope : Scope} : Fills scope [] []
  | literal {scope : Scope} {markup : String} {pieces : List Piece}
      {rest : List Segment}
      (hrest : Fills scope pieces rest) :
      Fills scope (.literal markup :: pieces) (.literal markup :: rest)
  | slot {scope : Scope} {field : Scope → Option String} {text : String}
      {pieces : List Piece} {rest : List Segment}
      (hfield : field scope = some text) (hrest : Fills scope pieces rest) :
      Fills scope (.slot field :: pieces) (.slot text :: rest)
  | shown {scope : Scope} {test : Scope → Bool} {body pieces : List Piece}
      {part rest : List Segment}
      (htest : test scope = true) (hbody : Fills scope body part)
      (hrest : Fills scope pieces rest) :
      Fills scope (.condition test body :: pieces) (part ++ rest)
  | hidden {scope : Scope} {test : Scope → Bool} {body pieces : List Piece}
      {rest : List Segment}
      (htest : test scope = false) (hrest : Fills scope pieces rest) :
      Fills scope (.condition test body :: pieces) rest
  | eachChild {scope : Scope} {body pieces : List Piece} {rest : List Segment}
      {row : ChildParticulars → List Segment}
      (hrows : ∀ child ∈ scope.particulars.children,
        Fills { scope with child := some child } body (row child))
      (hrest : Fills scope pieces rest) :
      Fills scope (.eachChild body :: pieces)
        (scope.particulars.children.flatMap row ++ rest)

theorem mapM_eq_some_map
    {f : α → Option β} {g : α → β} {as : List α}
    (hall : ∀ a ∈ as, f a = some (g a)) : as.mapM f = some (as.map g) :=
  mapM_eq_some_iff.mpr
    (List.forall₂_map_right_iff.mpr (List.forall₂_same.mpr hall))

theorem isSome_mapM {f : α → Option β} {as : List α} :
    (as.mapM f).isSome = as.all fun a => (f a).isSome := by
  induction as with
  | nil => rfl
  | cons a as ih =>
      rw [List.mapM_cons, List.all_cons, ← ih]
      cases f a <;> cases as.mapM f <;> rfl

theorem mapM_eq_some
    {f : α → Option β} {as : List α} {bs : List β} (fallback : β)
    (hmap : as.mapM f = some bs) :
    bs = as.map (fun a => (f a).getD fallback) ∧
    ∀ a ∈ as, f a = some ((f a).getD fallback) := by
  have hsome : (as.mapM f).isSome = true := by simp [hmap]
  rw [isSome_mapM, List.all_eq_true] at hsome
  have hall : ∀ a ∈ as, f a = some ((f a).getD fallback) := by
    intro a ha
    obtain ⟨b, hb⟩ := Option.isSome_iff_exists.mp (hsome a ha)
    simp [hb]
  have hgiven := mapM_eq_some_map hall
  rw [hmap] at hgiven
  exact ⟨Option.some.inj hgiven, hall⟩

mutual

theorem Piece.fills_of_segments
    {scope : Scope} {part rest : List Segment} {pieces : List Piece} :
    (piece : Piece) → piece.segments scope = some part →
    Fills scope pieces rest →
      Fills scope (piece :: pieces) (part ++ rest)
  | .literal markup, hpart, hrest => by
      obtain rfl := Option.some.inj hpart
      exact .literal hrest
  | .slot field, hpart, hrest => by
      obtain ⟨text, hfield, rfl⟩ := Option.map_eq_some_iff.mp hpart
      exact .slot hfield hrest
  | .condition test body, hpart, hrest => by
      unfold Piece.segments at hpart
      cases htest : test scope with
      | true =>
          rw [if_pos htest] at hpart
          exact .shown htest (fills_of_pieceSegments body hpart) hrest
      | false =>
          rw [if_neg (by simp [htest])] at hpart
          obtain rfl := Option.some.inj hpart
          exact .hidden htest hrest
  | .eachChild body, hpart, hrest => by
      obtain ⟨rows, hrows, rfl⟩ := Option.map_eq_some_iff.mp hpart
      obtain ⟨rfl, hall⟩ := mapM_eq_some [] hrows
      rw [← List.flatMap_def]
      exact .eachChild (fun child hchild =>
        fills_of_pieceSegments body (hall child hchild)) hrest

theorem fills_of_pieceSegments
    {scope : Scope} {segments : List Segment} :
    (pieces : List Piece) → pieceSegments scope pieces = some segments →
      Fills scope pieces segments
  | [], hsegments => by
      obtain rfl := Option.some.inj hsegments
      exact .nil
  | piece :: pieces, hsegments => by
      unfold pieceSegments at hsegments
      obtain ⟨part, hpart, hmore⟩ := Option.bind_eq_some_iff.mp hsegments
      obtain ⟨rest, hrest, hjoined⟩ := Option.bind_eq_some_iff.mp hmore
      obtain rfl := Option.some.inj hjoined
      exact piece.fills_of_segments hpart (fills_of_pieceSegments pieces hrest)

end

theorem Fills.pieceSegments_eq
    {scope : Scope} {pieces : List Piece} {segments : List Segment}
    (hfills : Fills scope pieces segments) :
    pieceSegments scope pieces = some segments := by
  induction hfills with
  | nil => rfl
  | literal _ ih => simp [pieceSegments, Piece.segments, ih]
  | slot hfield _ ih => simp [pieceSegments, Piece.segments, hfield, ih]
  | shown htest _ _ ihbody ihrest =>
      simp [pieceSegments, Piece.segments, htest, ihbody, ihrest]
  | hidden htest _ ih => simp [pieceSegments, Piece.segments, htest, ih]
  | eachChild _ _ ihrows ihrest =>
      simp [pieceSegments, Piece.segments, mapM_eq_some_map ihrows, ihrest,
        List.flatMap_def]

theorem fills_iff
    {scope : Scope} {pieces : List Piece} {segments : List Segment} :
    Fills scope pieces segments ↔ pieceSegments scope pieces = some segments :=
  ⟨Fills.pieceSegments_eq, fills_of_pieceSegments pieces⟩

/-! ## Fields that are there -/

section

variable {scope : Scope}

@[simp] theorem isSome_literal (markup : String) :
    ((Piece.literal markup).segments scope).isSome = true :=
  rfl

@[simp] theorem isSome_slot (field : Scope → Option String) :
    ((Piece.slot field).segments scope).isSome = (field scope).isSome := by
  simp [Piece.segments]

@[simp] theorem isSome_condition (test : Scope → Bool) (body : List Piece) :
    ((Piece.condition test body).segments scope).isSome =
      (!test scope || (pieceSegments scope body).isSome) := by
  cases htest : test scope <;>
    simp [Piece.segments, htest]

@[simp] theorem isSome_eachChild (body : List Piece) :
    ((Piece.eachChild body).segments scope).isSome =
      scope.particulars.children.all fun child =>
        (pieceSegments { scope with child := some child } body).isSome := by
  simp [Piece.segments, isSome_mapM]

@[simp] theorem isSome_nil : (pieceSegments scope []).isSome = true :=
  rfl

@[simp] theorem isSome_cons (piece : Piece) (pieces : List Piece) :
    (pieceSegments scope (piece :: pieces)).isSome =
      ((piece.segments scope).isSome &&
        (pieceSegments scope pieces).isSome) := by
  rw [pieceSegments]
  cases piece.segments scope <;> cases pieceSegments scope pieces <;> rfl

/-- Only a page on emergency protection asks for fields that may be missing. -/
theorem isSome_template (scope : Scope) (layout : Layout) :
    (pieceSegments scope (template layout)).isSome = true ↔
      (layout = .emergencyProtection →
        scope.particulars.emergency.isSome = true) := by
  cases layout with
  | standard =>
      cases hjudge : scope.particulars.judge <;>
        simp [template, opening, standardBody, closing, field, judgeField,
          childField, whenFilled, hjudge]
  | emergencyProtection =>
      cases hjudge : scope.particulars.judge <;> cases hfields :
        scope.particulars.emergency <;>
        simp [template, opening, emergencyBody, closing, field, judgeField,
          childField, whenFilled, whenEmergencyFilled, emergencyField, hjudge,
            hfields]

end

/-! ## Marks -/

/-- The marks in a page, which are ASCII characters. -/
def marks (bytes : Bytes) : List Char :=
  (bytes.map asciiChar).filter isMark

theorem isMark_of_toNat
    {c : Char} (hc : 0x80 ≤ c.toNat) :
    isMark c = false := by
  rw [Bool.eq_false_iff]
  intro hmark
  simp only [isMark, Bool.or_eq_true, decide_eq_true_eq] at hmark
  rcases hmark with (rfl | rfl) | rfl <;> exact absurd hc (by decide)

theorem marks_utf8EncodeChar (c : Char) :
    marks (String.utf8EncodeChar c) = [c].filter isMark := by
  by_cases hc : c.toNat < 0x80
  · simp [marks, utf8EncodeChar_of_lt hc, asciiChar_ofNat_toNat hc]
  -- No byte of a longer encoding is an ASCII character.
  · have hmarks : ∀ b ∈ String.utf8EncodeChar c,
      isMark (asciiChar b) = false := by
      intro b hb
      have hlarge := le_of_mem_utf8EncodeChar (Nat.not_lt.mp hc) hb
      apply isMark_of_toNat
      rwa [toNat_asciiChar]
    simpa [marks, isMark_of_toNat (Nat.not_lt.mp hc)] using hmarks

theorem marks_utf8 (s : String) : marks (utf8 s) = s.toList.filter isMark := by
  unfold utf8
  induction s.toList with
  | nil => rfl
  | cons c cs ih =>
      have hfirst := marks_utf8EncodeChar c
      unfold marks at hfirst ih ⊢
      rw [List.flatMap_cons, List.map_append, List.filter_append, hfirst, ih,
        ← List.filter_append]
      rfl

mutual

/-- The marks of the markup that stands. -/
def Piece.marks (scope : Scope) : Piece → List Char
  | .literal markup => markup.toList.filter isMark
  | .slot _ => []
  | .condition test body => if test scope then pieceMarks scope body else []
  | .eachChild body =>
    scope.particulars.children.flatMap fun child =>
      pieceMarks { scope with child := some child } body

def pieceMarks (scope : Scope) : List Piece → List Char
  | [] => []
  | piece :: pieces => piece.marks scope ++ pieceMarks scope pieces

end

theorem Fills.filter_isMark
    {scope : Scope} {pieces : List Piece} {segments : List Segment}
    (hfills : Fills scope pieces segments) :
    (segments.flatMap Segment.chars).filter isMark =
      pieceMarks scope pieces := by
  induction hfills with
  | nil => rfl
  | literal hrest ih => simp [Segment.chars, pieceMarks, Piece.marks, ih]
  | @slot _ _ text _ _ _ _ ih =>
      have hslot : (escape text).filter isMark = [] := by
        simpa using fun c hc => isMark_of_mem_escape hc
      simp [Segment.chars, pieceMarks, Piece.marks, hslot, ih]
  | shown htest _ _ ihbody ihrest =>
      simp [pieceMarks, Piece.marks, htest, ihbody, ihrest]
  | hidden htest _ ih => simp [pieceMarks, Piece.marks, htest, ih]
  | eachChild hrows _ ihrows ihrest =>
      rw [List.flatMap_append, List.filter_append, ihrest, List.flatMap_assoc,
        List.filter_flatMap, List.flatMap_congr ihrows]
      rfl

mutual

/-- The conditions in a template. -/
def Piece.tests : Piece → List (Scope → Bool)
  | .literal _ | .slot _ => []
  | .condition test body => test :: pieceTests body
  | .eachChild body => pieceTests body

def pieceTests : List Piece → List (Scope → Bool)
  | [] => []
  | piece :: pieces => piece.tests ++ pieceTests pieces

end

theorem flatMap_eq_of_length
    {f : α → List γ} {g : β → List γ} {as : List α} {bs : List β}
    (hlength : as.length = bs.length) (hsame : ∀ a b, f a = g b) :
    as.flatMap f = bs.flatMap g := by
  induction as generalizing bs with
  | nil =>
      obtain rfl := List.length_eq_zero_iff.mp hlength.symm
      rfl
  | cons a as ih =>
      cases bs with
      | nil => contradiction
      | cons b bs =>
          rw [List.flatMap_cons, List.flatMap_cons, hsame a b,
            ih (Nat.succ.inj hlength)]

-- The scope changes from row to row, so the tests have to agree whatever child
-- there is.
mutual

theorem Piece.marks_eq
    {first second : Scope}
    (hlength :
      first.particulars.children.length = second.particulars.children.length) :
    (piece : Piece) →
      (∀ test ∈ piece.tests, ∀ c d,
        test { first with child := c } = test { second with child := d }) →
      ∀ c d,
        piece.marks { first with child := c } =
          piece.marks { second with child := d }
  | .literal _, _, _, _ => rfl
  | .slot _, _, _, _ => rfl
  | .condition test body, htests, c, d => by
      obtain ⟨htest, hbody⟩ := List.forall_mem_cons.mp htests
      simp only [Piece.marks, htest c d, pieceMarks_eq hlength body hbody c d]
  | .eachChild body, htests, _, _ =>
      flatMap_eq_of_length hlength fun c d =>
        pieceMarks_eq hlength body htests (some c) (some d)

theorem pieceMarks_eq
    {first second : Scope}
    (hlength :
      first.particulars.children.length = second.particulars.children.length) :
    (pieces : List Piece) →
      (∀ test ∈ pieceTests pieces, ∀ c d,
        test { first with child := c } = test { second with child := d }) →
      ∀ c d,
        pieceMarks { first with child := c } pieces =
          pieceMarks { second with child := d } pieces
  | [], _, _, _ => rfl
  | piece :: pieces, htests, c, d => by
      obtain ⟨hpiece, hpieces⟩ := List.forall_mem_append.mp htests
      rw [pieceMarks, pieceMarks, piece.marks_eq hlength hpiece c d,
        pieceMarks_eq hlength pieces hpieces c d]

end

/-! ## Previews of the same shape -/

/-- The conditions that the pages of a layout depend on. -/
def conditions : Layout → List (Scope → Bool)
  | .standard =>
    [fun scope => scope.language = .welsh,
      fun scope => scope.language = .english,
      fun scope => isFilled scope.particulars.draftWatermark,
      fun scope => scope.particulars.judge.isSome,
      fun scope => isFilled (scope.particulars.judge.bind (·.legalAdviser)),
      fun scope => isFilled scope.particulars.furtherDirections,
      fun scope => isFilled scope.particulars.courtSeal]
  | .emergencyProtection =>
    [fun scope => scope.language = .welsh,
      fun scope => scope.language = .english,
      fun scope => isFilled scope.particulars.draftWatermark,
      fun scope => scope.particulars.judge.isSome,
      fun scope =>
        isFilled (scope.particulars.emergency.bind (·.childrenDescription)),
      fun scope => scope.particulars.emergency.any (·.includePhrase),
      fun scope =>
        isFilled (scope.particulars.emergency.bind (·.exclusionRequirement)),
      fun scope => isFilled scope.particulars.furtherDirections,
      fun scope => isFilled scope.particulars.courtSeal]

theorem pieceTests_template (layout : Layout) :
    pieceTests (template layout) = conditions layout := by
  cases layout with
  | standard => rfl
  | emergencyProtection => rfl

theorem condition_child
    {layout : Layout} {test : Scope → Bool} (htest : test ∈ conditions layout)
    (scope : Scope) (child : Option ChildParticulars) :
    test { scope with child } = test scope := by
  revert test
  cases layout with
  | standard => simp [conditions]
  | emergencyProtection => simp [conditions]

/-- As many children in both, and the same conditions hold. -/
structure SameShape (layout : Layout) (language : Language)
    (first second : Particulars) : Prop where
  children :
    first.children.length = second.children.length
  conditions :
    ∀ test ∈ conditions layout,
      test { particulars := first, language } =
        test { particulars := second, language }

variable {layout : Layout} {language : Language} {particulars : Particulars}
  {rendered : Rendered}

theorem render_eq_ok_iff :
    render layout particulars language = .ok rendered ↔
      ∃ segments,
        Fills { particulars, language } (template layout) segments ∧
          rendered = { bytes := utf8 (page segments), format := .html } := by
  simp only [fills_iff, render, html]
  cases pieceSegments { particulars, language } (template layout) with
  | none => simp [bind, Except.bind]
  | some segments => simp [bind, Except.bind, pure, Except.pure, eq_comm]

theorem render_succeeds_iff :
    Succeeds (render layout particulars language) ↔
      (layout = .emergencyProtection →
        particulars.emergency.isSome = true) := by
  have htemplate := isSome_template { particulars, language } layout
  rw [← htemplate, Option.isSome_iff_exists]
  simp only [Succeeds, render_eq_ok_iff, fills_iff]
  constructor
  · rintro ⟨rendered, segments, hsegments, -⟩
    exact ⟨segments, hsegments⟩
  · rintro ⟨segments, hsegments⟩
    exact ⟨_, segments, hsegments, rfl⟩

theorem marks_of_render
    (hrender : render layout particulars language = .ok rendered) :
    marks rendered.bytes =
      pieceMarks { particulars, language } (template layout) := by
  obtain ⟨segments, hfills, rfl⟩ := render_eq_ok_iff.mp hrender
  rw [marks_utf8, page, String.toList_ofList, hfills.filter_isMark]

theorem SameShape.pieceMarks_eq
    {first second : Particulars}
    (hshape : SameShape layout language first second) :
    pieceMarks { particulars := first, language } (template layout) =
      pieceMarks { particulars := second, language } (template layout) := by
  have hlength :
      (Scope.particulars { particulars := first, language }).children.length =
      (Scope.particulars { particulars := second, language }).children.length :=
    hshape.children
  refine Preview.pieceMarks_eq hlength (template layout) ?_ none none
  intro test htest c d
  rw [pieceTests_template] at htest
  rw [condition_child htest, condition_child htest,
    hshape.conditions test htest]

/-- What the texts of a case can and cannot do to its preview. -/
structure Inert (layout : Layout) (language : Language) : Prop where
  renders :
    ∀ particulars,
      Succeeds (render layout particulars language) ↔
        (layout = .emergencyProtection → particulars.emergency.isSome = true)
  written :
    ∀ particulars rendered,
      render layout particulars language = .ok rendered ↔
        ∃ segments,
          Fills { particulars, language } (template layout) segments ∧
            rendered = { bytes := utf8 (page segments), format := .html }
  slots :
    ∀ text, unescape (Segment.slot text).chars = text.toList
  marks_eq :
    ∀ first second firstPage secondPage,
      SameShape layout language first second →
      render layout first language = .ok firstPage →
      render layout second language = .ok secondPage →
        marks firstPage.bytes = marks secondPage.bytes

theorem render_inert (layout : Layout) (language : Language) :
    Inert layout language := by
  constructor
  case renders => exact fun _ => render_succeeds_iff
  case written => exact fun _ _ => render_eq_ok_iff
  case slots => exact unescape_escape
  case marks_eq =>
    intro first second firstPage secondPage hshape hfirst hsecond
    rw [marks_of_render hfirst, marks_of_render hsecond, hshape.pieceMarks_eq]

end FamilyOrders.Preview
