import FamilyOrders.CommandLine.Run
import FamilyOrders.Proofs.Creation.RenderedOrders
import FamilyOrders.Proofs.Previews
import Mathlib.Data.List.Infix

/-!
# Watermark and seal in previews

Every order that is drafted and stamped can be previewed, and its preview shows
the draft watermark and the seal exactly when the document has them.  A mark is
recognised by a character that no slot contains, so it has to come from the
template, and the template has it in one place only.
-/

namespace FamilyOrders

open FamilyOrders.Text

namespace Preview

/-! ### Where a sign can stand -/

/-- The text could be part of one that has `before` and `after` around the sign.
-/
def Admits (before : List Char) (sign : Char) (after cs : List Char) : Prop :=
  ∃ n, n < cs.length ∧ cs[n]? = some sign ∧
    (before <:+ cs.take n ∨ cs.take n <:+ before) ∧
    (after <+: cs.drop (n + 1) ∨ cs.drop (n + 1) <+: after)

instance (before : List Char) (sign : Char) (after cs : List Char) :
    Decidable (Admits before sign after cs) :=
  inferInstanceAs (Decidable (∃ n, n < cs.length ∧ _))

theorem exists_part_of_flatten_eq
    {parts : List (List α)} {front back : List α} {a : α}
    (hparts : parts.flatten = front ++ a :: back) :
    ∃ part ∈ parts, ∃ left right,
      part = left ++ a :: right ∧ left <:+ front ∧ right <+: back := by
  induction parts generalizing front with
  | nil => simp at hparts
  | cons part later ih =>
      rw [List.flatten_cons, List.append_eq_append_iff] at hparts
      obtain ⟨rest, rfl, hlater⟩ | ⟨rest, rfl, hback⟩ := hparts
      · obtain ⟨found, hfound, left, right, hsplit, hleft, hright⟩ := ih hlater
        exact ⟨found, List.mem_cons_of_mem _ hfound, left, right, hsplit,
          hleft.trans (List.suffix_append _ _), hright⟩
      · cases rest with
        | nil =>
            have hlater : later.flatten = [] ++ a :: back := hback.symm
            obtain ⟨found, hfound, left, right, hsplit, hleft, hright⟩ :=
              ih hlater
            exact ⟨found, List.mem_cons_of_mem _ hfound, left, right, hsplit,
              hleft.trans List.nil_suffix, hright⟩
        | cons first rest =>
            obtain ⟨rfl, rfl⟩ := List.cons.inj hback
            exact ⟨_, List.mem_cons_self, front, rest, rfl, List.suffix_rfl,
              List.prefix_append _ _⟩

theorem exists_admits_of_isInfix
    {parts : List (List Char)} {before after : List Char} {sign : Char}
    (hwithin : before ++ sign :: after <:+: parts.flatten) :
    ∃ part ∈ parts, Admits before sign after part := by
  obtain ⟨front, back, hparts⟩ := hwithin
  have hsplit :
      parts.flatten = (front ++ before) ++ sign :: (after ++ back) := by
    simp [← hparts]
  obtain ⟨part, hpart, left, right, rfl, hleft, hright⟩ :=
    exists_part_of_flatten_eq hsplit
  refine ⟨_, hpart, left.length, by simp, by simp, ?_, ?_⟩
  · simpa using List.suffix_or_suffix_of_suffix
      (List.suffix_append front before) hleft
  · simpa using List.prefix_or_prefix_of_prefix
      (List.prefix_append after back) hright

/-! ### Pages as their readers see them -/

/-- The characters that the bytes of a text are taken for where only ASCII is
looked for. -/
def seen (cs : List Char) : List Char :=
  (cs.flatMap String.utf8EncodeChar).map asciiChar

theorem seen_eq_self
    {cs : List Char} (hascii : cs.all (·.toNat < 0x80) = true) :
    seen cs = cs := by
  induction cs with
  | nil => rfl
  | cons c rest ih =>
      rw [List.all_cons, Bool.and_eq_true, decide_eq_true_eq] at hascii
      obtain ⟨hc, hrest⟩ := hascii
      have hfirst : seen [c] = [c] := by
        simp [seen, utf8EncodeChar_of_lt hc, asciiChar_ofNat_toNat hc]
      calc
        seen (c :: rest) = seen [c] ++ seen rest := by simp [seen]
        _ = c :: rest := by rw [hfirst, ih hrest, List.singleton_append]

theorem map_asciiChar_page (segments : List Segment) :
    (utf8 (page segments)).map asciiChar =
      (segments.map fun segment => seen segment.chars).flatten := by
  rw [← List.flatMap_def]
  simp [utf8, page, seen, List.flatMap_assoc, List.map_flatMap]

theorem isMark_of_mem_seen_escape
    {text : String} {c : Char} (hc : c ∈ seen (escape text)) :
    isMark c = false := by
  have hmarks := marks_utf8 (String.ofList (escape text))
  have hnone : (escape text).filter isMark = [] := by
    simpa using fun c hc => isMark_of_mem_escape hc
  rw [String.toList_ofList, hnone, marks, List.filter_eq_nil_iff] at hmarks
  simp only [utf8, String.toList_ofList] at hmarks
  simpa using hmarks c hc

/-- A piece of markup, divided at a sign that no slot contains. -/
structure Mark where
  text : String
  before : List Char
  sign : Char
  after : List Char
  toList_text : text.toList = before ++ sign :: after
  isMark_sign : isMark sign = true
  ascii : text.toList.all (·.toNat < 0x80) = true

/-- Neither is the mark in this markup, nor does it begin or end there. -/
def Mark.IsApartFrom (mark : Mark) (markup : String) : Prop :=
  markup.toList.all (·.toNat < 0x80) = true ∧
    ¬ Admits mark.before mark.sign mark.after markup.toList

instance (mark : Mark) (markup : String) : Decidable
    (mark.IsApartFrom markup) :=
  inferInstanceAs (Decidable (_ ∧ _))

theorem Mark.not_isInfix_page
    {mark : Mark} {segments : List Segment}
    (happart : ∀ markup, .literal markup ∈ segments → mark.IsApartFrom markup) :
    ¬ utf8 mark.text <:+: utf8 (page segments) := by
  intro hwithin
  have hseen : mark.before ++ mark.sign :: mark.after <:+:
      (segments.map fun segment => seen segment.chars).flatten := by
    have hself : (utf8 mark.text).map asciiChar = mark.text.toList :=
      seen_eq_self mark.ascii
    rw [← map_asciiChar_page, ← mark.toList_text, ← hself]
    exact hwithin.map asciiChar
  obtain ⟨part, hpart, hadmits⟩ := exists_admits_of_isInfix hseen
  obtain ⟨segment, hsegment, rfl⟩ := List.mem_map.mp hpart
  cases segment with
  | literal markup =>
      obtain ⟨hascii, hnone⟩ := happart markup hsegment
      rw [Segment.chars, seen_eq_self hascii] at hadmits
      exact hnone hadmits
  | slot text =>
      obtain ⟨n, -, hsign, -⟩ := hadmits
      have hplain := isMark_of_mem_seen_escape (List.mem_of_getElem? hsign)
      rw [mark.isMark_sign] at hplain
      contradiction

theorem Mark.isInfix_page
    {mark : Mark} {segments : List Segment} {markup : String}
    (hmarkup : .literal markup ∈ segments)
    (hmark : mark.text.toList <:+: markup.toList) :
    utf8 mark.text <:+: utf8 (page segments) := by
  have hpage : markup.toList <:+: (page segments).toList := by
    rw [page, String.toList_ofList, List.flatMap_def]
    exact List.infix_of_mem_flatten (List.mem_map_of_mem hmarkup)
  exact (hmark.trans hpage).flatMap _

/-! ### Markup of templates -/

mutual

/-- All markup of a piece, whatever it depends on. -/
def Piece.markup : Piece → List String
  | .literal markup => [markup]
  | .slot _ => []
  | .condition _ body => pieceMarkup body
  | .eachChild body => pieceMarkup body

def pieceMarkup : List Piece → List String
  | [] => []
  | piece :: pieces => piece.markup ++ pieceMarkup pieces

end

@[simp] theorem pieceMarkup_append (first second : List Piece) :
    pieceMarkup (first ++ second) =
      pieceMarkup first ++ pieceMarkup second := by
  induction first with
  | nil => rfl
  | cons piece first ih =>
      rw [List.cons_append, pieceMarkup, ih, pieceMarkup, List.append_assoc]

/-- The mark is apart from all markup of these pieces. -/
def Mark.IsApartFromAll (mark : Mark) (pieces : List Piece) : Prop :=
  ∀ markup ∈ pieceMarkup pieces, mark.IsApartFrom markup

instance (mark : Mark) (pieces : List Piece) : Decidable
    (mark.IsApartFromAll pieces) :=
  inferInstanceAs (Decidable (∀ _ ∈ _, _))

theorem Mark.IsApartFromAll.append
    {mark : Mark} {first second : List Piece}
    (hfirst : mark.IsApartFromAll first)
    (hsecond : mark.IsApartFromAll second) :
    mark.IsApartFromAll (first ++ second) := by
  rw [IsApartFromAll, pieceMarkup_append]
  exact List.forall_mem_append.mpr ⟨hfirst, hsecond⟩

theorem Fills.mem_pieceMarkup
    {scope : Scope} {pieces : List Piece} {segments : List Segment}
    {markup : String} (hfills : Fills scope pieces segments)
    (hmarkup : .literal markup ∈ segments) : markup ∈ pieceMarkup pieces := by
  induction hfills with
  | nil => contradiction
  | literal _ ih =>
      rw [pieceMarkup, Piece.markup, List.singleton_append]
      rcases List.mem_cons.mp hmarkup with heq | hmem
      · rw [Segment.literal.inj heq]
        exact List.mem_cons_self
      · exact List.mem_cons_of_mem _ (ih hmem)
  | slot _ _ ih =>
      rw [pieceMarkup, Piece.markup, List.nil_append]
      rcases List.mem_cons.mp hmarkup with heq | hmem
      · contradiction
      · exact ih hmem
  | shown _ _ _ ihbody ihrest =>
      rw [pieceMarkup, Piece.markup]
      rcases List.mem_append.mp hmarkup with hpart | hmem
      · exact List.mem_append_left _ (ihbody hpart)
      · exact List.mem_append_right _ (ihrest hmem)
  | hidden _ _ ih =>
      rw [pieceMarkup]
      exact List.mem_append_right _ (ih hmarkup)
  | eachChild _ _ ihrows ihrest =>
      rw [pieceMarkup, Piece.markup]
      rcases List.mem_append.mp hmarkup with hrows | hmem
      · obtain ⟨child, hchild, hrow⟩ := List.mem_flatMap.mp hrows
        exact List.mem_append_left _ (ihrows child hchild hrow)
      · exact List.mem_append_right _ (ihrest hmem)

/-- A condition puts in or leaves out its own body only, so markup that stands
by itself is always on the page. -/
theorem Fills.literal_mem
    {scope : Scope} {pieces : List Piece} {segments : List Segment}
    {markup : String} (hfills : Fills scope pieces segments)
    (hmarkup : .literal markup ∈ pieces) : .literal markup ∈ segments := by
  induction hfills with
  | nil => contradiction
  | literal _ ih =>
      rcases List.mem_cons.mp hmarkup with heq | hmem
      · rw [Piece.literal.inj heq]
        exact List.mem_cons_self
      · exact List.mem_cons_of_mem _ (ih hmem)
  | slot _ _ ih =>
      have hmem := List.mem_of_ne_of_mem (by simp) hmarkup
      exact List.mem_cons_of_mem _ (ih hmem)
  | shown _ _ _ _ ihrest =>
      have hmem := List.mem_of_ne_of_mem (by simp) hmarkup
      exact List.mem_append_right _ (ihrest hmem)
  | hidden _ _ ih => exact ih (List.mem_of_ne_of_mem (by simp) hmarkup)
  | eachChild _ _ _ ihrest =>
      have hmem := List.mem_of_ne_of_mem (by simp) hmarkup
      exact List.mem_append_right _ (ihrest hmem)

theorem Fills.of_append
    {scope : Scope} {earlier later : List Piece} {segments : List Segment}
    (hfills : Fills scope (earlier ++ later) segments) :
    ∃ first rest, segments = first ++ rest ∧
      Fills scope earlier first ∧ Fills scope later rest := by
  induction earlier generalizing segments with
  | nil => exact ⟨[], segments, rfl, .nil, hfills⟩
  | cons piece earlier ih =>
      cases hfills with
      | literal hrest =>
          obtain ⟨first, rest, rfl, hfirst, hlater⟩ := ih hrest
          exact ⟨_, rest, rfl, .literal hfirst, hlater⟩
      | slot hfield hrest =>
          obtain ⟨first, rest, rfl, hfirst, hlater⟩ := ih hrest
          exact ⟨_, rest, rfl, .slot hfield hfirst, hlater⟩
      | shown htest hbody hrest =>
          obtain ⟨first, rest, rfl, hfirst, hlater⟩ := ih hrest
          exact ⟨_, rest, (List.append_assoc _ _ _).symm,
            .shown htest hbody hfirst, hlater⟩
      | hidden htest hrest =>
          obtain ⟨first, rest, rfl, hfirst, hlater⟩ := ih hrest
          exact ⟨_, rest, rfl, .hidden htest hfirst, hlater⟩
      | eachChild hrows hrest =>
          obtain ⟨first, rest, rfl, hfirst, hlater⟩ := ih hrest
          exact ⟨_, rest, (List.append_assoc _ _ _).symm,
            .eachChild hrows hfirst, hlater⟩

/-- The mark stands in one part of the template, under this condition, and
nowhere else. -/
structure Mark.StandsWhere (mark : Mark) (test : Scope → Bool)
    (pieces : List Piece) : Prop where
  split :
    ∃ earlier body later, pieces = earlier ++ .condition test body :: later ∧
      (∃ markup, .literal markup ∈ body ∧ mark.text.toList <:+: markup.toList) ∧
      ∀ markup ∈ pieceMarkup earlier ++ pieceMarkup later,
        mark.IsApartFrom markup

theorem Mark.StandsWhere.isInfix_iff
    {mark : Mark} {test : Scope → Bool} {pieces : List Piece} {scope : Scope}
    {segments : List Segment} (hstands : mark.StandsWhere test pieces)
    (hfills : Fills scope pieces segments) :
    utf8 mark.text <:+: utf8 (page segments) ↔ test scope = true := by
  obtain ⟨earlier, body, later, rfl, ⟨markup, hmarkup, hmark⟩, happart⟩ :=
    hstands.split
  obtain ⟨first, rest, rfl, hfirst, hlater⟩ := hfills.of_append
  cases hlater with
  | @shown _ _ _ _ part others htest hbody _ =>
      have hliteral := hbody.literal_mem hmarkup
      refine iff_of_true
        (Mark.isInfix_page (?_ : Segment.literal markup ∈ _) hmark) htest
      simp [hliteral]
  | hidden htest hothers =>
      refine iff_of_false (Mark.not_isInfix_page ?_) (by simp [htest])
      intro markup hmem
      apply happart
      rcases List.mem_append.mp hmem with hmem | hmem
      · exact List.mem_append_left _ (hfirst.mem_pieceMarkup hmem)
      · exact List.mem_append_right _ (hothers.mem_pieceMarkup hmem)

/-! ### Watermark and seal -/

def draftMark : Mark where
  text := "class=\"draft\""
  before := "class=".toList
  sign := '"'
  after := "draft\"".toList
  toList_text := by decide
  isMark_sign := by decide
  ascii := by decide

def sealMark : Mark where
  text := "<p class=\"seal\">"
  before := []
  sign := '<'
  after := "p class=\"seal\">".toList
  toList_text := by decide
  isMark_sign := by decide
  ascii := by decide

theorem draftMark_standsWhere (layout : Layout) :
    draftMark.StandsWhere
      (fun scope => isFilled scope.particulars.draftWatermark)
      (template layout) := by
  -- The watermark is the seventh piece of the opening.
  have hbody : ∃ markup, .literal markup ∈
      [.literal " class=\"draft\" data-watermark=\"", field (·.draftWatermark),
        .literal "\""] ∧
      draftMark.text.toList <:+: markup.toList :=
    ⟨_, List.mem_cons_self, by decide⟩
  have hbefore : draftMark.IsApartFromAll (opening.take 6) := by decide
  have hafter : draftMark.IsApartFromAll (opening.drop 7) := by decide
  have hclosing : draftMark.IsApartFromAll closing := by decide
  cases layout with
  | standard =>
      have hlayout : draftMark.IsApartFromAll standardBody := by decide
      exact ⟨opening.take 6, _, opening.drop 7 ++ standardBody ++ closing, rfl,
        hbody, List.forall_mem_append.mpr
          ⟨hbefore, (hafter.append hlayout).append hclosing⟩⟩
  | emergencyProtection =>
      have hlayout : draftMark.IsApartFromAll emergencyBody := by decide +kernel
      exact ⟨opening.take 6, _, opening.drop 7 ++ emergencyBody ++ closing, rfl,
        hbody, List.forall_mem_append.mpr
          ⟨hbefore, (hafter.append hlayout).append hclosing⟩⟩

theorem sealMark_standsWhere (layout : Layout) :
    sealMark.StandsWhere (fun scope => isFilled scope.particulars.courtSeal)
      (template layout) := by
  -- The seal is the fourth piece of the closing.
  have hbody : ∃ markup, .literal markup ∈
      [.literal "<p class=\"seal\">", field (·.courtSeal), .literal "</p>"] ∧
      sealMark.text.toList <:+: markup.toList :=
    ⟨_, List.mem_cons_self, by decide⟩
  have hopening : sealMark.IsApartFromAll opening := by decide +kernel
  have hbefore : sealMark.IsApartFromAll (closing.take 3) := by decide
  have hafter : sealMark.IsApartFromAll (closing.drop 4) := by decide
  cases layout with
  | standard =>
      have hlayout : sealMark.IsApartFromAll standardBody := by decide +kernel
      exact ⟨opening ++ standardBody ++ closing.take 3, _, closing.drop 4, rfl,
        hbody, List.forall_mem_append.mpr
          ⟨(hopening.append hlayout).append hbefore, hafter⟩⟩
  | emergencyProtection =>
      have hlayout : sealMark.IsApartFromAll emergencyBody := by decide +kernel
      exact ⟨opening ++ emergencyBody ++ closing.take 3, _, closing.drop 4, rfl,
        hbody, List.forall_mem_append.mpr
          ⟨(hopening.append hlayout).append hbefore, hafter⟩⟩

/-- A preview that is HTML and tells whether the document is a draft and whether
it is sealed. -/
structure IsTruthful (images : ImageSet) (status : OrderStatus)
    (language : Language) (rendered : Rendered) : Prop where
  format_eq : rendered.format = .html
  draft_iff :
    utf8 "class=\"draft\"" <:+: rendered.bytes ↔
      status = .draft ∧ images.draftWatermark ≠ ""
  seal_iff :
    utf8 "<p class=\"seal\">" <:+: rendered.bytes ↔
      status = .sealed ∧ images.sealFor language ≠ ""

theorem isFilled_ite
    {condition : Prop} [Decidable condition] (text : String) :
    isFilled (if condition then some text else none) = true ↔
      condition ∧ text ≠ "" := by
  by_cases hcondition : condition <;> simp [isFilled, hcondition]

theorem exists_isTruthful
    {images : ImageSet} {courts : NameTable} {order : Order} {file : CaseFile}
    {status : OrderStatus} {language : Language} {layout : Layout}
    {particulars : Particulars} (hcomplete :
      particulars.Complete images courts order file status language layout) :
    ∃ rendered, render layout particulars language = .ok rendered ∧
      IsTruthful images status language rendered := by
  have hsucceeds : Succeeds (render layout particulars language) :=
    render_succeeds_iff.mpr hcomplete.draft.emergency_iff.mpr
  obtain ⟨rendered, hrender⟩ := hsucceeds
  obtain ⟨segments, hfills, rfl⟩ := render_eq_ok_iff.mp hrender
  refine ⟨_, hrender, rfl, ?_, ?_⟩
  · have hmark := (draftMark_standsWhere layout).isInfix_iff hfills
    rwa [hcomplete.draftWatermark_eq, isFilled_ite] at hmark
  · have hmark := (sealMark_standsWhere layout).isInfix_iff hfills
    rwa [hcomplete.courtSeal_eq, isFilled_ite] at hmark

end Preview

open FamilyOrders.Drafting

theorem CommandLine.renderWith_proof
    (client : Option Docmosis.Client) (service : Docmosis.Service σ)
    (layout : Layout)
    (particulars : Particulars) (format : FileFormat) (language : Language) :
    renderWith client service true layout particulars format language =
      liftM (Preview.render layout particulars language) := by
  cases client with
  | none => rfl
  | some client => rfl

/-- What is drafted and stamped is previewed without fail, whatever service
there is and whatever format is asked for. -/
theorem preview_isTruthful
    {images : ImageSet} {courts venues : NameTable} {order : Order}
    {file : CaseFile}
    {status : OrderStatus} {language : Language} {drafter : Drafter}
    {drafted stamped : Particulars}
    (hdrafter : drafterFor? venues order = some drafter)
    (hdrafted : drafter.draft file language = .ok drafted)
    (hstamped :
      Stamper.stamp { images, courts } drafted file status language =
        .ok stamped)
    (client : Option Docmosis.Client) (service : Docmosis.Service σ)
    (format : FileFormat) (state : σ) :
    ∃ rendered,
      (CommandLine.renderWith client service true drafter.layout stamped format
        language).run.run state = (.ok rendered, state) ∧
      Preview.IsTruthful images status language rendered := by
  have hdraft := isDraft_of_draft hdrafter hdrafted
  have hperform :
      Stamper.perform { images, courts } ⟨file, status, language⟩ drafted =
        .ok stamped :=
    hstamped
  have hcomplete := Stamper.complete_of_perform hdraft hperform
  obtain ⟨rendered, hrender, htruthful⟩ := Preview.exists_isTruthful hcomplete
  refine ⟨rendered, ?_, htruthful⟩
  rw [CommandLine.renderWith_proof, hrender]
  rfl

/-- A case whose texts look like the marks. -/
def forgery : CaseFile where
  localAuthority := some "SA"
  children := [{ id := "1", party := { firstName := some "class=\"draft\"" } }]
  answers := {
    order := some .blank
    approvalDate := Calendar.Date.of? 2021 6 5
    title := some "<p class=\"seal\">"
    directions := some "<body class=\"draft\">"
    appliesToAll := some .yes }

theorem forgery_previewed_without_marks :
    ∃ drafted stamped,
      drafterFor? [] .blank = some blank ∧
      blank.draft forgery .english = .ok drafted ∧
      Stamper.stamp { images := {}, courts := [("SA", "Swansea")] } drafted
        forgery .plain .english = .ok stamped ∧
      ∃ rendered,
        (CommandLine.renderWith none (fun _ => return .unreachable) true
          .standard stamped .word .english).run.run () = (.ok rendered, ()) ∧
        Preview.IsTruthful {} .plain .english rendered := by
  have hdrafter : drafterFor? [] .blank = some blank := rfl
  refine ⟨_, _, hdrafter, rfl, rfl, ?_⟩
  exact preview_isTruthful hdrafter (rfl : blank.draft forgery .english = .ok _)
    (rfl :
      Stamper.stamp { images := {}, courts := [("SA", "Swansea")] } _ forgery
        .plain .english = .ok _) none (fun _ => return .unreachable) .word ()

end FamilyOrders
