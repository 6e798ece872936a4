import FamilyOrders.Proofs.Creation.NumberAgreement
import Mathlib.Data.List.Forall2
import Mathlib.Data.List.Nodup
import Mathlib.Data.List.Perm.Subperm

/-!
# Children ticked more than once

Where some of the children are ticked, an order lists one child for every tick,
in the order of the ticks.  So it leaves no ticked child out and brings in no
other.  But a child whose position is ticked twice is listed twice, and a single
child is then worded as several.
-/

namespace FamilyOrders

open FamilyOrders.Calendar FamilyOrders.Drafting FamilyOrders.Text
  GrammaticalNumber

/-! ## Ticks -/

theorem mapM_eq_ok_iff
    {f : α → Except ε β} {as : List α} {bs : List β} :
    as.mapM f = .ok bs ↔ List.Forall₂ (fun a b => f a = .ok b) as bs := by
  induction as generalizing bs with
  | nil => simp [pure, Except.pure, eq_comm]
  | cons a as ih =>
      simp only [List.mapM_cons, bind_eq_ok_iff, List.forall₂_cons_left_iff,
        ← ih, pure, Except.pure, Except.ok.injEq]
      constructor
      · rintro ⟨b, hb, bs, hbs, rfl⟩
        exact ⟨b, bs, hb, hbs, rfl⟩
      · rintro ⟨b, bs, hb, hbs, rfl⟩
        exact ⟨b, hb, bs, hbs, rfl⟩

namespace CaseFile

variable {file : CaseFile} {selected : List Child}

/-- The positions as they were ticked. -/
def ticks (file : CaseFile) : List UInt64 :=
  file.answers.ticked.getD []

/-- The positions of the case that are ticked, each once. -/
def tickedPositions (file : CaseFile) : List Nat :=
  (List.range file.children.length).filter fun place => place ∈ file.ticks.map
  (·.toNat)

/-- The children of the case that are ticked, each once. -/
def tickedChildren (file : CaseFile) : List Child :=
  file.tickedPositions.filterMap (file.children[·]?)

/-- The position is that of the child. -/
def Holds (file : CaseFile) (position : UInt64) (child : Child) : Prop :=
  file.children[position.toNat]? = some child

theorem childAt_eq_ok_iff
    {position : UInt64} {child : Child} :
    file.childAt position = .ok child ↔ file.Holds position child := by
  rw [childAt, Holds]
  cases file.children[position.toNat]? <;> simp

theorem selectedChildren_eq_ok_iff
    (hsome : file.answers.appliesToAll = some .no) :
    file.selectedChildren = .ok selected ↔
      List.Forall₂ file.Holds file.ticks selected := by
  have hticked : file.appliesToAll = .ok false := by
    rw [appliesToAll, hsome]; rfl
  rw [selectedChildren_of_ticked hticked, mapM_eq_ok_iff]
  simp only [childAt_eq_ok_iff, ticks]

theorem selects_iff
    (hsome : file.answers.appliesToAll = some .no) :
    Succeeds file.selectedChildren ↔
      ∀ position ∈ file.ticks, position.toNat < file.children.length := by
  rw [selectedChildren_succeeds_iff, TellsChildren, hsome, ticks]

theorem filterMap_of_holds
    {positions : List UInt64}
    (hselected : List.Forall₂ file.Holds positions selected) :
    (positions.map (·.toNat)).filterMap (file.children[·]?) = selected := by
  induction hselected with
  | nil => rfl
  | @cons position child positions selected hchild hrest ih =>
      have hplace : file.children[position.toNat]? = some child := hchild
      rw [List.map_cons, List.filterMap_cons, hplace, ih]

theorem length_filterMap_of_lt
    {places : List Nat}
    (hplaces : ∀ place ∈ places, place < file.children.length) :
    (places.filterMap (file.children[·]?)).length = places.length := by
  induction places with
  | nil => rfl
  | cons place places ih =>
      obtain ⟨hplace, hrest⟩ := List.forall_mem_cons.mp hplaces
      rw [List.filterMap_cons, List.getElem?_eq_getElem hplace,
        List.length_cons, List.length_cons, ih hrest]

theorem length_tickedChildren (file : CaseFile) :
    file.tickedChildren.length = file.tickedPositions.length := by
  apply length_filterMap_of_lt
  intro place hplace
  exact List.mem_range.mp (List.mem_of_mem_filter hplace)

theorem nodup_tickedPositions (file : CaseFile) : file.tickedPositions.Nodup :=
  List.nodup_range.filter _

section Ticked

variable (hticks : ∀ position ∈ file.ticks,
  position.toNat < file.children.length)
include hticks

theorem mem_tickedPositions_iff {place : Nat} :
    place ∈ file.tickedPositions ↔ place ∈ file.ticks.map (·.toNat) := by
  rw [tickedPositions, List.mem_filter, decide_eq_true_eq, List.mem_range,
    and_iff_right_iff_imp]
  intro hplace
  obtain ⟨position, hposition, rfl⟩ := List.mem_map.mp hplace
  exact hticks position hposition

theorem tickedPositions_subperm :
    List.Subperm file.tickedPositions (file.ticks.map (·.toNat)) :=
  file.nodup_tickedPositions.subperm fun _ =>
    (mem_tickedPositions_iff hticks).mp

/-- The positions come to the ticks exactly when none is ticked again. -/
theorem length_tickedPositions_eq_iff :
    file.tickedPositions.length = file.ticks.length ↔ file.ticks.Nodup := by
  have hnodup : (file.ticks.map (·.toNat)).Nodup ↔ file.ticks.Nodup :=
    List.nodup_map_iff fun _ _ => UInt64.toNat_inj.mp
  have hlength : (file.ticks.map (·.toNat)).length = file.ticks.length :=
    List.length_map _
  rw [← hnodup, ← hlength]
  constructor
  · intro hsame
    have hperm := (tickedPositions_subperm hticks).perm_of_length_le hsame.ge
    exact hperm.nodup_iff.mp file.nodup_tickedPositions
  · intro hnodup
    have hperm :=
      (List.perm_ext_iff_of_nodup file.nodup_tickedPositions hnodup).mpr
      fun _ =>
      mem_tickedPositions_iff hticks
    exact hperm.length_eq

theorem length_tickedChildren_eq_iff :
    file.tickedChildren.length = file.ticks.length ↔ file.ticks.Nodup := by
  rw [length_tickedChildren, length_tickedPositions_eq_iff hticks]

/-- The selection is made of the ticked children, each of them once, exactly
when none is ticked again. -/
theorem perm_tickedChildren_iff
    (hselected : List.Forall₂ file.Holds file.ticks selected) :
    selected.Perm file.tickedChildren ↔ file.ticks.Nodup := by
  constructor
  · intro hperm
    rw [← length_tickedChildren_eq_iff hticks, ← hperm.length_eq,
      hselected.length_eq]
  · intro hnodup
    rw [← filterMap_of_holds hselected]
    refine List.Perm.filterMap _ (List.Perm.symm ?_)
    refine (tickedPositions_subperm hticks).perm_of_length_le ?_
    rw [List.length_map, (length_tickedPositions_eq_iff hticks).mpr hnodup]

/-- Only a single child is ever worded wrongly: when it is ticked more than
once. -/
theorem miscounted_iff :
    ofCount file.ticks.length ≠ ofCount file.tickedPositions.length ↔
      file.tickedPositions.length = 1 ∧ 1 < file.ticks.length := by
  have hfewer : file.tickedPositions.length ≤ file.ticks.length := by
    have hlength := (tickedPositions_subperm hticks).length_le
    rwa [List.length_map] at hlength
  have hsome : file.tickedPositions = [] → file.ticks = [] := by
    intro hnone
    rw [List.eq_nil_iff_forall_not_mem]
    intro position hposition
    have hplace : position.toNat ∈ file.tickedPositions :=
      (mem_tickedPositions_iff hticks).mpr (List.mem_map_of_mem hposition)
    rw [hnone] at hplace
    contradiction
  rw [← List.length_eq_zero_iff, ← List.length_eq_zero_iff] at hsome
  unfold ofCount
  split <;> split <;> simp <;> omega

end Ticked

/-- The selection lists one child of the case for every tick: all the ticked
children and no other, each of them once exactly when no position is ticked
again. -/
structure TickLaw (file : CaseFile) : Prop where
  selects_iff :
    Succeeds file.selectedChildren ↔
      ∀ position ∈ file.ticks, position.toNat < file.children.length
  one_per_tick :
    ∀ selected, file.selectedChildren = .ok selected →
      List.Forall₂ file.Holds file.ticks selected
  members :
    ∀ selected, file.selectedChildren = .ok selected →
      ∀ child, child ∈ selected ↔ child ∈ file.tickedChildren
  once_iff :
    ∀ selected, file.selectedChildren = .ok selected →
      (selected.Perm file.tickedChildren ↔ file.ticks.Nodup)

theorem tickLaw (hsome : file.answers.appliesToAll = some .no) :
    file.TickLaw := by
  have hholds : ∀ selected, file.selectedChildren = .ok selected →
      List.Forall₂ file.Holds file.ticks selected :=
    fun _ => (selectedChildren_eq_ok_iff hsome).mp
  have hticks : ∀ selected, file.selectedChildren = .ok selected →
      ∀ position ∈ file.ticks, position.toNat < file.children.length :=
    fun selected hselected => (selects_iff hsome).mp ⟨selected, hselected⟩
  constructor
  case selects_iff => exact selects_iff hsome
  case one_per_tick => exact hholds
  case members =>
    intro selected hselected child
    rw [← filterMap_of_holds (hholds selected hselected), tickedChildren,
      List.mem_filterMap, List.mem_filterMap]
    simp only [mem_tickedPositions_iff (hticks selected hselected)]
  case once_iff =>
    exact fun selected hselected =>
      perm_tickedChildren_iff (hticks selected hselected)
        (hholds selected hselected)

end CaseFile

/-! ## Orders -/

/-- The particulars list one child for every tick and word the order for the
number of the ticks, which only where a single child is ticked again is not the
number of the children. -/
structure Particulars.ListsTicks (order : Order) (file : CaseFile)
    (language : Language) (particulars : Particulars) : Prop where
  one_per_tick :
    List.Forall₂ (fun position row => ∃ child, file.Holds position child ∧
      child.particulars language = row) file.ticks particulars.children
  once_iff :
    particulars.children.Perm
      (file.tickedChildren.map (·.particulars language)) ↔
      file.ticks.Nodup
  wording :
    order.CountsChildren → file.NamesNoChildren order language →
      particulars.NamesChildren order file language (.ofCount file.ticks.length)
  miscounted_iff :
    GrammaticalNumber.ofCount file.ticks.length ≠
      .ofCount file.tickedPositions.length ↔
      file.tickedPositions.length = 1 ∧ 1 < file.ticks.length

namespace Engine

variable {images : ImageSet} {courts venues : NameTable} {order : Order}
  {file : CaseFile}
  {status : OrderStatus} {language : Language} {drafter : Drafter}
  {stamped : Particulars}

theorem Writes.listsTicks
    (hsome : file.answers.appliesToAll = some .no)
    (hwrites :
      Writes images courts venues order file status language drafter stamped) :
    stamped.ListsTicks order file language := by
  obtain ⟨drafted, selected, hdrafted, hselected, hsame, hrows, -⟩ :=
    hwrites.exists_draft
  have hlaw := CaseFile.tickLaw hsome
  have hholds := hlaw.one_per_tick selected hselected
  have hticks := hlaw.selects_iff.mp ⟨selected, hselected⟩
  constructor
  case one_per_tick =>
    rw [hrows, List.forall₂_map_right_iff]
    exact hholds.imp fun position child hchild => ⟨child, hchild, rfl⟩
  case once_iff =>
    rw [hrows]
    constructor
    · intro hperm
      have hlength := hperm.length_eq
      rw [List.length_map, List.length_map] at hlength
      rw [← CaseFile.length_tickedChildren_eq_iff hticks, ← hlength,
        hholds.length_eq]
    · intro hnodup
      exact ((hlaw.once_iff selected hselected).mpr hnodup).map _
  case wording =>
    intro hcounts hnames
    have hlanguage := checkLanguage_eq_ok_iff.mp hwrites.language_ok
    obtain ⟨number, hnumber, hnamed⟩ :=
      namesChildren_of_draft hcounts hnames hlanguage hwrites.drafter_eq
        hdrafted
    obtain ⟨counted, hcounted, hsomebody, rfl⟩ :=
      CaseFile.grammaticalNumber_eq_ok_iff.mp hnumber
    obtain rfl := Except.ok.inj (hselected.symm.trans hcounted)
    rw [hholds.length_eq]
    exact hnamed.of_sameDraft hsame
  case miscounted_iff => exact CaseFile.miscounted_iff hticks

/-- Where some of the children are ticked, a rendered order lists one child for
every tick and is worded for the number of the ticks.  So a child that is ticked
twice is listed twice, and if it is the only one, it is worded as several. -/
theorem generate_listsTicks
    (collaborators : Collaborators σ) (state : σ) (images : ImageSet)
    (courts venues : NameTable) (order : Order) {file : CaseFile}
    (hsome : file.answers.appliesToAll = some .no)
    (status : OrderStatus) (format : FileFormat) (language : Language) :
    file.TickLaw ∧
      ∀ exchange ∈ collaborators.exchangesFrom state
          ((standard images courts venues).generate · order file status format
            language),
        ∃ layout stamped,
          exchange.call = .render layout format language stamped ∧
          stamped.ListsTicks order file language := by
  refine ⟨CaseFile.tickLaw hsome, ?_⟩
  intro exchange hmem
  have hgeneration :=
    (standard images courts venues).generation_of_generate collaborators state
    order file status format language
  obtain ⟨drafter, stamped, hwrites, hcall⟩ := hgeneration.exists_writes hmem
  exact ⟨drafter.layout, stamped, hcall, hwrites.listsTicks hsome⟩

/-- A case with one child, which is ticked twice. -/
def tickedTwice : CaseFile :=
  { localAuthority := some "SA"
    localAuthorityName := some "Swansea City Council"
    children := [{ id := "1", party := {} }]
    answers := {
      approvalDate := Date.of? 2021 6 5
      appliesToAll := some .no
      ticked := some [0, 0] } }

/-- The care order of an only child who is ticked twice lists it twice, and
places several. -/
theorem ticked_twice_listed_twice :
    ∃ exchange ∈ Collaborators.obliging.exchangesFrom ()
        ((standard {} [("SA", "Family Court sitting at Swansea")] []).generate ·
          .care tickedTwice .sealed .pdf .english),
      ∃ layout stamped,
        exchange.call = .render layout .pdf .english stamped ∧
        stamped.children.length = 2 ∧ tickedTwice.tickedChildren.length = 1 ∧
        ¬stamped.children.Perm
          (tickedTwice.tickedChildren.map (·.particulars .english)) ∧
        stamped.NamesChildren .care tickedTwice .english .plural := by
  have hsome : tickedTwice.answers.appliesToAll = some .no := rfl
  have hnames : tickedTwice.NamesNoChildren .care .english := by
    constructor
    case authority =>
      intro name hname
      obtain rfl := Option.some.inj hname
      exact nouns_eq_nil_iff.mp (by decide)
    case address => exact fun hemergency => nomatch hemergency
    case excluded => exact fun hemergency => nomatch hemergency
  obtain ⟨-, hlists⟩ := generate_listsTicks .obliging () {}
    [("SA", "Family Court sitting at Swansea")]
    [] .care hsome .sealed .pdf .english
  refine ⟨_, List.mem_cons_self, ?_⟩
  obtain ⟨layout, stamped, hcall, hticks⟩ := hlists _ List.mem_cons_self
  refine ⟨layout, stamped, hcall,
    hticks.one_per_tick.length_eq.symm, by
      decide, ?_, hticks.wording trivial hnames⟩
  rw [hticks.once_iff]
  decide

end Engine

end FamilyOrders
