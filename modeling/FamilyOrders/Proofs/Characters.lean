import FamilyOrders.Text.Characters

/-!
# Characters and their classes

The classes of characters and the lower-case forms are tables of runs, so what
holds of them is checked run by run: what has been brought to lower case stays
as it is, and upper-case characters are letters or numbers, and none of them is
a lower-case one.
-/

namespace FamilyOrders.Text

/-! ## Runs in order

The runs of a table ascend, so only a few next to each other can share a
character with a given range, and those are all that has to be looked at. -/

section Ascending

variable {α : Type} (toRun : α → Run) {items : List α} {bound : Nat}

/-- Each run starts where the one before it starts, or later. -/
def ascends : (bound : Nat) → List α → Bool
  | _, [] => true
  | bound, item :: items =>
    Nat.ble bound (toRun item).first && ascends (toRun item).first items

/-- The runs that may share a character with a range. -/
def window (low high : Nat) (items : List α) : List α :=
  (items.dropWhile fun item => Nat.blt (toRun item).last low).takeWhile
    fun item => Nat.ble (toRun item).first high

theorem lt_or_mem_dropWhile (low : Nat) {item : α} (hitem : item ∈ items) :
    (toRun item).last < low ∨
      item ∈ items.dropWhile fun item => Nat.blt (toRun item).last low := by
  rw [← List.takeWhile_append_dropWhile
    (p := fun item => Nat.blt (toRun item).last low) (l := items)] at hitem
  rcases List.mem_append.mp hitem with hpast | hrest
  · have hbefore := List.all_eq_true.mp List.all_takeWhile item hpast
    exact .inl (Nat.blt_eq.mp hbefore)
  · exact .inr hrest

variable {toRun}

theorem le_first_of_ascends
    (hascends : ascends toRun bound items = true) {item : α}
    (hitem : item ∈ items) :
    bound ≤ (toRun item).first := by
  induction items generalizing bound with
  | nil => cases hitem
  | cons first items ih =>
      simp only [ascends, Bool.and_eq_true, Nat.ble_eq] at hascends
      rcases List.mem_cons.mp hitem with rfl | hitem
      · exact hascends.1
      · exact Nat.le_trans hascends.1 (ih hascends.2 hitem)

theorem ascends_dropWhile
    (hascends : ascends toRun bound items = true) (past : α → Bool) :
    ascends toRun bound (items.dropWhile past) = true := by
  induction items generalizing bound with
  | nil => exact hascends
  | cons first items ih =>
      by_cases hpast : past first = true
      · rw [List.dropWhile_cons_of_pos hpast]
        simp only [ascends, Bool.and_eq_true, Nat.ble_eq] at hascends
        cases hrest : items.dropWhile past with
        | nil => rfl
        | cons next rest =>
            have hnext := ih hascends.2
            rw [hrest] at hnext
            simp only [ascends, Bool.and_eq_true, Nat.ble_eq] at hnext ⊢
            exact ⟨Nat.le_trans hascends.1 hnext.1, hnext.2⟩
      · rwa [List.dropWhile_cons_of_neg hpast]

theorem lt_or_mem_takeWhile
    (hascends : ascends toRun bound items = true) (high : Nat) {item : α}
    (hitem : item ∈ items) :
    high < (toRun item).first ∨
      item ∈ items.takeWhile fun item => Nat.ble (toRun item).first high := by
  induction items generalizing bound with
  | nil => cases hitem
  | cons first items ih =>
      simp only [ascends, Bool.and_eq_true] at hascends
      by_cases hwithin : (toRun first).first ≤ high
      · rcases List.mem_cons.mp hitem with rfl | hitem
        · simp [hwithin]
        · simpa [hwithin] using (ih hascends.2 hitem).imp_right .inr
      · have hfirst := Nat.lt_of_not_le hwithin
        rcases List.mem_cons.mp hitem with rfl | hitem
        · exact .inl hfirst
        · have hlater := le_first_of_ascends hascends.2 hitem
          exact .inl (Nat.lt_of_lt_of_le hfirst hlater)

theorem lt_or_mem_window
    (hascends : ascends toRun bound items = true) (low high : Nat) {item : α}
    (hitem : item ∈ items) :
    (toRun item).last < low ∨ high < (toRun item).first ∨
      item ∈ window toRun low high items := by
  rcases lt_or_mem_dropWhile toRun low hitem with hbefore | hrest
  · exact .inl hbefore
  · exact .inr (lt_or_mem_takeWhile (ascends_dropWhile hascends _) high hrest)

end Ascending

/-! ## Lower-case forms

What has been brought to lower case stays as it is when this is done again: no
run of characters that have a lower-case form covers the lower-case form of
another one. -/

namespace CaseRun

variable {run other : CaseRun} {c : Char}

/-- The code points of the first and the last lower-case form of a run. -/
def lowest (run : CaseRun) : Nat :=
  (run.first + run.shift).toNat

def highest (run : CaseRun) : Nat :=
  (run.last + run.shift).toNat

/-- All the lower-case forms of the run are characters. -/
def IsSound (run : CaseRun) : Bool :=
  0 ≤ run.first + run.shift &&
    (run.highest < 0xD800 || 0xDFFF < run.lowest && run.highest < 0x110000)

/-- No lower-case form of the run is covered by the other one, which they pass
by or step over. -/
def misses (run other : CaseRun) : Bool :=
  Nat.blt run.highest other.first || Nat.blt other.last run.lowest ||
    (Nat.beq other.stride 2 &&
      (Nat.beq run.stride 2 || Nat.beq run.first run.last) &&
      Nat.beq ((run.lowest - other.first) % 2) 1)

theorem toNat_image
    (hsound : run.IsSound = true) (hcovers : run.covers c = true) :
    ((run.image c).toNat : Int) = c.toNat + run.shift := by
  simp only [IsSound, Bool.and_eq_true, Bool.or_eq_true,
    decide_eq_true_eq] at hsound
  unfold lowest highest at hsound
  simp only [Run.covers, Bool.and_eq_true, decide_eq_true_eq] at hcovers
  have hvalid : (((c.toNat : Int) + run.shift).toNat).isValidChar := by
    unfold Nat.isValidChar
    omega
  have hcode : (run.image c).toNat = ((c.toNat : Int) + run.shift).toNat := by
    rw [image, Char.ofNat, dif_pos hvalid]
    rfl
  omega

/-- The lower-case form lies in its run's range. -/
theorem image_range
    (hsound : run.IsSound = true) (hcovers : run.covers c = true) :
    run.lowest ≤ (run.image c).toNat ∧ (run.image c).toNat ≤ run.highest := by
  have hcode := toNat_image hsound hcovers
  simp only [Run.covers, Bool.and_eq_true, decide_eq_true_eq] at hcovers
  unfold lowest highest
  omega

theorem not_covers_image
    (hsound : run.IsSound = true) (hmisses : run.misses other = true)
    (hcovers : run.covers c = true) :
    other.covers (run.image c) = false := by
  have hcode := toNat_image hsound hcovers
  have hrange := image_range hsound hcovers
  rw [Bool.eq_false_iff]
  intro hother
  simp only [Run.covers, Bool.and_eq_true, decide_eq_true_eq,
    beq_iff_eq] at hcovers hother
  simp only [misses, Bool.and_eq_true, Bool.or_eq_true, Nat.beq_eq,
    Nat.blt_eq] at hmisses
  obtain (hbefore | hafter) | ⟨⟨htwo, hsteps⟩, hodd⟩ := hmisses
  · omega
  · omega
  · rw [htwo] at hother
    have heven : (c.toNat - run.first) % 2 = 0 := by
      rcases hsteps with hsteps | hsingle
      · rw [hsteps] at hcovers
        exact hcovers.2
      · omega
    have hlowest : (run.lowest : Int) = run.first + run.shift := by
      simp only [IsSound, Bool.and_eq_true, decide_eq_true_eq] at hsound
      exact Int.toNat_of_nonneg hsound.1
    omega

end CaseRun

theorem caseRuns_sound : caseRuns.all CaseRun.IsSound = true := by
  decide

theorem caseRuns_ascend : ascends CaseRun.toRun 0 caseRuns = true := by
  decide

theorem caseRuns_miss_nearby :
    (caseRuns.all fun run =>
      (window CaseRun.toRun run.lowest run.highest caseRuns).all run.misses) =
        true := by
  decide +kernel

theorem caseRuns_miss
    {run other : CaseRun} (hrun : run ∈ caseRuns) (hother : other ∈ caseRuns) :
    run.misses other = true := by
  have hnearby := List.all_eq_true.mp caseRuns_miss_nearby run hrun
  simp only [CaseRun.misses, Bool.or_eq_true, Nat.blt_eq]
  rcases lt_or_mem_window caseRuns_ascend run.lowest run.highest hother with
    hbefore | hafter | hwindow
  · exact .inl (.inr hbefore)
  · exact .inl (.inl hafter)
  · simpa [CaseRun.misses] using List.all_eq_true.mp hnearby other hwindow

theorem lowercase_of_notCovered
    {c : Char} (hdotted : c ≠ '\u0130')
    (hcovers : ∀ run ∈ caseRuns, run.covers c = false) : lowercase c = [c] := by
  have hnone : caseRuns.find? (·.covers c) = none := by
    rw [List.find?_eq_none]
    intro run hrun
    simp [hcovers run hrun]
  rw [lowercase, if_neg hdotted, hnone]

theorem lowercase_ne_nil (c : Char) : lowercase c ≠ [] := by
  unfold lowercase
  repeat' split
  all_goals exact List.cons_ne_nil _ _

/-- A character as it is, or one of the two that the capital I with a dot
becomes, or the form in a run. -/
theorem lowercase_cases
    {c d : Char} (hd : d ∈ lowercase c) :
    (d = c ∧ lowercase c = [c]) ∨ (c = '\u0130' ∧ (d = 'i' ∨ d = '\u0307')) ∨
      ∃ run ∈ caseRuns, run.covers c = true ∧ d = run.image c := by
  by_cases hdotted : c = '\u0130'
  · rw [lowercase, if_pos hdotted] at hd
    exact .inr (.inl ⟨hdotted, by simpa using hd⟩)
  cases hfound : caseRuns.find? (·.covers c) with
  | none =>
      have hlower : lowercase c = [c] := by
        rw [lowercase, if_neg hdotted, hfound]
      rw [hlower] at hd
      exact .inl ⟨List.mem_singleton.mp hd, hlower⟩
  | some run =>
      have hcovers : run.covers c = true := by
        simpa using List.find?_some hfound
      rw [lowercase, if_neg hdotted, hfound] at hd
      exact .inr (.inr ⟨run, List.mem_of_find?_eq_some hfound, hcovers,
        List.mem_singleton.mp hd⟩)

theorem caseRuns_miss_dotted :
    (caseRuns.all fun run =>
      Nat.blt run.highest 0x130 || Nat.blt 0x130 run.lowest) = true := by
  decide

theorem lowercase_of_mem_lowercase
    {c d : Char} (hd : d ∈ lowercase c) :
    lowercase d = [d] := by
  rcases lowercase_cases hd with ⟨rfl, hlower⟩ | ⟨-, rfl | rfl⟩ | ⟨run, hrun,
    hcovers, rfl⟩
  · exact hlower
  · decide
  · decide
  · have hsound := List.all_eq_true.mp caseRuns_sound run hrun
    apply lowercase_of_notCovered
    · intro hdotted
      have hrange := CaseRun.image_range hsound hcovers
      have hapart := List.all_eq_true.mp caseRuns_miss_dotted run hrun
      simp only [Bool.or_eq_true, Nat.blt_eq] at hapart
      rw [hdotted] at hrange
      have hcode : '\u0130'.toNat = 0x130 := rfl
      omega
    · intro other hother
      exact CaseRun.not_covers_image hsound (caseRuns_miss hrun hother) hcovers

/-! ## Classes of characters

The classes of characters are tables of runs, so how two of them lie to each
other is checked run by run: upper-case characters are letters or numbers, and
none of them is a lower-case one. -/

/-! ### Runs -/

namespace Run

variable {run other : Run} {runs : List Run} {c : Char}

/-- The other run covers all that the run covers. -/
def isWithin (run other : Run) : Bool :=
  Nat.ble other.first run.first && Nat.ble run.last other.last &&
    (Nat.beq other.stride 1 || Nat.beq run.stride 2 && Nat.beq other.stride 2 &&
      Nat.beq ((run.first - other.first) % 2) 0)

/-- The run lies within one of these runs, or it is a pair of which each lies
within one. -/
def isSpread (runs : List Run) (run : Run) : Bool :=
  runs.any run.isWithin ||
    Nat.beq run.stride 2 && Nat.beq run.last (run.first + 2) &&
      runs.any (isWithin ⟨run.first, run.first, 1⟩) &&
        runs.any (isWithin ⟨run.last, run.last, 1⟩)

/-- No character is covered by both runs, which pass by each other or alternate.
-/
def isApart (run other : Run) : Bool :=
  Nat.blt run.last other.first || Nat.blt other.last run.first ||
    (Nat.beq run.stride 2 || Nat.beq run.first run.last) &&
      (Nat.beq other.stride 2 || Nat.beq other.first other.last) &&
        Nat.beq ((run.first + other.first) % 2) 1

theorem covers_of_isWithin
    (hwithin : run.isWithin other = true) (hcovers : run.covers c = true) :
    other.covers c = true := by
  simp only [isWithin, Bool.and_eq_true, Bool.or_eq_true, Nat.ble_eq,
    Nat.beq_eq] at hwithin
  simp only [covers, Bool.and_eq_true, decide_eq_true_eq,
    beq_iff_eq] at hcovers ⊢
  obtain ⟨⟨hfirst, hlast⟩, hsteps | ⟨⟨htwo, hsteps⟩, heven⟩⟩ := hwithin
  · rw [hsteps]
    omega
  · rw [htwo] at hcovers
    rw [hsteps]
    omega

theorem inRuns_of_any_isWithin
    (hany : runs.any run.isWithin = true) (hcovers : run.covers c = true) :
    inRuns runs c = true := by
  obtain ⟨other, hother, hwithin⟩ := List.any_eq_true.mp hany
  exact List.any_eq_true.mpr ⟨other, hother, covers_of_isWithin hwithin hcovers⟩

theorem inRuns_of_isSpread
    (hspread : run.isSpread runs = true) (hcovers : run.covers c = true) :
    inRuns runs c = true := by
  simp only [isSpread, Bool.and_eq_true, Bool.or_eq_true, Nat.beq_eq] at hspread
  rcases hspread with hany | ⟨⟨⟨htwo, hpair⟩, hfirst⟩, hlast⟩
  · exact inRuns_of_any_isWithin hany hcovers
  · simp only [covers, Bool.and_eq_true, decide_eq_true_eq, beq_iff_eq,
      htwo] at hcovers
    have hends : c.toNat = run.first ∨ c.toNat = run.last := by omega
    rcases hends with hcode | hcode
    · exact inRuns_of_any_isWithin hfirst (by simp [covers, hcode])
    · exact inRuns_of_any_isWithin hlast (by simp [covers, hcode])

theorem not_covers_of_isApart
    (hapart : run.isApart other = true) (hcovers : run.covers c = true) :
    other.covers c = false := by
  rw [Bool.eq_false_iff]
  intro hother
  simp only [isApart, Bool.and_eq_true, Bool.or_eq_true, Nat.blt_eq,
    Nat.beq_eq] at hapart
  simp only [covers, Bool.and_eq_true, decide_eq_true_eq,
    beq_iff_eq] at hcovers hother
  rcases hapart with (hbefore | hafter) | ⟨⟨hsteps, hothers⟩, hodd⟩
  · omega
  · omega
  · have heven : (c.toNat - run.first) % 2 = 0 := by
      rcases hsteps with htwo | hsingle
      · rw [htwo] at hcovers
        exact hcovers.2
      · omega
    have hothersEven : (c.toNat - other.first) % 2 = 0 := by
      rcases hothers with htwo | hsingle
      · rw [htwo] at hother
        exact hother.2
      · omega
    omega

end Run

/-- Runs that start later do not cover an earlier character. -/
theorem inRuns_append_of_lt
    {c : Char} {bound : Nat} {later : List Run} (hc : c.toNat < bound)
    (hlater : (later.all fun run => Nat.ble bound run.first) = true)
    (runs : List Run) : inRuns (runs ++ later) c = inRuns runs c := by
  have hnone : later.any (·.covers c) = false := by
    rw [List.any_eq_false]
    intro run hrun hcovers
    have hfirst := List.all_eq_true.mp hlater run hrun
    simp only [Run.covers, Bool.and_eq_true, decide_eq_true_eq] at hcovers
    rw [Nat.ble_eq] at hfirst
    omega
  rw [inRuns, List.any_append, hnone, Bool.or_false, inRuns]

/-! ### Letters -/

/-- Each run is spread over the others.  Those that end before it are left out
for the next runs too. -/
def allSpread : List Run → List Run → Bool
  | [], _ => true
  | run :: runs, others =>
    let rest := others.dropWhile fun other => Nat.blt other.last run.first
    run.isSpread rest && allSpread runs rest

/-- Each run is apart from the others, as far as they may share a character. -/
def allApart : List Run → List Run → Bool
  | [], _ => true
  | run :: runs, others =>
    (window id run.first run.last others).all run.isApart &&
      allApart runs (others.dropWhile fun other => Nat.blt other.last run.first)

theorem inRuns_of_allSpread
    {runs others : List Run} (hspread : allSpread runs others = true) {c : Char}
    (hc : inRuns runs c = true) :
    inRuns others c = true := by
  induction runs generalizing others with
  | nil => cases hc
  | cons run runs ih =>
      simp only [allSpread, Bool.and_eq_true] at hspread
      have hrest : inRuns (others.dropWhile fun other =>
          Nat.blt other.last run.first) c = true := by
        rcases Bool.or_eq_true_iff.mp hc with hcovers | hlater
        · exact Run.inRuns_of_isSpread hspread.1 hcovers
        · exact ih hspread.2 hlater
      obtain ⟨other, hother, hcovers⟩ := List.any_eq_true.mp hrest
      exact List.any_eq_true.mpr
        ⟨other, (List.dropWhile_suffix _).subset hother, hcovers⟩

theorem isApart_of_allApart
    {runs others : List Run} {bound start : Nat}
    (hruns : ascends id bound runs = true)
    (hothers : ascends id start others = true)
    (hapart : allApart runs others = true) {run other : Run} (hrun : run ∈ runs)
    (hother : other ∈ others) :
    run.isApart other = true := by
  induction runs generalizing others bound with
  | nil => cases hrun
  | cons first runs ih =>
      simp only [allApart, Bool.and_eq_true] at hapart
      simp only [ascends, Bool.and_eq_true] at hruns
      rcases List.mem_cons.mp hrun with rfl | hlater
      · rcases lt_or_mem_window hothers run.first run.last hother with
          hbefore | hafter | hwindow
        · have hlast : other.last < run.first := hbefore
          simp [Run.isApart, hlast]
        · have hfirst : run.last < other.first := hafter
          simp [Run.isApart, hfirst]
        · exact List.all_eq_true.mp hapart.1 other hwindow
      · rcases lt_or_mem_dropWhile id first.first hother with
          hbefore | hrest
        · have hfirst := le_first_of_ascends hruns.2 hlater
          have hlast : other.last < run.first :=
            Nat.lt_of_lt_of_le hbefore hfirst
          simp [Run.isApart, hlast]
        · exact ih hruns.2 (ascends_dropWhile hothers _) hapart.2 hlater hrest

theorem uppercaseRuns_spread :
    allSpread uppercaseRuns alphanumericRuns = true := by
  decide +kernel

theorem uppercaseRuns_apart : allApart uppercaseRuns lowercaseRuns = true := by
  decide

theorem uppercaseRuns_ascend : ascends id 0 uppercaseRuns = true := by
  decide

theorem lowercaseRuns_ascend : ascends id 0 lowercaseRuns = true := by
  decide

/-- An upper-case character is a letter or number. -/
theorem isAlphanumeric_of_isUppercase
    {c : Char} (hc : isUppercase c = true) :
    isAlphanumeric c = true :=
  inRuns_of_allSpread uppercaseRuns_spread hc

/-- No character is both an upper-case and a lower-case one. -/
theorem not_isLowercase_of_isUppercase
    {c : Char} (hc : isUppercase c = true) :
    isLowercase c = false := by
  obtain ⟨run, hrun, hcovers⟩ := List.any_eq_true.mp hc
  rw [isLowercase, inRuns, List.any_eq_false]
  intro other hother
  have hapart := isApart_of_allApart uppercaseRuns_ascend lowercaseRuns_ascend
    uppercaseRuns_apart hrun hother
  rw [Run.not_covers_of_isApart hapart hcovers]
  exact Bool.false_ne_true

/-- The letters and numbers of ASCII are in the first three runs. -/
theorem isAlphanumeric_of_ascii
    {c : Char} (hc : c.toNat < 0x80) :
    isAlphanumeric c = inRuns (alphanumericRuns.take 3) c := by
  have hlater :
      ((alphanumericRuns.drop 3).all fun run => Nat.ble 0x80 run.first) =
        true := by
    decide +kernel
  rw [← inRuns_append_of_lt hc hlater, List.take_append_drop, isAlphanumeric]

theorem not_isAlphanumeric_underscore : isAlphanumeric '_' = false :=
  isAlphanumeric_of_ascii (by decide)

theorem ne_of_isAlphanumeric
    {c d : Char} (hc : isAlphanumeric c = true)
    (hd : isAlphanumeric d = false) : c ≠ d :=
  fun hsame => Bool.false_ne_true (hd.symm.trans (hsame ▸ hc))

theorem caseRuns_pass_underscore :
    (caseRuns.all fun run =>
      Nat.blt run.highest 0x5F || Nat.blt 0x5F run.lowest) = true := by
  decide

theorem underscore_mem_lowercase
    {c : Char} (hc : '_' ∈ lowercase c) :
    c = '_' := by
  have hcode : '_'.toNat = 0x5F := rfl
  rcases lowercase_cases hc with ⟨hsame, -⟩ | ⟨-, hi | hdot⟩ | ⟨run, hrun,
    hcovers, himage⟩
  · exact hsame.symm
  · exact absurd hi (by decide)
  · exact absurd hdot (by decide)
  · have hrange :=
      CaseRun.image_range (List.all_eq_true.mp caseRuns_sound run hrun) hcovers
    have hpass := List.all_eq_true.mp caseRuns_pass_underscore run hrun
    simp only [Bool.or_eq_true, Nat.blt_eq] at hpass
    rw [← himage, hcode] at hrange
    omega

end FamilyOrders.Text
