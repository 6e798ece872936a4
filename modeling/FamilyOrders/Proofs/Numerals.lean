import FamilyOrders.Case.Basic
import FamilyOrders.Text.Characters
import Mathlib.Algebra.Group.Nat.Defs

/-!
# Numerals and their groups

Texts taken apart at their separators, numerals, and the case number, which is a
numeral in groups.
-/

namespace FamilyOrders.Text

/-! ## Separators

Parts that hold no separator are found again in what they were joined to, as
what `List.splitOnP` leaves between the separators.  Nothing else stands there,
and without the separators the joined parts are the parts one after the other.
-/

variable {α : Type} {isMark : α → Bool} {mark a : α} {part first xs : List α}
  {parts more : List (List α)}

/-- Two texts come apart in the same way at the first place where a mark stands.
-/
theorem append_mark_inj
    {a b x y : List α} (ha : mark ∉ a) (hb : mark ∉ b)
    (hsame : a ++ mark :: x = b ++ mark :: y) : a = b ∧ x = y := by
  rcases List.append_eq_append_iff.mp hsame with ⟨more, rfl, hrest⟩ | ⟨more,
    rfl, hrest⟩
  · cases more with
    | nil => exact ⟨(List.append_nil a).symm, (List.cons.inj hrest).2⟩
    | cons c more =>
        cases hrest
        exact absurd (List.mem_append_right a List.mem_cons_self) hb
  · cases more with
    | nil => exact ⟨List.append_nil b, (List.cons.inj hrest).2.symm⟩
    | cons c more =>
        cases hrest
        exact absurd (List.mem_append_right b List.mem_cons_self) ha

theorem splitOnP_joined
    (hmark : isMark mark = true)
    (hparts : ∀ part ∈ first :: more, ∀ a ∈ part, isMark a = false) :
    (first ++ more.flatMap (mark :: ·)).splitOnP isMark = first :: more := by
  induction more generalizing first with
  | nil =>
      rw [List.flatMap_nil, List.append_nil]
      exact List.splitOnP_eq_singleton (hparts first List.mem_cons_self)
  | cons second more ih =>
      obtain ⟨hfirst, hmore⟩ := List.forall_mem_cons.mp hparts
      rw [List.flatMap_cons, List.cons_append,
        List.splitOnP_append_cons_of_forall_mem hfirst mark hmark, ih hmore]

theorem of_mem_splitOnP
    (hpart : part ∈ xs.splitOnP isMark) (ha : a ∈ part) :
    a ∈ xs ∧ isMark a = false := by
  induction xs generalizing part with
  | nil =>
      rw [List.mem_singleton.mp hpart] at ha
      cases ha
  | cons x xs ih =>
      obtain ⟨here, later, hsplit⟩ :=
        List.exists_cons_of_ne_nil (List.splitOnP_ne_nil isMark xs)
      rw [List.splitOnP_cons_eq_if_modifyHead] at hpart
      by_cases hx : isMark x = true
      · rw [if_pos hx] at hpart
        rcases List.mem_cons.mp hpart with rfl | hlater
        · cases ha
        · exact (ih hlater ha).imp_left (List.mem_cons_of_mem x)
      · rw [if_neg hx, hsplit, List.modifyHead_cons] at hpart
        rw [hsplit] at ih
        rcases List.mem_cons.mp hpart with rfl | hlater
        · rcases List.mem_cons.mp ha with rfl | hrest
          · exact ⟨List.mem_cons_self, Bool.not_eq_true _ ▸ hx⟩
          · exact (ih List.mem_cons_self hrest).imp_left
              (List.mem_cons_of_mem x)
        · exact (ih (List.mem_cons_of_mem _ hlater) ha).imp_left
            (List.mem_cons_of_mem x)

theorem eq_or_mem_of_mem_intercalate
    (ha : a ∈ [mark].intercalate parts) :
    a = mark ∨ ∃ part ∈ parts, a ∈ part := by
  induction parts with
  | nil => cases ha
  | cons part more ih =>
      cases more with
      | nil => exact .inr ⟨part, List.mem_cons_self, by simpa using ha⟩
      | cons next more =>
          rw [List.intercalate_cons_cons, List.append_assoc,
            List.singleton_append, List.mem_append, List.mem_cons] at ha
          rcases ha with hhere | rfl | hthere
          · exact .inr ⟨part, List.mem_cons_self, hhere⟩
          · exact .inl rfl
          · refine (ih hthere).imp id ?_
            rintro ⟨other, hother, hmem⟩
            exact ⟨other, List.mem_cons_of_mem _ hother, hmem⟩

theorem filter_intercalate
    [DecidableEq α] (hparts : ∀ part ∈ parts, mark ∉ part) :
    ([mark].intercalate parts).filter (· ≠ mark) = parts.flatten := by
  induction parts with
  | nil => rfl
  | cons part more ih =>
      obtain ⟨hpart, hmore⟩ := List.forall_mem_cons.mp hparts
      have hkept : part.filter (· ≠ mark) = part := by
        rw [List.filter_eq_self]
        intro a ha
        exact decide_eq_true (ne_of_mem_of_not_mem ha hpart)
      cases more with
      | nil => rw [List.intercalate_singleton, List.flatten_singleton, hkept]
      | cons next more =>
          rw [List.intercalate_cons_cons, List.filter_append,
            List.filter_append, hkept, ih hmore]
          simp

/-! ## Numerals and their groups

A numeral holds nothing but digits, also where it is filled up with zeros, and
gives its number back.  What is cut into groups is all there, in groups that are
full but for the last one. -/

/-! ### Digits -/

section Digits

variable {c : Char} {width m n : Nat}

theorem isDigit_of_mem_digits
    (hc : c ∈ digits n) :
    c.isDigit = true :=
  Nat.isDigit_of_mem_toDigits (by decide) (by decide) hc

theorem isDigit_of_mem_paddedDigits
    (hc : c ∈ paddedDigits width n) :
    c.isDigit = true := by
  rcases List.mem_append.mp hc with hzero | hdigit
  · rw [List.eq_of_mem_replicate hzero]
    rfl
  · exact isDigit_of_mem_digits hdigit

theorem notMem_digits
    (hc : c.isDigit = false) (n : Nat) :
    c ∉ digits n := by
  intro hmem
  rw [isDigit_of_mem_digits hmem] at hc
  contradiction

theorem notMem_paddedDigits
    (hc : c.isDigit = false) (width n : Nat) :
    c ∉ paddedDigits width n := by
  intro hmem
  rw [isDigit_of_mem_paddedDigits hmem] at hc
  contradiction

theorem paddedDigits_ne_nil
    (width n : Nat) :
    paddedDigits width n ≠ [] :=
  List.append_ne_nil_of_right_ne_nil _ Nat.toDigits_ne_nil

theorem length_digits_le_iff
    (hwidth : 0 < width) :
    (digits n).length ≤ width ↔ n < 10 ^ width :=
  Nat.length_toDigits_le_iff (by decide) hwidth

theorem le_length_paddedDigits
    (width n : Nat) :
    width ≤ (paddedDigits width n).length := by
  rw [paddedDigits, List.length_append, List.length_replicate]
  omega

/-- The zeros fill up the given width and do not go beyond it. -/
theorem length_paddedDigits_le_iff
    {more : Nat} (hwidth : 0 < width) (hmore : width ≤ more) :
    (paddedDigits width n).length ≤ more ↔ n < 10 ^ more := by
  rw [← length_digits_le_iff (Nat.lt_of_lt_of_le hwidth hmore), paddedDigits,
    List.length_append, List.length_replicate]
  omega

theorem length_paddedDigits
    (hwidth : 0 < width) (hn : n < 10 ^ width) :
    (paddedDigits width n).length = width := by
  apply Nat.le_antisymm
  · exact (length_paddedDigits_le_iff hwidth (Nat.le_refl width)).mpr hn
  · exact le_length_paddedDigits width n

@[simp] theorem digitsValue_paddedDigits
    (width n : Nat) :
    digitsValue (paddedDigits width n) = n := by
  rw [digitsValue, paddedDigits, Nat.ofDigitChars_append,
    Nat.ofDigitChars_replicate_zero, Nat.mul_zero]
  exact Nat.ofDigitChars_ten_toDigits

theorem digits_injective
    (hdigits : digits m = digits n) :
    m = n := by
  have hvalue := congrArg digitsValue hdigits
  simpa only [digitsValue, digits, Nat.ofDigitChars_ten_toDigits] using hvalue

theorem paddedDigits_injective
    (hdigits : paddedDigits width m = paddedDigits width n) :
    m = n := by
  have hvalue := congrArg digitsValue hdigits
  simpa only [digitsValue_paddedDigits] using hvalue

end Digits

/-! ### Groups -/

section Groups

variable {α : Type} {size : Nat} {group : List α}

theorem flatten_inGroups
    (size : Nat) (xs : List α) :
    (inGroups size xs).flatten = xs := by
  fun_induction inGroups size xs with
  | case1 => rfl
  | case2 x xs ih =>
      rw [List.flatten_cons, ih, List.cons_append, List.take_append_drop]

theorem inGroups_eq_nil_iff
    {xs : List α} :
    inGroups size xs = [] ↔ xs = [] := by
  cases xs with
  | nil => simp [inGroups]
  | cons x xs => simp [inGroups]

theorem ne_nil_of_mem_inGroups
    {xs : List α} (hgroup : group ∈ inGroups size xs) :
    group ≠ [] := by
  fun_induction inGroups size xs with
  | case1 => cases hgroup
  | case2 x xs ih =>
      rcases List.mem_cons.mp hgroup with rfl | hlater
      · exact List.cons_ne_nil _ _
      · exact ih hlater

theorem length_le_of_mem_inGroups
    {xs : List α} (hsize : 0 < size) (hgroup : group ∈ inGroups size xs) :
    group.length ≤ size := by
  fun_induction inGroups size xs with
  | case1 => cases hgroup
  | case2 x xs ih =>
      rcases List.mem_cons.mp hgroup with rfl | hlater
      · rw [List.length_cons, List.length_take]
        omega
      · exact ih hlater

/-- A group after which another one comes is full. -/
theorem length_of_mem_dropLast_inGroups
    {xs : List α} (hsize : 0 < size)
    (hgroup : group ∈ (inGroups size xs).dropLast) : group.length = size := by
  fun_induction inGroups size xs with
  | case1 => cases hgroup
  | case2 x xs ih =>
      by_cases hmore : inGroups size (xs.drop (size - 1)) = []
      · rw [hmore] at hgroup
        cases hgroup
      rw [List.dropLast_cons_of_ne_nil hmore] at hgroup
      rcases List.mem_cons.mp hgroup with rfl | hlater
      · have hrest : 0 < (xs.drop (size - 1)).length :=
          List.length_pos_iff.mpr fun hnone =>
            hmore (inGroups_eq_nil_iff.mpr hnone)
        rw [List.length_drop] at hrest
        rw [List.length_cons, List.length_take]
        omega
      · exact ih hlater

theorem length_inGroups
    (hsize : 0 < size) (xs : List α) :
    (inGroups size xs).length = (xs.length + size - 1) / size := by
  fun_induction inGroups size xs with
  | case1 =>
      rw [List.length_nil, List.length_nil, Nat.div_eq_of_lt]
      omega
  | case2 x xs ih =>
      have hall : xs.length + 1 + size - 1 = xs.length + size := by omega
      rw [List.length_cons, ih, List.length_drop, List.length_cons, hall,
        Nat.add_div_right _ hsize]
      by_cases hfull : size - 1 ≤ xs.length
      · have hrest : xs.length - (size - 1) + size - 1 = xs.length := by omega
        rw [hrest]
      · have hnone : xs.length - (size - 1) + size - 1 = size - 1 := by omega
        rw [hnone, Nat.div_eq_of_lt (by omega), Nat.div_eq_of_lt (by omega)]

/-- All groups are full exactly when the elements fill them. -/
theorem forall_length_inGroups_iff
    (hsize : 0 < size) (xs : List α) :
    (∀ group ∈ inGroups size xs, group.length = size) ↔ size ∣ xs.length := by
  fun_induction inGroups size xs with
  | case1 => simp
  | case2 x xs ih =>
      rw [List.forall_mem_cons, ih, List.length_cons, List.length_take,
        List.length_drop, List.length_cons]
      by_cases hfull : size - 1 ≤ xs.length
      · have hfirst : min (size - 1) xs.length + 1 = size := by omega
        have hall : xs.length + 1 = xs.length - (size - 1) + size := by omega
        rw [hall, Nat.dvd_add_left (Nat.dvd_refl size)]
        exact and_iff_right hfirst
      · constructor
        · rintro ⟨hfirst, -⟩
          omega
        · intro hdivides
          have hle := Nat.le_of_dvd (Nat.succ_pos _) hdivides
          omega

end Groups

end FamilyOrders.Text

namespace FamilyOrders

open FamilyOrders.Text

/-! ## Printed case numbers read back

Without its hyphens a printed case number is the numeral of the identifier, with
sixteen digits or with as many more as the identifier needs.  Between the
hyphens stand groups of four digits, and only the last one of a case number with
more than sixteen digits may be shorter. -/

/-- What is left of a printed case number without its hyphens. -/
def bareDigits (printed : String) : List Char :=
  printed.toList.filter (· ≠ '-')

/-- What stands before, between and after the hyphens of a printed case number.
-/
def printedGroups (printed : String) : List (List Char) :=
  printed.toList.splitOn '-'

/-! ### Digits and groups -/

theorem isDigit_of_mem_group
    {id : UInt64} {group : List Char} {c : Char}
    (hgroup : group ∈ inGroups 4 (paddedDigits 16 id.toNat)) (hc : c ∈ group) :
    c.isDigit = true := by
  apply isDigit_of_mem_paddedDigits (n := id.toNat)
  rw [← flatten_inGroups 4 (paddedDigits 16 id.toNat)]
  exact List.mem_flatten.mpr ⟨group, hgroup, hc⟩

theorem hyphen_notMem_group
    {id : UInt64} {group : List Char}
    (hgroup : group ∈ inGroups 4 (paddedDigits 16 id.toNat)) : '-' ∉ group := by
  intro hhyphen
  have hdigit := isDigit_of_mem_group hgroup hhyphen
  contradiction

theorem bareDigits_caseNumber (id : UInt64) :
    bareDigits (caseNumber id) = paddedDigits 16 id.toNat := by
  rw [bareDigits, caseNumber, String.toList_ofList, caseNumberChars,
    filter_intercalate fun _ => hyphen_notMem_group, flatten_inGroups]

theorem printedGroups_caseNumber (id : UInt64) :
    printedGroups (caseNumber id) = inGroups 4 (paddedDigits 16 id.toNat) := by
  have hsome : inGroups 4 (paddedDigits 16 id.toNat) ≠ [] := by
    rw [Ne, inGroups_eq_nil_iff]
    exact paddedDigits_ne_nil 16 id.toNat
  rw [printedGroups, caseNumber, String.toList_ofList, caseNumberChars,
    List.splitOn_intercalate '-' (fun _ => hyphen_notMem_group) hsome]

/-! ### Counts -/

/-- Identifiers are numbers of 64 bits, so twenty digits hold each of them. -/
theorem length_numeral_le (id : UInt64) :
    (paddedDigits 16 id.toNat).length ≤ 20 := by
  have hbits : id.toNat < 2 ^ 64 := id.toNat_lt
  rw [length_paddedDigits_le_iff (by decide) (by decide)]
  omega

theorem length_printedGroups (id : UInt64) :
    (printedGroups (caseNumber id)).length =
      if id.toNat < 10 ^ 16 then 4 else 5 := by
  have hleast := le_length_paddedDigits 16 id.toNat
  have hmost := length_numeral_le id
  have hsixteen : (paddedDigits 16 id.toNat).length ≤ 16 ↔ id.toNat < 10 ^ 16 :=
    length_paddedDigits_le_iff (by decide) (by decide)
  rw [printedGroups_caseNumber, length_inGroups (by decide)]
  split <;> omega

/-- Numerals of sixteen and of twenty digits fill their groups. -/
theorem forall_length_printedGroups_iff (id : UInt64) :
    (∀ group ∈ printedGroups (caseNumber id), group.length = 4) ↔
      id.toNat < 10 ^ 16 ∨ 10 ^ 19 ≤ id.toNat := by
  have hleast := le_length_paddedDigits 16 id.toNat
  have hmost := length_numeral_le id
  have hsixteen : (paddedDigits 16 id.toNat).length ≤ 16 ↔ id.toNat < 10 ^ 16 :=
    length_paddedDigits_le_iff (by decide) (by decide)
  have hnineteen : (paddedDigits 16 id.toNat).length ≤ 19 ↔
      id.toNat < 10 ^ 19 :=
    length_paddedDigits_le_iff (by decide) (by decide)
  rw [printedGroups_caseNumber, forall_length_inGroups_iff (by decide)]
  omega

theorem caseNumber_inj
    {first second : UInt64} :
    caseNumber first = caseNumber second ↔ first = second := by
  constructor
  · intro hprinted
    have hdigits := congrArg bareDigits hprinted
    rw [bareDigits_caseNumber, bareDigits_caseNumber] at hdigits
    exact UInt64.toNat_inj.mp (paddedDigits_injective hdigits)
  · rintro rfl
    rfl

/-! ### Reading back -/

/-- How a case is printed by its identifier, and the identifier found again in
what is printed. -/
structure CaseNumberLaw (id : UInt64) : Prop where
  isDigit :
    ∀ c ∈ bareDigits (caseNumber id), c.isDigit = true
  value :
    digitsValue (bareDigits (caseNumber id)) = id.toNat
  sixteen_digits :
    16 ≤ (bareDigits (caseNumber id)).length
  no_more_digits :
    ∀ count ≥ 16, (bareDigits (caseNumber id)).length ≤ count ↔
      id.toNat < 10 ^ count
  group_isDigit :
    ∀ group ∈ printedGroups (caseNumber id), ∀ c ∈ group, c.isDigit = true
  group_ne_nil :
    ∀ group ∈ printedGroups (caseNumber id), group ≠ []
  group_le :
    ∀ group ∈ printedGroups (caseNumber id), group.length ≤ 4
  group_full :
    ∀ group ∈ (printedGroups (caseNumber id)).dropLast, group.length = 4
  all_full_iff :
    (∀ group ∈ printedGroups (caseNumber id), group.length = 4) ↔
      id.toNat < 10 ^ 16 ∨ 10 ^ 19 ≤ id.toNat
  count_groups :
    (printedGroups (caseNumber id)).length = if id.toNat < 10 ^ 16 then 4 else 5
  told_apart :
    ∀ other, caseNumber id = caseNumber other ↔ id = other

theorem caseNumberLaw (id : UInt64) : CaseNumberLaw id := by
  constructor
  case isDigit =>
    rw [bareDigits_caseNumber]
    exact fun _ => isDigit_of_mem_paddedDigits
  case value => rw [bareDigits_caseNumber, digitsValue_paddedDigits]
  case sixteen_digits =>
    rw [bareDigits_caseNumber]
    exact le_length_paddedDigits 16 id.toNat
  case no_more_digits =>
    rw [bareDigits_caseNumber]
    exact fun count => length_paddedDigits_le_iff (by decide)
  case group_isDigit =>
    rw [printedGroups_caseNumber]
    exact fun _ hgroup _ => isDigit_of_mem_group hgroup
  case group_ne_nil =>
    rw [printedGroups_caseNumber]
    exact fun _ => ne_nil_of_mem_inGroups
  case group_le =>
    rw [printedGroups_caseNumber]
    exact fun _ => length_le_of_mem_inGroups (by decide)
  case group_full =>
    rw [printedGroups_caseNumber]
    exact fun _ => length_of_mem_dropLast_inGroups (by decide)
  case all_full_iff => exact forall_length_printedGroups_iff id
  case count_groups => exact length_printedGroups id
  case told_apart => exact fun other => caseNumber_inj

/-- Seventeen digits leave a group of one. -/
example : caseNumber 12345678901234567 = "1234-5678-9012-3456-7" := by cbv

end FamilyOrders
