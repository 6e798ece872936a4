import FamilyOrders.Url.Host
import Mathlib.Data.List.InsertIdx
import Mathlib.Data.List.Sort
import Mathlib.Data.List.TakeWhile
import Mathlib.Tactic.Ring

/-!
# Punycode read back

A label written in Punycode is read as that label again.  While the writer
passes over the label for one code point after the other, the reader's place and
the distance the writer has noted add up to where the writer stands, counted in
steps over the characters written so far.
-/

namespace FamilyOrders.Url.Punycode

/-! ### Integers -/

def IsDigit (c : Char) : Prop :=
  ∃ d < 36, c = digitChar d

theorem digitValue?_digitChar :
    ∀ d < 36, digitValue? (digitChar d) = some d := by
  decide

theorem threshold_pos (k bias : Nat) : 0 < threshold k bias := by
  unfold threshold
  split
  · omega
  split
  · omega
  · omega

theorem threshold_le (k bias : Nat) : threshold k bias ≤ 26 := by
  unfold threshold
  split
  · omega
  split
  · omega
  · omega

theorem readInteger_digitChar
    {d : Nat} (hd : d < 36) (bias i w k : Nat) (rest : List Char) :
    readInteger bias (digitChar d :: rest) i w k =
      if d < threshold k bias then some (i + d * w, rest)
      else readInteger bias rest (i + d * w) (w * (36 - threshold k bias))
        (k + 36) := by
  rw [readInteger, digitValue?_digitChar d hd]
  rfl

/-- An integer is read back before whatever follows it. -/
theorem readInteger_writeInteger
    {fuel q : Nat} (hfuel : q < fuel) (bias i w k : Nat) (rest : List Char) :
    readInteger bias (writeInteger bias fuel k q ++ rest) i w k =
      some (i + q * w, rest) := by
  induction fuel generalizing q i w k with
  | zero => omega
  | succ fuel ih =>
      have hpos := threshold_pos k bias
      have hle := threshold_le k bias
      have hread (d : Nat) (hd : d < 36) (rest : List Char) :=
        readInteger_digitChar hd bias i w k rest
      rw [writeInteger]
      generalize threshold k bias = t at hpos hle hread ⊢
      by_cases hlast : q < t
      · rw [if_pos hlast, List.singleton_append, hread q (by omega),
          if_pos hlast]
      · have hmod : (q - t) % (36 - t) < 36 - t := Nat.mod_lt _ (by omega)
        have hless : (q - t) / (36 - t) ≤ q - t := Nat.div_le_self _ _
        have hsplit :
            t + (q - t) % (36 - t) + (q - t) / (36 - t) * (36 - t) = q := by
          have hdiv := Nat.mod_add_div' (q - t) (36 - t)
          omega
        rw [if_neg hlast, List.cons_append, hread _ (by omega),
          if_neg (by omega), ih (by omega)]
        congr 2
        calc i + (t + (q - t) % (36 - t)) * w + (q - t) / (36 - t) *
          (w * (36 - t))
            = i + (t + (q - t) % (36 - t) + (q - t) / (36 - t) * (36 - t)) *
              w := by ring
          _ = i + q * w := by rw [hsplit]

theorem isDigit_of_mem_writeInteger
    {bias fuel k q : Nat} {c : Char} (hc : c ∈ writeInteger bias fuel k q) :
    IsDigit c := by
  induction fuel generalizing k q with
  | zero => cases hc
  | succ fuel ih =>
      have hle := threshold_le k bias
      rw [writeInteger] at hc
      generalize threshold k bias = t at hle hc
      by_cases hlast : q < t
      · rw [if_pos hlast] at hc
        exact ⟨q, by omega, List.mem_singleton.mp hc⟩
      · rw [if_neg hlast] at hc
        rcases List.mem_cons.mp hc with rfl | hmem
        · have hmod : (q - t) % (36 - t) < 36 - t := Nat.mod_lt _ (by omega)
          exact ⟨_, by omega, rfl⟩
        · exact ih hmem

theorem writeInteger_ne_nil
    {fuel : Nat} (hfuel : 0 < fuel) (bias k q : Nat) :
    writeInteger bias fuel k q ≠ [] := by
  obtain ⟨fuel, rfl⟩ := Nat.exists_eq_succ_of_ne_zero hfuel.ne'
  rw [writeInteger]
  split
  · exact List.cons_ne_nil _ _
  · exact List.cons_ne_nil _ _

/-! ### Reading -/

/-- Where the reader is: what it has written, and the place it inserted at last.
-/
structure Cursor where
  out : List Char
  point : Nat
  index : Nat
  bias : Nat

/-- The place after inserting a code point a number of steps further on. -/
def Cursor.insert (cursor : Cursor) (delta : Nat) : Cursor :=
  let count := cursor.out.length + 1
  let point := cursor.point + (cursor.index + delta) / count
  let place := (cursor.index + delta) % count
  { out := cursor.out.insertIdx place (Char.ofNat point)
    point
    index := place + 1
    bias := adapt delta count (cursor.index = 0) }

/-- From this place the digits are read as that label. -/
def Spells (cursor : Cursor) (cs label : List Char) : Prop :=
  ∃ fuel, fuel ≤ cs.length + 1 ∧
    insertAll fuel cs cursor.out cursor.point cursor.index cursor.bias =
      some label

theorem Spells.nil (cursor : Cursor) : Spells cursor [] cursor.out :=
  ⟨1, Nat.le_refl _, rfl⟩

theorem insertAll_mono
    {fuel more n i bias : Nat} {cs out label : List Char}
    (hread : insertAll fuel cs out n i bias = some label)
    (hmore : fuel ≤ more) : insertAll more cs out n i bias = some label := by
  induction fuel generalizing more cs out n i bias with
  | zero => cases hread
  | succ fuel ih =>
      obtain ⟨more, rfl⟩ :=
        Nat.exists_eq_succ_of_ne_zero
          (Nat.lt_of_lt_of_le fuel.succ_pos hmore).ne'
      rw [insertAll] at hread ⊢
      by_cases hnil : cs.isEmpty
      · rw [if_pos hnil] at hread ⊢
        exact hread
      · rw [if_neg hnil] at hread ⊢
        obtain ⟨⟨next, rest⟩, hinteger, hinsert⟩ :=
          Option.bind_eq_some_iff.mp hread
        refine Option.bind_eq_some_iff.mpr ⟨⟨next, rest⟩, hinteger, ?_⟩
        dsimp only at hinsert ⊢
        split at hinsert
        · rename_i hpoint
          rw [if_pos hpoint]
          exact ih hinsert (by omega)
        · cases hinsert

theorem Spells.insert
    {cursor : Cursor} {delta : Nat} {rest label : List Char}
    (hpoint : (cursor.insert delta).point.isValidChar)
    (hspells : Spells (cursor.insert delta) rest label) :
    Spells cursor (writeInteger cursor.bias (delta + 1) 36 delta ++ rest)
      label := by
  obtain ⟨fuel, hfuel, hread⟩ := hspells
  have hdigits : writeInteger cursor.bias (delta + 1) 36 delta ≠ [] :=
    writeInteger_ne_nil (Nat.succ_pos delta) _ _ _
  have hlength := List.length_pos_iff.mpr hdigits
  refine ⟨fuel + 1, ?_, ?_⟩
  · rw [List.length_append]
    omega
  · have hnil :
      (writeInteger cursor.bias (delta + 1) 36 delta ++ rest).isEmpty =
        false := by
      rw [List.isEmpty_eq_false_iff]
      exact List.append_ne_nil_of_left_ne_nil hdigits _
    have hvalid :
        cursor.point + (cursor.index + delta) / (cursor.out.length + 1) <
          0x110000 ∧
        ¬ (0xD800 ≤ cursor.point + (cursor.index + delta) /
          (cursor.out.length + 1) ∧
          cursor.point + (cursor.index + delta) / (cursor.out.length + 1) ≤
            0xDFFF) := by
      change (cursor.point + (cursor.index + delta) /
        (cursor.out.length + 1)).isValidChar at hpoint
      unfold Nat.isValidChar at hpoint
      omega
    rw [insertAll, hnil, readInteger_writeInteger (Nat.lt_succ_self delta)]
    simp only [Bool.false_eq_true, if_false, Option.bind_eq_bind,
      Option.bind_some, Nat.mul_one, if_pos hvalid, Nat.add_sub_cancel_left]
    exact hread

/-- These digits lead the reader from one place to the other. -/
structure Leads (start finish : Cursor) (digits : List Char) : Prop where
  isDigit : ∀ c ∈ digits, IsDigit c
  spells :
    ∀ rest label, Spells finish rest label → Spells start (digits ++ rest) label

namespace Leads

theorem refl (cursor : Cursor) : Leads cursor cursor [] where
  isDigit _ hc := by cases hc
  spells _ _ hspells := hspells

theorem trans
    {start middle finish : Cursor} {earlier later : List Char}
    (hearlier : Leads start middle earlier)
    (hlater : Leads middle finish later) :
    Leads start finish (earlier ++ later) where
  isDigit := List.forall_mem_append.mpr ⟨hearlier.isDigit, hlater.isDigit⟩
  spells rest label hspells := by
    rw [List.append_assoc]
    exact hearlier.spells _ _ (hlater.spells _ _ hspells)

theorem insert
    {cursor : Cursor} {delta : Nat}
    (hpoint : (cursor.insert delta).point.isValidChar) :
    Leads cursor (cursor.insert delta)
      (writeInteger cursor.bias (delta + 1) 36 delta) where
  isDigit _ hc := isDigit_of_mem_writeInteger hc
  spells _ _ hspells := hspells.insert hpoint

end Leads

/-! ### Writing -/

/-- The reader has what the writer has handled: of the label that is `passed`
and then `ahead`, all below the code point, and the code point itself where it
was passed. -/
structure Agrees (ascii point : Nat) (passed ahead : List Char) (p : Progress)
    (cursor : Cursor) : Prop where
  out :
    cursor.out = passed.filter (·.toNat ≤ point) ++
      ahead.filter (·.toNat < point)
  handled : p.handled = cursor.out.length
  point_le : cursor.point ≤ point
  distance :
    cursor.index + p.delta =
      (point - cursor.point) * (cursor.out.length + 1) +
      (passed.filter (·.toNat ≤ point)).length
  bias : p.bias = cursor.bias
  ascii_le : ascii ≤ p.handled
  first : p.handled = ascii ↔ cursor.index = 0

theorem insertIdx_length_append
    (front back : List α) (a : α) :
    (front ++ back).insertIdx front.length a = front ++ a :: back := by
  induction front with
  | nil => cases back <;> rfl
  | cons first front ih => exact congrArg (first :: ·) ih

namespace Agrees

variable {ascii point : Nat} {passed ahead : List Char} {p : Progress}
  {cursor : Cursor} {c : Char}

/-- Where the reader goes when the writer comes upon the code point. -/
theorem insert_eq
    (hagrees : Agrees ascii point passed ahead p cursor) :
    cursor.insert p.delta =
      { out := passed.filter (·.toNat ≤ point) ++ Char.ofNat point ::
          ahead.filter (·.toNat < point)
        point
        index := (passed.filter (·.toNat ≤ point)).length + 1
        bias := adapt p.delta (p.handled + 1) (p.handled = ascii) } := by
  have hshort :
      (passed.filter (·.toNat ≤ point)).length < cursor.out.length + 1 := by
    rw [hagrees.out, List.length_append]
    omega
  have hpoint :
      cursor.point + (cursor.index + p.delta) / (cursor.out.length + 1) =
        point := by
    rw [hagrees.distance, Nat.add_comm (_ * _),
      Nat.add_mul_div_right _ _ (Nat.succ_pos _), Nat.div_eq_of_lt hshort]
    have hle := hagrees.point_le
    omega
  have hplace : (cursor.index + p.delta) % (cursor.out.length + 1) =
      (passed.filter (·.toNat ≤ point)).length := by
    rw [hagrees.distance, Nat.add_comm (_ * _), Nat.add_mul_mod_self_right,
      Nat.mod_eq_of_lt hshort]
  have hfirst : decide (cursor.index = 0) = decide (p.handled = ascii) :=
    decide_eq_decide.mpr hagrees.first.symm
  simp only [Cursor.insert, hpoint, hplace, hfirst, hagrees.handled]
  rw [hagrees.out, insertIdx_length_append]

theorem below
    (hagrees : Agrees ascii point passed (c :: ahead) p cursor)
    (hc : c.toNat < point) :
    Agrees ascii point (passed ++ [c]) ahead
      { p with delta := p.delta + 1 } cursor where
  out := by simp [hagrees.out, hc, Nat.le_of_lt hc]
  handled := hagrees.handled
  point_le := hagrees.point_le
  distance := by
    have hdistance := hagrees.distance
    simp only [List.filter_append, List.filter_singleton, Nat.le_of_lt hc,
      decide_true, cond_true, List.length_append, List.length_singleton]
    omega
  bias := hagrees.bias
  ascii_le := hagrees.ascii_le
  first := hagrees.first

theorem above
    (hagrees : Agrees ascii point passed (c :: ahead) p cursor)
    (hc : point < c.toNat) :
    Agrees ascii point (passed ++ [c]) ahead p cursor where
  out := by simp [hagrees.out, hc, Nat.not_lt_of_gt hc]
  handled := hagrees.handled
  point_le := hagrees.point_le
  distance := by simp [hagrees.distance, hc]
  bias := hagrees.bias
  ascii_le := hagrees.ascii_le
  first := hagrees.first

theorem here
    (hagrees : Agrees ascii c.toNat passed (c :: ahead) p cursor) :
    Agrees ascii c.toNat (passed ++ [c]) ahead
      { out := p.out ++ writeInteger p.bias (p.delta + 1) 36 p.delta
        delta := 0
        bias := adapt p.delta (p.handled + 1) (p.handled = ascii)
        handled := p.handled + 1 }
      (cursor.insert p.delta) := by
  have hout := hagrees.out
  have hhandled := hagrees.handled
  have hleast := hagrees.ascii_le
  rw [hagrees.insert_eq]
  constructor
  case out => simp
  case handled =>
    rw [hhandled, hout]
    simp [Nat.add_assoc]
  case point_le => exact Nat.le_refl _
  case distance => simp
  case bias => rfl
  case ascii_le => exact Nat.le_succ_of_le hleast
  case first =>
    refine iff_of_false ?_ (Nat.succ_ne_zero _)
    dsimp only
    omega

/-- One character of the label. -/
theorem step
    (hagrees : Agrees ascii point passed (c :: ahead) p cursor) :
    ∃ digits next, (step ascii point p c).out = p.out ++ digits ∧
    Leads cursor next digits ∧
      Agrees ascii point (passed ++ [c]) ahead (step ascii point p c) next := by
  unfold Punycode.step
  rcases Nat.lt_trichotomy c.toNat point with hless | rfl | hmore
  · rw [if_pos hless]
    exact ⟨[], cursor, (List.append_nil _).symm, .refl cursor,
      hagrees.below hless⟩
  · have hvalid : (cursor.insert p.delta).point.isValidChar := by
      rw [hagrees.insert_eq]
      exact c.valid
    have hleads := Leads.insert hvalid
    rw [if_neg (Nat.lt_irrefl _), if_pos rfl]
    rw [← hagrees.bias] at hleads
    exact ⟨_, _, rfl, hleads, hagrees.here⟩
  · rw [if_neg (Nat.not_lt_of_gt hmore), if_neg hmore.ne']
    exact ⟨[], cursor, (List.append_nil _).symm, .refl cursor,
      hagrees.above hmore⟩

theorem foldl
    (hagrees : Agrees ascii point passed ahead p cursor) :
    ∃ digits next,
      (ahead.foldl (Punycode.step ascii point) p).out = p.out ++ digits ∧
      Leads cursor next digits ∧
      Agrees ascii point (passed ++ ahead) []
        (ahead.foldl (Punycode.step ascii point) p) next := by
  induction ahead generalizing passed p cursor with
  | nil =>
      rw [List.append_nil]
      exact ⟨[], cursor, (List.append_nil _).symm, .refl cursor, hagrees⟩
  | cons c ahead ih =>
      obtain ⟨earlier, middle, hearlier, hfirst, hstep⟩ := hagrees.step
      obtain ⟨later, finish, hlater, hrest, hall⟩ := ih hstep
      rw [List.append_assoc] at hall
      refine ⟨earlier ++ later, finish, ?_, hfirst.trans hrest, hall⟩
      rw [List.foldl_cons, hlater, hearlier, List.append_assoc]

end Agrees

/-- What is done for one code point: the distance to it is added, and the label
is passed over. -/
def passOver (label : List Char) (ascii : Nat) (state : Progress × Nat)
    (n : Nat) : Progress × Nat :=
  let p :=
    { state.1 with
      delta := state.1.delta + (n - state.2) * (state.1.handled + 1) }
  let p := label.foldl (step ascii n) p
  ({ p with delta := p.delta + 1 }, n + 1)

section Label

variable {label : List Char} {ascii point n : Nat} {p : Progress}
  {cursor : Cursor}

theorem Agrees.advance
    (hagrees : Agrees ascii point [] label p cursor) (hle : point ≤ n)
    (hgap : ∀ c ∈ label, c.toNat < point ∨ n ≤ c.toNat) :
    Agrees ascii n [] label
      { p with delta := p.delta + (n - point) * (p.handled + 1) }
      cursor where
  out := by
    rw [hagrees.out, List.filter_nil, List.filter_nil, List.nil_append,
      List.nil_append]
    apply List.filter_congr
    intro c hc
    have hside := hgap c hc
    exact decide_eq_decide.mpr (by omega)
  handled := hagrees.handled
  point_le := Nat.le_trans hagrees.point_le hle
  distance := by
    have hdistance := hagrees.distance
    have hpoint := hagrees.point_le
    have hsum : n - cursor.point = (point - cursor.point) + (n - point) := by
      omega
    simp only [List.filter_nil, List.length_nil] at hdistance ⊢
    rw [hsum, Nat.add_mul, hagrees.handled]
    omega
  bias := hagrees.bias
  ascii_le := hagrees.ascii_le
  first := hagrees.first

/-- At the end of the label the next code point is one turn of steps away. -/
theorem Agrees.finish
    (hagrees : Agrees ascii n label [] p cursor) :
    Agrees ascii (n + 1) [] label { p with delta := p.delta + 1 } cursor where
  out := by
    simp only [hagrees.out, List.filter_nil, List.nil_append, List.append_nil,
      Nat.lt_succ_iff]
  handled := hagrees.handled
  point_le := Nat.le_succ_of_le hagrees.point_le
  distance := by
    have hdistance := hagrees.distance
    have hpoint := hagrees.point_le
    have hout := congrArg List.length hagrees.out
    have hsum : n + 1 - cursor.point = (n - cursor.point) + 1 := by omega
    simp only [List.filter_nil, List.append_nil, List.length_nil] at hout ⊢
    rw [hsum, Nat.add_mul]
    omega
  bias := hagrees.bias
  ascii_le := hagrees.ascii_le
  first := hagrees.first

theorem Agrees.passOver
    (hagrees : Agrees ascii point [] label p cursor) (hle : point ≤ n)
    (hgap : ∀ c ∈ label, c.toNat < point ∨ n ≤ c.toNat) :
    ∃ digits next, (passOver label ascii (p, point) n).1.out = p.out ++ digits ∧
      Leads cursor next digits ∧
      Agrees ascii (n + 1) [] label
        (Punycode.passOver label ascii (p, point) n).1 next := by
  obtain ⟨digits, next, hout, hleads, hall⟩ := (hagrees.advance hle hgap).foldl
  exact ⟨digits, next, hout, hleads, hall.finish⟩

theorem Agrees.passOverAll
    {points : List Nat} (hagrees : Agrees ascii point [] label p cursor)
    (hsorted : points.Pairwise (· < ·)) (hleast : ∀ n ∈ points, point ≤ n)
    (hall : ∀ c ∈ label, c.toNat < point ∨ c.toNat ∈ points) :
    ∃ digits next,
      (points.foldl (Punycode.passOver label ascii) (p, point)).1.out =
        p.out ++ digits ∧
      Leads cursor next digits ∧ next.out = label := by
  induction points generalizing point p cursor with
  | nil =>
      refine ⟨[], cursor, (List.append_nil _).symm, .refl cursor, ?_⟩
      rw [hagrees.out, List.filter_nil, List.nil_append, List.filter_eq_self]
      intro c hc
      simpa using hall c hc
  | cons n points ih =>
      obtain ⟨hfirst, hrest⟩ := List.pairwise_cons.mp hsorted
      have hgap : ∀ c ∈ label, c.toNat < point ∨ n ≤ c.toNat := by
        intro c hc
        rcases hall c hc with hbelow | hmem
        · exact .inl hbelow
        · rcases List.mem_cons.mp hmem with heq | hlater
          · exact .inr (Nat.le_of_eq heq.symm)
          · exact .inr (Nat.le_of_lt (hfirst _ hlater))
      obtain ⟨earlier, middle, hearlier, hleads, hpassed⟩ :=
        hagrees.passOver (hleast n List.mem_cons_self) hgap
      have hleft : ∀ c ∈ label, c.toNat < n + 1 ∨ c.toNat ∈ points := by
        intro c hc
        rcases hall c hc with hbelow | hmem
        · have hn := hleast n List.mem_cons_self
          exact .inl (by omega)
        · exact (List.mem_cons.mp hmem).imp (fun heq => by omega) id
      obtain ⟨later, finish, hlater, hends, hout⟩ :=
        ih hpassed hrest hfirst hleft
      refine ⟨earlier ++ later, finish, ?_, hleads.trans hends, hout⟩
      rw [List.foldl_cons]
      change (points.foldl (Punycode.passOver label ascii)
        ((Punycode.passOver label ascii (p, point) n).1, n + 1)).1.out = _
      rw [hlater, hearlier, List.append_assoc]

end Label

/-! ### Whole labels -/

theorem pairwise_eraseDups
    {points : List Nat} (hsorted : points.Pairwise (· ≤ ·)) :
    points.eraseDups.Pairwise (· < ·) := by
  induction hlength :
    points.length using Nat.strongRecOn generalizing points with
  | ind length ih =>
      cases points with
      | nil => exact .nil
      | cons n points =>
          obtain ⟨hfirst, hrest⟩ := List.pairwise_cons.mp hsorted
          have hshort : (points.filter fun m => !m == n).length < length := by
            rw [← hlength]
            exact Nat.lt_succ_of_le (List.length_filter_le _ _)
          rw [List.eraseDups_cons]
          refine .cons ?_ (ih _ hshort (hrest.filter _) rfl)
          intro m hm
          obtain ⟨hmem, hne⟩ := List.mem_filter.mp (List.mem_eraseDups.mp hm)
          have hle := hfirst m hmem
          simp only [Bool.not_eq_true', beq_eq_false_iff_ne, ne_eq] at hne
          omega

theorem pairwise_pointsOf (label : List Char) :
    (pointsOf label).Pairwise (· < ·) := by
  apply pairwise_eraseDups
  apply (List.pairwise_mergeSort _ _ _).imp
  · exact fun hle => of_decide_eq_true hle
  · intro a b c hab hbc
    simp only [decide_eq_true_eq] at hab hbc ⊢
    exact Nat.le_trans hab hbc
  · intro a b
    simp only [Bool.or_eq_true, decide_eq_true_eq]
    exact Nat.le_total a b

theorem mem_pointsOf
    {label : List Char} {n : Nat} :
    n ∈ pointsOf label ↔ 0x80 ≤ n ∧ ∃ c ∈ label, c.toNat = n := by
  simp [pointsOf, List.mem_eraseDups, List.mem_mergeSort, and_comm]

/-- The ASCII characters of a label. -/
def asciiOf (label : List Char) : List Char :=
  label.filter (·.toNat < 0x80)

theorem encode_eq (label : List Char) :
    ∃ digits next,
      encode label =
        (if (asciiOf label).isEmpty then [] else asciiOf label ++ ['-']) ++
        digits ∧
      Leads ⟨asciiOf label, 0x80, 0, 72⟩ next digits ∧ next.out = label := by
  let start : Progress :=
    { out := if (asciiOf label).isEmpty then [] else asciiOf label ++ ['-']
      delta := 0
      bias := 72
      handled := (asciiOf label).length }
  have hstart :
      Agrees (asciiOf label).length 0x80 [] label start ⟨asciiOf label, 0x80, 0,
        72⟩ := by
    constructor
    case out => rfl
    case handled => rfl
    case point_le => exact Nat.le_refl _
    case distance => simp [start]
    case bias => rfl
    case ascii_le => exact Nat.le_refl _
    case first => exact iff_of_true rfl rfl
  apply hstart.passOverAll (pairwise_pointsOf label)
  · exact fun n hn => (mem_pointsOf.mp hn).1
  · intro c hc
    by_cases hascii : c.toNat < 0x80
    · exact .inl hascii
    · exact .inr (mem_pointsOf.mpr ⟨by omega, c, hc, rfl⟩)

theorem IsDigit.ne_hyphen
    {c : Char} (hc : IsDigit c) :
    c ≠ '-' := by
  obtain ⟨d, hd, rfl⟩ := hc
  revert d
  decide

/-- The text before the last hyphen and after it. -/
theorem decode?_of_append
    {ascii digits : List Char} (hascii : ∀ c ∈ ascii, c.toNat < 0x80)
    (hdigits : ∀ c ∈ digits, IsDigit c) :
    decode? ((if ascii.isEmpty then [] else ascii ++ ['-']) ++ digits) =
      insertAll (digits.length + 1) digits ascii 0x80 0 72 := by
  have hplain : ∀ c ∈ digits.reverse, decide (c ≠ '-') = true := by
    intro c hc
    exact decide_eq_true (hdigits c (List.mem_reverse.mp hc)).ne_hyphen
  have hall : ascii.all (·.toNat < 0x80) = true := by simpa using hascii
  cases ascii with
  | nil =>
      have htail : digits.reverse.takeWhile (· ≠ '-') = digits.reverse :=
        List.takeWhile_eq_self_iff.mpr hplain
      simp only [decode?, List.isEmpty_nil, if_true, List.nil_append, htail,
        List.reverse_reverse, Nat.sub_self, List.take_zero, List.dropLast_nil,
          hall]
  | cons first rest =>
      have hnotEmpty : (first :: rest).isEmpty = false := rfl
      generalize first :: rest = ascii at hall hnotEmpty
      have htail :
          (ascii ++ ['-'] ++ digits).reverse.takeWhile (· ≠ '-') =
            digits.reverse := by
        rw [List.reverse_append, List.reverse_append,
          List.takeWhile_append_of_pos hplain]
        simp
      have hhead : ((ascii ++ ['-'] ++ digits).take
          ((ascii ++ ['-'] ++ digits).length - digits.length)).dropLast =
            ascii := by
        rw [List.length_append, Nat.add_sub_cancel, List.take_left,
          List.dropLast_concat]
      simp only [decode?, hnotEmpty, Bool.false_eq_true, if_false, htail,
        List.reverse_reverse, hhead, hall, if_true]

@[simp] theorem decode?_encode (label : List Char) :
    decode? (encode label) = some label := by
  obtain ⟨digits, next, hencode, hleads, hout⟩ := encode_eq label
  have hascii : ∀ c ∈ asciiOf label, c.toNat < 0x80 := by
    intro c hc
    simpa using (List.mem_filter.mp hc).2
  have hspells := hleads.spells [] label (hout ▸ Spells.nil next)
  obtain ⟨fuel, hfuel, hread⟩ := hspells
  rw [List.append_nil] at hfuel hread
  rw [hencode, decode?_of_append hascii hleads.isDigit]
  exact insertAll_mono hread hfuel

end FamilyOrders.Url.Punycode
