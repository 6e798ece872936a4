import FamilyOrders.Proofs.Urls.DomainNames
import Mathlib.Data.Nat.Digits.Defs

/-!
# Addresses read back

IPv4 and IPv6 addresses are read as the numbers that they were written for.
What is left out of an IPv6 address at the double colon is a run of zeros, which
the reader puts back.
-/

namespace FamilyOrders.Url

open FamilyOrders.Text

/-! ### Bytes -/

theorem ipv4Number?_toDigits :
    ∀ n < 256, ipv4Number? (Nat.toDigits 10 n) = some n := by
  decide +kernel

/-- The four bytes of an address, the highest first. -/
def bytesOf (address : Nat) : List Nat :=
  [16777216, 65536, 256, 1].map fun unit => address / unit % 256

theorem lt_of_mem_bytesOf
    {address n : Nat} (hn : n ∈ bytesOf address) :
    n < 256 := by
  obtain ⟨unit, -, rfl⟩ := List.mem_map.mp hn
  exact Nat.mod_lt _ (by decide)

def dottedLabels (address : Nat) : List (List Char) :=
  (bytesOf address).map (Nat.toDigits 10)

theorem chars_ipv4 (address : Nat) :
    (Host.ipv4 address).chars = ['.'].intercalate (dottedLabels address) := by
  simp [Host.chars, dottedLabels, bytesOf]

theorem isDigit_of_mem_dottedLabels
    {address : Nat} {label : List Char}
    (hlabel : label ∈ dottedLabels address) :
    label ≠ [] ∧ ∀ c ∈ label, c.isDigit = true := by
  obtain ⟨n, -, rfl⟩ := List.mem_map.mp hlabel
  exact ⟨Nat.toDigits_ne_nil,
    fun c hc => Nat.isDigit_of_mem_toDigits (by decide) (by decide) hc⟩

theorem properLabels_intercalate
    {labels : List (List Char)} (hsome : labels ≠ [])
    (hlabels : ∀ label ∈ labels, label ≠ [] ∧ '.' ∉ label) :
    properLabels (['.'].intercalate labels) = labels := by
  rw [properLabels, splitAt_intercalate hsome fun label hlabel =>
    (hlabels label hlabel).2]
  apply if_neg
  rintro ⟨-, hlast⟩
  exact (hlabels [] (List.mem_of_getLast? hlast)).1 rfl

theorem dottedLabels_ne_nil (address : Nat) : dottedLabels address ≠ [] := by
  simp [dottedLabels, bytesOf]

theorem DomainRules.IsSound.isDomain_ipv4
    {domains : DomainRules} (hsound : domains.IsSound) (address : Nat) :
    IsDomain domains (Host.ipv4 address).chars := by
  rw [chars_ipv4]
  apply hsound.numbers (dottedLabels address) (dottedLabels_ne_nil address)
  exact fun label hlabel => isDigit_of_mem_dottedLabels hlabel

theorem properLabels_chars_ipv4 (address : Nat) :
    properLabels (Host.ipv4 address).chars = dottedLabels address := by
  rw [chars_ipv4]
  apply properLabels_intercalate (dottedLabels_ne_nil address)
  intro label hlabel
  obtain ⟨hsome, hdigits⟩ := isDigit_of_mem_dottedLabels hlabel
  exact ⟨hsome, fun hdot => absurd (hdigits '.' hdot) (by decide)⟩

theorem endsInNumber_chars_ipv4 (address : Nat) :
    endsInNumber (Host.ipv4 address).chars = true := by
  have hlast := List.getLast_mem (dottedLabels_ne_nil address)
  obtain ⟨hsome, hdigits⟩ := isDigit_of_mem_dottedLabels hlast
  rw [endsInNumber, properLabels_chars_ipv4,
    List.getLast?_eq_some_getLast (dottedLabels_ne_nil address)]
  have hall := List.all_eq_true.mpr hdigits
  simp only [List.isEmpty_eq_false_iff.mpr hsome, hall, Bool.not_false,
    Bool.true_and, Bool.true_or]

theorem chars_ipv4_ne_nil (address : Nat) : (Host.ipv4 address).chars ≠ [] := by
  intro hnone
  have hnumber := endsInNumber_chars_ipv4 address
  rw [hnone] at hnumber
  revert hnumber
  decide

theorem ipv4?_of_bytes
    {cs : List Char} {a b c d : Nat}
    (hb : a < 256 ∧ b < 256 ∧ c < 256 ∧ d < 256)
    (hnumbers : (properLabels cs).mapM ipv4Number? = some [a, b, c, d]) :
    ipv4? cs = some (((a * 256 + b) * 256 + c) * 256 + d) := by
  have hfits : [a, b, c].length ≤ 3 ∧ [a, b, c].all (· ≤ 255) = true ∧
      d < Nat.pow 256 (4 - [a, b, c].length) := by
    refine ⟨Nat.le_refl 3, ?_, hb.2.2.2⟩
    simp only [List.all_cons, List.all_nil, Bool.and_true, Bool.and_eq_true,
      decide_eq_true_eq]
    omega
  have hlast : [a, b, c, d].getLast? = some d := rfl
  have hheads : [a, b, c, d].dropLast = [a, b, c] := rfl
  simp only [ipv4?, hnumbers, hlast, hheads, Option.bind_eq_bind,
    Option.bind_some]
  rw [if_pos hfits]
  simp

theorem ipv4?_chars
    {address : Nat} (haddress : address < 256 ^ 4) :
    ipv4? (Host.ipv4 address).chars = some address := by
  have hbytes : bytesOf address =
      [address / 16777216 % 256, address / 65536 % 256, address / 256 % 256,
        address % 256] := by
    simp [bytesOf]
  have hnumbers : (properLabels (Host.ipv4 address).chars).mapM ipv4Number? =
      some (bytesOf address) := by
    rw [properLabels_chars_ipv4, dottedLabels, mapM_eq_some_iff,
      List.forall₂_map_left_iff, List.forall₂_same]
    exact fun n hn => ipv4Number?_toDigits n (lt_of_mem_bytesOf hn)
  rw [hbytes] at hnumbers
  rw [ipv4?_of_bytes (by omega) hnumbers]
  congr 1
  omega

theorem foldl_bytes_lt
    {heads : List Nat} (hheads : ∀ head ∈ heads, head ≤ 255) (start : Nat) :
    heads.foldl (fun n head => n * 256 + head) start < (start + 1) *
      256 ^ heads.length := by
  induction heads generalizing start with
  | nil => simp
  | cons head heads ih =>
      obtain ⟨hhead, hrest⟩ := List.forall_mem_cons.mp hheads
      rw [List.foldl_cons, List.length_cons]
      calc heads.foldl (fun n head => n * 256 + head) (start * 256 + head)
          < (start * 256 + head + 1) * 256 ^ heads.length := ih hrest _
        _ ≤ (start + 1) * 256 * 256 ^ heads.length :=
          Nat.mul_le_mul_right _ (by omega)
        _ = (start + 1) * 256 ^ (heads.length + 1) := by
          rw [Nat.mul_assoc, ← Nat.pow_succ']

/-- Every number that is read fits into four bytes. -/
theorem lt_of_ipv4?
    {cs : List Char} {address : Nat} (hread : ipv4? cs = some address) :
    address < 256 ^ 4 := by
  simp only [ipv4?, Option.bind_eq_bind, Option.bind_eq_some_iff] at hread
  obtain ⟨numbers, -, last, -, hread⟩ := hread
  split at hread
  · rename_i hfits
    obtain ⟨hcount, hheads, hlast⟩ := hfits
    obtain rfl := Option.some.inj hread
    have hfront := foldl_bytes_lt (by simpa using hheads) 0
    generalize numbers.dropLast.foldl (fun n head => n * 256 + head) 0 =
      front at hfront ⊢
    generalize numbers.dropLast.length = count at hcount hfront hlast ⊢
    calc front * Nat.pow 256 (4 - count) + last
        < front * Nat.pow 256 (4 - count) + Nat.pow 256 (4 - count) :=
          Nat.add_lt_add_left hlast _
      _ = (front + 1) * 256 ^ (4 - count) := (Nat.succ_mul _ _).symm
      _ ≤ 256 ^ count * 256 ^ (4 - count) := Nat.mul_le_mul_right _ (by omega)
      _ = 256 ^ 4 := by rw [← Nat.pow_add, Nat.add_sub_cancel' (by omega)]
  · cases hread

/-! ### Pieces -/

theorem hexValue?_digitChar :
    ∀ d < 16, hexValue? (Nat.digitChar d) = some d := by
  decide

/-- Reading hexadecimal digits one after the other. -/
def hexNumber? (cs : List Char) : Option Nat :=
  cs.foldlM (fun n c => (hexValue? c).map (n * 16 + ·)) 0

theorem hexNumber?_hexChars (n : Nat) : hexNumber? (hexChars n) = some n := by
  induction n using Nat.strongRecOn with
  | ind n ih =>
      rcases Nat.lt_or_ge n 16 with hlast | hmore
      · rw [hexChars, Nat.toDigits_of_lt_base hlast]
        simp [hexNumber?, hexValue?_digitChar n hlast]
      · have hless : n / 16 < n := Nat.div_lt_self (by omega) (by decide)
        have hrest := ih (n / 16) hless
        rw [hexChars, hexNumber?] at hrest
        rw [hexChars, Nat.toDigits_of_base_le (by decide) hmore, hexNumber?,
          List.foldlM_append, hrest]
        simp [hexValue?_digitChar _ (Nat.mod_lt n (by decide : 0 < 16)),
          Nat.div_add_mod']

theorem hexValue?_lt
    {c : Char} {d : Nat} (hd : hexValue? c = some d) :
    d < 16 := by
  unfold hexValue? at hd
  dsimp only at hd
  split at hd
  · obtain rfl := Option.some.inj hd
    omega
  split at hd
  · obtain rfl := Option.some.inj hd
    omega
  split at hd
  · obtain rfl := Option.some.inj hd
    omega
  · cases hd

theorem foldlM_hexValue?_lt
    {cs : List Char} {start n : Nat}
    (hread :
      cs.foldlM (fun n c => (hexValue? c).map (n * 16 + ·)) start = some n) :
    n < (start + 1) * 16 ^ cs.length := by
  induction cs generalizing start with
  | nil =>
      obtain rfl := Option.some.inj hread
      simp
  | cons c cs ih =>
      rw [List.foldlM_cons] at hread
      obtain ⟨next, hnext, hrest⟩ := Option.bind_eq_some_iff.mp hread
      obtain ⟨d, hd, rfl⟩ := Option.map_eq_some_iff.mp hnext
      have hdigit := hexValue?_lt hd
      calc n < (start * 16 + d + 1) * 16 ^ cs.length := ih hrest
        _ ≤ (start + 1) * 16 * 16 ^ cs.length :=
          Nat.mul_le_mul_right _ (by omega)
        _ = (start + 1) * 16 ^ (c :: cs).length := by
          rw [Nat.mul_assoc, ← Nat.pow_succ', List.length_cons]

theorem lt_of_ipv6Piece?
    {cs : List Char} {n : Nat} (hread : ipv6Piece? cs = some n) :
    n < 65536 := by
  unfold ipv6Piece? at hread
  split at hread
  · rename_i hlength
    have hless := foldlM_hexValue?_lt hread
    have hpow : 16 ^ cs.length ≤ 16 ^ 4 :=
      Nat.pow_le_pow_right (by decide) hlength.2
    omega
  · cases hread

theorem ipv6Piece?_hexChars
    {n : Nat} (hn : n < 65536) :
    ipv6Piece? (hexChars n) = some n := by
  have hshort : (hexChars n).length ≤ 4 :=
    (Nat.length_toDigits_le_iff (by decide) (by decide)).mpr hn
  have hsome : 1 ≤ (hexChars n).length := Nat.length_toDigits_pos
  rw [ipv6Piece?, if_pos ⟨hsome, hshort⟩]
  exact hexNumber?_hexChars n

theorem digitChar_ne_mark :
    ∀ d < 16, Nat.digitChar d ≠ ':' ∧ Nat.digitChar d ≠ '.' := by
  decide

theorem mem_hexChars
    {n : Nat} {c : Char} (hc : c ∈ hexChars n) :
    ∃ d < 16, c = Nat.digitChar d := by
  induction n using Nat.strongRecOn with
  | ind n ih =>
      rcases Nat.lt_or_ge n 16 with hlast | hmore
      · rw [hexChars, Nat.toDigits_of_lt_base hlast] at hc
        exact ⟨n, hlast, List.mem_singleton.mp hc⟩
      · rw [hexChars, Nat.toDigits_of_base_le (by decide) hmore,
          List.mem_append] at hc
        rcases hc with hhigh | hlow
        · exact ih (n / 16) (Nat.div_lt_self (by omega) (by decide)) hhigh
        · exact ⟨n % 16, Nat.mod_lt _ (by decide), List.mem_singleton.mp hlow⟩

theorem notMem_hexChars (n : Nat) : ':' ∉ hexChars n ∧ '.' ∉ hexChars n := by
  constructor
  · intro hmem
    obtain ⟨d, hd, hc⟩ := mem_hexChars hmem
    exact (digitChar_ne_mark d hd).1 hc.symm
  · intro hmem
    obtain ⟨d, hd, hc⟩ := mem_hexChars hmem
    exact (digitChar_ne_mark d hd).2 hc.symm

theorem pieceTexts_proper (pieces : List Nat) :
    ∀ text ∈ pieces.map hexChars, text ≠ [] ∧ ':' ∉ text := by
  simp only [List.forall_mem_map]
  exact fun piece _ => ⟨Nat.toDigits_ne_nil, (notMem_hexChars piece).1⟩

theorem pieces?_joinPieces
    {pieces : List Nat} (hpieces : ∀ piece ∈ pieces, piece < 65536)
    (dotted : Bool) : pieces? dotted (joinPieces pieces) = some pieces := by
  cases hnone : pieces with
  | nil => rfl
  | cons first more =>
      rw [← hnone]
      have hsome : pieces.map hexChars ≠ [] := by simp [hnone]
      have hcolon := fun text htext => (pieceTexts_proper pieces text htext).2
      have hdot : ∀ text ∈ pieces.map hexChars, text.contains '.' = false := by
        simp only [List.forall_mem_map]
        intro piece _
        simpa using (notMem_hexChars piece).2
      have hread : (pieces.map hexChars).mapM ipv6Piece? = some pieces := by
        rw [mapM_eq_some_iff, List.forall₂_map_left_iff, List.forall₂_same]
        exact fun piece hpiece => ipv6Piece?_hexChars (hpieces piece hpiece)
      have hsplit := splitAt_intercalate hsome hcolon
      have hnotEmpty : (joinPieces pieces).isEmpty = false := by
        rw [List.isEmpty_eq_false_iff]
        intro hempty
        rw [← joinPieces, hempty] at hsplit
        have hfirst : hexChars first = [] := by
          have hheads := congrArg List.head? hsplit
          rw [hnone] at hheads
          exact (Option.some.inj hheads).symm
        exact Nat.toDigits_ne_nil hfirst
      have hlast := List.getLast?_eq_some_getLast hsome
      rw [pieces?, hnotEmpty, joinPieces]
      simp only [Bool.false_eq_true, if_false, hsplit, hlast,
        hdot _ (List.getLast_mem hsome), Bool.and_false]
      exact hread

section DoubleColon

variable {label : List Char} {labels : List (List Char)}

theorem splitDoubleColon_append
    (hlabel : ':' ∉ label) (rest : List Char) :
    splitDoubleColon (label ++ rest) =
      (splitDoubleColon rest).map fun sides => (label ++ sides.1, sides.2) := by
  induction label with
  | nil => simp
  | cons c label ih =>
      have hc : c ≠ ':' := (List.ne_of_not_mem_cons hlabel).symm
      rw [List.cons_append, splitDoubleColon,
        ih (List.not_mem_of_not_mem_cons hlabel), Option.map_map]
      · rfl
      · exact fun _ hcolon _ => hc hcolon

theorem splitDoubleColon_colon
    {rest : List Char} (hrest : rest.head? ≠ some ':') :
    splitDoubleColon (':' :: rest) =
      (splitDoubleColon rest).map fun sides => (':' :: sides.1, sides.2) := by
  rw [splitDoubleColon]
  rintro more - rfl
  exact hrest rfl

theorem splitDoubleColon_intercalate
    (hlabels : ∀ label ∈ labels, label ≠ [] ∧ ':' ∉ label) (rest : List Char) :
    splitDoubleColon ([':'].intercalate labels ++ rest) =
      (splitDoubleColon rest).map fun sides =>
      ([':'].intercalate labels ++ sides.1, sides.2) := by
  induction labels with
  | nil => simp
  | cons label more ih =>
      obtain ⟨⟨-, hlabel⟩, hmore⟩ := List.forall_mem_cons.mp hlabels
      cases more with
      | nil => simpa using splitDoubleColon_append hlabel rest
      | cons next more =>
          obtain ⟨⟨hsome, hnext⟩, -⟩ := List.forall_mem_cons.mp hmore
          have hfirst :
              ([':'].intercalate (next :: more) ++ rest).head? ≠ some ':' := by
            obtain ⟨c, next, rfl⟩ := List.exists_cons_of_ne_nil hsome
            have hc : c ≠ ':' := (List.ne_of_not_mem_cons hnext).symm
            cases more with
            | nil => simpa using hc
            | cons other more => simpa [List.intercalate_cons_cons] using hc
          rw [List.intercalate_cons_cons, List.append_assoc, List.append_assoc,
            List.singleton_append, splitDoubleColon_append hlabel,
              splitDoubleColon_colon hfirst,
            ih hmore, Option.map_map, Option.map_map]
          simp only [Function.comp_def, List.append_assoc, List.cons_append,
            List.nil_append]

end DoubleColon

/-! ### Runs of zeros -/

theorem take_zerosAt (pieces : List Nat) :
    pieces.take (zerosAt pieces) = List.replicate (zerosAt pieces) 0 := by
  have hprefix :=
    List.prefix_iff_eq_take.mp (List.takeWhile_prefix (l := pieces) (· = 0))
  rw [zerosAt, ← hprefix, List.eq_replicate_iff]
  refine ⟨rfl, fun piece hpiece => ?_⟩
  simpa using List.mem_takeWhile_imp hpiece

theorem foldl_longest_mem (runs : List (Nat × Nat)) (best : Nat × Nat) :
    runs.foldl (fun best run => if best.2 < run.2 then run else best) best ∈
      best :: runs := by
  induction runs generalizing best with
  | nil => exact List.mem_cons_self
  | cons run runs ih =>
      have hmem := ih (if best.2 < run.2 then run else best)
      rw [List.foldl_cons]
      rcases List.mem_cons.mp hmem with heq | hlater
      · rw [heq]
        split
        · exact List.mem_cons_of_mem _ List.mem_cons_self
        · exact List.mem_cons_self
      · exact List.mem_cons_of_mem _ (List.mem_cons_of_mem _ hlater)

/-- What is left out are zeros. -/
theorem split_longestZeros
    {pieces : List Nat} {start length : Nat}
    (hlongest : longestZeros pieces = some (start, length)) :
    2 ≤ length ∧
      pieces = pieces.take start ++ List.replicate length 0 ++
        pieces.drop (start + length) := by
  unfold longestZeros at hlongest
  dsimp only at hlongest
  split at hlongest
  · rename_i hlong
    have hmem := foldl_longest_mem
      ((List.range pieces.length).map fun i => (i, zerosAt (pieces.drop i)))
      (0, 1)
    rw [Option.some.inj hlongest] at hlong hmem
    refine ⟨hlong, ?_⟩
    rcases List.mem_cons.mp hmem with heq | hrun
    · obtain ⟨-, rfl⟩ := Prod.mk.inj heq
      omega
    · obtain ⟨i, -, heq⟩ := List.mem_map.mp hrun
      obtain ⟨rfl, rfl⟩ := Prod.mk.inj heq
      rw [← take_zerosAt, List.append_assoc, ← List.drop_drop,
        List.take_append_drop, List.take_append_drop]
  · cases hlongest

theorem ipv6?_of_split
    {left right : List Nat} {length : Nat}
    (hleft : ∀ piece ∈ left, piece < 65536)
    (hright : ∀ piece ∈ right, piece < 65536) (hlength : 0 < length)
    (hcount : left.length + length + right.length = 8) :
    ipv6? (joinPieces left ++ ':' :: ':' :: joinPieces right) =
      some (left ++ List.replicate length 0 ++ right) := by
  have hsplit :
      splitDoubleColon (joinPieces left ++ ':' :: ':' :: joinPieces right) =
        some (joinPieces left, joinPieces right) := by
    rw [joinPieces, splitDoubleColon_intercalate (pieceTexts_proper left),
      splitDoubleColon, Option.map_some, List.append_nil]
  have hgap : 8 - left.length - right.length = length := by omega
  simp only [ipv6?, hsplit, pieces?_joinPieces hleft, pieces?_joinPieces hright,
    Option.bind_eq_bind, Option.bind_some]
  rw [if_pos (by omega), hgap]
  rfl

theorem ipv6?_joinPieces
    {pieces : List Nat} (hpieces : ∀ piece ∈ pieces, piece < 65536)
    (hcount : pieces.length = 8) : ipv6? (joinPieces pieces) = some pieces := by
  have hsplit : splitDoubleColon (joinPieces pieces) = none := by
    have hnone := splitDoubleColon_intercalate (pieceTexts_proper pieces) []
    rw [List.append_nil] at hnone
    exact hnone
  simp only [ipv6?, hsplit, pieces?_joinPieces hpieces, Option.bind_eq_bind,
    Option.bind_some]
  rw [if_pos hcount]
  rfl

/-- The text of an IPv6 address between the brackets. -/
def ipv6Inner (pieces : List Nat) : List Char :=
  match longestZeros pieces with
  | some (start, length) =>
    joinPieces (pieces.take start) ++ ':' :: ':' ::
      joinPieces (pieces.drop (start + length))
  | none => joinPieces pieces

theorem chars_ipv6 (pieces : List Nat) :
    (Host.ipv6 pieces).chars = '[' :: ipv6Inner pieces ++ [']'] := by
  unfold Host.chars ipv6Inner
  dsimp only
  cases longestZeros pieces with
  | none => rfl
  | some run => simp

theorem ipv6?_ipv6Inner
    {pieces : List Nat} (hpieces : ∀ piece ∈ pieces, piece < 65536)
    (hcount : pieces.length = 8) : ipv6? (ipv6Inner pieces) = some pieces := by
  unfold ipv6Inner
  split
  · rename_i start length hlongest
    obtain ⟨hlong, hsplit⟩ := split_longestZeros hlongest
    have hall := congrArg List.length hsplit
    simp only [List.length_append, List.length_replicate, hcount] at hall
    rw [ipv6?_of_split _ _ (by omega) hall.symm, ← hsplit]
    · exact fun piece hpiece => hpieces piece (List.mem_of_mem_take hpiece)
    · exact fun piece hpiece => hpieces piece (List.mem_of_mem_drop hpiece)
  · exact ipv6?_joinPieces hpieces hcount

theorem lt_of_dottedPieces?
    {cs : List Char} {pieces : List Nat}
    (hread : dottedPieces? cs = some pieces) :
    ∀ piece ∈ pieces, piece < 65536 := by
  simp only [dottedPieces?, Option.bind_eq_bind,
    Option.bind_eq_some_iff] at hread
  obtain ⟨parts, hparts, hread⟩ := hread
  have hbytes : ∀ n ∈ parts, n ≤ 255 := by
    intro n hn
    obtain ⟨digits, -, hvalue⟩ := exists_of_mem_mapM hparts hn
    split at hvalue
    · cases hvalue
    · split at hvalue
      · rename_i hsmall
        obtain rfl := Option.some.inj hvalue
        exact hsmall
      · cases hvalue
  split at hread
  · rename_i a b c d
    obtain rfl := Option.some.inj hread
    simp only [List.forall_mem_cons] at hbytes ⊢
    obtain ⟨ha, hb, hc, hd, -⟩ := hbytes
    refine ⟨by omega, by omega, ?_⟩
    exact fun piece hpiece => nomatch hpiece
  · cases hread

theorem lt_of_mapM_ipv6Piece?
    {texts : List (List Char)} {pieces : List Nat}
    (hread : texts.mapM ipv6Piece? = some pieces) :
    ∀ piece ∈ pieces, piece < 65536 := by
  intro piece hpiece
  obtain ⟨text, -, hvalue⟩ := exists_of_mem_mapM hread hpiece
  exact lt_of_ipv6Piece? hvalue

theorem lt_of_pieces?
    {dotted : Bool} {cs : List Char} {pieces : List Nat}
    (hread : pieces? dotted cs = some pieces) :
    ∀ piece ∈ pieces, piece < 65536 := by
  unfold pieces? at hread
  dsimp only at hread
  split at hread
  · obtain rfl := Option.some.inj hread
    exact fun piece hpiece => nomatch hpiece
  split at hread
  · split at hread
    · simp only [Option.bind_eq_bind, Option.bind_eq_some_iff] at hread
      obtain ⟨heads, hheads, last, hlast, hread⟩ := hread
      obtain rfl := Option.some.inj hread
      exact List.forall_mem_append.mpr ⟨lt_of_mapM_ipv6Piece? hheads,
        lt_of_dottedPieces? hlast⟩
    · exact lt_of_mapM_ipv6Piece? hread
  · cases hread

/-- Eight pieces of sixteen bits. -/
structure IsPieces (pieces : List Nat) : Prop where
  length_eq : pieces.length = 8
  lt : ∀ piece ∈ pieces, piece < 65536

theorem isPieces_of_ipv6?
    {cs : List Char} {pieces : List Nat} (hread : ipv6? cs = some pieces) :
    IsPieces pieces := by
  unfold ipv6? at hread
  split at hread
  · simp only [Option.bind_eq_bind, Option.bind_eq_some_iff] at hread
    obtain ⟨left, hleft, right, hright, hread⟩ := hread
    split at hread
    · obtain rfl := Option.some.inj hread
      constructor
      case length_eq =>
        simp only [List.length_append, List.length_replicate]
        omega
      case lt =>
        intro piece hpiece
        rw [List.mem_append, List.mem_append] at hpiece
        rcases hpiece with (hmem | hzero) | hmem
        · exact lt_of_pieces? hleft piece hmem
        · rw [List.eq_of_mem_replicate hzero]
          decide
        · exact lt_of_pieces? hright piece hmem
    · cases hread
  · simp only [Option.bind_eq_bind, Option.bind_eq_some_iff] at hread
    obtain ⟨whole, hwhole, hread⟩ := hread
    split at hread
    · rename_i hcount
      obtain rfl := Option.some.inj hread
      exact ⟨hcount, lt_of_pieces? hwhole⟩
    · cases hread

/-! ### Hosts -/

section Hosts

variable {domains : DomainRules} {cs name : List Char} {host : Host}

/-- A host as it is once it has been read. -/
inductive Host.IsNormal (domains : DomainRules) : Host → Prop
  | domain {name : List Char} (hname : IsDomain domains name)
      (hsome : name ≠ []) (hnumber : endsInNumber name = false) :
      Host.IsNormal domains (.domain name)
  | ipv4 {address : Nat} (hname : IsDomain domains (Host.ipv4 address).chars)
      (hsmall : address < 256 ^ 4) :
      Host.IsNormal domains (.ipv4 address)
  | ipv6 {pieces : List Nat} (hpieces : IsPieces pieces) :
      Host.IsNormal domains (.ipv6 pieces)

theorem Host.isNormal_of_read
    (hsound : domains.IsSound) (hread : Host.read domains cs = .ok host) :
    host.IsNormal domains := by
  unfold Host.read at hread
  split at hread
  · unfold readIpv6 at hread
    split at hread
    · rename_i pieces hpieces
      obtain ⟨inner, -, hinner⟩ := Option.bind_eq_some_iff.mp hpieces
      obtain rfl := Except.ok.inj hread
      exact .ipv6 (isPieces_of_ipv6? hinner)
    · cases hread
  split at hread
  · cases hread
  · cases hread
  · rename_i name hsome hname
    split at hread
    · split at hread
      · rename_i address haddress
        obtain rfl := Except.ok.inj hread
        exact .ipv4 (hsound.isDomain_ipv4 address) (lt_of_ipv4? haddress)
      · cases hread
    · rename_i hnumber
      obtain rfl := Except.ok.inj hread
      refine .domain (hsound.isDomain _ _ hname) ?_
        (Bool.not_eq_true _ |>.mp hnumber)
      rintro rfl
      exact hsome rfl

theorem Host.read_of_isDomain
    (hname : IsDomain domains name) (hsome : name ≠ [])
    (hnumber : endsInNumber name = false) :
    Host.read domains name = .ok (.domain name) := by
  have hbracket := hname.head?_ne_bracket
  have hkept : domains (percentDecode name) = some name := by
    rw [hname.percentDecode_eq, hname.kept]
  obtain ⟨c, rest, rfl⟩ := List.exists_cons_of_ne_nil hsome
  simp only [Host.read, if_neg hbracket, hkept, hnumber, Bool.false_eq_true,
    if_false]

theorem Host.read_of_ipv4?
    {address : Nat} (hname : IsDomain domains name)
    (hnumber : endsInNumber name = true)
    (haddress : ipv4? name = some address) :
    Host.read domains name = .ok (.ipv4 address) := by
  have hbracket := hname.head?_ne_bracket
  have hkept : domains (percentDecode name) = some name := by
    rw [hname.percentDecode_eq, hname.kept]
  have hsome : name ≠ [] := by
    rintro rfl
    revert hnumber
    decide
  obtain ⟨c, rest, rfl⟩ := List.exists_cons_of_ne_nil hsome
  simp only [Host.read, if_neg hbracket, hkept, hnumber, if_true, haddress]

theorem Host.IsNormal.chars_ne_nil
    (hhost : host.IsNormal domains) :
    host.chars ≠ [] := by
  cases hhost with
  | domain hname hsome hnumber => exact hsome
  | @ipv4 address hname hsmall => exact chars_ipv4_ne_nil address
  | @ipv6 pieces hpieces =>
      rw [chars_ipv6]
      exact List.cons_ne_nil _ _

/-- The text of a host is read as that host. -/
theorem Host.IsNormal.read_chars
    (hhost : host.IsNormal domains) :
    Host.read domains host.chars = .ok host := by
  cases hhost with
  | domain hname hsome hnumber =>
      exact Host.read_of_isDomain hname hsome hnumber
  | @ipv4 address hname hsmall =>
      exact Host.read_of_ipv4? hname (endsInNumber_chars_ipv4 address)
        (ipv4?_chars hsmall)
  | @ipv6 pieces hpieces =>
      have hbracketed :
          bracketed? (Host.ipv6 pieces).chars = some (ipv6Inner pieces) := by
        rw [chars_ipv6, List.cons_append, bracketed?, List.getLast?_concat,
          if_pos rfl, List.dropLast_concat]
      have hhead : (Host.ipv6 pieces).chars.head? = some '[' := by
        rw [chars_ipv6]
        rfl
      rw [Host.read, if_pos hhead, readIpv6, hbracketed, Option.bind_some,
        ipv6?_ipv6Inner hpieces.lt hpieces.length_eq]

end Hosts

end FamilyOrders.Url
