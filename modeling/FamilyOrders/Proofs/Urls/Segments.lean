import FamilyOrders.Proofs.Encodings
import FamilyOrders.Proofs.Numerals
import FamilyOrders.Url.Parser

/-!
# Text that a URL keeps

A part of a URL that holds no character to be escaped, no separator and no dot
segment is read as it is.
-/

namespace FamilyOrders.Url

open FamilyOrders.Text

/-! ### Characters -/

/-- A character that is written as itself where these are escaped. -/
def IsKept (escaped : List Char) (c : Char) : Prop :=
  0x20 ≤ c.toNat ∧ c.toNat < 0x7F ∧ c ∉ escaped

instance (escaped : List Char) : DecidablePred (IsKept escaped) :=
  fun _ => inferInstanceAs (Decidable (_ ∧ _ ∧ _))

section Encoding

variable {escaped cs : List Char} {c d : Char}

theorem encodeChars_cons (escaped : List Char) (c : Char) (cs : List Char) :
    encodeChars escaped (c :: cs) =
      (String.utf8EncodeChar c).flatMap
      (percentByte escaped) ++ encodeChars escaped cs := by
  simp [encodeChars, percentEncode, utf8, List.flatMap_append]

theorem percentByte_of_isKept
    (hc : IsKept escaped c) :
    percentByte escaped (UInt8.ofNat c.toNat) = [c] := by
  obtain ⟨hlower, hupper, hmem⟩ := hc
  have hsmall : c.toNat < 0x80 := by omega
  have hbyte := toNat_ofNat_toNat hsmall
  rw [percentByte, asciiChar_ofNat_toNat hsmall, if_pos]
  refine ⟨?_, ?_, hmem⟩
  · rw [UInt8.le_iff_toNat_le, hbyte]
    exact hlower
  · rw [UInt8.lt_iff_toNat_lt, hbyte]
    exact hupper

theorem encodeChars_cons_of_isKept
    (hc : IsKept escaped c) (cs : List Char) :
    encodeChars escaped (c :: cs) = c :: encodeChars escaped cs := by
  have hsmall : c.toNat < 0x80 := Nat.lt_succ_of_lt hc.2.1
  rw [encodeChars_cons, utf8EncodeChar_of_lt hsmall, List.flatMap_singleton,
    percentByte_of_isKept hc, List.singleton_append]

theorem encodeChars_of_isKept
    (hkept : ∀ c ∈ cs, IsKept escaped c) :
    encodeChars escaped cs = cs := by
  induction cs with
  | nil => rfl
  | cons c cs ih =>
      rw [encodeChars_cons_of_isKept (hkept c List.mem_cons_self),
        ih fun c hc => hkept c (List.mem_cons_of_mem _ hc)]

theorem isKept_asciiChar
    {b : UInt8} (hkept : 0x20 ≤ b ∧ b < 0x7F ∧ asciiChar b ∉ escaped) :
    IsKept escaped (asciiChar b) := by
  obtain ⟨hlower, hupper, hmem⟩ := hkept
  rw [UInt8.le_iff_toNat_le] at hlower
  rw [UInt8.lt_iff_toNat_lt] at hupper
  rw [IsKept, toNat_asciiChar]
  exact ⟨hlower, hupper, hmem⟩

/-- A character that is kept, or a part of an escape. -/
theorem mem_encodeChars
    (hd : d ∈ encodeChars escaped cs) :
    (d ∈ cs ∧ IsKept escaped d) ∨ d = '%' ∨ ∃ n < 16, d = hexDigit n := by
  obtain ⟨b, hb, hmem⟩ := List.mem_flatMap.mp hd
  unfold percentByte at hmem
  split at hmem
  · rename_i hkept
    have hsmall : b.toNat < 0x80 :=
      Nat.lt_trans (UInt8.lt_iff_toNat_lt.mp hkept.2.1) (by decide)
    have hsource := asciiChar_mem_of_mem_utf8 hb hsmall
    rw [String.toList_ofList] at hsource
    rw [List.mem_singleton.mp hmem]
    exact .inl ⟨hsource, isKept_asciiChar hkept⟩
  · simp only [List.mem_cons, List.not_mem_nil, or_false] at hmem
    rcases hmem with rfl | rfl | rfl
    · exact .inr (.inl rfl)
    · exact .inr (.inr ⟨_, div_sixteen_lt b, rfl⟩)
    · exact .inr (.inr ⟨_, mod_sixteen_lt b, rfl⟩)

/-- A character that is not kept begins with an escape of a byte that is not
kept. -/
theorem encodeChars_cons_of_not_isKept
    (hc : ¬ IsKept escaped c) (cs : List Char) :
    ∃ b rest, ¬ IsKept escaped (asciiChar b) ∧
      encodeChars escaped (c :: cs) =
        '%' :: hexDigit (b.toNat / 16) :: hexDigit (b.toNat % 16) :: rest := by
  obtain ⟨b, bytes, hbytes⟩ :=
    List.exists_cons_of_ne_nil (String.utf8EncodeChar_ne_nil (c := c))
  have hb : ¬ IsKept escaped (asciiChar b) := by
    intro hkept
    have hsmall : b.toNat < 0x80 := by
      have hupper := hkept.2.1
      rw [toNat_asciiChar] at hupper
      omega
    have hmem : b ∈ String.utf8EncodeChar c := hbytes ▸ List.mem_cons_self
    rw [asciiChar_of_mem_utf8EncodeChar hmem hsmall] at hkept
    exact hc hkept
  have hescape : percentByte escaped b =
      ['%', hexDigit (b.toNat / 16), hexDigit (b.toNat % 16)] :=
    if_neg fun hkept => hb (isKept_asciiChar hkept)
  refine ⟨b, bytes.flatMap (percentByte escaped) ++ encodeChars escaped cs, hb,
    ?_⟩
  rw [encodeChars_cons, hbytes, List.flatMap_cons, hescape, List.append_assoc]
  rfl

theorem encodeChars_eq_nil
    (hempty : encodeChars escaped cs = []) :
    cs = [] := by
  cases cs with
  | nil => rfl
  | cons c cs =>
      by_cases hc : IsKept escaped c
      · rw [encodeChars_cons_of_isKept hc] at hempty
        cases hempty
      · obtain ⟨b, rest, -, hescape⟩ := encodeChars_cons_of_not_isKept hc cs
        rw [hescape] at hempty
        cases hempty

theorem encodeChars_eq_cons
    {rest : List Char} (hd : d ≠ '%')
    (hencoded : encodeChars escaped cs = d :: rest) :
    ∃ more, cs = d :: more ∧ rest = encodeChars escaped more := by
  cases cs with
  | nil => cases hencoded
  | cons c cs =>
      by_cases hc : IsKept escaped c
      · rw [encodeChars_cons_of_isKept hc] at hencoded
        obtain ⟨rfl, rfl⟩ := List.cons.inj hencoded
        exact ⟨cs, rfl, rfl⟩
      · obtain ⟨b, tail, -, hescape⟩ := encodeChars_cons_of_not_isKept hc cs
        rw [hescape] at hencoded
        exact absurd (List.cons.inj hencoded).1.symm hd

end Encoding

/-- A character that means nothing but itself wherever it stands in a path. -/
def IsPlain (c : Char) : Prop :=
  0x20 < c.toNat ∧ c.toNat < 0x7F ∧ c ∉ '/' :: '\\' :: pathEscapes

instance : DecidablePred IsPlain :=
  fun _ => inferInstanceAs (Decidable (_ ∧ _ ∧ _))

namespace IsPlain

variable {c : Char}

theorem not_isControlOrSpace (hplain : IsPlain c) :
    isControlOrSpace c = false := by
  simpa [isControlOrSpace] using hplain.1

theorem isKept (hplain : IsPlain c) : IsKept pathEscapes c := by
  obtain ⟨hlower, hupper, hmem⟩ := hplain
  exact ⟨Nat.le_of_lt hlower, hupper, fun hc => hmem (.tail _ (.tail _ hc))⟩

theorem ne_of_mem_pathEscapes {d : Char} (hplain : IsPlain c)
    (hd : d ∈ pathEscapes) : c ≠ d := by
  rintro rfl
  exact hplain.isKept.2.2 hd

theorem not_isSlash (hplain : IsPlain c) (scheme : List Char) :
    isSlash scheme c = false := by
  have hmem := hplain.2.2
  simp only [List.mem_cons, not_or] at hmem
  simp [isSlash, hmem.1, hmem.2.1]

end IsPlain

/-! ### Dot segments -/

section Dots

variable {escaped cs : List Char}

theorem hexDigit_dot :
    ∀ high < 16, ∀ low < 16, hexDigit high = '2' → hexDigit low = 'e' ∨
    hexDigit low = 'E' →
      high * 16 + low = 0x2E := by
  decide

theorem encodeChars_eq_dot
    {e : Char} {rest : List Char} (hdot : '.' ∉ escaped)
    (he : e = 'e' ∨ e = 'E')
    (hencoded : encodeChars escaped cs = '%' :: '2' :: e :: rest) :
    ∃ more, cs = '%' :: '2' :: e :: more ∧ rest = encodeChars escaped more := by
  cases cs with
  | nil => cases hencoded
  | cons c cs =>
      by_cases hc : IsKept escaped c
      · rw [encodeChars_cons_of_isKept hc] at hencoded
        obtain ⟨rfl, htail⟩ := List.cons.inj hencoded
        obtain ⟨second, rfl, hsecond⟩ := encodeChars_eq_cons (by decide) htail
        have hpercent : e ≠ '%' := by
          rcases he with rfl | rfl
          · decide
          · decide
        obtain ⟨third, rfl, hrest⟩ := encodeChars_eq_cons hpercent hsecond.symm
        exact ⟨third, rfl, hrest⟩
      · obtain ⟨b, tail, hb, hescape⟩ := encodeChars_cons_of_not_isKept hc cs
        rw [hescape] at hencoded
        obtain ⟨hhigh, hlow⟩ := List.cons.inj (List.cons.inj hencoded).2
        obtain ⟨hlow, -⟩ := List.cons.inj hlow
        have hcode :=
          hexDigit_dot _ (div_sixteen_lt b) _ (mod_sixteen_lt b) hhigh
            (hlow ▸ he)
        have hchar : asciiChar b = '.' := by
          rw [← Char.toNat_inj, toNat_asciiChar]
          change b.toNat = 0x2E
          omega
        rw [hchar] at hb
        exact absurd ⟨by decide, by decide, hdot⟩ hb

/-- A dot in an encoded text stood there before. -/
theorem dropDot_encodeChars
    {tail : List Char} (hdot : '.' ∉ escaped)
    (hdrop : dropDot (encodeChars escaped cs) = some tail) :
    ∃ more, dropDot cs = some more ∧ tail = encodeChars escaped more := by
  unfold dropDot at hdrop
  split at hdrop
  · rename_i rest hencoded
    obtain ⟨more, rfl, hrest⟩ := encodeChars_eq_cons (by decide) hencoded
    exact ⟨more, rfl, (Option.some.inj hdrop).symm.trans hrest⟩
  · rename_i rest hencoded
    obtain ⟨more, rfl, hrest⟩ := encodeChars_eq_dot hdot (.inl rfl) hencoded
    exact ⟨more, rfl, (Option.some.inj hdrop).symm.trans hrest⟩
  · rename_i rest hencoded
    obtain ⟨more, rfl, hrest⟩ := encodeChars_eq_dot hdot (.inr rfl) hencoded
    exact ⟨more, rfl, (Option.some.inj hdrop).symm.trans hrest⟩
  · cases hdrop

theorem isSingleDot_encodeChars
    (hdot : '.' ∉ escaped)
    (hsingle : isSingleDot (encodeChars escaped cs) = true) :
    isSingleDot cs = true := by
  rw [isSingleDot, decide_eq_true_eq] at hsingle ⊢
  obtain ⟨more, hmore, hnil⟩ := dropDot_encodeChars hdot hsingle
  rw [hmore, encodeChars_eq_nil hnil.symm]

theorem isDoubleDot_encodeChars
    (hdot : '.' ∉ escaped)
    (hdouble : isDoubleDot (encodeChars escaped cs) = true) :
    isDoubleDot cs = true := by
  rw [isDoubleDot, decide_eq_true_eq, Option.bind_eq_some_iff] at hdouble ⊢
  obtain ⟨tail, hfirst, hsecond⟩ := hdouble
  obtain ⟨more, hmore, rfl⟩ := dropDot_encodeChars hdot hfirst
  obtain ⟨last, hlast, hnil⟩ := dropDot_encodeChars hdot hsecond
  exact ⟨more, hmore, by rw [hlast, encodeChars_eq_nil hnil.symm]⟩

end Dots

/-! ### Segments -/

theorem keepSegment_of_isPlain
    {scheme segment : List Char} {isFirst : Bool}
    (hplain : ∀ c ∈ segment, IsPlain c)
    (hbar : isFirst = true → scheme = fileScheme →
      ∀ c, c.isAlpha = true → segment ≠ [c, '|']) :
    keepSegment scheme isFirst segment = segment := by
  unfold keepSegment
  by_cases hdrive :
      (isFirst && decide (scheme = fileScheme) && isDriveLetter segment) = true
  · rw [if_pos hdrive]
    simp only [Bool.and_eq_true, decide_eq_true_eq] at hdrive
    obtain ⟨⟨hfirst, hscheme⟩, hletter⟩ := hdrive
    unfold isDriveLetter at hletter
    split at hletter
    · rename_i c mark
      simp only [Bool.and_eq_true, Bool.or_eq_true,
        decide_eq_true_eq] at hletter
      obtain ⟨hc, rfl | rfl⟩ := hletter
      · rfl
      · exact absurd rfl (hbar hfirst hscheme c hc)
    · contradiction
  · rw [if_neg hdrive]
    exact encodeChars_of_isKept fun c hc => (hplain c hc).isKept

section Segments

variable {scheme : List Char}

theorem splitSegments_eq_splitOnP (scheme cs : List Char) :
    splitSegments scheme cs = cs.splitOnP (isSlash scheme) := by
  induction cs with
  | nil => rfl
  | cons c cs ih =>
      obtain ⟨segment, segments, hsplit⟩ :=
        List.exists_cons_of_ne_nil (List.splitOnP_ne_nil (isSlash scheme) cs)
      rw [splitSegments, ih, List.splitOnP_cons_eq_if_modifyHead, hsplit]
      rfl

theorem splitSegments_joined
    {first : List Char} {more : List (List Char)}
    (hplain : ∀ segment ∈ first :: more, ∀ c ∈ segment, IsPlain c) :
    splitSegments scheme (first ++ more.flatMap ('/' :: ·)) =
      first :: more := by
  have hslash : isSlash scheme '/' = true := by simp [isSlash]
  rw [splitSegments_eq_splitOnP]
  apply splitOnP_joined hslash
  exact fun segment hsegment c hc =>
    (hplain segment hsegment c hc).not_isSlash scheme

theorem resolveSegments_of_kept
    {above segments : List (List Char)}
    (hkept : ∀ segment ∈ segments,
      isSingleDot segment = false ∧ isDoubleDot segment = false ∧
        keepSegment scheme false segment = segment)
    (hfirst : above = [] →
      ∀ first ∈ segments.head?, keepSegment scheme true first = first) :
    resolveSegments scheme above segments = above.reverse ++ segments := by
  induction segments generalizing above with
  | nil => rw [resolveSegments, List.append_nil]
  | cons segment more ih =>
      obtain ⟨⟨hsingle, hdouble, hlater⟩, hmore⟩ :=
        List.forall_mem_cons.mp hkept
      have hkeep : keepSegment scheme above.isEmpty segment = segment := by
        cases above with
        | nil => exact hfirst rfl segment rfl
        | cons last above => exact hlater
      rw [resolveSegments, hsingle, hdouble, hkeep]
      simp only [Bool.false_eq_true, if_false]
      have hnonempty (hnil : segment :: above = []) :
          ∀ first ∈ more.head?, keepSegment scheme true first = first :=
        absurd hnil (List.cons_ne_nil segment above)
      rw [ih hmore hnonempty, List.reverse_cons, List.append_assoc]
      rfl

end Segments

/-- A segment that the path of a web URL holds. -/
structure IsSegment (segment : List Char) : Prop where
  plain : ∀ c ∈ segment, IsPlain c
  single : isSingleDot segment = false
  double : isDoubleDot segment = false

theorem isSegment_of_all
    {segment : List Char} (hplain : segment.all (fun c => IsPlain c) = true)
    (hsingle : isSingleDot segment = false)
    (hdouble : isDoubleDot segment = false) :
    IsSegment segment :=
  ⟨fun c hc => of_decide_eq_true (List.all_eq_true.mp hplain c hc), hsingle,
    hdouble⟩

section Resolving

variable {scheme : List Char}

theorem not_isSlash_of_mem_splitSegments
    {cs segment : List Char} {c : Char}
    (hsegment : segment ∈ splitSegments scheme cs) (hc : c ∈ segment) :
    isSlash scheme c = false := by
  rw [splitSegments_eq_splitOnP] at hsegment
  exact (of_mem_splitOnP hsegment hc).2

theorem splitSegments_ne_nil (scheme cs : List Char) :
    splitSegments scheme cs ≠ [] := by
  rw [splitSegments_eq_splitOnP]
  exact List.splitOnP_ne_nil _ _

theorem isPlain_percent : IsPlain '%' := by
  decide

theorem isPlain_hexDigit : ∀ n < 16, IsPlain (hexDigit n) := by
  decide

theorem isSegment_keepSegment
    {segment : List Char} (isFirst : Bool) (hscheme : scheme ≠ fileScheme)
    (hlenient : isLenient scheme = true)
    (hslash : ∀ c ∈ segment, isSlash scheme c = false)
    (hsingle : isSingleDot segment = false)
    (hdouble : isDoubleDot segment = false) :
    IsSegment (keepSegment scheme isFirst segment) := by
  have hkeep :
      keepSegment scheme isFirst segment = encodeChars pathEscapes segment := by
    simp [keepSegment, hscheme]
  have hdot : '.' ∉ pathEscapes := by decide
  rw [hkeep]
  constructor
  case plain =>
    intro c hc
    rcases mem_encodeChars hc with ⟨hmem, hlower, hupper, hescape⟩ | rfl | ⟨n,
      hn, rfl⟩
    · have hspace : c ≠ ' ' := by
        rintro rfl
        revert hescape
        decide
      have hcode : c.toNat ≠ 0x20 :=
        fun hcode => hspace (Char.toNat_inj.mp hcode)
      have hc := hslash c hmem
      simp only [isSlash, hlenient, Bool.true_and, Bool.or_eq_false_iff,
        decide_eq_false_iff_not] at hc
      refine ⟨by omega, hupper, ?_⟩
      simp only [List.mem_cons, not_or]
      exact ⟨hc.1, hc.2, hescape⟩
    · exact isPlain_percent
    · exact isPlain_hexDigit n hn
  case single =>
    rw [← Bool.not_eq_true] at hsingle ⊢
    exact fun hencoded => hsingle (isSingleDot_encodeChars hdot hencoded)
  case double =>
    rw [← Bool.not_eq_true] at hdouble ⊢
    exact fun hencoded => hdouble (isDoubleDot_encodeChars hdot hencoded)

theorem isSegment_nil : IsSegment [] where
  plain _ hc := nomatch hc
  single := rfl
  double := rfl

theorem mem_of_mem_leave
    {above : List (List Char)} {segment : List Char}
    (hsegment : segment ∈ leave above) : segment ∈ above := by
  unfold leave at hsegment
  split at hsegment
  · cases hsegment
  split at hsegment
  · exact hsegment
  · exact List.mem_cons_of_mem _ hsegment

theorem isSegment_of_mem_resolveSegments
    {above segments : List (List Char)} (hscheme : scheme ≠ fileScheme)
    (hlenient : isLenient scheme = true)
    (habove : ∀ segment ∈ above, IsSegment segment)
    (hslash : ∀ segment ∈ segments, ∀ c ∈ segment, isSlash scheme c = false) :
    ∀ segment ∈ resolveSegments scheme above segments, IsSegment segment := by
  induction segments generalizing above with
  | nil =>
      rw [resolveSegments]
      exact fun segment hsegment =>
        habove segment (List.mem_reverse.mp hsegment)
  | cons segment more ih =>
      obtain ⟨hhere, hmore⟩ := List.forall_mem_cons.mp hslash
      have hleave : ∀ segment ∈ leave above, IsSegment segment :=
        fun segment hsegment => habove segment (mem_of_mem_leave hsegment)
      rw [resolveSegments]
      by_cases hdouble : isDoubleDot segment = true
      · rw [if_pos hdouble]
        apply ih _ hmore
        split
        · exact List.forall_mem_cons.mpr ⟨isSegment_nil, hleave⟩
        · exact hleave
      by_cases hsingle : isSingleDot segment = true
      · rw [if_neg hdouble, if_pos hsingle]
        apply ih _ hmore
        split
        · exact List.forall_mem_cons.mpr ⟨isSegment_nil, habove⟩
        · exact habove
      · rw [if_neg hdouble, if_neg hsingle]
        rw [Bool.not_eq_true] at hdouble hsingle
        have hkept :=
          isSegment_keepSegment above.isEmpty hscheme hlenient hhere hsingle
            hdouble
        exact ih (List.forall_mem_cons.mpr ⟨hkept, habove⟩) hmore

theorem resolveSegments_ne_nil
    {above segments : List (List Char)} (hsome : above ≠ [] ∨ segments ≠ []) :
    resolveSegments scheme above segments ≠ [] := by
  induction segments generalizing above with
  | nil => simpa [resolveSegments] using hsome
  | cons segment more ih =>
      have hended : ∀ above : List (List Char),
          (if more.isEmpty then [] :: above else above) ≠ [] ∨ more ≠ [] := by
        intro above
        cases more with
        | nil => exact .inl (List.cons_ne_nil _ _)
        | cons next more => exact .inr (List.cons_ne_nil _ _)
      rw [resolveSegments]
      split
      · exact ih (hended _)
      split
      · exact ih (hended _)
      · exact ih (.inl (List.cons_ne_nil _ _))

end Resolving

/-! ### Whole texts -/

theorem isControlOrSpace_of_isTabOrNewline
    {c : Char} (hc : isTabOrNewline c = true) :
    isControlOrSpace c = true := by
  simp only [isTabOrNewline, Bool.or_eq_true, decide_eq_true_eq] at hc
  rcases hc with (rfl | rfl) | rfl <;> rfl

theorem read_of_visible
    {domains : DomainRules} {cs scheme rest : List Char}
    (hvisible : ∀ c ∈ cs, isControlOrSpace c = false)
    (hscheme : splitScheme cs = some (scheme, rest)) :
    read domains cs = readAfterScheme domains scheme rest := by
  have hlines : ∀ c ∈ cs, (!isTabOrNewline c) = true := by
    intro c hc
    rw [Bool.not_eq_true', ← Bool.not_eq_true]
    intro htab
    have hcontrol := isControlOrSpace_of_isTabOrNewline htab
    rw [hvisible c hc] at hcontrol
    contradiction
  have hread :
      (strip isControlOrSpace cs).filter (fun c => !isTabOrNewline c) = cs := by
    rw [strip_eq_self hvisible, List.filter_eq_self.mpr hlines]
  unfold read
  simp only [hread, hscheme]

theorem splitTail_of_plain
    {cs : List Char} (hfragment : '#' ∉ cs) (hquery : '?' ∉ cs) :
    splitTail cs = (cs, none, none) := by
  have hnoFragment : cs.takeWhile (· ≠ '#') = cs := by
    rw [List.takeWhile_eq_self_iff]
    intro c hc
    rw [decide_eq_true_eq]
    exact ne_of_mem_of_not_mem hc hfragment
  have hnoQuery : cs.takeWhile (· ≠ '?') = cs := by
    rw [List.takeWhile_eq_self_iff]
    intro c hc
    rw [decide_eq_true_eq]
    exact ne_of_mem_of_not_mem hc hquery
  rw [splitTail, hnoFragment, hnoQuery, List.drop_length]
  rfl

end FamilyOrders.Url
