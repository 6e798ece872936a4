import FamilyOrders.Text.Characters
import FamilyOrders.Text.Encoding
import Mathlib.Data.List.Forall2
import Mathlib.Data.List.TakeWhile

/-!
# Encodings of texts and bytes

Texts as bytes, with what is dropped at their ends, and bytes as the text that
the service is sent.
-/

namespace FamilyOrders.Text

/-! ## Encodings of text

ASCII characters and their bytes determine each other, also within UTF-8, where
the bytes of other characters are never taken for theirs.  Percent-encoded bytes
are decoded to what they were, and ASCII text without a `%` to its own bytes. -/

/-! ### ASCII and UTF-8 -/

theorem toNat_ofNat_toNat
    {c : Char} (hc : c.toNat < 0x80) :
    (UInt8.ofNat c.toNat).toNat = c.toNat := by
  rw [UInt8.toNat_ofNat']
  omega

theorem forall_ascii
    {P : Char → Prop} (hall : ∀ n < 0x80, P (Char.ofNat n)) :
    ∀ c, c.toNat < 0x80 → P c := by
  intro c hc
  have hcode := hall c.toNat hc
  rwa [Char.ofNat_toNat] at hcode

theorem toNat_of_isAlphanum
    {c : Char} (hc : c.isAlphanum = true) :
    c.toNat < 0x80 := by
  change (decide (65 ≤ c.val ∧ c.val ≤ 90) ||
    (decide (97 ≤ c.val) && decide (c.val ≤ 122)) ||
    (decide (48 ≤ c.val) && decide (c.val ≤ 57))) = true at hc
  simp only [Bool.or_eq_true, Bool.and_eq_true, decide_eq_true_eq,
    UInt32.le_iff_toNat_le] at hc
  rcases hc with (⟨-, hupper⟩ | ⟨-, hlower⟩) | ⟨-, hdigit⟩
  · exact hupper.trans_lt (by decide)
  · exact hlower.trans_lt (by decide)
  · exact hdigit.trans_lt (by decide)

theorem utf8EncodeChar_of_lt
    {c : Char} (hc : c.toNat < 0x80) :
    String.utf8EncodeChar c = [UInt8.ofNat c.toNat] := by
  exact if_pos (Nat.le_of_lt_succ hc)

@[simp] theorem toNat_asciiChar (b : UInt8) :
    (asciiChar b).toNat = b.toNat := by
  have hb := b.toNat_lt
  have hvalid : b.toNat.isValidChar := Or.inl (by omega)
  rw [asciiChar, Char.ofNat, dif_pos hvalid]
  rfl

theorem asciiChar_ofNat_toNat
    {c : Char} (hc : c.toNat < 0x80) :
    asciiChar (UInt8.ofNat c.toNat) = c := by
  rw [asciiChar, toNat_ofNat_toNat hc, Char.ofNat_toNat]

theorem le_of_mem_utf8EncodeChar
    {b : UInt8} {c : Char} (hc : 0x80 ≤ c.toNat)
    (hmem : b ∈ String.utf8EncodeChar c) : 0x80 ≤ b.toNat := by
  have hval : ¬ c.val.toNat ≤ 0x7F := Nat.not_le.mpr hc
  unfold String.utf8EncodeChar at hmem
  rw [if_neg hval] at hmem
  -- Leading bytes are at least 0xC0, the others 0x80 and six bits.
  split at hmem
  · simp only [List.mem_cons, List.not_mem_nil, or_false] at hmem
    rcases hmem with rfl | rfl <;> rw [UInt8.toNat_ofNat'] <;> omega
  · split at hmem
    · simp only [List.mem_cons, List.not_mem_nil, or_false] at hmem
      rcases hmem with rfl | rfl | rfl <;> rw [UInt8.toNat_ofNat'] <;> omega
    · simp only [List.mem_cons, List.not_mem_nil, or_false] at hmem
      rcases hmem with rfl | rfl | rfl | rfl <;> rw [UInt8.toNat_ofNat'] <;>
        omega

theorem asciiChar_of_mem_utf8EncodeChar
    {b : UInt8} {c : Char} (hmem : b ∈ String.utf8EncodeChar c)
    (hb : b.toNat < 0x80) : asciiChar b = c := by
  by_cases hc : c.toNat < 0x80
  · rw [utf8EncodeChar_of_lt hc] at hmem
    obtain rfl := List.mem_singleton.mp hmem
    exact asciiChar_ofNat_toNat hc
  · have hlarge := le_of_mem_utf8EncodeChar (Nat.not_lt.mp hc) hmem
    omega

theorem asciiChar_mem_of_mem_utf8
    {s : String} {b : UInt8} (hmem : b ∈ utf8 s) (hb : b.toNat < 0x80) :
    asciiChar b ∈ s.toList := by
  obtain ⟨c, hc, hbyte⟩ := List.mem_flatMap.mp hmem
  rw [asciiChar_of_mem_utf8EncodeChar hbyte hb]
  exact hc

/-! ### Reading UTF-8 -/

theorem following_of_ascii
    {lead : UInt8} (hlead : lead.toNat < 0x80) :
    following lead = none := by
  have hne : lead ≠ 0xE0 ∧ lead ≠ 0xED ∧ lead ≠ 0xF0 ∧ lead ≠ 0xF4 := by
    simp only [ne_eq, ← UInt8.toNat_inj, UInt8.reduceToNat]
    omega
  simp only [following, UInt8.le_iff_toNat_le, UInt8.reduceToNat, hne, if_false]
  simp [Nat.not_le_of_gt (Nat.lt_of_lt_of_le hlead (by decide : 0x80 ≤ 0xC2)),
    Nat.not_le_of_gt (Nat.lt_of_lt_of_le hlead (by decide : 0x80 ≤ 0xE1)),
    Nat.not_le_of_gt (Nat.lt_of_lt_of_le hlead (by decide : 0x80 ≤ 0xF1))]

theorem utf8Pieces_of_ascii
    {cs : List Char} (hascii : ∀ c ∈ cs, c.toNat < 0x80) :
    utf8Pieces (cs.flatMap String.utf8EncodeChar) = cs.map some := by
  induction cs with
  | nil => rw [List.flatMap_nil, utf8Pieces, List.map_nil]
  | cons c rest ih =>
      have hc := hascii c List.mem_cons_self
      have hcode := toNat_ofNat_toNat hc
      have hlead : UInt8.ofNat c.toNat < 0x80 := by
        rw [UInt8.lt_iff_toNat_lt, hcode]
        exact hc
      have htail (more : Bytes) : tailOf (UInt8.ofNat c.toNat) more = [] := by
        simp only [tailOf, following_of_ascii (hcode ▸ hc)]
      rw [List.flatMap_cons, utf8EncodeChar_of_lt hc, List.singleton_append,
        utf8Pieces, htail, List.length_nil, List.drop_zero, ih fun c hc =>
          hascii c (List.mem_cons_of_mem _ hc),
        assemble, if_pos hlead, hcode, Char.ofNat_toNat, List.map_cons]

theorem mapM_eq_some_iff
    {f : α → Option β} {as : List α} {bs : List β} :
    as.mapM f = some bs ↔ List.Forall₂ (fun a b => f a = some b) as bs := by
  induction as generalizing bs with
  | nil => simp [eq_comm]
  | cons a as ih =>
      simp only [List.mapM_cons, List.forall₂_cons_left_iff, ← ih,
        Option.bind_eq_bind, Option.bind_eq_some_iff, Option.pure_def,
          Option.some.injEq]
      constructor
      · rintro ⟨b, hb, bs, hbs, rfl⟩
        exact ⟨b, bs, hb, hbs, rfl⟩
      · rintro ⟨b, bs, hb, hbs, rfl⟩
        exact ⟨b, hb, bs, hbs, rfl⟩

theorem mapM_eq_some_self
    {f : α → Option α} {as : List α} (hall : ∀ a ∈ as, f a = some a) :
    as.mapM f = some as :=
  mapM_eq_some_iff.mpr (List.forall₂_same.mpr hall)

theorem exists_of_mem_mapM
    {f : α → Option β} {as : List α} {bs : List β} {b : β}
    (hmap : as.mapM f = some bs) (hb : b ∈ bs) : ∃ a ∈ as, f a = some b := by
  have hpairs := mapM_eq_some_iff.mp hmap
  clear hmap
  induction hpairs with
  | nil => cases hb
  | cons hfirst _ ih =>
      rcases List.mem_cons.mp hb with rfl | hrest
      · exact ⟨_, List.mem_cons_self, hfirst⟩
      · obtain ⟨a, ha, hvalue⟩ := ih hrest
        exact ⟨a, List.mem_cons_of_mem _ ha, hvalue⟩

theorem ofUtf8?_of_ascii
    {cs : List Char} (hascii : ∀ c ∈ cs, c.toNat < 0x80) :
    ofUtf8? (cs.flatMap String.utf8EncodeChar) = some (String.ofList cs) := by
  have hpieces : (cs.map some).mapM id = some cs :=
    mapM_eq_some_iff.mpr
      (List.forall₂_map_left_iff.mpr (List.forall₂_same.mpr fun _ _ => rfl))
  rw [ofUtf8?, utf8Pieces_of_ascii hascii, hpieces, Option.map_some]

/-! ### Percent-encoding -/

theorem div_sixteen_lt (b : UInt8) : b.toNat / 16 < 16 := by
  have hb := b.toNat_lt
  omega

theorem mod_sixteen_lt (b : UInt8) : b.toNat % 16 < 16 := by
  omega

theorem hexValue?_hexDigit :
    ∀ n < 16, hexValue? (hexDigit n) = some n := by
  decide

theorem percentDecode_percentByte
    {escaped : List Char} (hpercent : '%' ∈ escaped) (b : UInt8)
    (rest : List Char) :
    percentDecode (percentByte escaped b ++ rest) =
      b :: percentDecode rest := by
  unfold percentByte
  split
  · rename_i hkept
    obtain ⟨-, hsmall, hallowed⟩ := hkept
    have hupper : b.toNat < 0x7F := UInt8.lt_iff_toNat_lt.mp hsmall
    have hcode := toNat_asciiChar b
    have hplain : asciiChar b ≠ '%' := by
      rintro heq
      exact hallowed (heq ▸ hpercent)
    have hchar : (asciiChar b).toNat < 0x80 := by omega
    simp [percentDecode, hplain, utf8EncodeChar_of_lt hchar, hcode]
  · have hhigh := hexValue?_hexDigit _ (div_sixteen_lt b)
    have hlow := hexValue?_hexDigit _ (mod_sixteen_lt b)
    have hsplit : b.toNat / 16 * 16 + b.toNat % 16 = b.toNat := by omega
    simp [percentDecode, hhigh, hlow, hsplit]

@[simp] theorem percentDecode_percentEncode
    {escaped : List Char} (hpercent : '%' ∈ escaped) (bytes : Bytes) :
    percentDecode (percentEncode escaped bytes) = bytes := by
  induction bytes with
  | nil => rfl
  | cons b bytes ih =>
      rw [percentEncode, List.flatMap_cons, percentDecode_percentByte hpercent]
      exact congrArg (b :: ·) ih

theorem percentDecode_of_notMem
    {cs : List Char} (hpercent : '%' ∉ cs) :
    percentDecode cs = cs.flatMap String.utf8EncodeChar := by
  induction cs with
  | nil => rfl
  | cons c rest ih =>
      have hc : c ≠ '%' := (List.ne_of_not_mem_cons hpercent).symm
      rw [percentDecode, ih (List.not_mem_of_not_mem_cons hpercent),
        List.flatMap_cons]
      simp [hc]

/-! ### Stripped text -/

theorem dropWhile_of_head?
    {p : Char → Bool} {cs : List Char} (hfirst : ∀ c ∈ cs.head?, p c = false) :
    cs.dropWhile p = cs := by
  cases cs with
  | nil => rfl
  | cons c rest =>
      have hc : p c = false := hfirst c rfl
      simp [hc]

/-- A text that ends with a character that is kept loses only what stands in
front. -/
theorem strip_of_last
    {p : Char → Bool} {cs : List Char}
    (hlast : ∀ c ∈ cs.getLast?, p c = false) :
    strip p cs = cs.dropWhile p := by
  obtain ⟨dropped, hdropped⟩ := List.dropWhile_suffix (l := cs) p
  rw [strip, dropWhile_of_head?, List.reverse_reverse]
  intro c hc
  rw [List.head?_reverse] at hc
  apply hlast
  rw [← hdropped, List.getLast?_append, Option.mem_def.mp hc]
  rfl

theorem strip_of_ends
    {p : Char → Bool} {cs : List Char} (hfirst : ∀ c ∈ cs.head?, p c = false)
    (hlast : ∀ c ∈ cs.getLast?, p c = false) :
    strip p cs = cs := by
  rw [strip_of_last hlast, dropWhile_of_head? hfirst]

theorem strip_eq_self
    {p : Char → Bool} {cs : List Char} (hkept : ∀ c ∈ cs, p c = false) :
    strip p cs = cs :=
  strip_of_ends (fun c hc => hkept c (List.mem_of_mem_head? hc))
    fun c hc => hkept c (List.mem_of_mem_getLast? hc)

theorem strip_sublist
    (p : Char → Bool) (cs : List Char) :
    (strip p cs).Sublist cs := by
  have hinner : (strip p cs).reverse.Sublist (cs.dropWhile p).reverse := by
    rw [strip, List.reverse_reverse]
    exact List.dropWhile_sublist p
  exact (List.reverse_sublist.mp hinner).trans (List.dropWhile_sublist p)

theorem mem_of_mem_strip
    {p : Char → Bool} {cs : List Char} {c : Char} (hc : c ∈ strip p cs) :
    c ∈ cs :=
  (strip_sublist p cs).mem hc

theorem mem_strip
    {p : Char → Bool} {cs : List Char} {c : Char} (hmem : c ∈ cs)
    (hkept : p c = false) : c ∈ strip p cs := by
  have hdrop : ∀ l : List Char, c ∈ l → c ∈ l.dropWhile p := by
    intro l hl
    rw [← List.takeWhile_append_dropWhile (p := p) (l := l),
      List.mem_append] at hl
    refine hl.resolve_left fun htaken => ?_
    rw [List.mem_takeWhile_imp htaken] at hkept
    contradiction
  have hinner := hdrop cs hmem
  exact List.mem_reverse.mpr (hdrop _ (List.mem_reverse.mpr hinner))

theorem allBlank_trim (s : String) : allBlank (trim s) = allBlank s := by
  rw [allBlank, allBlank, trim, String.toList_ofList, Bool.eq_iff_iff,
    List.all_eq_true, List.all_eq_true]
  constructor
  · intro hstripped c hc
    by_contra hvisible
    exact hvisible (hstripped c (mem_strip hc (Bool.eq_false_iff.mpr hvisible)))
  · exact fun hall c hc => hall c (mem_of_mem_strip hc)

theorem strip_isPrefix
    (p : Char → Bool) (cs : List Char) :
    strip p cs <+: cs.dropWhile p := by
  have hsuffix := List.dropWhile_suffix (l := (cs.dropWhile p).reverse) p
  rw [← List.reverse_prefix, List.reverse_reverse] at hsuffix
  exact hsuffix

theorem first_of_strip
    {p : Char → Bool} {cs rest : List Char} {c : Char}
    (hstrip : strip p cs = c :: rest) : p c = false := by
  obtain ⟨tail, htail⟩ := strip_isPrefix p cs
  have hfirst := List.head?_dropWhile_not p cs
  rw [← htail, hstrip] at hfirst
  simpa using hfirst

theorem last_of_strip
    {p : Char → Bool} {cs : List Char} {c : Char}
    (hlast : (strip p cs).getLast? = some c) : p c = false := by
  rw [strip, List.getLast?_reverse] at hlast
  have hfirst := List.head?_dropWhile_not p (cs.dropWhile p).reverse
  rw [hlast] at hfirst
  simpa using hfirst

/-- What is taken off at the end of a text is taken off the last part of it. -/
theorem strip_append
    {p : Char → Bool} {a b : Char} (ha : p a = false) (hb : p b = false)
    (as bs : List Char) :
    strip p (a :: as ++ b :: bs) = a :: as ++ strip p (b :: bs) := by
  have hkept : ((b :: bs).reverse.dropWhile p).isEmpty = false := by
    rw [Bool.eq_false_iff, ne_eq, List.isEmpty_iff, List.dropWhile_eq_nil_iff]
    intro hall
    have hdropped := hall b (by simp)
    rw [hb] at hdropped
    contradiction
  have hbs : (b :: bs).dropWhile p = b :: bs :=
    List.dropWhile_cons_of_neg (by simp [hb])
  have has : (a :: as ++ b :: bs).dropWhile p = a :: as ++ b :: bs :=
    List.dropWhile_cons_of_neg (by simp [ha])
  rw [strip, strip, has, hbs, List.reverse_append, List.dropWhile_append, hkept,
    if_neg Bool.false_ne_true, List.reverse_append, List.reverse_reverse]

theorem strip_append_dropped
    {p : Char → Bool} {kept dropped : List Char} (hne : kept ≠ [])
    (hkept : ∀ c ∈ kept, p c = false) (hdropped : ∀ c ∈ dropped, p c = true) :
    strip p (kept ++ dropped) = kept := by
  obtain ⟨a, as, rfl⟩ := List.exists_cons_of_ne_nil hne
  have ha : p a = false := hkept a List.mem_cons_self
  have hfirst : (a :: as ++ dropped).dropWhile p = a :: as ++ dropped :=
    List.dropWhile_cons_of_neg (by simp [ha])
  have hlast : (a :: as).reverse.dropWhile p = (a :: as).reverse := by
    rw [List.dropWhile_eq_self_iff]
    intro hpos
    rw [hkept _ (List.mem_reverse.mp (List.getElem_mem hpos))]
    exact Bool.false_ne_true
  rw [strip, hfirst, List.reverse_append,
    List.dropWhile_append_of_pos fun c hc =>
      hdropped c (List.mem_reverse.mp hc), hlast,
    List.reverse_reverse]

/-! ## Base64 read back

Bytes written in Base64 are read as those bytes, whether the last group is full
or filled up. -/

theorem base64Value?_getD :
    ∀ n < 64, base64Value? (base64Digits.getD n '=') = some n ∧
    base64Digits.getD n '=' ≠ '=' := by
  decide

theorem base64Value?_base64Digit (n : Nat) :
    base64Value? (base64Digit n) = some (n % 64) :=
  (base64Value?_getD (n % 64) (Nat.mod_lt n (by decide))).1

theorem base64Digit_ne_filler (n : Nat) : base64Digit n ≠ '=' :=
  (base64Value?_getD (n % 64) (Nat.mod_lt n (by decide))).2

theorem ofNat_eq_of_mod
    {n : Nat} {b : UInt8} (hn : n % 256 = b.toNat) :
    UInt8.ofNat n = b := by
  rw [← UInt8.toNat_inj, UInt8.toNat_ofNat']
  exact hn

/-- A group without a filler is read before whatever follows it. -/
theorem base64Bytes?_group
    {a b c d : Char} {i j k l : Nat} (ha : base64Value? a = some i)
    (hb : base64Value? b = some j)
    (hc : base64Value? c = some k) (hd : base64Value? d = some l)
    (hfiller : d ≠ '=') (rest : List Char) :
    base64Bytes? (a :: b :: c :: d :: rest) =
      (base64Bytes? rest).map fun more =>
        UInt8.ofNat ((((i * 64 + j) * 64 + k) * 64 + l) / 65536) ::
          UInt8.ofNat ((((i * 64 + j) * 64 + k) * 64 + l) / 256) ::
          UInt8.ofNat (((i * 64 + j) * 64 + k) * 64 + l) :: more := by
  rw [base64Bytes?]
  · simp only [ha, hb, hc, hd, Option.bind_eq_bind, Option.bind_some]
    cases base64Bytes? rest with
    | none => rfl
    | some more => rfl
  · rintro - rfl -
    exact hfiller rfl
  · rintro rfl -
    exact hfiller rfl

theorem base64Bytes?_filledByOne
    {a b c : Char} {i j k : Nat} (ha : base64Value? a = some i)
    (hb : base64Value? b = some j)
    (hc : base64Value? c = some k) (hfiller : c ≠ '=') :
    base64Bytes? [a, b, c, '='] =
      some [UInt8.ofNat (((i * 64 + j) * 64 + k) / 1024),
        UInt8.ofNat (((i * 64 + j) * 64 + k) / 4)] := by
  rw [base64Bytes?]
  · simp only [ha, hb, hc, Option.bind_eq_bind, Option.bind_some]
    rfl
  · exact hfiller

theorem base64Bytes?_filledByTwo
    {a b : Char} {i j : Nat} (ha : base64Value? a = some i)
    (hb : base64Value? b = some j) :
    base64Bytes? [a, b, '=', '='] = some [UInt8.ofNat ((i * 64 + j) / 16)] := by
  simp only [base64Bytes?, ha, hb, Option.bind_eq_bind, Option.bind_some]
  rfl

@[simp] theorem base64Bytes?_base64Chars (bytes : Bytes) :
    base64Bytes? (base64Chars bytes) = some bytes := by
  induction bytes using base64Chars.induct with
  | case1 a b c rest ih =>
      have ha := a.toNat_lt
      have hb := b.toNat_lt
      have hc := c.toNat_lt
      rw [base64Chars, base64Bytes?_group (base64Value?_base64Digit _)
        (base64Value?_base64Digit _)
        (base64Value?_base64Digit _) (base64Value?_base64Digit _)
        (base64Digit_ne_filler _), ih,
        Option.map_some]
      congr 2
      · exact ofNat_eq_of_mod (by omega)
      congr 1
      · exact ofNat_eq_of_mod (by omega)
      congr 1
      · exact ofNat_eq_of_mod (by omega)
  | case2 a b =>
      have ha := a.toNat_lt
      have hb := b.toNat_lt
      rw [base64Chars, base64Bytes?_filledByOne (base64Value?_base64Digit _)
        (base64Value?_base64Digit _) (base64Value?_base64Digit _)
        (base64Digit_ne_filler _)]
      congr 2
      · exact ofNat_eq_of_mod (by omega)
      congr 1
      · exact ofNat_eq_of_mod (by omega)
  | case3 a =>
      have ha := a.toNat_lt
      rw [base64Chars, base64Bytes?_filledByTwo (base64Value?_base64Digit _)
        (base64Value?_base64Digit _)]
      congr 2
      exact ofNat_eq_of_mod (by omega)
  | case4 => rfl

end FamilyOrders.Text
