import FamilyOrders.Proofs.Characters
import FamilyOrders.Proofs.Encodings
import FamilyOrders.Proofs.Numerals
import FamilyOrders.Proofs.Urls.Punycode
import FamilyOrders.Url.Host

/-!
# Domain names read back

The rules by which domain names are read are sound if they give names that hold
nothing but ASCII without a meaning in URLs, and that they read as themselves.
The simple rules are: what they give is in lower case, and a label in Punycode
is decoded to one that needs it.
-/

namespace FamilyOrders.Url

open FamilyOrders.Text

/-! ### Separators -/

theorem splitAt_eq_splitOnP (sep : Char) (cs : List Char) :
    splitAt sep cs = cs.splitOnP (· == sep) := by
  induction cs with
  | nil => rfl
  | cons c cs ih =>
      obtain ⟨label, labels, hsplit⟩ :=
        List.exists_cons_of_ne_nil (List.splitOnP_ne_nil (· == sep) cs)
      rw [splitAt, ih, List.splitOnP_cons_eq_if_modifyHead, hsplit]
      simp only [beq_iff_eq]
      rfl

theorem splitAt_intercalate
    {sep : Char} {labels : List (List Char)} (hsome : labels ≠ [])
    (hlabels : ∀ label ∈ labels, sep ∉ label) :
    splitAt sep ([sep].intercalate labels) = labels := by
  rw [splitAt_eq_splitOnP, ← List.splitOn_eq_splitOnP]
  exact List.splitOn_intercalate sep hlabels hsome

/-! ### Characters -/

/-- The code points of characters that a domain name spells otherwise or passes
over. -/
def respelt : List (Nat × Nat) :=
  [(0xAD, 0xAD), (0x34F, 0x34F), (0x200B, 0x200B), (0x2060, 0x2060),
    (0x2064, 0x2064), (0x3002, 0x3002), (0xFE00, 0xFE0F), (0xFEFF, 0xFEFF),
    (0xFF01, 0xFF61)]

/-- All code points from the first to the last belong to characters that are not
spelt otherwise. -/
def keepsSpelling (first last : Nat) : Bool :=
  respelt.all fun range => Nat.blt last range.1 || Nat.blt range.2 first

theorem foldDomainChar_of_keepsSpelling
    {c : Char} {first last : Nat} (hkeeps : keepsSpelling first last = true)
    (hfirst : first ≤ c.toNat) (hlast : c.toNat ≤ last) :
    foldDomainChar c = lowercase c := by
  simp only [keepsSpelling, respelt, List.all_cons, List.all_nil, Bool.and_true,
    Bool.and_eq_true, Bool.or_eq_true, Nat.blt_eq] at hkeeps
  have hdot : c ∉ ['\u3002', '\uff0e', '\uff61'] := by
    simp only [List.mem_cons, List.not_mem_nil, or_false, ← Char.toNat_inj,
      Char.reduceToNat]
    omega
  have hvanishing :
      c ∉ ['\u00ad', '\u034f', '\u200b', '\u2060', '\u2064', '\ufeff'] := by
    simp only [List.mem_cons, List.not_mem_nil, or_false, ← Char.toNat_inj,
      Char.reduceToNat]
    omega
  have hselector : ¬ (0xFE00 ≤ c.toNat ∧ c.toNat ≤ 0xFE0F) := by omega
  have hwide : ¬ (0xFF01 ≤ c.toNat ∧ c.toNat ≤ 0xFF5E) := by omega
  simp only [foldDomainChar, if_neg hdot, if_neg hvanishing, if_neg hselector,
    if_neg hwide]

/-- Lower-case forms keep their spelling, but for the full-width ones, which
become ASCII before. -/
theorem caseRuns_keepSpelling :
    (caseRuns.all fun run => keepsSpelling run.lowest run.highest ||
      Nat.ble 0xFF01 run.first && Nat.ble run.last 0xFF5E) = true := by
  decide

theorem foldDomainChar_of_mem_lowercase_ascii :
    ∀ n < 0x80,
      (lowercase (Char.ofNat n)).all
      (fun d => foldDomainChar d = [d]) = true := by
  decide +kernel

theorem foldDomainChar_of_mem_lowercase
    {c d : Char} (hwide : ¬ (0xFF01 ≤ c.toNat ∧ c.toNat ≤ 0xFF5E))
    (hc : foldDomainChar c = lowercase c) (hd : d ∈ lowercase c) :
    foldDomainChar d = [d] := by
  rcases lowercase_cases hd with ⟨rfl, hlower⟩ | ⟨-, rfl | rfl⟩ | ⟨run, hrun,
    hcovers, rfl⟩
  · rw [hc, hlower]
  · decide
  · decide
  · have hrange :=
      CaseRun.image_range (List.all_eq_true.mp caseRuns_sound run hrun) hcovers
    have hspelling := List.all_eq_true.mp caseRuns_keepSpelling run hrun
    simp only [Bool.or_eq_true, Bool.and_eq_true, Nat.ble_eq] at hspelling
    rcases hspelling with hkeeps | hfull
    · rw [foldDomainChar_of_keepsSpelling hkeeps hrange.1 hrange.2,
        lowercase_of_mem_lowercase hd]
    · simp only [Run.covers, Bool.and_eq_true, decide_eq_true_eq] at hcovers
      omega

theorem foldDomainChar_of_mem
    {c d : Char} (hd : d ∈ foldDomainChar c) :
    foldDomainChar d = [d] := by
  by_cases hdot : c ∈ ['\u3002', '\uff0e', '\uff61']
  · rw [foldDomainChar, if_pos hdot] at hd
    rw [List.mem_singleton.mp hd]
    decide
  by_cases hvanishing :
    c ∈ ['\u00ad', '\u034f', '\u200b', '\u2060', '\u2064', '\ufeff']
  · simp only [foldDomainChar, if_neg hdot, if_pos hvanishing] at hd
    cases hd
  by_cases hselector : 0xFE00 ≤ c.toNat ∧ c.toNat ≤ 0xFE0F
  · simp only [foldDomainChar, if_neg hdot, if_neg hvanishing,
      if_pos hselector] at hd
    cases hd
  by_cases hwide : 0xFF01 ≤ c.toNat ∧ c.toNat ≤ 0xFF5E
  · simp only [foldDomainChar, if_neg hdot, if_neg hvanishing, if_neg hselector,
      if_pos hwide] at hd
    have hascii :=
      foldDomainChar_of_mem_lowercase_ascii (c.toNat - 0xFEE0) (by omega)
    exact of_decide_eq_true (List.all_eq_true.mp hascii d hd)
  · have hfold : foldDomainChar c = lowercase c := by
      simp only [foldDomainChar, if_neg hdot, if_neg hvanishing,
        if_neg hselector, if_neg hwide]
    rw [hfold] at hd
    exact foldDomainChar_of_mem_lowercase hwide hfold hd

theorem flatMap_foldDomainChar_eq_self
    {cs : List Char} (hfolded : ∀ c ∈ cs, foldDomainChar c = [c]) :
    cs.flatMap foldDomainChar = cs := by
  induction cs with
  | nil => rfl
  | cons c cs ih =>
      rw [List.flatMap_cons, hfolded c List.mem_cons_self,
        ih fun c hc =>
          hfolded c (List.mem_cons_of_mem _ hc), List.singleton_append]

/-- A character that a domain name holds once it is in lower case. -/
structure IsNameChar (c : Char) : Prop where
  folded : foldDomainChar c = [c]
  allowed : isForbiddenInDomain c = false

/-- A character that a domain name holds in the end. -/
structure IsDomainChar (c : Char) : Prop where
  ascii : c.toNat < 0x80
  allowed : isForbiddenInDomain c = false

theorem IsNameChar.isDomainChar
    {c : Char} (hname : IsNameChar c) (hascii : c.toNat < 0x80) :
    IsDomainChar c :=
  ⟨hascii, hname.allowed⟩

/-! ### Sound rules -/

/-- A domain name that the rules read as itself. -/
structure IsDomain (domains : DomainRules) (name : List Char) : Prop where
  chars : ∀ c ∈ name, IsDomainChar c
  kept : domains (utf8 (String.ofList name)) = some name

/-- What rules for domain names do: they give names that they keep, and keep
numbers with dots between them. -/
structure DomainRules.IsSound (domains : DomainRules) : Prop where
  isDomain : ∀ bytes name, domains bytes = some name → IsDomain domains name
  numbers :
    ∀ labels : List (List Char), labels ≠ [] →
      (∀ label ∈ labels, label ≠ [] ∧ ∀ c ∈ label, c.isDigit = true) →
        IsDomain domains (['.'].intercalate labels)

theorem IsDomain.percentDecode_eq
    {domains : DomainRules} {name : List Char} (hname : IsDomain domains name) :
    percentDecode name = utf8 (String.ofList name) := by
  rw [utf8, String.toList_ofList]
  apply percentDecode_of_notMem
  intro hmem
  have hallowed := (hname.chars '%' hmem).allowed
  revert hallowed
  decide

theorem IsDomain.head?_ne_bracket
    {domains : DomainRules} {name : List Char} (hname : IsDomain domains name) :
    name.head? ≠ some '[' := by
  intro hhead
  have hallowed := (hname.chars '[' (List.mem_of_head? hhead)).allowed
  revert hallowed
  decide

/-! ### Labels -/

theorem isNameChar_hyphen : IsNameChar '-' where
  folded := by decide
  allowed := by decide

theorem isDomainChar_digitChar :
    ∀ d < 36, foldDomainChar (Punycode.digitChar d) = [Punycode.digitChar d] ∧
      isForbiddenInDomain (Punycode.digitChar d) = false ∧
      (Punycode.digitChar d).toNat < 0x80 ∧
      Punycode.digitChar d ≠ '.' := by
  decide

/-- A label that is read as itself. -/
structure IsSimpleLabel (label : List Char) : Prop where
  chars : ∀ c ∈ label, IsNameChar c ∧ c ≠ '.'
  ascii : ∀ c ∈ label, c.toNat < 0x80
  read : asciiLabel? label = some label

theorem mem_encode
    {label : List Char} {c : Char}
    (hlabel : ∀ c ∈ label, IsNameChar c ∧ c ≠ '.')
    (hc : c ∈ Punycode.encode label) :
    (IsNameChar c ∧ c ≠ '.') ∧ c.toNat < 0x80 := by
  obtain ⟨digits, next, hencode, hleads, -⟩ := Punycode.encode_eq label
  have hascii : ∀ c ∈ Punycode.asciiOf label,
      (IsNameChar c ∧ c ≠ '.') ∧ c.toNat < 0x80 := by
    intro c hc
    obtain ⟨hmem, hsmall⟩ := List.mem_filter.mp hc
    exact ⟨hlabel c hmem, of_decide_eq_true hsmall⟩
  rw [hencode, List.mem_append] at hc
  rcases hc with hhead | hdigit
  · split at hhead
    · cases hhead
    · rcases List.mem_append.mp hhead with hmem | hhyphen
      · exact hascii c hmem
      · rw [List.mem_singleton.mp hhyphen]
        exact ⟨⟨isNameChar_hyphen, by decide⟩, by decide⟩
  · obtain ⟨d, hd, rfl⟩ := hleads.isDigit c hdigit
    obtain ⟨hfolded, hallowed, hsmall, hdot⟩ := isDomainChar_digitChar d hd
    exact ⟨⟨⟨hfolded, hallowed⟩, hdot⟩, hsmall⟩

theorem isNameChar_punycodeMark :
    ∀ c ∈ ['x', 'n', '-', '-'],
      (IsNameChar c ∧ c ≠ '.') ∧ c.toNat < 0x80 := by
  have hx : IsNameChar 'x' := ⟨by decide, by decide⟩
  have hn : IsNameChar 'n' := ⟨by decide, by decide⟩
  have hhyphen := isNameChar_hyphen
  simp only [List.forall_mem_cons, List.not_mem_nil, false_implies,
    implies_true, and_true]
  simp [hx, hn, hhyphen]

theorem isFolded_of_isNameChar
    {label : List Char} (hlabel : ∀ c ∈ label, IsNameChar c)
    (hascii : ¬ label.all (·.toNat < 0x80) = true) :
    isFolded label = true := by
  have hfold := flatMap_foldDomainChar_eq_self fun c hc => (hlabel c hc).folded
  have hallowed : label.any isForbiddenInDomain = false := by
    rw [List.any_eq_false]
    intro c hc
    simp [(hlabel c hc).allowed]
  rw [isFolded, hfold, hallowed, Bool.not_eq_true _ |>.mp hascii]
  simp

theorem isSimpleLabel_punycode
    {label : List Char} (hlabel : ∀ c ∈ label, IsNameChar c ∧ c ≠ '.')
    (hascii : ¬ label.all (·.toNat < 0x80) = true) :
    IsSimpleLabel (['x', 'n', '-', '-'] ++ Punycode.encode label) := by
  have hchars : ∀ c ∈ ['x', 'n', '-', '-'] ++ Punycode.encode label,
      (IsNameChar c ∧ c ≠ '.') ∧ c.toNat < 0x80 := by
    intro c hc
    rcases List.mem_append.mp hc with hmark | hmem
    · exact isNameChar_punycodeMark c hmark
    · exact mem_encode hlabel hmem
  constructor
  case chars => exact fun c hc => (hchars c hc).1
  case ascii => exact fun c hc => (hchars c hc).2
  case read =>
    have hall :
        (['x', 'n', '-', '-'] ++ Punycode.encode label).all (·.toNat < 0x80) =
          true :=
      List.all_eq_true.mpr fun c hc => decide_eq_true (hchars c hc).2
    have hmark : (['x', 'n', '-', '-'] ++ Punycode.encode label).take 4 =
        ['x', 'n', '-', '-'] :=
      rfl
    have hrest : (['x', 'n', '-', '-'] ++ Punycode.encode label).drop 4 =
        Punycode.encode label :=
      rfl
    have hfolded :=
      isFolded_of_isNameChar (fun c hc => (hlabel c hc).1) hascii
    rw [asciiLabel?, if_pos hall, if_pos hmark, hrest,
      Punycode.decode?_encode, Option.bind_some, if_pos hfolded]

theorem eq_of_asciiLabel?
    {label written : List Char}
    (hascii : label.all (·.toNat < 0x80) = true)
    (hwritten : asciiLabel? label = some written) :
    written = label := by
  rw [asciiLabel?, if_pos hascii] at hwritten
  split at hwritten
  · obtain ⟨decoded, -, hdecoded⟩ := Option.bind_eq_some_iff.mp hwritten
    split at hdecoded
    · exact (Option.some.inj hdecoded).symm
    · cases hdecoded
  · exact (Option.some.inj hwritten).symm

theorem isSimpleLabel_of_asciiLabel?
    {label written : List Char}
    (hlabel : ∀ c ∈ label, IsNameChar c ∧ c ≠ '.')
    (hwritten : asciiLabel? label = some written) :
    IsSimpleLabel written := by
  by_cases hascii : label.all (·.toNat < 0x80) = true
  · obtain rfl := eq_of_asciiLabel? hascii hwritten
    constructor
    case chars => exact hlabel
    case ascii =>
      intro c hc
      exact of_decide_eq_true (List.all_eq_true.mp hascii c hc)
    case read => exact hwritten
  · rw [asciiLabel?, if_neg hascii] at hwritten
    obtain rfl := Option.some.inj hwritten
    exact isSimpleLabel_punycode hlabel hascii

theorem toNat_of_isDigit
    {c : Char} (hc : c.isDigit = true) :
    0x30 ≤ c.toNat ∧ c.toNat ≤ 0x39 := by
  simpa [Char.isDigit, UInt32.le_iff_toNat_le] using hc

theorem isNameChar_of_isDigit :
    ∀ c : Char, c.toNat < 0x80 → c.isDigit = true →
      foldDomainChar c = [c] ∧ isForbiddenInDomain c = false ∧ c ≠ '.' ∧
        c ≠ 'x' :=
  forall_ascii (by decide)

theorem isSimpleLabel_of_isDigit
    {label : List Char} (hdigits : ∀ c ∈ label, c.isDigit = true) :
    IsSimpleLabel label := by
  have hsmall : ∀ c ∈ label, c.toNat < 0x80 := by
    intro c hc
    have hrange := toNat_of_isDigit (hdigits c hc)
    omega
  have hchars := fun c hc =>
    isNameChar_of_isDigit c (hsmall c hc) (hdigits c hc)
  constructor
  case chars =>
    intro c hc
    obtain ⟨hfolded, hallowed, hdot, -⟩ := hchars c hc
    exact ⟨⟨hfolded, hallowed⟩, hdot⟩
  case ascii => exact hsmall
  case read =>
    have hascii : label.all (·.toNat < 0x80) = true :=
      List.all_eq_true.mpr fun c hc => decide_eq_true (hsmall c hc)
    have hmark : label.take 4 ≠ ['x', 'n', '-', '-'] := by
      intro hmark
      have hx : 'x' ∈ label :=
        List.mem_of_mem_take (hmark ▸ List.mem_cons_self)
      exact (hchars 'x' hx).2.2.2 rfl
    rw [asciiLabel?, if_pos hascii, if_neg hmark]

/-! ### Names under the simple rules -/

theorem not_isBlank_of_allowed :
    ∀ c : Char, c.toNat < 0x80 → isForbiddenInDomain c = false →
      isBlank c = false :=
  forall_ascii (by decide)

theorem isDomain_of_labels
    {labels : List (List Char)} (hsome : labels ≠ [])
    (hlabels : ∀ label ∈ labels, IsSimpleLabel label) :
    IsDomain simpleDomains (['.'].intercalate labels) := by
  have hdot : IsNameChar '.' := ⟨by decide, by decide⟩
  have hchars : ∀ c ∈ ['.'].intercalate labels,
      IsNameChar c ∧ c.toNat < 0x80 := by
    intro c hc
    rcases eq_or_mem_of_mem_intercalate hc with rfl | ⟨label, hlabel, hmem⟩
    · exact ⟨hdot, by decide⟩
    · have hsimple := hlabels label hlabel
      exact ⟨(hsimple.chars c hmem).1, hsimple.ascii c hmem⟩
  have hsplit : splitAt '.' (['.'].intercalate labels) = labels := by
    apply splitAt_intercalate hsome
    intro label hlabel hmem
    exact ((hlabels label hlabel).chars '.' hmem).2 rfl
  have hmapped : labels.mapM asciiLabel? = some labels :=
    mapM_eq_some_self fun label hlabel => (hlabels label hlabel).read
  constructor
  case chars => exact fun c hc => (hchars c hc).1.isDomainChar (hchars c hc).2
  case kept =>
    have hbytes := ofUtf8?_of_ascii fun c hc => (hchars c hc).2
    have hfolded :=
      flatMap_foldDomainChar_eq_self fun c hc => (hchars c hc).1.folded
    have hallowed : (['.'].intercalate labels).any
        (fun c => isForbiddenInDomain c || isBlank c || c.toNat = 0xFFFD) =
          false := by
      rw [List.any_eq_false]
      intro c hc
      obtain ⟨hname, hsmall⟩ := hchars c hc
      have hreplaced : c.toNat ≠ 0xFFFD := by omega
      have hkept := hname.allowed
      simp [hkept, not_isBlank_of_allowed c hsmall hkept, hreplaced]
    simp only [simpleDomains, utf8, String.toList_ofList, hbytes,
      Option.bind_eq_bind, Option.bind_some, hfolded, hallowed,
      Bool.false_eq_true, if_false, hsplit, hmapped]
    rfl

theorem isDomain_of_simpleDomains
    {bytes : Bytes} {name : List Char}
    (hname : simpleDomains bytes = some name) :
    IsDomain simpleDomains name := by
  simp only [simpleDomains, Option.bind_eq_bind,
    Option.bind_eq_some_iff] at hname
  obtain ⟨text, -, hname⟩ := hname
  split at hname
  · cases hname
  · rename_i hallowed
    obtain ⟨labels, hlabels, hjoined⟩ := Option.bind_eq_some_iff.mp hname
    obtain rfl := Option.some.inj hjoined
    rw [Bool.not_eq_true, List.any_eq_false] at hallowed
    have hchars : ∀ c ∈ text.toList.flatMap foldDomainChar, IsNameChar c := by
      intro c hc
      obtain ⟨source, -, hfold⟩ := List.mem_flatMap.mp hc
      have hkept := hallowed c hc
      simp only [Bool.or_eq_true, not_or, Bool.not_eq_true] at hkept
      exact ⟨foldDomainChar_of_mem hfold, hkept.1.1⟩
    apply isDomain_of_labels
    · intro hnone
      rw [hnone, mapM_eq_some_iff, List.forall₂_nil_right_iff] at hlabels
      rw [splitAt_eq_splitOnP] at hlabels
      exact List.splitOnP_ne_nil _ _ hlabels
    · intro written hwritten
      obtain ⟨label, hlabel, hread⟩ := exists_of_mem_mapM hlabels hwritten
      refine isSimpleLabel_of_asciiLabel? ?_ hread
      intro c hc
      rw [splitAt_eq_splitOnP] at hlabel
      obtain ⟨hmem, hdot⟩ := of_mem_splitOnP hlabel hc
      exact ⟨hchars c hmem, beq_eq_false_iff_ne.mp hdot⟩

theorem isSound_simpleDomains : simpleDomains.IsSound where
  isDomain _ _ hname := isDomain_of_simpleDomains hname
  numbers _ hsome hlabels :=
    isDomain_of_labels hsome fun label hlabel =>
      isSimpleLabel_of_isDigit (hlabels label hlabel).2

end FamilyOrders.Url
