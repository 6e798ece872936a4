import FamilyOrders.Creation.Basic
import FamilyOrders.Proofs.SnakeCase
import FamilyOrders.Storage.DocumentStore

/-!
# Names of documents' files

The name of a document's file ends with the extension of its format, which tells
the format again.  What comes before is made of letters, numbers and
underscores, so storing leaves the name as it is.
-/

namespace FamilyOrders

open FamilyOrders.Storage FamilyOrders.Text

/-! ## The format that a name announces -/

namespace FileFormat

theorem splitAtLastDot_append
    {ending : List Char} (hending : '.' ∉ ending) (stem : List Char) :
    splitAtLastDot (stem ++ '.' :: ending) = some (stem, ending) := by
  have hplain : ∀ c ∈ ending.reverse, (c ≠ '.' : Bool) = true := by
    intro c hc
    have hne : c ≠ '.' := fun hdot => hending (hdot ▸ List.mem_reverse.mp hc)
    simpa using hne
  have hafter :
      ((stem ++ '.' :: ending).reverse.takeWhile (· ≠ '.')).reverse =
        ending := by
    rw [List.reverse_append, List.reverse_cons, List.append_assoc,
      List.takeWhile_append_of_pos hplain]
    simp
  have hshort : ending.length ≠ (stem ++ '.' :: ending).length := by
    simp only [List.length_append, List.length_cons]
    omega
  have hstem :
      (stem ++ '.' :: ending).length - ending.length - 1 = stem.length := by
    simp only [List.length_append, List.length_cons]
    omega
  simp only [splitAtLastDot, hafter]
  rw [if_neg hshort, hstem, List.take_left]

theorem splitAtLastDot_of_notMem
    {cs : List Char} (hdot : '.' ∉ cs) :
    splitAtLastDot cs = none := by
  have hplain : ∀ c ∈ cs.reverse, (c ≠ '.' : Bool) = true := by
    intro c hc
    simpa using ne_of_mem_of_not_mem (List.mem_reverse.mp hc) hdot
  rw [splitAtLastDot, List.takeWhile_eq_self_iff.mpr hplain,
    List.reverse_reverse]
  exact if_pos rfl

/-- The format that an uploaded file with this extension has. -/
def announced : FileFormat → Option FileFormat
  | .pdf => some .pdf
  | .word => some .word
  | .html => none

theorem announced_of_ne_html
    {format : FileFormat} (hformat : format ≠ .html) :
    format.announced = some format := by
  cases format with
  | pdf => rfl
  | word => rfl
  | html => contradiction

theorem ofFileName?_append
    (stem : String) (format : FileFormat) :
    ofFileName? (stem ++ "." ++ format.fileExtension) = format.announced := by
  have hending : '.' ∉ format.fileExtension.toList := by cases format <;> decide
  have hchars : (stem ++ "." ++ format.fileExtension).toList =
      stem.toList ++ '.' :: format.fileExtension.toList := by
    simp
  rw [ofFileName?, hchars, splitAtLastDot_append hending]
  dsimp only
  cases format <;> decide

end FileFormat

/-! ## Characters that storing keeps -/

namespace Storage

/-- Storing leaves the character as it is, wherever in a name it stands. -/
structure IsKept (c : Char) : Prop where
  visible : isBlank c = false
  safe : isUnsafe c = false
  not_dot : c ≠ '.'

/-- The code points of the visible characters that storing replaces or takes
away. -/
def dropped : List Nat :=
  [0x20, 0x22, 0x2A, 0x2E, 0x2F, 0x3A, 0x3C, 0x3E, 0x3F, 0x5C, 0x7C, 0x85, 0xA0,
    0x1680, 0x2000, 0x2001, 0x2002, 0x2003, 0x2004, 0x2005, 0x2006, 0x2007,
      0x2008, 0x2009, 0x200A, 0x2028, 0x2029,
    0x202F, 0x205F, 0x3000]

/-- All code points from the first to the last belong to characters that are
kept. -/
def keepsRange (first last : Nat) : Bool :=
  Nat.ble 0x20 first && dropped.all fun code =>
    Nat.blt code first || Nat.blt last code

theorem isKept_of_notMem
    {c : Char} (hcontrol : 0x20 ≤ c.toNat) (hc : c.toNat ∉ dropped) :
    IsKept c := by
  have hblanks : ∀ d, isBlank d = true → d.toNat < 0x20 ∨
      d.toNat ∈ dropped := by
    simp [isBlank, dropped]
  have hsigns : ∀ d ∈ ['/', '\\', ':', '*', '?', '"', '<', '>', '|'],
      d.toNat ∈ dropped := by
    simp [dropped]
  constructor
  case visible =>
    rw [Bool.eq_false_iff]
    intro hblank
    rcases hblanks c hblank with hlow | hgone
    · omega
    · exact hc hgone
  case safe =>
    rw [Bool.eq_false_iff]
    intro hunsafe
    simp only [isUnsafe, List.contains_eq_mem, Bool.or_eq_true,
      decide_eq_true_eq] at hunsafe
    rcases hunsafe with hsign | hlow
    · exact hc (hsigns c hsign)
    · omega
  case not_dot =>
    rintro rfl
    exact hc (by decide)

theorem isKept_of_keepsRange
    {c : Char} {first last : Nat} (hkeeps : keepsRange first last = true)
    (hfirst : first ≤ c.toNat) (hlast : c.toNat ≤ last) :
    IsKept c := by
  simp only [keepsRange, Bool.and_eq_true, Bool.or_eq_true, Nat.ble_eq,
    Nat.blt_eq, List.all_eq_true] at hkeeps
  obtain ⟨hcontrol, hclear⟩ := hkeeps
  apply isKept_of_notMem (by omega)
  intro hmem
  have hapart := hclear c.toNat hmem
  omega

theorem isKept_of_inRuns
    {runs : List Run} {c : Char}
    (hruns : (runs.all fun run => keepsRange run.first run.last) = true)
    (hc : inRuns runs c = true) :
    IsKept c := by
  obtain ⟨run, hrun, hcovers⟩ := List.any_eq_true.mp hc
  simp only [Run.covers, Bool.and_eq_true, decide_eq_true_eq] at hcovers
  exact isKept_of_keepsRange (List.all_eq_true.mp hruns run hrun) hcovers.1.1
    hcovers.1.2

theorem isKept_of_isAlphanumeric
    {c : Char} (hc : isAlphanumeric c = true) :
    IsKept c :=
  isKept_of_inRuns (by decide +kernel) hc

/-- Lower-case forms lie in ranges of characters that are kept. -/
theorem caseRuns_keep :
    (caseRuns.all fun run => keepsRange run.lowest run.highest) = true := by
  decide

theorem isKept_lowercase
    {c d : Char} (hc : IsKept c) (hd : d ∈ lowercase c) :
    IsKept d := by
  rcases lowercase_cases hd with ⟨rfl, -⟩ | ⟨-, rfl | rfl⟩ | ⟨run, hrun,
    hcovers, rfl⟩
  · exact hc
  · exact isKept_of_notMem (by decide) (by decide)
  · exact isKept_of_notMem (by decide) (by decide)
  · have hrange :=
      CaseRun.image_range (List.all_eq_true.mp caseRuns_sound run hrun) hcovers
    exact isKept_of_keepsRange (List.all_eq_true.mp caseRuns_keep run hrun)
      hrange.1 hrange.2

/-! ## Snake case -/

theorem isKept_of_mem_spelling
    {c d : Char} (hc : isAlphanumeric c = true) (hd : d ∈ spelling c) :
    IsKept d := by
  have hkept := isKept_of_isAlphanumeric hc
  unfold spelling at hd
  split at hd
  · exact isKept_lowercase hkept hd
  · rw [List.mem_singleton.mp hd]
    exact hkept

theorem isKept_of_mem_snakeCase
    {s : String} {d : Char} (hd : d ∈ (snakeCase s).toList) :
    IsKept d := by
  by_cases hunderscore : d = '_'
  · rw [hunderscore]
    exact isKept_of_notMem (by decide) (by decide)
  · have hletter : d ∈ (snakeCase s).toList.filter (· ≠ '_') :=
      List.mem_filter.mpr ⟨hd, decide_eq_true hunderscore⟩
    rw [toList_snakeCase, filter_snakeCaseChars] at hletter
    obtain ⟨c, hc, hspelt⟩ := List.mem_flatMap.mp hletter
    exact isKept_of_mem_spelling (List.mem_filter.mp hc).2 hspelt

/-! ## Names that storing keeps -/

/-- What stands for a character in a stored name. -/
def clean (c : Char) : Char :=
  if isUnsafe c then '_' else c

theorem clean_of_not_isUnsafe
    {c : Char} (hc : isUnsafe c = false) :
    clean c = c := by
  rw [clean, hc, if_neg Bool.false_ne_true]

theorem safeNameChars_of_ne_nil
    {cs name : List Char}
    (hname : strip (· = '.') ((strip isBlank cs).map clean) = name)
    (hne : name ≠ []) :
    safeNameChars cs = name := by
  subst hname
  unfold safeNameChars
  dsimp only
  split
  · rename_i hempty
    exact absurd hempty hne
  · rfl

theorem safeName_eq_self
    {name : String} (hname : name ≠ "")
    (hsafe : ∀ c ∈ name.toList, isUnsafe c = false)
    (hfirst : ∀ c ∈ name.toList.head?, isBlank c = false ∧ c ≠ '.')
    (hlast : ∀ c ∈ name.toList.getLast?, isBlank c = false ∧ c ≠ '.') :
    safeName name = name := by
  have hblanks : strip isBlank name.toList = name.toList :=
    strip_of_ends (fun c hc => (hfirst c hc).1) fun c hc => (hlast c hc).1
  have hcleaned : name.toList.map clean = name.toList := by
    rw [List.map_congr_left fun c hc => clean_of_not_isUnsafe (hsafe c hc),
      List.map_id']
  have hdots : strip (· = '.') name.toList = name.toList :=
    strip_of_ends (fun c hc => decide_eq_false (hfirst c hc).2)
      fun c hc => decide_eq_false (hlast c hc).2
  have hchars : safeNameChars name.toList = name.toList := by
    apply safeNameChars_of_ne_nil
    · rw [hblanks, hcleaned, hdots]
    · exact fun hempty => hname (String.toList_eq_nil_iff.mp hempty)
  rw [safeName, hchars, String.ofList_toList]

theorem safeName_append_extension
    {stem : String} {first : Char} {rest : List Char}
    (hchars : stem.toList = first :: rest)
    (hfirst : isBlank first = false ∧ first ≠ '.')
    (hsafe : ∀ c ∈ stem.toList, isUnsafe c = false) (format : FileFormat) :
    safeName (stem ++ "." ++ format.fileExtension) =
      stem ++ "." ++ format.fileExtension := by
  obtain ⟨initial, last, hextension⟩ : ∃ initial last,
      format.fileExtension.toList = initial ++ [last] ∧ isBlank last = false ∧
      last ≠ '.' := by
    cases format with
    | pdf => exact ⟨['p', 'd'], 'f', by decide, by decide, by decide⟩
    | word => exact ⟨['d', 'o', 'c'], 'x', by decide, by decide, by decide⟩
    | html => exact ⟨['h', 't', 'm'], 'l', by decide, by decide, by decide⟩
  have hletters : ∀ c ∈ format.fileExtension.toList, isUnsafe c = false := by
    cases format <;> simp [FileFormat.fileExtension, isUnsafe]
  have hname : (stem ++ "." ++ format.fileExtension).toList =
      (first :: rest ++ '.' :: initial) ++ [last] := by
    simp [hchars, hextension.1]
  apply safeName_eq_self
  · simp [← String.toList_eq_nil_iff, hname]
  · intro c hc
    rw [String.toList_append, String.toList_append, List.mem_append,
      List.mem_append] at hc
    rcases hc with (hstem | hdot) | hletter
    · exact hsafe c hstem
    · rw [List.mem_singleton.mp hdot]
      decide
    · exact hletters c hletter
  · intro c hc
    rw [hname] at hc
    obtain rfl : first = c := by simpa using hc
    exact hfirst
  · intro c hc
    rw [hname, List.getLast?_concat] at hc
    obtain rfl : last = c := by simpa using hc
    exact hextension.2

end Storage

namespace Order

theorem titleStem_eq_some
    {title : Option String} {stem : String}
    (hstem : titleStem title = some stem) :
    stem ≠ "" ∧ ∀ c ∈ stem.toList, IsKept c := by
  simp only [titleStem, Option.filter_eq_some_iff,
    Option.map_eq_some_iff] at hstem
  obtain ⟨⟨s, -, rfl⟩, hsome⟩ := hstem
  constructor
  · intro hempty
    simp [hempty] at hsome
  · intro c hc
    exact isKept_of_mem_snakeCase hc

theorem codeStem_ne_empty (order : Order) : order.codeStem ≠ "" := by
  obtain ⟨c, hc, hletter⟩ : ∃ c ∈ order.code.toList,
    isAlphanumeric c = true := by
    cases order with
    | other => exact ⟨'O', List.mem_cons_self, by decide⟩
    | _ => exact ⟨'C', List.mem_cons_self, by decide⟩
  rw [codeStem, ne_eq, ← String.toList_eq_nil_iff, toList_snakeCase,
    snakeCaseChars_eq_nil_iff]
  intro hwordless
  exact Bool.false_ne_true ((hwordless c hc).symm.trans hletter)

theorem fileStem_cases
    (order : Order) (title : Option String) :
    order.fileStem title = order.codeStem ∨
      ∃ stem, titleStem title = some stem ∧
        (order.fileStem title = stem ∨
          order.fileStem title = "c21_" ++ stem) := by
  cases hstem : titleStem title with
  | none => cases order <;> simp [fileStem, hstem]
  | some stem => cases order <;> simp [fileStem, hstem]

theorem fileStem_kept
    (order : Order) (title : Option String) :
    order.fileStem title ≠ "" ∧ ∀ c ∈ (order.fileStem title).toList,
      IsKept c := by
  rcases order.fileStem_cases title with hcode | ⟨stem, hstem, hfile | hfile⟩
  · rw [hcode]
    exact ⟨order.codeStem_ne_empty, fun c hc => isKept_of_mem_snakeCase hc⟩
  · rw [hfile]
    exact titleStem_eq_some hstem
  · have hkept := (titleStem_eq_some hstem).2
    rw [hfile]
    constructor
    · simp
    · intro c hc
      rw [String.toList_append, List.mem_append] at hc
      rcases hc with hletter | hrest
      · have hletters : ∀ d ∈ "c21_".toList, 0x20 ≤ d.toNat ∧
          d.toNat ∉ dropped := by
          simp [dropped]
        exact isKept_of_notMem (hletters c hletter).1 (hletters c hletter).2
      · exact hkept c hrest

theorem safeName_fileName
    (order : Order) (format : FileFormat) (title : Option String) :
    safeName (order.fileName format title) = order.fileName format title := by
  obtain ⟨hstem, hkept⟩ := order.fileStem_kept title
  obtain ⟨first, rest, hchars⟩ :=
    List.exists_cons_of_ne_nil fun hempty =>
      hstem (String.toList_eq_nil_iff.mp hempty)
  have hfirst := hkept first (by simp [hchars])
  exact safeName_append_extension hchars ⟨hfirst.visible, hfirst.not_dot⟩
    (fun c hc => (hkept c hc).safe) format

end Order

theorem safeName_draftFileName
    (format : FileFormat) (language : Language) :
    safeName (draftFileName format language) =
      draftFileName format language := by
  cases language with
  | english =>
      have hname : draftFileName format .english =
          "Preview order" ++ "." ++ format.fileExtension := rfl
      have hchars : "Preview order".toList = 'P' :: "review order".toList := rfl
      rw [hname]
      exact safeName_append_extension hchars ⟨by decide, by decide⟩
        (by simp [isUnsafe]) format
  | welsh =>
      have hname : draftFileName format .welsh =
          "Preview order - Welsh" ++ "." ++ format.fileExtension := rfl
      have hchars :
          "Preview order - Welsh".toList =
            'P' :: "review order - Welsh".toList := rfl
      rw [hname]
      exact safeName_append_extension hchars ⟨by decide, by decide⟩
        (by simp [isUnsafe]) format

/-- Storing leaves the name of an order's document as it is. -/
theorem safeName_documentName
    (order : Order) (status : OrderStatus) (format : FileFormat)
    (language : Language) (title : Option String) :
    safeName (documentName order status format language title) =
      documentName order status format language title := by
  cases status with
  | draft => exact safeName_draftFileName format language
  | «sealed» => exact order.safeName_fileName format title
  | plain => exact order.safeName_fileName format title

end FamilyOrders
