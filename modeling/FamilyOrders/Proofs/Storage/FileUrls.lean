import FamilyOrders.Proofs.Urls.Segments
import FamilyOrders.Storage.Tree
import FamilyOrders.Url.Parser

/-!
# File URLs read back

The URL written for the file at a location is read as that URL again, and it
names the path of that location: nothing in the encoded names is taken for a
separator, a dot segment, a query or a fragment, and each name is decoded to its
own bytes.  The one thing that a URL cannot hold as it is is a letter with a bar
at the start of its path, which reads as a drive.
-/

namespace FamilyOrders

namespace Storage

/-- A name that is a single step down a path. -/
structure ProperName (name : Name) : Prop where
  ne_nil : name ≠ []
  slash_notMem : slash ∉ name
  ne_dot : name ≠ [dot]
  ne_dots : name ≠ [dot, dot]

/-- A letter with a bar after it, as a URL may write a drive. -/
def IsBarredDrive (name : Name) : Prop :=
  ∃ letter, Url.isDriveByte letter = true ∧ name = [letter, 0x7C]

/-- A location that a URL can lead to. -/
structure IsAddressable (location : Location) : Prop where
  proper : ∀ name ∈ location, ProperName name
  start : ∀ name ∈ location.head?, ¬ IsBarredDrive name

theorem properName_of_mem_child
    {location : Location} {name : Name}
    (hlocation : ∀ other ∈ location, ProperName other)
    (hname : ProperName name) :
    ∀ other ∈ location ++ [name], ProperName other :=
  List.forall_mem_append.mpr ⟨hlocation, List.forall_mem_singleton.mpr hname⟩

theorem IsAddressable.append_name
    {location : Location} {name : Name} (hlocation : IsAddressable location)
    (hname : ProperName name) (hdrive : location = [] → ¬ IsBarredDrive name) :
    IsAddressable (location ++ [name]) where
  proper := properName_of_mem_child hlocation.proper hname
  start := by
    intro first hfirst
    cases location with
    | nil =>
        obtain rfl := Option.some.inj hfirst
        exact hdrive rfl
    | cons start more => exact hlocation.start first hfirst

theorem child_ne_nil (directory : Location) (name : Name) :
    directory ++ [name] ≠ [] :=
  List.append_ne_nil_of_right_ne_nil _ (List.cons_ne_nil _ _)

theorem eq_of_child_eq
    {directory other : Location} {name otherName : Name}
    (hchild : directory ++ [name] = other ++ [otherName]) :
    directory = other := by
  have hparents := congrArg List.dropLast hchild
  rw [List.dropLast_concat, List.dropLast_concat] at hparents
  exact hparents

theorem path_of_ne_nil
    {location : Location} (hlocation : location ≠ []) :
    location.path = location.flatMap (slash :: ·) := by
  obtain ⟨first, more, rfl⟩ := List.exists_cons_of_ne_nil hlocation
  rfl

theorem path_child
    (directory : Location) (name : Name) :
    (directory ++ [name]).path =
      directory.flatMap (slash :: ·) ++ slash :: name := by
  rw [path_of_ne_nil (child_ne_nil directory name), List.flatMap_append,
    List.flatMap_singleton]

theorem path_ne_nil (location : Location) : location.path ≠ [] := by
  cases location with
  | nil => exact List.cons_ne_nil _ _
  | cons first more => exact List.cons_ne_nil _ _

end Storage

namespace Url

open FamilyOrders.Text
open FamilyOrders.Storage

theorem percent_mem_nameEscapes : '%' ∈ nameEscapes := by
  decide

theorem isPlain_of_mem_percentByte
    {b : UInt8} {c : Char} (hc : c ∈ percentByte nameEscapes b) :
    IsPlain c := by
  unfold percentByte at hc
  split at hc
  · rename_i hkept
    obtain ⟨hlarge, hsmall, hallowed⟩ := hkept
    obtain rfl := List.mem_singleton.mp hc
    have hlower : 0x20 ≤ b.toNat := UInt8.le_iff_toNat_le.mp hlarge
    have hupper : b.toNat < 0x7F := UInt8.lt_iff_toNat_lt.mp hsmall
    have hcode := toNat_asciiChar b
    have hspace : (asciiChar b).toNat ≠ 0x20 := by
      intro heq
      have hblank : asciiChar b = ' ' := Char.toNat_inj.mp heq
      rw [hblank] at hallowed
      revert hallowed
      decide
    refine ⟨by omega, by omega, ?_⟩
    intro hmem
    apply hallowed
    simp only [nameEscapes, List.mem_cons] at hmem ⊢
    rcases hmem with hslash | hback | hescape
    · exact .inl hslash
    · exact .inr (.inr (.inl hback))
    · exact .inr (.inr (.inr hescape))
  · simp only [List.mem_cons, List.not_mem_nil, or_false] at hc
    rcases hc with rfl | rfl | rfl
    · exact isPlain_percent
    · exact isPlain_hexDigit _ (div_sixteen_lt b)
    · exact isPlain_hexDigit _ (mod_sixteen_lt b)

theorem isPlain_of_mem_percentEncode
    {name : Name} {c : Char} (hc : c ∈ percentEncode nameEscapes name) :
    IsPlain c := by
  obtain ⟨b, -, hb⟩ := List.mem_flatMap.mp hc
  exact isPlain_of_mem_percentByte hb

/-! ### Segments -/

theorem dropDot_percentByte
    {b : UInt8} {rest tail : List Char}
    (hdrop : dropDot (percentByte nameEscapes b ++ rest) = some tail) :
    b = dot ∧ tail = rest := by
  unfold percentByte at hdrop
  split at hdrop
  · rename_i hkept
    obtain ⟨-, hsmall, hallowed⟩ := hkept
    have hb : b.toNat < 0x7F := UInt8.lt_iff_toNat_lt.mp hsmall
    have hpercent : asciiChar b ≠ '%' := by
      rintro heq
      exact hallowed (heq ▸ percent_mem_nameEscapes)
    by_cases hdot : asciiChar b = '.'
    · have hcode := toNat_asciiChar b
      rw [hdot] at hcode hdrop
      refine ⟨?_, (Option.some.inj hdrop).symm⟩
      rw [← UInt8.toNat_inj, ← hcode]
      rfl
    · simp [dropDot, hdot, hpercent] at hdrop
  · rename_i hescaped
    have hdigit : ∀ n < 16, (hexDigit n = '2' → n = 2) ∧ hexDigit n ≠ 'e' ∧
        (hexDigit n = 'E' → n = 14) := by
      decide
    obtain ⟨htwo, -, -⟩ := hdigit _ (div_sixteen_lt b)
    obtain ⟨-, hsmallE, hlargeE⟩ := hdigit _ (mod_sixteen_lt b)
    have hdot : hexDigit (b.toNat / 16) = '2' →
        hexDigit (b.toNat % 16) ≠ 'E' := by
      intro hhigh hlow
      have hb : b = dot := by
        rw [← UInt8.toNat_inj]
        have h2 := htwo hhigh
        have h14 := hlargeE hlow
        change b.toNat = 0x2E
        omega
      apply hescaped
      rw [hb]
      decide
    by_cases hhigh : hexDigit (b.toNat / 16) = '2'
    · simp [dropDot, hsmallE, hdot hhigh] at hdrop
    · simp [dropDot, hhigh] at hdrop

theorem dropDot_percentEncode
    {name : Name} {tail : List Char}
    (hdrop : dropDot (percentEncode nameEscapes name) = some tail) :
    ∃ more, name = dot :: more ∧ tail = percentEncode nameEscapes more := by
  cases name with
  | nil => contradiction
  | cons b more =>
      obtain ⟨rfl, htail⟩ := dropDot_percentByte hdrop
      exact ⟨more, rfl, htail⟩

theorem percentEncode_eq_nil_iff
    {name : Name} :
    percentEncode nameEscapes name = [] ↔ name = [] := by
  constructor
  · intro hempty
    rw [← percentDecode_percentEncode percent_mem_nameEscapes name, hempty]
    rfl
  · rintro rfl
    rfl

theorem not_isSingleDot
    {name : Name} (hname : ProperName name) :
    isSingleDot (percentEncode nameEscapes name) = false := by
  rw [isSingleDot, decide_eq_false_iff_not]
  intro hdrop
  obtain ⟨more, rfl, hmore⟩ := dropDot_percentEncode hdrop
  obtain rfl := percentEncode_eq_nil_iff.mp hmore.symm
  exact hname.ne_dot rfl

theorem not_isDoubleDot
    {name : Name} (hname : ProperName name) :
    isDoubleDot (percentEncode nameEscapes name) = false := by
  rw [isDoubleDot, decide_eq_false_iff_not, Option.bind_eq_some_iff]
  rintro ⟨tail, hfirst, hsecond⟩
  obtain ⟨more, rfl, rfl⟩ := dropDot_percentEncode hfirst
  obtain ⟨last, rfl, hlast⟩ := dropDot_percentEncode hsecond
  obtain rfl := percentEncode_eq_nil_iff.mp hlast.symm
  exact hname.ne_dots rfl

theorem isBarredDrive_of_percentEncode
    {name : Name} {c : Char} (hletter : c.isAlpha = true)
    (hsegment : percentEncode nameEscapes name = [c, '|']) :
    IsBarredDrive name := by
  have hcode : 0x41 ≤ c.toNat ∧ c.toNat ≤ 0x5A ∨ 0x61 ≤ c.toNat ∧
      c.toNat ≤ 0x7A := by
    change (decide (c.val ≥ 'A'.val ∧ c.val ≤ 'Z'.val) ||
      (decide (c.val ≥ 'a'.val) && decide (c.val ≤ 'z'.val))) = true at hletter
    simpa [UInt32.le_iff_toNat_le] using hletter
  have hsmall : c.toNat < 0x80 := by omega
  have hbyte := toNat_ofNat_toNat hsmall
  refine ⟨UInt8.ofNat c.toNat, ?_, ?_⟩
  · simp only [isDriveByte, Bool.or_eq_true, Bool.and_eq_true,
      decide_eq_true_eq, UInt8.le_iff_toNat_le, hbyte]
    exact hcode
  · rw [← percentDecode_percentEncode percent_mem_nameEscapes name, hsegment]
    simp [percentDecode, utf8EncodeChar_of_lt hsmall]
    rfl

theorem keepSegment_percentEncode
    {name : Name} {isFirst : Bool}
    (hname : isFirst = true → ¬ IsBarredDrive name) :
    keepSegment fileScheme isFirst (percentEncode nameEscapes name) =
      percentEncode nameEscapes name := by
  apply keepSegment_of_isPlain
  · exact fun c hc => isPlain_of_mem_percentEncode hc
  · intro hfirst _ c hletter hsegment
    exact hname hfirst (isBarredDrive_of_percentEncode hletter hsegment)

/-! ### Whole URLs -/

theorem segments_ofFile
    {location : Location} (hlocation : location ≠ []) :
    (ofFile location).path =
      .segments (location.map (percentEncode nameEscapes)) := by
  rw [ofFile, if_neg]
  rwa [List.isEmpty_iff]

theorem chars_ofFile
    {location : Location} (hlocation : location ≠ []) :
    (ofFile location).chars =
      'f' :: 'i' :: 'l' :: 'e' :: ':' :: '/' :: '/' ::
        (location.map (percentEncode nameEscapes)).flatMap ('/' :: ·) := by
  have hslashes : (ofFile location).authorityChars = ['/', '/'] := by
    unfold authorityChars
    rw [segments_ofFile hlocation]
    simp only [ofFile]
    split
    · contradiction
    · rfl
    · rfl
  rw [chars, hslashes, segments_ofFile hlocation]
  simp [ofFile, fileScheme, Path.chars]

theorem readSegments_percentEncode
    {first : Name} {more : List Name}
    (hnames : IsAddressable (first :: more)) :
    readSegments fileScheme
        (percentEncode nameEscapes first ++
          (more.map (percentEncode nameEscapes)).flatMap ('/' :: ·)) =
      (first :: more).map (percentEncode nameEscapes) := by
  have hplain : ∀ segment ∈ (first :: more).map (percentEncode nameEscapes),
      ∀ c ∈ segment,
      IsPlain c := by
    intro segment hsegment c hc
    obtain ⟨name, -, rfl⟩ := List.mem_map.mp hsegment
    exact isPlain_of_mem_percentEncode hc
  have hkept : ∀ segment ∈ (first :: more).map (percentEncode nameEscapes),
      isSingleDot segment = false ∧ isDoubleDot segment = false ∧
        keepSegment fileScheme false segment = segment := by
    intro segment hsegment
    obtain ⟨name, hname, rfl⟩ := List.mem_map.mp hsegment
    have hproper := hnames.proper name hname
    exact ⟨not_isSingleDot hproper, not_isDoubleDot hproper,
      keepSegment_percentEncode nofun⟩
  have hstart : ([] : List (List Char)) = [] →
      ∀ segment ∈ ((first :: more).map (percentEncode nameEscapes)).head?,
        keepSegment fileScheme true segment = segment := by
    intro _ segment hsegment
    obtain rfl := Option.some.inj hsegment
    exact keepSegment_percentEncode fun _ => hnames.start first rfl
  have hfirst : (percentEncode nameEscapes first).isEmpty = false := by
    rw [List.isEmpty_eq_false_iff]
    intro hempty
    exact (hnames.proper first List.mem_cons_self).ne_nil
      (percentEncode_eq_nil_iff.mp hempty)
  rw [List.map_cons] at hplain hkept hstart ⊢
  rw [readSegments, splitSegments_joined hplain,
    resolveSegments_of_kept hkept hstart]
  simp [dropLeadingEmpty, hfirst]

theorem readFile_of_readSegments
    {body : List Char} {segments : List (List Char)} (domains : DomainRules)
    (hread : readSegments fileScheme body = segments) :
    readFile domains ('/' :: '/' :: '/' :: body) none none =
      .ok (withTail fileScheme none (.segments segments) none none) := by
  rw [← hread]
  rfl

/-- The text of a file URL is read as that URL. -/
theorem parse_ofFile
    {location : Location} (domains : DomainRules) (hlocation : location ≠ [])
    (haddress : IsAddressable location) :
    parse domains (ofFile location).text = .ok (ofFile location) := by
  rw [parse, text, String.toList_ofList, chars_ofFile hlocation]
  have hbody :
      ∀ c ∈ (location.map (percentEncode nameEscapes)).flatMap ('/' :: ·),
      c = '/' ∨ IsPlain c := by
    intro c hc
    obtain ⟨segment, hsegment, hmem⟩ := List.mem_flatMap.mp hc
    obtain ⟨name, -, rfl⟩ := List.mem_map.mp hsegment
    exact (List.mem_cons.mp hmem).imp id isPlain_of_mem_percentEncode
  obtain ⟨first, more, rfl⟩ := List.exists_cons_of_ne_nil hlocation
  have hread :=
    readFile_of_readSegments domains (readSegments_percentEncode haddress)
  generalize hpath :
    ((first :: more).map (percentEncode nameEscapes)).flatMap ('/' :: ·) = path
    at hbody ⊢
  have hvisible : ∀ c ∈ 'f' :: 'i' :: 'l' :: 'e' :: ':' :: '/' :: '/' :: path,
      isControlOrSpace c = false := by
    simp only [List.forall_mem_cons]
    refine ⟨rfl, rfl, rfl, rfl, rfl, rfl, rfl, ?_⟩
    intro c hc
    rcases hbody c hc with rfl | hplain
    · rfl
    · exact hplain.not_isControlOrSpace
  have hescape : ∀ d ∈ pathEscapes, d ≠ '/' → d ∉ '/' :: '/' :: path := by
    intro d hd hslash hmem
    simp only [List.mem_cons, hslash, false_or] at hmem
    rcases hbody d hmem with rfl | hplain
    · contradiction
    · exact hplain.ne_of_mem_pathEscapes hd rfl
  have htail :
      splitTail ('/' :: '/' :: path) = ('/' :: '/' :: path, none, none) :=
    splitTail_of_plain (hescape '#' (by decide) (by decide))
      (hescape '?' (by decide) (by decide))
  have hscheme :
      splitScheme ('f' :: 'i' :: 'l' :: 'e' :: ':' :: '/' :: '/' :: path) =
        some (fileScheme, '/' :: '/' :: path) := rfl
  rw [read_of_visible hvisible hscheme, readAfterScheme, htail, ← hpath]
  exact hread

theorem filePath?_ofFile
    {location : Location} (hlocation : location ≠ []) :
    (ofFile location).filePath? =
      some (closeDrive (Location.path location)) := by
  obtain ⟨first, more, rfl⟩ := List.exists_cons_of_ne_nil hlocation
  have hdecode : ∀ name :
      Name, percentDecode (percentEncode nameEscapes name) = name :=
    percentDecode_percentEncode percent_mem_nameEscapes
  rw [filePath?, segments_ofFile hlocation]
  simp [isLocal, ofFile, Location.path, List.flatMap_map, hdecode]
  rfl

theorem closeDrive_append
    {path name : Bytes} (hname : name ≠ []) (hcolon : 0x3A ∉ name)
    (hbar : 0x7C ∉ name) :
    closeDrive (path ++ name) = path ++ name := by
  have hmem := List.getLast_mem hname
  have hmarks : name.getLast hname ≠ 0x3A ∧ name.getLast hname ≠ 0x7C :=
    ⟨ne_of_mem_of_not_mem hmem hcolon, ne_of_mem_of_not_mem hmem hbar⟩
  unfold closeDrive
  split
  · rename_i mark letter _ _ hreverse
    have hlast : name.getLast hname = mark := by
      have hhead := congrArg List.head? hreverse
      rw [List.head?_reverse, List.getLast?_append,
        List.getLast?_eq_some_getLast hname] at hhead
      exact Option.some.inj hhead
    rw [← hlast]
    simp [hmarks]
  · rfl

theorem filePath?_ofFile_append
    (directory : Location) {name : Name} (hname : name ≠ [])
    (hcolon : 0x3A ∉ name) (hbar : 0x7C ∉ name) :
    (ofFile (directory ++ [name])).filePath? =
      some (directory ++ [name]).path := by
  have hpath : (directory ++ [name]).path =
      (directory.flatMap (slash :: ·) ++ [slash]) ++ name := by
    rw [path_child, List.append_assoc]
    rfl
  rw [filePath?_ofFile (child_ne_nil directory name), hpath,
    closeDrive_append hname hcolon hbar]

/-- Different locations have different URLs. -/
theorem eq_of_text_ofFile
    {one other : Location} (hone : one ≠ []) (hother : other ≠ [])
    (haddressOne : IsAddressable one) (haddressOther : IsAddressable other)
    (htext : (ofFile one).text = (ofFile other).text) :
    one = other := by
  have hparsed := parse_ofFile simpleDomains hone haddressOne
  rw [htext, parse_ofFile simpleDomains hother haddressOther] at hparsed
  have hpaths := congrArg Url.path (Except.ok.inj hparsed)
  rw [segments_ofFile hone, segments_ofFile hother] at hpaths
  have hdecode : percentDecode ∘ percentEncode nameEscapes = id :=
    funext (percentDecode_percentEncode percent_mem_nameEscapes)
  have hnames := congrArg (List.map percentDecode) (Path.segments.inj hpaths)
  rw [List.map_map, List.map_map, hdecode, List.map_id, List.map_id] at hnames
  exact hnames.symm

end Url

end FamilyOrders
