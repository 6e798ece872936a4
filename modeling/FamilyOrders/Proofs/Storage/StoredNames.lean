import FamilyOrders.Proofs.Storage.Reuploads
import FamilyOrders.Proofs.Storage.Uploads

/-!
# Names of stored files

The name chosen for an order's document comes back from the store as it was
chosen.  A name given by a user is made safe first.  It announces its format
afterwards as it did before, unless its ending stands alone: then the dots in
front of the ending are gone.
-/

namespace FamilyOrders

open FamilyOrders.Storage FamilyOrders.Text
open Commission (titled)
open DocumentStore (archive reference)

/-! ## Names chosen for documents -/

/-- How the document of an order is named, and what the store makes of the name.
-/
structure Order.NamingLaw (order : Order) (title : Option String)
    (format : FileFormat) : Prop where
  typed :
    ∃ stem, order.fileName format title = stem ++ "." ++ format.fileExtension ∧
    stem ≠ "" ∧
      ∀ c ∈ stem.toList, c ≠ '.' ∧ isBlank c = false ∧ isUnsafe c = false
  announced :
    FileFormat.ofFileName? (order.fileName format title) =
      if format = .html then none else some format
  kept :
    safeName (order.fileName format title) = order.fileName format title
  draft_kept :
    ∀ language,
      safeName (draftFileName format language) = draftFileName format language
  uploaded :
    ∀ (store : DocumentStore) (disk : Disk) (bytes : Bytes) (mediaType : String)
      (status : OrderStatus) (language : Language)
      (document : DocumentReference),
      outcomeFrom disk (store.upload bytes
        (documentName order status format language title)
          mediaType) = .ok document →
        document.filename = documentName order status format language title
  created :
    ∀ (commission : Commission) (store : DocumentStore) (disk : Disk)
      (produced : Produced) (created : CreatedDocument),
      commission.file.answers.order = some order →
        commission.file.answers.title = title →
      outcomeFrom disk (commission.produce store order) = .ok produced →
      produced.format = format →
        outcomeFrom disk (commission.create store) = .ok created →
        created.document.filename =
          documentName order commission.status format commission.language title

namespace Storage

theorem DocumentStore.filename_of_upload
    {store : DocumentStore} {disk : Disk} {bytes : Bytes}
    {filename mediaType : String} {document : DocumentReference} (hupload :
      outcomeFrom disk (store.upload bytes filename mediaType) = .ok document) :
    document.filename = safeName filename := by
  rcases hrun :
    (store.upload bytes filename mediaType).run.run disk with ⟨outcome, after⟩
  rw [outcomeFrom, hrun] at hupload
  obtain rfl : outcome = .ok document := hupload
  obtain ⟨rfl, -⟩ := DocumentStore.holds_of_upload hrun
  rfl

theorem Commission.filename_of_create
    {commission : Commission} {store : DocumentStore} {disk : Disk}
    {order : Order} {produced : Produced} {created : CreatedDocument}
    (horder : commission.file.answers.order = some order)
    (hproduced :
      outcomeFrom disk (commission.produce store order) = .ok produced)
    (hcreated : outcomeFrom disk (commission.create store) = .ok created) :
    created.document.filename = commission.filename order produced := by
  rcases hrun : (commission.create store).run.run disk with ⟨outcome, after⟩
  rw [outcomeFrom, hrun] at hcreated
  obtain rfl : outcome = .ok created := hcreated
  obtain ⟨number, -, hdocument, -⟩ :=
    Commission.holds_of_create horder hproduced hrun
  rw [hdocument]
  rfl

end Storage

/-- Whatever the title, the name is a safe one that tells its format, and the
store leaves it. -/
theorem Order.namingLaw
    (order : Order) (title : Option String) (format : FileFormat) :
    order.NamingLaw title format := by
  constructor
  case typed =>
    obtain ⟨hstem, hkept⟩ := order.fileStem_kept title
    exact ⟨order.fileStem title, rfl, hstem,
      fun c hc =>
        ⟨(hkept c hc).not_dot, (hkept c hc).visible, (hkept c hc).safe⟩⟩
  case announced =>
    rw [fileName, FileFormat.ofFileName?_append]
    cases format <;> rfl
  case kept => exact order.safeName_fileName format title
  case draft_kept => exact safeName_draftFileName format
  case uploaded =>
    intro store disk bytes mediaType status language document hupload
    rw [DocumentStore.filename_of_upload hupload, safeName_documentName]
  case created =>
    rintro commission store disk produced created horder rfl hproduced rfl
      hcreated
    exact Commission.filename_of_create horder hproduced hcreated

/-- A title of signs alone leaves the name of the order itself. -/
theorem Order.signs_named_after_order :
    ∃ created, outcomeFrom {} ((titled "★ ★").create archive) = .ok created ∧
      created.document.filename = "c21_blank_order.pdf" := by
  have hcreated : outcomeFrom {} ((titled "★ ★").create archive) =
      .ok ⟨reference (archive.directory 0) "c21_blank_order.pdf", "★ ★",
        []⟩ := by
    decide +kernel
  have hname :
      documentName .blank .sealed .pdf .english (some "★ ★") =
        "c21_blank_order.pdf" := by
    decide +kernel
  have hlaw := Order.namingLaw .blank (some "★ ★") .pdf
  refine ⟨_, hcreated, ?_⟩
  exact (hlaw.created (titled "★ ★") archive {}
    ⟨[1, 2], .pdf, []⟩ _ rfl rfl rfl rfl hcreated).trans hname

/-! ## Endings -/

namespace Storage

/-- Characters with a lower-case form lie in ranges of characters that are kept.
-/
theorem caseRuns_keep_covered :
    (caseRuns.all fun run => keepsRange run.first run.last) = true := by
  decide

theorem isKept_of_lowercase
    {c : Char} (hlower : ∀ d ∈ lowercase c, IsKept d) :
    IsKept c := by
  obtain ⟨d, rest, hlowered⟩ := List.exists_cons_of_ne_nil (lowercase_ne_nil c)
  have hd : d ∈ lowercase c := hlowered ▸ List.mem_cons_self
  rcases lowercase_cases hd with ⟨rfl, -⟩ | ⟨rfl, -⟩ | ⟨run, hrun, hcovers, -⟩
  · exact hlower d hd
  · exact isKept_of_notMem (by decide) (by decide)
  · simp only [Run.covers, Bool.and_eq_true, decide_eq_true_eq] at hcovers
    exact isKept_of_keepsRange
      (List.all_eq_true.mp caseRuns_keep_covered run hrun) hcovers.1.1
      hcovers.1.2

end Storage

namespace FileFormat

/-- The format that an ending announces, in whatever case it is written. -/
def ofEnding? (ending : List Char) : Option FileFormat :=
  match lowercaseText (String.ofList ending) with
  | "pdf" => some .pdf
  | "doc" | "docx" => some .word
  | _ => none

variable {stem ending : List Char} {name : String} {format : FileFormat}

theorem ofFileName?_of_ending
    (hname : name.toList = stem ++ '.' :: ending) (hending : '.' ∉ ending) :
    ofFileName? name = ofEnding? ending := by
  rw [ofFileName?, hname, splitAtLastDot_append hending]
  rfl

theorem ofFileName?_of_notMem (hdot : '.' ∉ name.toList) :
    ofFileName? name = none := by
  rw [ofFileName?, splitAtLastDot_of_notMem hdot]

theorem lowercase_of_ofEnding?
    (hformat : ofEnding? ending = some format) :
    ending.flatMap lowercase ∈ ["pdf".toList, "doc".toList, "docx".toList] := by
  have hlower :
      ending.flatMap lowercase =
        (lowercaseText (String.ofList ending)).toList := by
    rw [lowercaseText, String.toList_ofList, String.toList_ofList]
  rw [hlower]
  unfold ofEnding? at hformat
  split at hformat
  case h_4 => cases hformat
  all_goals
    rename_i hannounced
    rw [hannounced]
    simp

/-- An ending that announces a format is made of letters, which storing keeps.
-/
theorem isKept_of_ofEnding?
    (hformat : ofEnding? ending = some format) :
    ending ≠ [] ∧ ∀ c ∈ ending, IsKept c := by
  have hlower := lowercase_of_ofEnding? hformat
  constructor
  · rintro rfl
    exact absurd hlower (by decide)
  · intro c hc
    apply isKept_of_lowercase
    intro d hd
    have hletters : (["pdf".toList, "doc".toList, "docx".toList].all
        fun letters => letters.all isAlphanumeric) = true := by
      decide
    have hannounced := List.all_eq_true.mp hletters _ hlower
    exact isKept_of_isAlphanumeric
      (List.all_eq_true.mp hannounced d (List.mem_flatMap.mpr ⟨c, hc, hd⟩))

theorem exists_ending
    (hformat : ofFileName? name = some format) :
    ∃ stem ending, name.toList = stem ++ '.' :: ending ∧ '.' ∉ ending ∧
      ofEnding? ending = some format := by
  by_cases hdot : '.' ∈ name.toList
  · obtain ⟨later, earlier, hsplit, hlater⟩ :=
      List.eq_append_cons_of_mem (List.mem_reverse.mpr hdot)
    have hname : name.toList = earlier.reverse ++ '.' :: later.reverse := by
      rw [← List.reverse_reverse name.toList, hsplit]
      simp
    have hending : '.' ∉ later.reverse :=
      fun hmem => hlater (List.mem_reverse.mp hmem)
    exact ⟨_, _, hname, hending,
      (ofFileName?_of_ending hname hending).symm.trans hformat⟩
  · rw [ofFileName?_of_notMem hdot] at hformat
    cases hformat

end FileFormat

/-! ## Names that are made safe -/

namespace Storage

/-- What is left of a name when the blanks and then the dots in front of it are
taken away. -/
def withoutFront (cs : List Char) : List Char :=
  (cs.dropWhile isBlank).dropWhile (· = '.')

/-- The ending of the name does not stand alone, for a dot is left when the
front is taken away. -/
def HasStem (name : String) : Prop :=
  '.' ∈ withoutFront name.toList

instance (name : String) : Decidable (HasStem name) :=
  inferInstanceAs (Decidable (_ ∈ _))

theorem clean_eq_dot_iff (c : Char) : clean c = '.' ↔ c = '.' := by
  unfold clean
  split
  · rename_i hunsafe
    constructor
    · exact fun hsame => absurd hsame (by decide)
    · rintro rfl
      exact absurd hunsafe (by decide)
  · rfl

section

variable {stem ending : List Char} {name : String}

theorem dropWhile_blanks
    (stem ending : List Char) :
    (stem ++ '.' :: ending).dropWhile isBlank =
      stem.dropWhile isBlank ++ '.' :: ending := by
  have hdot : ('.' :: ending).dropWhile isBlank = '.' :: ending :=
    List.dropWhile_cons_of_neg (by decide)
  rw [List.dropWhile_append, hdot]
  split
  · rename_i hempty
    rw [List.isEmpty_iff.mp hempty, List.nil_append]
  · rfl

theorem dropWhile_dots
    (hending : '.' ∉ ending) (stem : List Char) :
    (stem ++ '.' :: ending).dropWhile (· = '.') =
      if stem.dropWhile (· = '.') = [] then ending
      else stem.dropWhile (· = '.') ++ '.' :: ending := by
  have hrest : ending.dropWhile (· = '.') = ending := by
    apply dropWhile_of_head?
    intro c hc
    exact decide_eq_false
      (ne_of_mem_of_not_mem (List.mem_of_mem_head? hc) hending)
  rw [List.dropWhile_append, List.dropWhile_cons_of_pos (by simp), hrest]
  simp only [List.isEmpty_iff]

theorem hasStem_iff
    (hname : name.toList = stem ++ '.' :: ending) (hending : '.' ∉ ending) :
    HasStem name ↔ withoutFront stem ≠ [] := by
  rw [HasStem, withoutFront, hname, dropWhile_blanks, dropWhile_dots hending,
    withoutFront]
  split
  · rename_i hempty
    simp [hempty, hending]
  · rename_i hstem
    simp [hstem]

theorem dropWhile_dots_map_clean (cs : List Char) :
    (cs.map clean).dropWhile (· = '.') =
      (cs.dropWhile (· = '.')).map clean := by
  rw [List.dropWhile_map]
  congr 2
  funext c
  simp [clean_eq_dot_iff]

/-- What is stored for a name with such an ending. -/
theorem safeNameChars_of_ending
    (hne : ending ≠ []) (hkept : ∀ c ∈ ending, IsKept c) (stem : List Char) :
    safeNameChars (stem ++ '.' :: ending) =
      if withoutFront stem = [] then ending
      else (withoutFront stem).map clean ++ '.' :: ending := by
  have hending : '.' ∉ ending := fun hdot => (hkept '.' hdot).not_dot rfl
  have hlast (cs : List Char) : ∀ c ∈ (cs ++ '.' :: ending).getLast?,
      IsKept c := by
    obtain ⟨initial, last, rfl⟩ :=
      (List.eq_nil_or_concat' ending).resolve_left hne
    intro c hc
    rw [← List.cons_append, ← List.append_assoc, List.getLast?_concat] at hc
    rw [← Option.some.inj hc]
    exact hkept last (by simp)
  have hcleaned : ('.' :: ending).map clean = '.' :: ending := by
    have hdot : clean '.' = '.' := (clean_eq_dot_iff '.').mpr rfl
    rw [List.map_cons, hdot, List.map_congr_left fun c hc =>
      clean_of_not_isUnsafe (hkept c hc).safe, List.map_id']
  apply safeNameChars_of_ne_nil
  · rw [strip_of_last fun c hc => (hlast stem c hc).visible, dropWhile_blanks,
      List.map_append, hcleaned, strip_of_last fun c hc =>
        decide_eq_false (hlast _ c hc).not_dot,
      dropWhile_dots hending, dropWhile_dots_map_clean]
    exact if_congr List.map_eq_nil_iff rfl rfl
  · split
    · exact hne
    · simp

end

/-! ### Names that are stored again -/

theorem last_ne_dot
    {cs : List Char} {c : Char} (hc : (safeNameChars cs).getLast? = some c) :
    c ≠ '.' := by
  rcases safeNameChars_cases cs with hdocument | ⟨-, cleaned, -, hstrip⟩
  · rw [hdocument] at hc
    rw [← Option.some.inj hc]
    decide
  · rw [hstrip] at hc
    simpa using last_of_strip hc

/-- A stored name without blanks around it is stored as it is. -/
theorem safeName_safeName
    {name : String} (hfirst :
      ∀ c ∈ (safeName name).toList.head?, isBlank c = false)
    (hlast : ∀ c ∈ (safeName name).toList.getLast?, isBlank c = false) :
    safeName (safeName name) = safeName name := by
  obtain ⟨first, rest, hchars, hdot⟩ := safeNameChars_eq_cons name.toList
  have hname : (safeName name).toList = safeNameChars name.toList :=
    String.toList_ofList
  apply safeName_eq_self
  · rw [ne_eq, ← String.toList_eq_nil_iff, hname, hchars]
    exact List.cons_ne_nil _ _
  · intro c hc
    exact not_isUnsafe_of_mem (hname ▸ hc)
  · intro c hc
    refine ⟨hfirst c hc, ?_⟩
    rw [hname, hchars] at hc
    rw [← Option.some.inj hc]
    exact hdot
  · intro c hc
    refine ⟨hlast c hc, ?_⟩
    rw [hname] at hc
    exact last_ne_dot hc

end Storage

/-- The case with another uploaded document. -/
def CaseFile.withUpload (file : CaseFile) (document : DocumentReference) :
    CaseFile :=
  { file with answers := { file.answers with uploadedFile := some document } }

namespace Storage

/-- What storing makes of the name of an uploaded file. -/
structure StoredNameLaw (name : String) : Prop where
  announced :
    ∀ format, FileFormat.ofFileName? name = some format →
      FileFormat.ofFileName? (safeName name) =
        if HasStem name then some format else none
  accepted :
    ∀ (file : CaseFile) (given : DocumentReference) (format : FileFormat),
      file.upload = .ok (given, format) → given.filename = name →
      ∀ (store : DocumentStore) (disk : Disk) (bytes : Bytes)
        (mediaType : String) (stored : DocumentReference),
        outcomeFrom disk (store.upload bytes name mediaType) = .ok stored →
          (file.withUpload stored).upload =
            if HasStem name then .ok (stored, format)
            else .error (.invalidInput (.unsupportedUpload stored.filename))
  stored_again :
    (∀ c ∈ (safeName name).toList.head?, isBlank c = false) →
    (∀ c ∈ (safeName name).toList.getLast?, isBlank c = false) →
      safeName (safeName name) = safeName name ∧
        ∀ (store : DocumentStore) (disk : Disk) (bytes : Bytes)
          (mediaType : String) (stored : DocumentReference),
          outcomeFrom disk (store.upload bytes (safeName name) mediaType) =
            .ok stored →
            stored.filename = safeName name

theorem ofFileName?_safeName
    {name : String} {format : FileFormat}
    (hformat : FileFormat.ofFileName? name = some format) :
    FileFormat.ofFileName? (safeName name) =
      if HasStem name then some format else none := by
  obtain ⟨stem, ending, hname, hending, hannounced⟩ :=
    FileFormat.exists_ending hformat
  obtain ⟨hne, hkept⟩ := FileFormat.isKept_of_ofEnding? hannounced
  have hstored := safeNameChars_of_ending hne hkept stem
  have hchars :
      (safeName name).toList = safeNameChars (stem ++ '.' :: ending) := by
    rw [safeName, String.toList_ofList, hname]
  split
  · rename_i hstem
    rw [if_neg ((hasStem_iff hname hending).mp hstem), ← hchars] at hstored
    rw [FileFormat.ofFileName?_of_ending hstored hending, hannounced]
  · rename_i halone
    rw [hasStem_iff hname hending, not_not] at halone
    rw [if_pos halone, ← hchars] at hstored
    exact FileFormat.ofFileName?_of_notMem (hstored ▸ hending)

theorem storedNameLaw (name : String) : StoredNameLaw name := by
  constructor
  case announced => exact fun format hformat => ofFileName?_safeName hformat
  case accepted =>
    rintro file given format hupload rfl store disk bytes mediaType stored
      hstored
    have hformat :=
      ofFileName?_safeName (CaseFile.upload_eq_ok_iff.mp hupload).2
    rw [← DocumentStore.filename_of_upload hstored] at hformat
    split
    · rename_i hstem
      rw [if_pos hstem] at hformat
      exact CaseFile.upload_eq_ok_iff.mpr ⟨rfl, hformat⟩
    · rename_i halone
      rw [if_neg halone] at hformat
      exact CaseFile.upload_of_unsupported rfl hformat
  case stored_again =>
    intro hfirst hlast
    have hsame := safeName_safeName hfirst hlast
    refine ⟨hsame, ?_⟩
    intro store disk bytes mediaType stored hstored
    rw [DocumentStore.filename_of_upload hstored, hsame]

/-- An ending that stands alone announces nothing once it is stored, and a blank
behind a dot gets lost only when the name is stored again. -/
theorem lone_ending_unannounced :
    FileFormat.ofFileName? ".pdf" = some .pdf ∧
    FileFormat.ofFileName? (safeName ".pdf") = none ∧
      safeName (safeName ". order.pdf") ≠ safeName ". order.pdf" := by
  decide

end Storage

end FamilyOrders
