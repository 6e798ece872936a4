import FamilyOrders.Proofs.Storage.Containment
import FamilyOrders.Proofs.Storage.StoredNames

/-!
# Documents in directories of their own

Whatever a file is called, the name under which it is stored is a single step
down a path on any system.  So an upload writes no file but one in the directory
made for it, and the path of that file leads there and nowhere else.  A name
stays as it is exactly when it is such a step already and has no blanks around
it; of any other name characters are kept in their order, and signs become
underscores.
-/

namespace FamilyOrders.Storage

open FamilyOrders.Text

/-! ### Clear names -/

/-- Characters with a meaning of their own in the paths of some system. -/
def pathSigns : List Char :=
  ['/', '\\', ':', '*', '?', '"', '<', '>', '|']

/-- A name that says nothing but itself to any system. -/
structure IsClear (name : String) : Prop where
  ne_empty : name ≠ ""
  printable : ∀ c ∈ name.toList, 0x20 ≤ c.toNat
  noSign : ∀ c ∈ name.toList, c ∉ pathSigns
  first : ∀ c ∈ name.toList.head?, c ≠ '.'
  last : ∀ c ∈ name.toList.getLast?, c ≠ '.'

theorem isUnsafe_eq_false_iff {c : Char} :
    isUnsafe c = false ↔ 0x20 ≤ c.toNat ∧ c ∉ pathSigns := by
  rw [isUnsafe, Bool.or_eq_false_iff, decide_eq_false_iff_not, Nat.not_lt,
    pathSigns, List.contains_eq_mem, decide_eq_false_iff_not]
  exact And.comm

theorem IsClear.not_isUnsafe
    {name : String} (hclear : IsClear name) :
    ∀ c ∈ name.toList, isUnsafe c = false :=
  fun c hc =>
    isUnsafe_eq_false_iff.mpr ⟨hclear.printable c hc, hclear.noSign c hc⟩

theorem isClear_safeName (name : String) : IsClear (safeName name) := by
  have hchars : (safeName name).toList = safeNameChars name.toList :=
    String.toList_ofList
  have hsafe : ∀ c ∈ (safeName name).toList, 0x20 ≤ c.toNat ∧ c ∉ pathSigns :=
    fun c hc => isUnsafe_eq_false_iff.mp (not_isUnsafe_of_mem (hchars ▸ hc))
  obtain ⟨first, rest, hfirst, hdot⟩ := safeNameChars_eq_cons name.toList
  constructor
  case ne_empty =>
    rw [ne_eq, ← String.toList_eq_nil_iff, hchars, hfirst]
    exact List.cons_ne_nil first rest
  case printable => exact fun c hc => (hsafe c hc).1
  case noSign => exact fun c hc => (hsafe c hc).2
  case first =>
    intro c hc
    rw [hchars, hfirst] at hc
    rw [← Option.some.inj hc]
    exact hdot
  case last =>
    intro c hc
    rw [hchars] at hc
    exact last_ne_dot hc

/-! ### What is kept of a name -/

theorem safeNameChars_eq
    (cs : List Char) :
    safeNameChars cs = "document".toList ∨
      safeNameChars cs = strip (· = '.') ((strip isBlank cs).map clean) := by
  unfold safeNameChars
  dsimp only
  split
  · exact .inl rfl
  · exact .inr rfl

theorem filter_map_clean_sublist
    (cs : List Char) :
    ((cs.map clean).filter (· ≠ '_')).Sublist cs := by
  induction cs with
  | nil => exact .slnil
  | cons c rest ih =>
      rw [List.map_cons]
      cases hunsafe : isUnsafe c with
      | true =>
          have hcleaned : clean c = '_' := if_pos hunsafe
          rw [hcleaned, List.filter_cons_of_neg (by simp)]
          exact ih.cons c
      | false =>
          rw [clean_of_not_isUnsafe hunsafe]
          by_cases hunderscore : c = '_'
          · rw [List.filter_cons_of_neg (by simp [hunderscore])]
            exact ih.cons c
          · rw [List.filter_cons_of_pos (by simp [hunderscore])]
            exact ih.cons_cons c

theorem filter_safeName_sublist
    {name : String} (hname : safeName name ≠ "document") :
    ((safeName name).toList.filter (· ≠ '_')).Sublist name.toList := by
  rw [safeName, String.toList_ofList]
  rcases safeNameChars_eq name.toList with hdocument | hchars
  · rw [safeName, hdocument, String.ofList_toList] at hname
    contradiction
  · rw [hchars]
    have hkept :=
      (strip_sublist (· = '.') ((strip isBlank name.toList).map clean)).filter
      (· ≠ '_')
    exact hkept.trans ((filter_map_clean_sublist _).trans
      (strip_sublist isBlank _))

/-- Blanks around a name would be taken away, so a name that is stored as it is
has none. -/
theorem strip_of_safeName_eq_self
    {name : String} (hname : safeName name = name) :
    strip isBlank name.toList = name.toList := by
  have hchars : safeNameChars name.toList = name.toList := by
    rw [← String.toList_ofList (l := safeNameChars name.toList), ← safeName,
      hname]
  rcases safeNameChars_eq name.toList with hdocument | hstrip
  · rw [hdocument] at hchars
    rw [← hchars]
    decide
  · apply (strip_sublist isBlank name.toList).eq_of_length_le
    have hshorter :=
      (strip_sublist (· = '.')
        ((strip isBlank name.toList).map clean)).length_le
    rwa [← hstrip, hchars, List.length_map] at hshorter

theorem safeName_eq_self_iff
    {name : String} :
    safeName name = name ↔
      IsClear name ∧ (∀ c ∈ name.toList.head?, isBlank c = false) ∧
        ∀ c ∈ name.toList.getLast?, isBlank c = false := by
  constructor
  · intro hname
    have hstrip := strip_of_safeName_eq_self hname
    refine ⟨hname ▸ isClear_safeName name, ?_, ?_⟩
    · intro c hc
      obtain ⟨rest, hchars⟩ := List.head?_eq_some_iff.mp hc
      exact first_of_strip (hstrip.trans hchars)
    · intro c hc
      rw [← hstrip] at hc
      exact last_of_strip hc
  · rintro ⟨hclear, hfirst, hlast⟩
    exact safeName_eq_self hclear.ne_empty hclear.not_isUnsafe
      (fun c hc => ⟨hfirst c hc, hclear.first c hc⟩)
      fun c hc => ⟨hlast c hc, hclear.last c hc⟩

/-! ### Where the path of a file leads -/

theorem getLast?_path_ne_slash
    {location : Location} (hlocation : location ≠ [])
    (hnames : ∀ name ∈ location, ProperName name) :
    location.path.getLast?.all (· = slash) = false := by
  obtain ⟨initial, last, rfl⟩ :=
    (List.eq_nil_or_concat' location).resolve_left hlocation
  have hlast : ProperName last := hnames last (by simp)
  obtain ⟨bytes, b, hbytes⟩ :=
    (List.eq_nil_or_concat' last).resolve_left hlast.ne_nil
  have hb : b ≠ slash := by
    rintro rfl
    exact hlast.slash_notMem (by simp [hbytes])
  rw [path_child, hbytes, ← List.cons_append, ← List.append_assoc,
    List.getLast?_concat]
  exact decide_eq_false hb

theorem joinPath_of_proper
    {directory : Location} {name : Name} (hdirectory : directory ≠ [])
    (hnames : ∀ other ∈ directory, ProperName other) (hname : ProperName name) :
    joinPath directory.path name = (directory ++ [name]).path := by
  have hrelative : isAbsolute name = false := by
    obtain ⟨b, bytes, rfl⟩ := List.exists_cons_of_ne_nil hname.ne_nil
    have hb : b ≠ slash := (List.ne_of_not_mem_cons hname.slash_notMem).symm
    simpa [isAbsolute] using hb
  rw [joinPath, hrelative, if_neg Bool.false_ne_true,
    getLast?_path_ne_slash hdirectory hnames, if_neg Bool.false_ne_true,
      path_child, path_of_ne_nil hdirectory]

/-- The path of a file with a safe name leads to a place in the directory, if it
leads anywhere. -/
theorem place_of_resolve
    {tree : Tree} {workingDirectory directory place : Location} {name : String}
    (hdirectory : directory ≠ [])
    (hnames : ∀ other ∈ directory, ProperName other)
    (hresolve : tree.resolve workingDirectory
      (joinPath directory.path (utf8 (safeName name))) = .ok place) :
    place = directory ++ [utf8 (safeName name)] := by
  have hname := properName_safeName name
  rw [joinPath_of_proper hdirectory hnames hname] at hresolve
  rw [(Tree.resolve_eq_ok hresolve).1]
  exact destination_path (child_ne_nil _ _)
    (properName_of_mem_child hnames hname)
    workingDirectory

/-! ### Uploads -/

/-- What an upload under a name does to files. -/
structure DocumentStore.WritesInside (store : DocumentStore) (before : Disk)
    (name : String) (bytes : Bytes)
    (outcome : Except OrderError DocumentReference) (after : Disk) : Prop where
  elsewhere :
    ∀ place, place ≠ store.directory before.drawn ++ [utf8 (safeName name)] →
      ∀ content,
        after.tree.entry? place = some (.file content) ↔
          before.tree.entry? place = some (.file content)
  refused :
    ∀ error, outcome = .error error → ∀ place,
      (∀ content,
        after.tree.entry? place = some (.file content) ↔
          before.tree.entry? place = some (.file content)) ∨
        place = store.directory before.drawn ++ [utf8 (safeName name)] ∧
          ∃ stage fault kept,
            error = .store (.stopped stage place.path fault) ∧
              after.tree.entry? place = some (.file (bytes.take kept))
  stored :
    ∀ document, outcome = .ok document →
      document =
          DocumentStore.reference (store.directory before.drawn)
            (safeName name) ∧
        after.tree.entry?
            (store.directory before.drawn ++ [utf8 (safeName name)]) =
          some (.file bytes)
  found :
    ∀ document, outcome = .ok document →
      (∀ step ∈ store.directory before.drawn, ProperName step) →
        ∀ workingDirectory,
          after.tree.resolve workingDirectory
              (joinPath (store.directory before.drawn).path
                (utf8 (safeName name))) =
            .ok (store.directory before.drawn ++ [utf8 (safeName name)])

theorem DocumentStore.upload_writesInside
    (store : DocumentStore) (disk : Disk) (name : String) (bytes : Bytes)
    (mediaType : String) :
    store.WritesInside disk name bytes
      (outcomeFrom disk (store.upload bytes name mediaType))
      ((store.upload bytes name mediaType).run.run disk).2 := by
  rcases hrun : (store.upload bytes name mediaType).run.run disk with
    ⟨outcome, after⟩
  rw [outcomeFrom, hrun]
  have hends := uploads_of_run hrun
  constructor
  case elsewhere => exact fun place hplace => hends.elsewhere hplace
  case refused =>
    rintro error rfl place
    rcases hends.left_of_error with
      hadds | ⟨made, stage, fault, kept, -, herror, htree⟩
    · exact .inl fun content => hadds.file_iff
    by_cases hplace : place = store.place disk.drawn name
    · subst hplace
      refine .inr ⟨rfl, stage, fault, kept, herror, ?_⟩
      rw [htree, Tree.entry?_put_self (place_ne_nil _ _)]
    · exact .inl (hends.elsewhere hplace)
  case stored =>
    rintro document rfl
    obtain ⟨hdocument, hholds⟩ := holds_of_upload hrun
    exact ⟨hdocument, hholds.content⟩
  case found =>
    rintro document rfl hnames workingDirectory
    rw [joinPath_of_proper (directory_ne_nil _) hnames
      (properName_safeName name)]
    exact (holds_of_upload hrun).2.resolve hnames workingDirectory

/-- What becomes of the name of a file in a store, and where the file is put. -/
structure ConfinementLaw (name : String) : Prop where
  clear :
    IsClear (safeName name)
  ne_dots :
    safeName name ≠ "." ∧ safeName name ≠ ".."
  component :
    splitPath (utf8 (safeName name)) = [utf8 (safeName name)]
  kept_iff :
    safeName name = name ↔
      IsClear name ∧ (∀ c ∈ name.toList.head?, isBlank c = false) ∧
        ∀ c ∈ name.toList.getLast?, isBlank c = false
  ordered :
    safeName name ≠ "document" →
      ((safeName name).toList.filter (· ≠ '_')).Sublist name.toList
  leads :
    ∀ (tree : Tree) (workingDirectory directory place : Location),
      directory ≠ [] →
      (∀ step ∈ directory, ProperName step) →
      tree.resolve workingDirectory
        (joinPath directory.path (utf8 (safeName name))) = .ok place →
        place = directory ++ [utf8 (safeName name)]
  written :
    ∀ (store : DocumentStore) (disk : Disk) (bytes : Bytes)
      (mediaType : String),
      store.WritesInside disk name bytes
        (outcomeFrom disk (store.upload bytes name mediaType))
        ((store.upload bytes name mediaType).run.run disk).2

theorem confinementLaw (name : String) : ConfinementLaw name := by
  have hclear := isClear_safeName name
  constructor
  case clear => exact hclear
  case ne_dots =>
    constructor
    · intro hdot
      exact hclear.first '.' (by rw [hdot]; rfl) rfl
    · intro hdots
      exact hclear.first '.' (by rw [hdots]; rfl) rfl
  case component =>
    exact splitPath_of_notMem (properName_safeName name).slash_notMem
  case kept_iff => exact safeName_eq_self_iff
  case ordered => exact filter_safeName_sublist
  case leads => exact fun _ _ _ _ => place_of_resolve
  case written => exact fun store disk => store.upload_writesInside disk name

open DocumentStore (archive isPlain_archive reference)

/-- A name that asks for the way out of a store is stored as one step further
in. -/
theorem way_out_kept_inside :
    outcomeFrom {} (archive.upload [1] "../../etc/passwd" "text/plain") =
        .ok (reference (archive.directory 0) "_.._etc_passwd") ∧
      ((archive.upload [1] "../../etc/passwd" "text/plain").run.run
        {}).2.tree.resolve []
          (joinPath (archive.directory 0).path (utf8 "_.._etc_passwd")) =
        .ok (archive.directory 0 ++ [utf8 "_.._etc_passwd"]) := by
  have hname : safeName "../../etc/passwd" = "_.._etc_passwd" := by decide
  have hupload :
      outcomeFrom {} (archive.upload [1] "../../etc/passwd" "text/plain") =
        .ok (reference (archive.directory 0) "_.._etc_passwd") := by
    decide +kernel
  have hinside :=
    (confinementLaw "../../etc/passwd").written archive {} [1] "text/plain"
  have hfound :=
    hinside.found _ hupload (isPlain_archive.properName_directory 0) []
  rw [hname] at hfound
  exact ⟨hupload, hfound⟩

end FamilyOrders.Storage
