import FamilyOrders.Proofs.Actions
import FamilyOrders.Proofs.Storage.Deposits

/-!
# Containment of downloads

Whatever a reference says, a download gives nothing but the content of a file
below the store's directory, and it leaves all files as they are.  Where a URL
leads is decided by the names in its path when they are decoded and followed, so
neither dots nor escapes nor a sibling with a similar name lead out of the
store.  The directories on the way to the store's own are made where they are
missing.
-/

namespace FamilyOrders.Storage

open FamilyOrders.Text

/-- A location is within a directory when it starts with all of its names. -/
theorem Location.isWithin_iff
    {location directory : Location} :
    location.isWithin directory = true ↔
      ∃ names, location = directory ++ names := by
  rw [Location.isWithin, decide_eq_true_eq,
    ← List.prefix_iff_eq_take.trans eq_comm]
  exact exists_congr fun _ => eq_comm

namespace DocumentStore

variable {store : DocumentStore} {disk opened after : Disk}
  {document : DocumentReference}
  {path bytes : Bytes} {location : Location} {outcome : Except OrderError Bytes}

/-! ### Where references lead -/

theorem closeDrive_isAbsolute
    (path : Bytes) :
    isAbsolute (Url.closeDrive (slash :: path)) = true := by
  unfold Url.closeDrive
  split
  · split
    · rfl
    · rfl
  · rfl

theorem isAbsolute_of_documentPath
    (hpath : store.documentPath document = .ok path) :
    isAbsolute path = true := by
  unfold documentPath at hpath
  split at hpath
  · cases hpath
  rename_i url hparsed
  split at hpath
  · rename_i found hfile
    cases hpath
    unfold Url.filePath? at hfile
    split at hfile
    · split at hfile
      · cases hfile
        exact closeDrive_isAbsolute _
      · cases hfile
    · cases hfile
  · cases hpath

/-- The way of an absolute path has neither blank names nor dots in it. -/
theorem properName_of_mem_of_resolve
    {tree : Tree} (habsolute : isAbsolute path = true)
    (hresolve : tree.resolve store.workingDirectory path = .ok location) :
    ∀ name ∈ location, ProperName name := by
  rw [(Tree.resolve_eq_ok hresolve).1, destination, origin, if_pos habsolute]
  apply properName_of_mem_foldl_follow
  · exact fun _ hmem => absurd hmem List.not_mem_nil
  · exact fun _ hname => slash_notMem_of_mem_splitPath hname

theorem founds_download
    (store : DocumentStore) (document : DocumentReference) :
    Moves (Disk.Through (Tree.Founds store.OnWay)) (store.download document) :=
  through_download (Tree.chains_founds _)
    (founds_makeDirectories _ _ _) document

theorem addsDirectories_download
    (store : DocumentStore) (document : DocumentReference) :
    Moves (Disk.Through Tree.AddsDirectories) (store.download document) :=
  (founds_download store document).weaken fun _ _ hfounds =>
    ⟨hfounds.drawn, hfounds.tree.addsDirectories⟩

/-! ### Fetching -/

/-- What is at the end of the path, for a store whose directory is at the root
location. -/
def fetch (store : DocumentStore) (tree : Tree) (root : Location)
    (path : Bytes) :
    Except OrderError Bytes :=
  match tree.resolve store.workingDirectory path with
  | .error fault => .error (.store (.notFound path fault))
  | .ok location =>
    if location.isWithin root then (tree.read location).mapError .io
    else .error (.store (.outside location.path))

theorem run_download_of_error
    {error : OrderError} (hpath : store.documentPath document = .error error)
    (disk : Disk) :
    (store.download document).run.run disk = (.error error, disk) := by
  unfold download
  rw [run_bind, hpath]
  rfl

theorem run_download_of_ok
    (hpath : store.documentPath document = .ok path) (disk : Disk) :
    (store.download document).run.run disk =
      match store.openRoot.run.run disk with
      | (.ok root, opened) => (store.fetch opened.tree root path, opened)
      | (.error error, opened) => (.error error, opened) := by
  unfold download
  rw [run_bind, hpath]
  change (store.openRoot >>= _).run.run disk = _
  rw [run_bind]
  rcases store.openRoot.run.run disk with ⟨outcome, opened⟩
  cases outcome with
  | error error => rfl
  | ok root =>
      change (fromTree _ _ >>= _).run.run opened =
        (store.fetch opened.tree root path, opened)
      rw [run_bind, run_fromTree]
      unfold fetch
      cases opened.tree.resolve store.workingDirectory path with
      | error fault => rfl
      | ok location =>
          dsimp only [Except.mapError]
          split
          · rw [run_fromTree]
            rfl
          · rfl

theorem fetch_eq_ok_iff
    {tree : Tree} {root : Location} :
    store.fetch tree root path = .ok bytes ↔
      ∃ names, tree.resolve store.workingDirectory path = .ok (root ++ names) ∧
        tree.entry? (root ++ names) = some (.file bytes) := by
  unfold fetch
  cases tree.resolve store.workingDirectory path with
  | error fault => simp
  | ok location =>
      dsimp only
      constructor
      · intro hfetch
        split at hfetch
        · rename_i hwithin
          obtain ⟨names, rfl⟩ := Location.isWithin_iff.mp hwithin
          refine ⟨names, rfl, ?_⟩
          unfold Tree.read at hfetch
          split at hfetch
          · rename_i found hentry
            cases hfetch
            exact hentry
          · cases hfetch
          · cases hfetch
        · cases hfetch
      · rintro ⟨names, hlocation, hentry⟩
        obtain rfl := Except.ok.inj hlocation
        rw [if_pos (Location.isWithin_iff.mpr ⟨names, rfl⟩), Tree.read, hentry]
        rfl

/-- The reference leads, in the opened store, to a file below the store's
directory, and this is what the file held before. -/
structure Finds (store : DocumentStore) (before opened : Tree)
    (document : DocumentReference) (bytes : Bytes)
    (names : List Name) : Prop where
  opens : store.IsOpen opened
  leads : ∃ path, store.documentPath document = .ok path ∧
    opened.resolve store.workingDirectory path = .ok (store.location ++ names)
  below : names ≠ []
  canonical : ∀ name ∈ store.location ++ names, ProperName name
  content : before.entry? (store.location ++ names) = some (.file bytes)

/-- What a download may give, and what it leaves behind however it ends. -/
structure Containment (store : DocumentStore) (document : DocumentReference)
    (before : Disk)
    (outcome : Except OrderError Bytes) (after : Disk) : Prop where
  fetches_iff :
    ∀ bytes, outcome = .ok bytes ↔
      ∃ names, store.Finds before.tree after.tree document bytes names
  drawn :
    after.drawn = before.drawn
  files :
    ∀ place bytes,
      after.tree.entry? place = some (.file bytes) ↔
        before.tree.entry? place = some (.file bytes)
  directories :
    before.tree.Founds store.OnWay after.tree
  onlyRoot :
    (∀ place, store.OnWay place → place ≠ store.location →
      before.tree.isDirectory place = true) →
      before.tree.Founds (· = store.location) after.tree

theorem download_eq_ok_iff
    (store : DocumentStore) (disk : Disk) (document : DocumentReference)
    (bytes : Bytes) :
    outcomeFrom disk (store.download document) = .ok bytes ↔
      ∃ names,
        store.Finds disk.tree ((store.download document).run.run disk).2.tree
        document
        bytes names := by
  have hfounds := founds_download store document disk
  rw [outcomeFrom]
  cases hpath : store.documentPath document with
  | error error =>
      rw [run_download_of_error hpath]
      refine iff_of_false (by rintro ⟨⟩) ?_
      rintro ⟨names, hfinds⟩
      obtain ⟨path, hfound, -⟩ := hfinds.leads
      rw [hpath] at hfound
      cases hfound
  | ok path =>
      rw [run_download_of_ok hpath] at hfounds ⊢
      rcases hopen : store.openRoot.run.run disk with ⟨opening, opened⟩
      rw [hopen] at hfounds
      cases opening with
      | error error =>
          refine iff_of_false (by rintro ⟨⟩) ?_
          rintro ⟨names, hfinds⟩
          cases (openRoot_eq_ok_iff hopen).mpr hfinds.opens
      | ok root =>
          obtain ⟨rfl, hroot⟩ := openRoot_eq_ok hopen
          rw [fetch_eq_ok_iff]
          constructor
          · rintro ⟨names, hresolve, hentry⟩
            have hbelow : names ≠ [] := by
              rintro rfl
              have hdirectory :=
                Tree.entry?_of_isDirectory hroot.reaches.isDirectory
              rw [List.append_nil, location, hdirectory] at hentry
              cases hentry
            have habsolute := isAbsolute_of_documentPath hpath
            exact ⟨names, hroot, ⟨path, hpath, hresolve⟩, hbelow,
              properName_of_mem_of_resolve habsolute hresolve,
                hfounds.tree.file_iff.mp hentry⟩
          · rintro ⟨names, hfinds⟩
            obtain ⟨found, hfound, hresolve⟩ := hfinds.leads
            obtain rfl := Except.ok.inj (hpath.symm.trans hfound)
            exact ⟨names, hresolve, hfounds.tree.file_iff.mpr hfinds.content⟩

theorem download_contained
    (store : DocumentStore) (disk : Disk) (document : DocumentReference) :
    store.Containment document disk (outcomeFrom disk (store.download document))
      ((store.download document).run.run disk).2 := by
  have hfounds := founds_download store document disk
  constructor
  case fetches_iff => exact store.download_eq_ok_iff disk document
  case drawn => exact hfounds.drawn
  case files => exact fun _ _ => hfounds.tree.file_iff
  case directories => exact hfounds.tree
  case onlyRoot =>
    intro hway place
    refine (hfounds.tree place).imp id ?_
    rintro ⟨hnothing, hmade, hplace⟩
    refine ⟨hnothing, hmade, ?_⟩
    by_contra hother
    have hthere := Tree.entry?_of_isDirectory (hway place hplace hother)
    rw [hnothing] at hthere
    cases hthere

/-- A store whose directory lies in another one that may be missing. -/
def nested : DocumentStore where
  root := utf8 "/srv/a/b"
  workingDirectory := []
  directoryName _ := utf8 "6f1e5b0c"

/-- The directory above that of the store comes to exist by a download. -/
theorem download_makes_ancestor :
    let enclosing := [utf8 "srv", utf8 "a"]
    let document := reference enclosing "a.pdf"
    let after := ((nested.download document).run.run {}).2.tree
    enclosing ≠ nested.location ∧ Tree.entry? {} enclosing = none ∧
      after.entry? enclosing = some .directory := by
  decide +kernel

end DocumentStore

end FamilyOrders.Storage
