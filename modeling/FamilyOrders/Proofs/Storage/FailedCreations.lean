import FamilyOrders.Proofs.Creation.Runs
import FamilyOrders.Proofs.FileNames
import FamilyOrders.Proofs.Storage.Containment
import FamilyOrders.Proofs.Storage.Deposits
import Mathlib.Data.Prod.Basic

/-!
# Failed creations

A creation that fails leaves everything as it is that was there.  Below the
store's directory it leaves something new in one case only: when the directory
for the document was made and then its file could not be made or completed, as
with a name that is too long.  That directory stays behind, empty or with a
beginning of the content.
-/

namespace FamilyOrders

open FamilyOrders.Text

/-- A title in snake case is taken as it is. -/
theorem Order.titleStem_eq_self
    {title : String} (hcased : IsSnakeCased title.toList) :
    Order.titleStem (some title) = some title := by
  obtain ⟨first, rest, hfirst, hletter⟩ := hcased.exists_cons
  have hmem : first ∈ title.toList := hfirst ▸ List.mem_cons_self
  have hgiven : nonBlank? (some title) = some title := by
    have hblank : allBlank title = false := by
      rw [allBlank, List.all_eq_false]
      refine ⟨first, hmem, ?_⟩
      rw [(Storage.isKept_of_isAlphanumeric
        (spelt_as_itself hletter).1).visible]
      exact Bool.false_ne_true
    rw [nonBlank?, Option.filter_some, hblank]
    rfl
  have hsnake : snakeCase title = title := by
    rw [← String.toList_inj, toList_snakeCase, hcased.snakeCaseChars_eq]
  have hkept : title.isEmpty = false := by
    rw [Bool.eq_false_iff]
    intro hempty
    rw [String.isEmpty_iff.mp hempty] at hmem
    contradiction
  rw [titleStem, hgiven, Option.map_some, hsnake, Option.filter_some, hkept]
  rfl

namespace Storage

theorem not_child_isPrefix (directory : Location) (name : Name) :
    ¬ directory ++ [name] <+: directory := by
  intro hinit
  have hlength := hinit.length_le
  rw [List.length_append, List.length_singleton] at hlength
  omega

/-- The tree with a file in it, if there is one. -/
def Tree.putFile? (tree : Tree) : Option (Location × Bytes) → Tree
  | none => tree
  | some (place, content) => tree.put place (.file content)

namespace DocumentStore

variable {store : DocumentStore} {disk after : Disk} {number : Nat}
variable {bytes : Bytes} {filename : String} {error : OrderError}
variable {place : Location} {file : Option (Location × Bytes)}

/-- Inside the store's directory. -/
def IsBelow (store : DocumentStore) (place : Location) : Prop :=
  store.location <+: place ∧ place ≠ store.location

theorem not_isBelow_of_isPrefix
    (hinit : place <+: store.location) :
    ¬ store.IsBelow place := by
  rintro ⟨hbelow, hne⟩
  exact hne (hinit.eq_of_length_le hbelow.length_le)

theorem not_isPrefix_of_directory
    (hinside : store.directory number <+: place) :
    ¬ place <+: store.location :=
  fun hinit => not_child_isPrefix _ _ (hinside.trans hinit)

theorem isBelow_directory (store : DocumentStore) (number : Nat) :
    store.IsBelow (store.directory number) := by
  refine ⟨List.prefix_append _ _, ?_⟩
  intro heq
  have hinit : store.directory number <+: store.location :=
    heq ▸ List.prefix_rfl
  exact not_child_isPrefix _ _ hinit

/-- Nothing stands where the directory with this number would be. -/
def IsFree (store : DocumentStore) (tree : Tree) (number : Nat) : Prop :=
  ∀ place, store.directory number <+: place → tree.entry? place = none

/-- The next directory would be in a place of its own: nothing stands there, and
the way to the store's directory does not lead through it. -/
structure IsFresh (store : DocumentStore) (disk : Disk) : Prop where
  free : store.IsFree disk.tree disk.drawn
  aside : ∀ place, store.directory disk.drawn <+: place → ¬ store.OnWay place

theorem IsFresh.founds
    {after : Disk} (hfresh : store.IsFresh disk)
    (hthrough : Disk.Through (Tree.Founds store.OnWay) disk after) :
    store.IsFresh after where
  free := by
    intro place hplace
    rw [hthrough.drawn] at hplace
    rw [hthrough.tree.entry?_eq (hfresh.aside place hplace)]
    exact hfresh.free place hplace
  aside := by
    rw [hthrough.drawn]
    exact hfresh.aside

/-! ### Uploads that fail -/

/-- The directory for a document is made, but its file is not, or not wholly.
What is left of the file is told, and where. -/
inductive Strands (store : DocumentStore) (disk : Disk) (bytes : Bytes)
    (filename : String) : Option (Location × Bytes) → Prop
  | noFile {made : Tree} {fault : Fault}
      (hroom : store.MakesRoom disk made)
      (hfault : creationFault? store.medium made (store.directory disk.drawn)
        (utf8 (safeName filename)) = some fault) :
      Strands store disk bytes filename none
  | brokenOff {made : Tree} {stage : WriteStage} {shortfall : Shortfall}
      (hroom : store.MakesRoom disk made)
      (hnew : creationFault? store.medium made (store.directory disk.drawn)
        (utf8 (safeName filename)) = none)
      (hbreak : breakOff? store.medium made (store.place disk.drawn filename)
        bytes = some (stage, shortfall)) :
      Strands store disk bytes filename
        (some (store.place disk.drawn filename, bytes.take shortfall.kept))

theorem MakesRoom.unique
    {made other : Tree} (hroom : store.MakesRoom disk made)
    (hother : store.MakesRoom disk other) :
    made = other := by
  obtain ⟨opened, hopen, hmake⟩ := hroom
  obtain ⟨found, hopens, hmakes⟩ := hother
  rw [hopen] at hopens
  cases hopens
  rw [hmake] at hmakes
  exact (Prod.mk.inj hmakes).2

namespace Strands

theorem unique
    {other : Option (Location × Bytes)}
    (hstrands : store.Strands disk bytes filename file)
    (hother : store.Strands disk bytes filename other) :
    file = other := by
  cases hstrands with
  | noFile hroom hfault =>
      cases hother with
      | noFile => rfl
      | brokenOff hsame hnew =>
          rw [← hroom.unique hsame, hfault] at hnew
          cases hnew
  | brokenOff hroom hnew hbreak =>
      cases hother with
      | noFile hsame hfault =>
          rw [← hroom.unique hsame, hnew] at hfault
          cases hfault
      | brokenOff hsame _ hbreaks =>
          rw [← hroom.unique hsame, hbreak] at hbreaks
          cases hbreaks
          rfl

theorem not_uploads
    (hstrands : store.Strands disk bytes filename file)
    (document : DocumentReference) (after : Disk) :
    ¬ store.Uploads disk bytes filename (.ok document) after := by
  intro hends
  cases hends with
  | stored hroom hnew hbreak =>
      cases hstrands with
      | noFile hsame hfault =>
          rw [← hroom.unique hsame, hnew] at hfault
          cases hfault
      | brokenOff hsame _ hbreaks =>
          rw [← hroom.unique hsame, hbreak] at hbreaks
          cases hbreaks

end Strands

/-- The store's directory and what leads to it. -/
def IsAround (store : DocumentStore) (place : Location) : Prop :=
  store.OnWay place ∨ place <+: store.location

/-- Making the directory of a document adds directories on the way to it at
most, and it is there afterwards. -/
theorem MakesRoom.founds
    {made : Tree} (hnames :
      ∀ name ∈ store.directory disk.drawn, ProperName name)
    (hroom : store.MakesRoom disk made) :
    disk.tree.Founds
        (fun place => store.OnWay place ∨ place <+: store.directory disk.drawn)
        made ∧
      made.entry? (store.directory disk.drawn) = some .directory := by
  have hdirectory := Tree.entry?_of_isDirectory hroom.reaches.isDirectory
  rw [destination_path (directory_ne_nil _) hnames] at hdirectory
  obtain ⟨opened, hopen, hmake⟩ := hroom
  have hfirst := ((founds_openRoot store).of_run hopen).tree
  have hsecond := (founds_makeDirectories _ _ _).of_run hmake
  refine ⟨(Tree.chains_founds _).trans (hfirst.widen ?_) (hsecond.widen ?_),
    hdirectory⟩
  · exact fun _ => .inl
  · exact fun _ hpasses =>
      .inr (pathPasses_path_isPrefix (directory_ne_nil _) hnames hpasses)

/-- Of an upload that fails the directory is left if it strands, and nothing
below the store's directory otherwise. -/
theorem Uploads.strands_or_founds
    (hnames : ∀ name ∈ store.directory disk.drawn, ProperName name)
    (hends : store.Uploads disk bytes filename (.error error) after) :
    (∃ file made, store.Strands disk bytes filename file ∧
        store.MakesRoom disk made ∧ after.tree = made.putFile? file) ∨
      (∀ file, ¬ store.Strands disk bytes filename file) ∧
        disk.tree.Founds store.IsAround after.tree := by
  have hnoRoom (hnone : ∀ made, ¬ store.MakesRoom disk made) :
      ∀ file, ¬ store.Strands disk bytes filename file := by
    intro file hstrands
    cases hstrands with
    | noFile hroom => exact hnone _ hroom
    | brokenOff hroom => exact hnone _ hroom
  cases hends with
  | notOpened hopen =>
      refine .inr ⟨hnoRoom ?_, ?_⟩
      · rintro made ⟨opened, hopens, -⟩
        rw [hopen] at hopens
        cases hopens
      · have hopened := ((founds_openRoot store).of_run hopen).tree
        exact hopened.widen fun _ => .inl
  | @noRoom opened fault after hopen hmake =>
      refine .inr ⟨hnoRoom ?_, ?_⟩
      · rintro made ⟨found, hopens, hmakes⟩
        rw [hopen] at hopens
        cases hopens
        rw [hmake] at hmakes
        cases hmakes
      · have hfirst := ((founds_openRoot store).of_run hopen).tree
        have hsecond := founds_of_makeDirectories_error hnames hmake
        exact (Tree.chains_founds _).trans (hfirst.widen fun _ => .inl)
          (hsecond.widen fun _ => .inr)
  | noFile hroom hfault =>
      exact .inl ⟨none, _, .noFile hroom hfault, hroom, rfl⟩
  | brokenOff hroom hnew hbreak =>
      exact .inl ⟨some _, _, .brokenOff hroom hnew hbreak, hroom, rfl⟩

end DocumentStore

/-! ### Creations that fail -/

namespace Commission

variable {commission : Commission} {store : DocumentStore}
variable {disk middle after : Disk} {order : Order} {produced : Produced}
variable {file : Option (Location × Bytes)}

/-- The content of the order's document. -/
def produce (commission : Commission) (store : DocumentStore) (order : Order) :
    Action Disk Produced :=
  commission.engine.produce
    (commission.collaborators store) order commission.file
    commission.status commission.format commission.language

/-- The name of the order's document. -/
def filename (commission : Commission) (order : Order) (produced : Produced) :
    String :=
  documentName order commission.status produced.format commission.language
    commission.file.answers.title

theorem founds_produce
    (commission : Commission) (store : DocumentStore) (order : Order) :
    Moves (Disk.Through (Tree.Founds store.OnWay))
      (commission.produce store order) := by
  have hchains : Chains (Disk.Through (Tree.Founds store.OnWay)) :=
    Disk.chains_through (Tree.chains_founds _)
  apply commission.engine.moves_produce hchains
  · exact fun _ _ _ _ => .value hchains _
  · exact store.founds_download
  · exact fun _ _ _ => .value hchains _

theorem ends_of_create
    {outcome : Except OrderError CreatedDocument}
    (hrun : (commission.create store).run.run disk = (outcome, after)) :
    commission.engine.Ends (commission.collaborators store) commission.file
      commission.status commission.format commission.language disk after
      outcome := by
  have hends := commission.engine.ends_create (commission.collaborators store)
    commission.file commission.status commission.format commission.language disk
  change commission.engine.Ends _ _ _ _ _ disk
    ((commission.create store).run.run disk).2
    ((commission.create store).run.run disk).1 at hends
  rwa [hrun] at hends

/-- The content comes about, and then its document is left without its file, or
with a part of it. -/
def Strands (commission : Commission) (store : DocumentStore) (disk : Disk)
    (file : Option (Location × Bytes)) : Prop :=
  ∃ order produced middle, commission.file.answers.order = some order ∧
    (commission.produce store order).run.run disk = (.ok produced, middle) ∧
    store.Strands middle produced.bytes
      (commission.filename order produced) file

namespace Strands

theorem unique
    {other : Option (Location × Bytes)}
    (hstrands : commission.Strands store disk file)
    (hother : commission.Strands store disk other) :
    file = other := by
  obtain ⟨order, produced, middle, horder, hproduce, hstrands⟩ := hstrands
  obtain ⟨chosen, found, reached, hchosen, hproduces, hother⟩ := hother
  obtain rfl := Option.some.inj (horder.symm.trans hchosen)
  rw [hproduce] at hproduces
  cases hproduces
  exact hstrands.unique hother

theorem fails
    (hstrands : commission.Strands store disk file) :
    ∃ error, outcomeFrom disk (commission.create store) = .error error := by
  rcases hrun : (commission.create store).run.run disk with ⟨outcome, after⟩
  rw [outcomeFrom, hrun]
  cases outcome with
  | error error => exact ⟨error, rfl⟩
  | ok created =>
      cases ends_of_create hrun with
      | @stored order produced middle document horder hproduce hupload =>
          obtain ⟨chosen, found, reached, hchosen, hproduces, hstrands⟩ :=
            hstrands
          obtain rfl := Option.some.inj (horder.symm.trans hchosen)
          change (commission.produce store _).run.run disk = _ at hproduce
          rw [hproduce] at hproduces
          cases hproduces
          change (store.upload produced.bytes
            (commission.filename order produced)
            produced.format.mediaType).run.run middle = _ at hupload
          have hends := DocumentStore.uploads_of_run hupload
          exact absurd hends (hstrands.not_uploads _ _)

end Strands

/-- What a creation leaves when it fails.  Everything that was there stays, and
beside the store's directory and the way to it nothing changes, unless something
is left of the document: its directory, and a beginning of its content if there
is any. -/
structure Residue (commission : Commission) (store : DocumentStore)
    (before after : Disk) : Prop where
  kept :
    ∀ place entry, before.tree.entry? place = some entry →
      after.tree.entry? place = some entry
  outside :
    ∀ place, ¬ store.directory before.drawn <+: place →
      after.tree.entry? place ≠ before.tree.entry? place →
        store.IsAround place ∧ after.tree.entry? place = some .directory
  inside :
    ∀ place entry, store.directory before.drawn <+: place →
      (after.tree.entry? place = some entry ↔
        ∃ file, commission.Strands store before file ∧
          (place = store.directory before.drawn ∧ entry = .directory ∨
            ∃ content, file = some (place, content) ∧ entry = .file content))
  changed_iff :
    (∃ place, store.IsBelow place ∧ ¬ store.OnWay place ∧
        after.tree.entry? place ≠ before.tree.entry? place) ↔
      ∃ file, commission.Strands store before file

namespace Residue

theorem of_founds
    (hfresh : store.IsFresh disk)
    (hfounds : disk.tree.Founds store.IsAround after.tree)
    (hnone : ∀ file, ¬ commission.Strands store disk file) :
    commission.Residue store disk after := by
  constructor
  case kept => exact fun _ _ => hfounds.entry?_kept
  case outside =>
    intro place _ hchanged
    obtain ⟨-, hmade, haround⟩ := (hfounds place).resolve_left hchanged
    exact ⟨haround, hmade⟩
  case inside =>
    intro place entry hinside
    have hsame : after.tree.entry? place = disk.tree.entry? place := by
      apply hfounds.entry?_eq
      rintro (hway | hinit)
      · exact hfresh.aside place hinside hway
      · exact DocumentStore.not_isPrefix_of_directory hinside hinit
    rw [hsame, hfresh.free place hinside]
    refine iff_of_false nofun ?_
    rintro ⟨file, hstrands, -⟩
    exact hnone file hstrands
  case changed_iff =>
    refine iff_of_false ?_ (not_exists.mpr hnone)
    rintro ⟨place, hbelow, haside, hchanged⟩
    apply hchanged
    apply hfounds.entry?_eq
    rintro (hway | hinit)
    · exact haside hway
    · exact DocumentStore.not_isBelow_of_isPrefix hinit hbelow

theorem entry?_putFile?_of_ne
    {tree : Tree} {place : Location}
    (hfile : ∀ content, file ≠ some (place, content)) :
    Tree.entry? (tree.putFile? file) place = tree.entry? place := by
  cases file with
  | none => rfl
  | some left =>
      apply Tree.entry?_put_of_ne
      rintro rfl
      exact hfile left.2 rfl

theorem entry?_putFile?_self
    {tree : Tree} {place : Location} {content : Bytes}
    (hinside : store.directory number <+: place) :
    Tree.entry? (tree.putFile? (some (place, content))) place =
      some (.file content) := by
  apply Tree.entry?_put_self
  rintro rfl
  exact DocumentStore.directory_ne_nil number (List.prefix_nil.mp hinside)

/-- Where nothing stood, only the directory itself is found once it is made. -/
theorem entry?_inside_iff
    {made : Tree} {entry : Entry} {place : Location}
    (hfresh : store.IsFresh disk)
    (hfounds : disk.tree.Founds
      (fun place => store.OnWay place ∨
        place <+: store.directory disk.drawn) made)
    (hdirectory : made.entry? (store.directory disk.drawn) = some .directory)
    (hinside : store.directory disk.drawn <+: place) :
    made.entry? place = some entry ↔
      place = store.directory disk.drawn ∧ entry = .directory := by
  constructor
  · intro hentry
    rcases hfounds place with hsame | ⟨-, hmade, hway | hinit⟩
    · rw [hsame, hfresh.free place hinside] at hentry
      cases hentry
    · exact absurd hway (hfresh.aside place hinside)
    · rw [hmade] at hentry
      exact ⟨hinit.eq_of_length_le hinside.length_le,
        (Option.some.inj hentry).symm⟩
  · rintro ⟨rfl, rfl⟩
    exact hdirectory

theorem of_room
    {made : Tree} (hfresh : store.IsFresh disk)
    (hfounds : disk.tree.Founds
      (fun place => store.OnWay place ∨
        place <+: store.directory disk.drawn) made)
    (hdirectory : made.entry? (store.directory disk.drawn) = some .directory)
    (hafter : after.tree = made.putFile? file)
    (hfile : ∀ place content, file = some (place, content) →
      store.directory disk.drawn <+: place ∧ place ≠ store.directory disk.drawn)
    (hstrands : commission.Strands store disk file) :
    commission.Residue store disk after := by
  have hothers {place : Location} (hplace : ∀ content,
      file ≠ some (place, content)) :
      after.tree.entry? place = made.entry? place := by
    rw [hafter, entry?_putFile?_of_ne hplace]
  have hown :
      after.tree.entry? (store.directory disk.drawn) = some .directory := by
    rw [hothers, hdirectory]
    intro content hleft
    exact (hfile _ _ hleft).2 rfl
  constructor
  case kept =>
    intro place entry hentry
    rw [hothers]
    · exact hfounds.entry?_kept hentry
    · intro content hleft
      rw [hfresh.free place (hfile _ _ hleft).1] at hentry
      cases hentry
  case outside =>
    intro place houtside hchanged
    have hplace : ∀ content, file ≠ some (place, content) :=
      fun content hleft => houtside (hfile _ _ hleft).1
    rw [hothers hplace] at hchanged ⊢
    obtain ⟨-, hmade, hway | hinit⟩ := (hfounds place).resolve_left hchanged
    · exact ⟨.inl hway, hmade⟩
    rcases List.prefix_concat_iff.mp hinit with rfl | hwithin
    · exact absurd List.prefix_rfl houtside
    · exact ⟨.inr hwithin, hmade⟩
  case inside =>
    intro place entry hinside
    constructor
    · intro hentry
      refine ⟨file, hstrands, ?_⟩
      by_cases hleft : ∃ content, file = some (place, content)
      · obtain ⟨content, rfl⟩ := hleft
        rw [hafter, entry?_putFile?_self hinside] at hentry
        exact .inr ⟨content, rfl, (Option.some.inj hentry).symm⟩
      · rw [hothers (not_exists.mp hleft)] at hentry
        exact .inl ((entry?_inside_iff hfresh hfounds hdirectory hinside).mp
          hentry)
    · rintro ⟨other, hother, hcases⟩
      obtain rfl := hstrands.unique hother
      rcases hcases with ⟨rfl, rfl⟩ | ⟨content, rfl, rfl⟩
      · exact hown
      · rw [hafter, entry?_putFile?_self hinside]
  case changed_iff =>
    refine iff_of_true ⟨_, store.isBelow_directory disk.drawn, ?_, ?_⟩
      ⟨file, hstrands⟩
    · exact hfresh.aside _ List.prefix_rfl
    · rw [hown, hfresh.free _ List.prefix_rfl]
      exact Option.some_ne_none _

end Residue

/-- A failed creation leaves something below the store's directory exactly when
the store has made the directory of the document and not its whole file. -/
theorem create_residue
    {error : OrderError}
    (hnames : ∀ name ∈ store.directory disk.drawn, ProperName name)
    (hfresh : store.IsFresh disk)
    (hfailed : outcomeFrom disk (commission.create store) = .error error) :
    commission.Residue store disk
      ((commission.create store).run.run disk).2 := by
  rcases hrun : (commission.create store).run.run disk with ⟨outcome, after⟩
  rw [outcomeFrom, hrun] at hfailed
  obtain rfl : outcome = .error error := hfailed
  cases ends_of_create hrun with
  | noOrder horder hafter =>
      rw [hafter]
      refine .of_founds hfresh ((Tree.chains_founds _).refl disk.tree) ?_
      rintro file ⟨order, produced, middle, hchosen, -⟩
      rw [horder] at hchosen
      cases hchosen
  | notProduced horder hproduce =>
      change (commission.produce store _).run.run disk = _ at hproduce
      have hfounds := ((founds_produce commission store _).of_run hproduce).tree
      refine .of_founds hfresh (hfounds.widen fun _ => .inl) ?_
      rintro file ⟨order, produced, middle, hchosen, hproduces, -⟩
      obtain rfl := Option.some.inj (horder.symm.trans hchosen)
      rw [hproduce] at hproduces
      cases hproduces
  | @notStored order produced middle _ horder hproduce hupload =>
      change (commission.produce store _).run.run disk = _ at hproduce
      change (store.upload produced.bytes (commission.filename order produced)
        produced.format.mediaType).run.run middle = _ at hupload
      have hthrough := (founds_produce commission store _).of_run hproduce
      have hends := DocumentStore.uploads_of_run hupload
      rw [← hthrough.drawn] at hnames
      rcases hends.strands_or_founds hnames with
        ⟨file, made, hstrands, hroom, hafter⟩ | ⟨hkeeps, hrest⟩
      · obtain ⟨hmakes, hdirectory⟩ := hroom.founds hnames
        rw [hthrough.drawn] at hmakes hdirectory
        refine .of_room hfresh ?_ hdirectory hafter ?_
          ⟨order, produced, middle, horder, hproduce, hstrands⟩
        · exact (Tree.chains_founds _).trans (hthrough.tree.widen fun _ => .inl)
            hmakes
        · rintro place content rfl
          cases hstrands with
          | brokenOff =>
              rw [← hthrough.drawn]
              exact ⟨List.prefix_append _ _, by simp [DocumentStore.place]⟩
      · refine .of_founds hfresh ?_ ?_
        · exact (Tree.chains_founds _).trans (hthrough.tree.widen fun _ => .inl)
            hrest
        rintro file ⟨chosen, found, reached, hchosen, hproduces, hstrands⟩
        obtain rfl := Option.some.inj (horder.symm.trans hchosen)
        rw [hproduce] at hproduces
        cases hproduces
        exact hkeeps file hstrands

open DocumentStore (archive isPlain_archive)

/-- A blank order under a title of its own, rendered as a short document. -/
def titled (title : String) : Commission where
  engine := .standard {} [("SA", "Family Court sitting at Swansea")] []
  file := {
    localAuthority := some "SA"
    children := [{
      id := "1"
      party := { firstName := some "Alex", lastName := some "White" } }]
    answers := {
      order := some .blank
      approvalDate := Calendar.Date.of? 2021 6 5
      title := some title
      directions := some "The child may have contact."
      appliesToAll := some .yes } }
  status := .sealed
  format := .pdf
  language := .english
  render _ _ format _ := .ok ⟨[1, 2], format⟩
  sealDocument _ _ _ := .error (.missingField .orderType)

theorem filename_titled
    {title : String} (htitle : Order.titleStem (some title) = some title)
    (produced : Produced) :
    (titled title).filename .blank produced =
      "c21_" ++ title ++ "." ++ produced.format.fileExtension := by
  change Order.fileName .blank produced.format (some title) = _
  simp only [Order.fileName, Order.fileStem, htitle]

theorem produce_titled
    (title : String) (store : DocumentStore) :
    ((titled title).produce store .blank).run.run {} =
      (.ok ⟨[1, 2], .pdf, []⟩, {}) :=
  rfl

/-- Too long a title for the name of a file. -/
def overlongTitle : String :=
  String.ofList (List.replicate 252 'a')

theorem toList_overlongTitle :
    overlongTitle.toList = List.replicate 252 'a' :=
  String.toList_ofList

theorem titleStem_overlongTitle :
    Order.titleStem (some overlongTitle) = some overlongTitle := by
  apply Order.titleStem_eq_self
  have hletters : ∀ c ∈ List.replicate 252 'a',
      (c.isLower || c.isDigit) = true := by
    intro c hc
    rw [List.eq_of_mem_replicate hc]
    rfl
  rw [toList_overlongTitle]
  exact .of_word (List.cons_ne_nil _ _) hletters

theorem longestName_lt_filename_titled :
    longestName < (utf8 (safeName
      ((titled overlongTitle).filename .blank ⟨[1, 2], .pdf, []⟩))).length := by
  rw [filename_titled titleStem_overlongTitle, utf8, safeName,
    String.toList_ofList, String.toList_append, String.toList_append,
      String.toList_append, toList_overlongTitle]
  decide +kernel

theorem overlong_title_leaves_directory :
    (∀ name ∈ archive.directory 0, ProperName name) ∧ archive.IsFresh {} ∧
      (∃ error,
        outcomeFrom {} ((titled overlongTitle).create archive) = .error error) ∧
      (titled overlongTitle).Strands archive {} none ∧
      (titled overlongTitle).Residue archive {}
        (((titled overlongTitle).create archive).run.run {}).2 := by
  have hnames := isPlain_archive.properName_directory 0
  have hfresh : archive.IsFresh {} := by
    constructor
    case free =>
      intro place hplace
      have hne : place ≠ [] := by
        rintro rfl
        exact DocumentStore.directory_ne_nil _ (List.prefix_nil.mp hplace)
      rw [Tree.entry?, if_neg hne]
      rfl
    case aside =>
      intro place hplace hway
      have hstraight : [dot, dot] ∉ splitPath archive.root := by decide
      exact DocumentStore.not_isPrefix_of_directory hplace
        (hway.isPrefix hstraight)
  have hopens : (archive.openRoot.run.run {}).1 = .ok archive.location := by
    decide
  have hmakes : ((makeDirectories {} [] (archive.directory 0).path).run.run
      (archive.openRoot.run.run {}).2.tree).1 = .ok () := by
    decide +kernel
  have hroom : archive.MakesRoom {} _ :=
    ⟨_, Prod.fst_eq_iff.mp hopens, Prod.fst_eq_iff.mp hmakes⟩
  have hstrands : (titled overlongTitle).Strands archive {} none :=
    ⟨.blank, ⟨[1, 2], .pdf, []⟩, {}, rfl, produce_titled overlongTitle archive,
      .noFile hroom (creationFault?_of_long longestName_lt_filename_titled)⟩
  obtain ⟨error, hfailed⟩ := hstrands.fails
  exact ⟨hnames, hfresh, ⟨error, hfailed⟩, hstrands,
    create_residue hnames hfresh hfailed⟩

end Commission

end Storage

end FamilyOrders
