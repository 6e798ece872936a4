import FamilyOrders.Proofs.Actions
import FamilyOrders.Proofs.Storage.FileUrls
import FamilyOrders.Proofs.Storage.NewDirectories
import FamilyOrders.Storage.DocumentStore

/-!
# Uploads

The names of stored files, and how an upload ends.
-/

namespace FamilyOrders

/-! ## Safe names in bytes

A safe name is a single step down a path, and no part of it reads as a drive.
Its characters decide that: the bytes of other characters never look like those
of an ASCII one. -/

namespace Storage

open FamilyOrders.Text

theorem safeNameChars_cases
    (cs : List Char) :
    safeNameChars cs = "document".toList ∨
      safeNameChars cs ≠ [] ∧ ∃ cleaned : List Char,
        (∀ c ∈ cleaned, isUnsafe c = false) ∧ safeNameChars cs = strip
        (· = '.') cleaned := by
  unfold safeNameChars
  dsimp only
  split
  · exact .inl rfl
  · rename_i hname
    refine .inr ⟨hname, _, ?_, rfl⟩
    intro c hc
    obtain ⟨given, -, rfl⟩ := List.mem_map.mp hc
    split
    · rfl
    · rename_i hsafe
      exact Bool.eq_false_iff.mpr hsafe

theorem not_isUnsafe_of_mem
    {cs : List Char} {c : Char} (hc : c ∈ safeNameChars cs) :
    isUnsafe c = false := by
  rcases safeNameChars_cases cs with hdocument | ⟨-, cleaned, hsafe, hstrip⟩
  · rw [hdocument] at hc
    have hletters : ("document".toList.all fun d => !isUnsafe d) = true := by
      decide
    rw [← Bool.not_eq_true']
    exact List.all_eq_true.mp hletters c hc
  · rw [hstrip] at hc
    exact hsafe c (mem_of_mem_strip hc)

theorem safeNameChars_eq_cons
    (cs : List Char) :
    ∃ first rest, safeNameChars cs = first :: rest ∧ first ≠ '.' := by
  rcases safeNameChars_cases cs with hdocument | ⟨hname, cleaned, -, hstrip⟩
  · exact ⟨'d', "ocument".toList, hdocument, by decide⟩
  · obtain ⟨first, rest, hfirst⟩ := List.exists_cons_of_ne_nil hname
    refine ⟨first, rest, hfirst, ?_⟩
    rw [hstrip] at hfirst
    simpa using first_of_strip hfirst

/-- No byte of a safe name is that of an unsafe character. -/
theorem notMem_utf8_safeName
    {b : UInt8} (hb : b.toNat < 0x80) (hsign : isUnsafe (asciiChar b) = true)
    (filename : String) :
    b ∉ utf8 (safeName filename) := by
  intro hmem
  have hchar := asciiChar_mem_of_mem_utf8 hmem hb
  rw [safeName, String.toList_ofList] at hchar
  rw [not_isUnsafe_of_mem hchar] at hsign
  contradiction

theorem utf8_safeName_eq_cons
    (filename : String) :
    ∃ first rest, utf8 (safeName filename) = first :: rest ∧ first ≠ dot := by
  obtain ⟨c, cs, hchars, hfirst⟩ := safeNameChars_eq_cons filename.toList
  rw [utf8, safeName, String.toList_ofList, hchars, List.flatMap_cons]
  obtain ⟨b, bytes, hbytes⟩ :=
    List.exists_cons_of_ne_nil (String.utf8EncodeChar_ne_nil (c := c))
  rw [hbytes]
  refine ⟨b, _, rfl, ?_⟩
  rintro rfl
  have hmem : dot ∈ String.utf8EncodeChar c := hbytes ▸ List.mem_cons_self
  exact hfirst (asciiChar_of_mem_utf8EncodeChar hmem (by decide)).symm

theorem properName_safeName
    (filename : String) :
    ProperName (utf8 (safeName filename)) := by
  obtain ⟨first, rest, hname, hfirst⟩ := utf8_safeName_eq_cons filename
  constructor
  case ne_nil =>
    rw [hname]
    exact List.cons_ne_nil first rest
  case slash_notMem =>
    exact notMem_utf8_safeName (by decide) (by decide) filename
  case ne_dot =>
    rw [hname]
    intro heq
    exact hfirst (List.cons.inj heq).1
  case ne_dots =>
    rw [hname]
    intro heq
    exact hfirst (List.cons.inj heq).1

theorem colon_notMem_safeName
    (filename : String) :
    0x3A ∉ utf8 (safeName filename) :=
  notMem_utf8_safeName (by decide) (by decide) filename

theorem bar_notMem_safeName
    (filename : String) :
    0x7C ∉ utf8 (safeName filename) :=
  notMem_utf8_safeName (by decide) (by decide) filename

theorem nul_notMem_safeName
    (filename : String) :
    0 ∉ utf8 (safeName filename) :=
  notMem_utf8_safeName (by decide) (by decide) filename

theorem not_isBarredDrive_safeName
    (filename : String) :
    ¬ IsBarredDrive (utf8 (safeName filename)) := by
  rintro ⟨letter, -, hname⟩
  apply bar_notMem_safeName filename
  rw [hname]
  exact List.mem_cons_of_mem _ List.mem_cons_self

end Storage

end FamilyOrders

namespace FamilyOrders.Storage

open FamilyOrders.Text

/-! ## Uploads step by step

An upload opens the store, makes a directory, makes an empty file in it and
passes the content through two stages.  It can end at each of these steps, and
what it leaves is what the steps before have made: the directories on the way,
and the file with some beginning of the content where a stage breaks off. -/

/-! ### Trees within disks -/

/-- No name is drawn, and the tree changes like this. -/
structure Disk.Through (change : Tree → Tree → Prop) (before after : Disk) :
    Prop where
  drawn : after.drawn = before.drawn
  tree : change before.tree after.tree

theorem Disk.chains_through
    {change : Tree → Tree → Prop} (hchains : Chains change) :
    Chains (Disk.Through change) where
  refl disk := ⟨rfl, hchains.refl disk.tree⟩
  trans := by
    intro before middle after hfirst hsecond
    exact ⟨hsecond.drawn.trans hfirst.drawn,
      hchains.trans hfirst.tree hsecond.tree⟩

@[simp] theorem run_onTree
    (blame : Fault → OrderError) (operation : TreeAction α) (disk : Disk) :
    (onTree blame operation).run.run disk =
      ((operation.run.run disk.tree).1.mapError blame,
        { disk with tree := (operation.run.run disk.tree).2 }) := by
  have hget : (get : Action Disk Disk).run.run disk = (.ok disk, disk) := rfl
  unfold onTree
  rw [run_bind, hget]
  have hoperation : operation.run disk.tree = operation.run.run disk.tree := rfl
  simp only [hoperation]
  rcases operation.run.run disk.tree with ⟨outcome, tree⟩
  cases outcome with
  | ok a => rfl
  | error fault => rfl

theorem onTree_eq_ok
    {blame : Fault → OrderError} {operation : TreeAction α}
    {disk after : Disk} {a : α}
    (hrun : (onTree blame operation).run.run disk = (.ok a, after)) :
    operation.run.run disk.tree = (.ok a, after.tree) ∧
      after.drawn = disk.drawn := by
  rw [run_onTree] at hrun
  rcases hoperation : operation.run.run disk.tree with ⟨outcome, tree⟩
  rw [hoperation] at hrun
  cases outcome with
  | error fault => cases hrun
  | ok result =>
      cases hrun
      exact ⟨rfl, rfl⟩

@[simp] theorem run_fromTree
    (blame : Fault → OrderError) (question : Tree → Except Fault α)
    (disk : Disk) :
    (fromTree blame question).run.run disk =
      ((question disk.tree).mapError blame, disk) := by
  have hget : (get : Action Disk Disk).run.run disk = (.ok disk, disk) := rfl
  unfold fromTree
  rw [run_bind, hget]
  dsimp only
  cases question disk.tree with
  | ok a => rfl
  | error fault => rfl

theorem fromTree_eq_ok
    {blame : Fault → OrderError} {question : Tree → Except Fault α}
    {disk after : Disk} {a : α}
    (hrun : (fromTree blame question).run.run disk = (.ok a, after)) :
    question disk.tree = .ok a ∧ after = disk := by
  rw [run_fromTree] at hrun
  cases hquestion : question disk.tree with
  | error fault =>
      rw [hquestion] at hrun
      cases hrun
  | ok result =>
      rw [hquestion] at hrun
      cases hrun
      exact ⟨rfl, rfl⟩

theorem through_onTree
    {change : Tree → Tree → Prop} {operation : TreeAction α}
    (blame : Fault → OrderError) (hchange : Moves change operation) :
    Moves (Disk.Through change) (onTree blame operation) := by
  intro disk
  rw [run_onTree]
  exact ⟨rfl, hchange disk.tree⟩

theorem through_fromTree
    {change : Tree → Tree → Prop} (hchains : Chains change)
    (blame : Fault → OrderError) (question : Tree → Except Fault α) :
    Moves (Disk.Through change) (fromTree blame question) := by
  intro disk
  rw [run_fromTree]
  exact (Disk.chains_through hchains).refl disk

namespace DocumentStore

def location (store : DocumentStore) : Location :=
  destination store.workingDirectory store.root

def directory (store : DocumentStore) (number : Nat) : Location :=
  store.location ++ [store.directoryName number]

/-- Where the document with this number and name is kept. -/
def place (store : DocumentStore) (number : Nat) (filename : String) :
    Location :=
  store.directory number ++ [utf8 (safeName filename)]

variable {store : DocumentStore} {disk after : Disk} {bytes : Bytes}
variable {filename mediaType : String}

theorem directory_ne_nil (number : Nat) : store.directory number ≠ [] :=
  child_ne_nil store.location (store.directoryName number)

theorem place_ne_nil (number : Nat) (filename : String) :
    store.place number filename ≠ [] :=
  child_ne_nil (store.directory number) (utf8 (safeName filename))

/-! ### Opening -/

/-- The store's directory is there, and it can be asked for. -/
structure IsOpen (store : DocumentStore) (tree : Tree) : Prop where
  reaches : tree.Reaches store.workingDirectory store.root
  way :
    WayFits (origin store.workingDirectory store.root) (splitPath store.root)

theorem IsOpen.grows
    {before after : Tree} {touched : Location → Prop}
    (hopen : store.IsOpen before) (hgrows : before.Grows after touched) :
    store.IsOpen after where
  reaches := hopen.reaches.grows hgrows
  way := hopen.way

theorem openRoot_of_isOpen
    (hopen : store.IsOpen disk.tree) :
    store.openRoot.run.run disk = (.ok store.location, disk) := by
  unfold openRoot
  rw [run_bind, run_onTree, makeDirectories_of_reaches _ hopen.reaches]
  change (fromTree _ _).run.run disk = _
  rw [run_fromTree, hopen.reaches.resolve hopen.way]
  rfl

/-- Opening changes the tree in no other way than making directories does. -/
theorem through_openRoot
    {change : Tree → Tree → Prop} (hchains : Chains change)
    (hmake : Moves change
      (makeDirectories store.medium store.workingDirectory store.root)) :
    Moves (Disk.Through change) store.openRoot := by
  unfold openRoot
  apply Moves.bind (Disk.chains_through hchains)
  · exact through_onTree _ hmake
  · intro _
    exact through_fromTree hchains _ _

theorem openRoot_eq_ok
    {found : Location}
    (hrun : store.openRoot.run.run disk = (.ok found, after)) :
    found = store.location ∧ store.IsOpen after.tree := by
  unfold openRoot at hrun
  obtain ⟨_, made, hmake, hresolve⟩ := run_bind_eq_ok_iff.mp hrun
  obtain ⟨hmade, -⟩ := onTree_eq_ok hmake
  obtain ⟨hfound, rfl⟩ := fromTree_eq_ok hresolve
  have hroot : store.root ≠ [] := by
    intro hempty
    rw [hempty, Tree.resolve, if_neg List.not_mem_nil, if_pos rfl] at hfound
    cases hfound
  obtain ⟨hlocation, hway⟩ := Tree.resolve_eq_ok hfound
  exact ⟨hlocation, reaches_of_makeDirectories hroot hmade, hway⟩

/-- A store opens exactly when its directory is there afterwards. -/
theorem openRoot_eq_ok_iff
    {outcome : Except OrderError Location}
    (hrun : store.openRoot.run.run disk = (outcome, after)) :
    outcome = .ok store.location ↔ store.IsOpen after.tree := by
  constructor
  · rintro rfl
    exact (openRoot_eq_ok hrun).2
  intro hopen
  unfold openRoot at hrun
  rw [run_bind, run_onTree] at hrun
  rcases hmake : (makeDirectories store.medium store.workingDirectory
    store.root).run.run disk.tree with ⟨made, tree⟩
  rw [hmake] at hrun
  have hmade := makeDirectories_eq_ok_iff hopen.reaches.ne_nil hmake
  cases made with
  | error fault =>
      obtain ⟨-, rfl⟩ := Prod.mk.inj hrun
      exact absurd (hmade.mpr hopen.reaches) nofun
  | ok found =>
      change (fromTree _ _).run.run _ = _ at hrun
      rw [run_fromTree, (hmade.mp rfl).resolve hopen.way] at hrun
      exact (Prod.mk.inj hrun).1.symm

/-- The store's directory, or a place that its path passes on the way there. -/
def OnWay (store : DocumentStore) (place : Location) : Prop :=
  PathPasses store.workingDirectory store.root place

theorem founds_openRoot
    (store : DocumentStore) :
    Moves (Disk.Through (Tree.Founds store.OnWay)) store.openRoot :=
  through_openRoot (Tree.chains_founds _) (founds_makeDirectories _ _ _)

end DocumentStore

/-- One file is new, and all others are as before. -/
structure Tree.AddsFile (before after : Tree) (place : Location)
    (bytes : Bytes) : Prop where
  new : before.entry? place = none
  content : after.entry? place = some (.file bytes)
  others :
    ∀ other, other ≠ place →
      ∀ content, after.entry? other = some (.file content) ↔
        before.entry? other = some (.file content)

theorem Tree.AddsFile.of_put
    {before middle : Tree} {place : Location} (hplace : place ≠ [])
    (hadds : before.AddsDirectories middle) (hnew : before.entry? place = none)
    (bytes : Bytes) :
    before.AddsFile (middle.put place (.file bytes)) place bytes where
  new := hnew
  content := entry?_put_self hplace _
  others := by
    intro other hother content
    rw [entry?_put_of_ne hother]
    exact hadds.file_iff

/-! ### Writing files -/

/-- Why a file with this name cannot be made in a directory. -/
def creationFault? (medium : Medium) (tree : Tree) (directory : Location)
    (name : Name) : Option Fault :=
  let place := directory ++ [name]
  if longestName < name.length ∨ longestPath < place.path.length then
    some .nameTooLong
  else if tree.isDirectory place then some .isADirectory
  else medium.refusal tree place

theorem creationFault?_of_long
    {medium : Medium} {tree : Tree} {directory : Location} {name : Name}
    (hlong : longestName < name.length) :
    creationFault? medium tree directory name = some .nameTooLong :=
  if_pos (.inl hlong)

theorem creationFault?_eq_none_iff
    {medium : Medium} {tree : Tree} {directory : Location} {name : Name} :
    creationFault? medium tree directory name = none ↔
      name.length ≤ longestName ∧
        (directory ++ [name]).path.length ≤ longestPath ∧
        tree.isDirectory (directory ++ [name]) = false ∧
        medium.refusal tree (directory ++ [name]) = none := by
  unfold creationFault?
  dsimp only
  by_cases hlong : longestName < name.length ∨
      longestPath < (directory ++ [name]).path.length
  · rw [if_pos hlong]
    refine iff_of_false nofun ?_
    rintro ⟨hshort, hfits, -⟩
    omega
  rw [if_neg hlong]
  rw [not_or, Nat.not_lt, Nat.not_lt] at hlong
  by_cases htaken : tree.isDirectory (directory ++ [name]) = true
  · simp [htaken]
  · simp [htaken, hlong]

theorem run_createFile
    (medium : Medium) (tree : Tree) (directory : Location) (name : Name) :
    (createFile medium directory name).run.run tree =
      match creationFault? medium tree directory name with
      | some fault => (.error fault, tree)
      | none => (.ok (), tree.put (directory ++ [name]) (.file [])) := by
  have hget : (get : TreeAction Tree).run.run tree = (.ok tree, tree) := rfl
  unfold createFile creationFault?
  dsimp only
  by_cases hlong : longestName < name.length ∨
      longestPath < (directory ++ [name]).path.length
  · rw [if_pos hlong, if_pos hlong]
    rfl
  rw [if_neg hlong, if_neg hlong, run_bind, hget]
  dsimp only
  by_cases htaken : tree.isDirectory (directory ++ [name]) = true
  · rw [if_pos htaken, if_pos htaken]
    rfl
  · rw [if_neg htaken, if_neg htaken]
    exact run_makeEntry medium tree (directory ++ [name]) (.file [])

theorem run_passStage
    (medium : Medium) (stage : WriteStage) (tree : Tree) (place : Location)
    (bytes : Bytes) :
    (passStage medium stage place bytes).run.run tree =
      match medium.shortfall stage tree place with
      | none => (.ok (), tree.put place (.file bytes))
      | some shortfall =>
        (.error shortfall.fault,
          tree.put place (.file (bytes.take shortfall.kept))) := by
  have hrun : (passStage medium stage place bytes).run.run tree =
      ExceptT.run (m := StateM Tree)
        (match medium.shortfall stage tree place with
        | none => set (tree.put place (.file bytes))
        | some shortfall => do
          set (tree.put place (.file (bytes.take shortfall.kept)))
          throw shortfall.fault) tree := rfl
  rw [hrun]
  cases medium.shortfall stage tree place with
  | none => rfl
  | some shortfall => rfl

/-- The stage at which the content of a file breaks off that can be made in the
tree, and how. -/
def breakOff? (medium : Medium) (tree : Tree) (place : Location)
    (bytes : Bytes) :
    Option (WriteStage × Shortfall) :=
  match medium.shortfall .write (tree.put place (.file [])) place with
  | some shortfall => some (.write, shortfall)
  | none =>
    (medium.shortfall .flush (tree.put place (.file bytes)) place).map
      fun shortfall => (.flush, shortfall)

namespace DocumentStore

variable {store : DocumentStore} {disk after : Disk} {bytes : Bytes}
variable {filename mediaType : String}

theorem run_writeFile
    (store : DocumentStore) (disk : Disk) (directory : Location) (name : Name)
    (bytes : Bytes) :
    (store.writeFile directory name bytes).run.run disk =
      match creationFault? store.medium disk.tree directory name with
      | some fault =>
        (.error (.store (.createFile (directory ++ [name]).path fault)), disk)
      | none =>
        match breakOff? store.medium disk.tree (directory ++ [name]) bytes with
        | some (stage, shortfall) =>
          (.error (.store (.stopped stage (directory ++ [name]).path
              shortfall.fault)),
            { disk with
              tree := disk.tree.put (directory ++ [name])
                (.file (bytes.take shortfall.kept)) })
        | none =>
          (.ok (),
            { disk with
              tree := disk.tree.put (directory ++ [name]) (.file bytes) }) := by
  unfold writeFile
  dsimp only
  rw [run_bind, run_onTree, run_createFile]
  cases creationFault? store.medium disk.tree directory name with
  | some fault => rfl
  | none =>
      dsimp only [Except.mapError]
      rw [run_bind, run_onTree, run_passStage, breakOff?]
      cases store.medium.shortfall .write
          (disk.tree.put (directory ++ [name]) (.file []))
          (directory ++ [name]) with
      | some shortfall =>
          dsimp only [Except.mapError]
          rw [Tree.put_put]
      | none =>
          dsimp only [Except.mapError]
          rw [run_onTree, run_passStage, Tree.put_put]
          cases store.medium.shortfall .flush
              (disk.tree.put (directory ++ [name]) (.file bytes))
              (directory ++ [name]) with
          | some shortfall =>
              dsimp only [Except.mapError, Option.map_some]
              rw [Tree.put_put]
          | none =>
              dsimp only [Except.mapError, Option.map_none]
              rw [Tree.put_put]

/-! ### Uploading -/

/-- The store is opened, and the directory for the next document is made. -/
def MakesRoom (store : DocumentStore) (disk : Disk) (made : Tree) : Prop :=
  ∃ opened, store.openRoot.run.run disk = (.ok store.location, opened) ∧
    (makeDirectories store.medium []
      (store.directory disk.drawn).path).run.run opened.tree = (.ok (), made)

/-- How an upload ends, and what it leaves. -/
inductive Uploads (store : DocumentStore) (disk : Disk) (bytes : Bytes)
    (filename : String) : Except OrderError DocumentReference → Disk → Prop
  | notOpened {error : OrderError} {opened : Disk}
      (hopen : store.openRoot.run.run disk = (.error error, opened)) :
      Uploads store disk bytes filename (.error error) opened
  | noRoom {opened : Disk} {fault : Fault} {after : Tree}
      (hopen : store.openRoot.run.run disk = (.ok store.location, opened))
      (hmake : (makeDirectories store.medium []
        (store.directory disk.drawn).path).run.run opened.tree =
          (.error fault, after)) :
      Uploads store disk bytes filename
        (.error (.store
          (.createDirectory (store.directory disk.drawn).path fault)))
        ⟨after, disk.drawn + 1⟩
  | noFile {made : Tree} {fault : Fault}
      (hroom : store.MakesRoom disk made)
      (hfault : creationFault? store.medium made (store.directory disk.drawn)
        (utf8 (safeName filename)) = some fault) :
      Uploads store disk bytes filename
        (.error (.store
          (.createFile (store.place disk.drawn filename).path fault)))
        ⟨made, disk.drawn + 1⟩
  | brokenOff {made : Tree} {stage : WriteStage} {shortfall : Shortfall}
      (hroom : store.MakesRoom disk made)
      (hnew : creationFault? store.medium made (store.directory disk.drawn)
        (utf8 (safeName filename)) = none)
      (hbreak : breakOff? store.medium made (store.place disk.drawn filename)
        bytes = some (stage, shortfall)) :
      Uploads store disk bytes filename
        (.error (.store
          (.stopped stage (store.place disk.drawn filename).path
            shortfall.fault)))
        ⟨made.put (store.place disk.drawn filename)
          (.file (bytes.take shortfall.kept)), disk.drawn + 1⟩
  | stored {made : Tree}
      (hroom : store.MakesRoom disk made)
      (hnew : creationFault? store.medium made (store.directory disk.drawn)
        (utf8 (safeName filename)) = none)
      (hbreak : breakOff? store.medium made (store.place disk.drawn filename)
        bytes = none) :
      Uploads store disk bytes filename
        (.ok (reference (store.directory disk.drawn) (safeName filename)))
        ⟨made.put (store.place disk.drawn filename) (.file bytes),
          disk.drawn + 1⟩

theorem drawn_of_openRoot
    {outcome : Except OrderError Location} {opened : Disk}
    (hopen : store.openRoot.run.run disk = (outcome, opened)) :
    opened.drawn = disk.drawn :=
  ((founds_openRoot store).of_run hopen).drawn

theorem run_upload_of_opened
    {opened : Disk}
    (hopen : store.openRoot.run.run disk = (.ok store.location, opened))
    (bytes : Bytes) (filename mediaType : String) :
    (store.upload bytes filename mediaType).run.run disk =
      match (makeDirectories store.medium []
        (store.directory disk.drawn).path).run.run opened.tree with
      | (.error fault, made) =>
        (.error (.store
          (.createDirectory (store.directory disk.drawn).path fault)),
          ⟨made, disk.drawn + 1⟩)
      | (.ok _, made) =>
        match (store.writeFile (store.directory disk.drawn)
          (utf8 (safeName filename)) bytes).run.run ⟨made, disk.drawn + 1⟩ with
        | (.error error, after) => (.error error, after)
        | (.ok _, after) =>
          (.ok (reference (store.directory disk.drawn) (safeName filename)),
            after) := by
  have hdraw : store.drawName.run.run opened =
      (.ok (store.directoryName disk.drawn),
        ⟨opened.tree, disk.drawn + 1⟩) := by
    rw [← drawn_of_openRoot hopen]
    rfl
  unfold upload
  rw [run_bind, hopen]
  dsimp only
  rw [run_bind, hdraw]
  dsimp only
  rw [run_bind, run_onTree, directory]
  rcases (makeDirectories store.medium []
    (store.location ++ [store.directoryName disk.drawn]).path).run.run
      opened.tree with ⟨walked, made⟩
  cases walked with
  | error fault => rfl
  | ok _ =>
      dsimp only [Except.mapError]
      rw [run_bind]
      rcases (store.writeFile
        (store.location ++ [store.directoryName disk.drawn])
        (utf8 (safeName filename)) bytes).run.run ⟨made, disk.drawn + 1⟩ with
        ⟨written, after⟩
      cases written with
      | error error => rfl
      | ok _ => rfl

theorem uploads_upload
    (store : DocumentStore) (disk : Disk) (bytes : Bytes)
    (filename mediaType : String) :
    store.Uploads disk bytes filename
      (outcomeFrom disk (store.upload bytes filename mediaType))
      ((store.upload bytes filename mediaType).run.run disk).2 := by
  rcases hopen : store.openRoot.run.run disk with ⟨outcome, opened⟩
  cases outcome with
  | error error =>
      have hrun : (store.upload bytes filename mediaType).run.run disk =
          (.error error, opened) := by
        unfold upload
        rw [run_bind, hopen]
      rw [outcomeFrom, hrun]
      exact .notOpened hopen
  | ok found =>
      obtain ⟨rfl, -⟩ := openRoot_eq_ok hopen
      rw [outcomeFrom, run_upload_of_opened hopen]
      rcases hmake : (makeDirectories store.medium []
        (store.directory disk.drawn).path).run.run opened.tree with ⟨walked,
        made⟩
      cases walked with
      | error fault => exact .noRoom hopen hmake
      | ok _ =>
          have hroom : store.MakesRoom disk made := ⟨opened, hopen, hmake⟩
          dsimp only
          rw [run_writeFile, ← place]
          dsimp only
          cases hnew : creationFault? store.medium made
              (store.directory disk.drawn) (utf8 (safeName filename)) with
          | some fault => exact .noFile hroom hnew
          | none =>
              cases hbreak : breakOff? store.medium made
                  (store.place disk.drawn filename) bytes with
              | some broken => exact .brokenOff hroom hnew hbreak
              | none => exact .stored hroom hnew hbreak

theorem uploads_of_run
    {outcome : Except OrderError DocumentReference}
    (hrun : (store.upload bytes filename mediaType).run.run disk =
      (outcome, after)) :
    store.Uploads disk bytes filename outcome after := by
  have hends := store.uploads_upload disk bytes filename mediaType
  rwa [outcomeFrom, hrun] at hends

namespace MakesRoom

variable {made : Tree}

theorem adds
    (hroom : store.MakesRoom disk made) :
    disk.tree.Adds made := by
  obtain ⟨opened, hopen, hmake⟩ := hroom
  have hopens : Moves (Disk.Through Tree.Adds) store.openRoot :=
    through_openRoot Tree.chains_adds (adds_makeDirectories _ _ _)
  have hfirst := (hopens.of_run hopen).tree
  exact Tree.chains_adds.trans hfirst
    ((adds_makeDirectories _ _ _).of_run hmake)

theorem addsDirectories
    (hroom : store.MakesRoom disk made) :
    disk.tree.AddsDirectories made := by
  obtain ⟨opened, hopen, hmake⟩ := hroom
  have hfirst := ((founds_openRoot store).of_run hopen).tree.addsDirectories
  have hsecond := ((founds_makeDirectories _ _ _).of_run hmake).addsDirectories
  exact (Tree.chains_founds _).trans hfirst hsecond

theorem reaches
    (hroom : store.MakesRoom disk made) :
    made.Reaches [] (store.directory disk.drawn).path := by
  obtain ⟨opened, -, hmake⟩ := hroom
  exact reaches_of_makeDirectories (path_ne_nil _) hmake

theorem isOpen
    (hroom : store.MakesRoom disk made) :
    store.IsOpen made := by
  obtain ⟨opened, hopen, hmake⟩ := hroom
  have hadds := (adds_makeDirectories _ _ _).of_run hmake
  exact (openRoot_eq_ok hopen).2.grows hadds

end MakesRoom

/-! ### Files that uploads leave -/

theorem entry?_eq_none_of_fresh
    {tree : Tree} {name : Name} {place : Location} (hmem : name ∈ place)
    (hfresh : ∀ entry ∈ tree.entries, name ∉ entry.1) :
    tree.entry? place = none := by
  have hne : place ≠ [] := List.ne_nil_of_mem hmem
  simp only [Tree.entry?, hne, if_false, Option.map_eq_none_iff,
    List.find?_eq_none, decide_eq_true_eq]
  rintro entry hentry rfl
  exact hfresh entry hentry hmem

namespace Uploads

variable {outcome : Except OrderError DocumentReference} {error : OrderError}

/-- A failed upload leaves no file, or a beginning of the content where a stage
of writing broke off. -/
theorem left_of_error
    (hends : store.Uploads disk bytes filename (.error error) after) :
    disk.tree.AddsDirectories after.tree ∨
      ∃ made stage fault kept, disk.tree.AddsDirectories made ∧
        error =
          .store (.stopped stage (store.place disk.drawn filename).path fault) ∧
        after.tree =
          made.put (store.place disk.drawn filename)
            (.file (bytes.take kept)) := by
  cases hends with
  | notOpened hopen =>
      exact .inl ((founds_openRoot store).of_run hopen).tree.addsDirectories
  | noRoom hopen hmake =>
      have hfirst := ((founds_openRoot store).of_run hopen).tree.addsDirectories
      have hsecond :=
        ((founds_makeDirectories _ _ _).of_run hmake).addsDirectories
      exact .inl ((Tree.chains_founds _).trans hfirst hsecond)
  | noFile hroom hfault => exact .inl hroom.addsDirectories
  | brokenOff hroom hnew hbreak =>
      exact .inr ⟨_, _, _, _, hroom.addsDirectories, rfl, rfl⟩

theorem left_of_ok
    {document : DocumentReference}
    (hends : store.Uploads disk bytes filename (.ok document) after) :
    document = reference (store.directory disk.drawn) (safeName filename) ∧
      ∃ made, disk.tree.AddsDirectories made ∧
        after.tree = made.put (store.place disk.drawn filename)
          (.file bytes) := by
  cases hends with
  | stored hroom hnew hbreak => exact ⟨rfl, _, hroom.addsDirectories, rfl⟩

/-- No file but the document's own is made or changed. -/
theorem elsewhere
    (hends : store.Uploads disk bytes filename outcome after)
    {other : Location} (hother : other ≠ store.place disk.drawn filename)
    (content : Bytes) :
    after.tree.entry? other = some (.file content) ↔
      disk.tree.entry? other = some (.file content) := by
  cases outcome with
  | error error =>
      rcases hends.left_of_error with hadds | ⟨made, _, _, _, hadds, -, htree⟩
      · exact hadds.file_iff
      · rw [htree, Tree.entry?_put_of_ne hother]
        exact hadds.file_iff
  | ok document =>
      obtain ⟨-, made, hadds, htree⟩ := hends.left_of_ok
      rw [htree, Tree.entry?_put_of_ne hother]
      exact hadds.file_iff

end Uploads

end DocumentStore

end FamilyOrders.Storage
