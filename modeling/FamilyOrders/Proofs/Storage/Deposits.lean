import FamilyOrders.Proofs.Creation.CallSequence
import FamilyOrders.Proofs.Storage.Uploads

/-!
# Deposits

What the store holds and keeps, whatever is stored, fetched or created later.
-/

namespace FamilyOrders.Storage

open FamilyOrders.Text

/-! ## What a store holds

Each upload is a file in a directory of its own, and the store never writes to a
directory once it has drawn the next.  So a document once stored is held, and
its reference leads to it, however the store is used afterwards. -/

/-- No name is drawn, and only files at the places touched get new content. -/
abbrev Disk.Grows (touched : Location → Prop) : Disk → Disk → Prop :=
  Disk.Through (Tree.Grows · · touched)

namespace DocumentStore

/-- No reference to a document in the store reads as one to a drive. -/
structure IsPlain (store : DocumentStore) : Prop where
  workingDirectory : ∀ name ∈ store.workingDirectory, ProperName name
  location : ∀ name ∈ store.location.head?, ¬ IsBarredDrive name
  directoryName : ∀ number,
    ProperName (store.directoryName number) ∧
      ¬ IsBarredDrive (store.directoryName number)

/-- No two of the names drawn from the first number until before the last one
are the same. -/
def DrawsApart (store : DocumentStore) (first last : Nat) : Prop :=
  ∀ number other, first ≤ number → number < other → other < last →
    store.directoryName number ≠ store.directoryName other

variable {store : DocumentStore} {disk before after : Disk}

namespace IsPlain

theorem isAddressable_directory
    (hplain : store.IsPlain) (number : Nat) :
    IsAddressable (store.directory number) := by
  obtain ⟨hproper, hdrive⟩ := hplain.directoryName number
  refine IsAddressable.append_name ⟨?_, hplain.location⟩ hproper fun _ => hdrive
  exact properName_of_mem_destination hplain.workingDirectory

theorem properName_directory
    (hplain : store.IsPlain) (number : Nat) :
    ∀ name ∈ store.directory number, ProperName name :=
  (hplain.isAddressable_directory number).proper

theorem isAddressable_place
    (hplain : store.IsPlain) (number : Nat) (filename : String) :
    IsAddressable (store.place number filename) :=
  (hplain.isAddressable_directory number).append_name
    (properName_safeName filename) fun _ => not_isBarredDrive_safeName filename

end IsPlain

theorem directory_ne
    {first last number other : Nat} (hapart : store.DrawsApart first last)
    (hnumber : first ≤ number) (hless : number < other)
    (hother : other < last) :
    store.directory number ≠ store.directory other := by
  intro hdirectory
  have hnames := List.append_cancel_left hdirectory
  exact hapart number other hnumber hless hother (List.cons.inj hnames).1

/-! ### Changes -/

theorem grows_openRoot
    (store : DocumentStore) :
    Moves (Disk.Grows fun _ => False) store.openRoot :=
  through_openRoot (Tree.chains_grows _) (adds_makeDirectories _ _ _)

/-- A file in a directory with a number from the first until before the last
one. -/
def IsAmong (store : DocumentStore) (first last : Nat) (place : Location) :
    Prop :=
  ∃ number name, first ≤ number ∧ number < last ∧
    place = store.directory number ++ [name]

/-- Names may have been drawn, and nothing but the files in their directories
has changed. -/
structure Advances (store : DocumentStore) (before after : Disk) : Prop where
  drawn : before.drawn ≤ after.drawn
  tree : before.tree.Grows after.tree (store.IsAmong before.drawn after.drawn)

theorem chains_advances (store : DocumentStore) : Chains store.Advances where
  refl disk := ⟨Nat.le_refl _, .refl disk.tree _⟩
  trans := by
    intro before middle after hfirst hsecond
    have hdrawn := Nat.le_trans hfirst.drawn hsecond.drawn
    refine ⟨hdrawn, (hfirst.tree.widen ?_).trans (hsecond.tree.widen ?_)⟩
    · rintro place ⟨number, name, hnumber, hmiddle, rfl⟩
      exact ⟨number, name, hnumber, Nat.lt_of_lt_of_le hmiddle hsecond.drawn,
        rfl⟩
    · rintro place ⟨number, name, hmiddle, hnumber, rfl⟩
      exact ⟨number, name, Nat.le_trans hfirst.drawn hmiddle, hnumber, rfl⟩

namespace Advances

theorem of_grows
    (hgrows : Disk.Grows (fun _ => False) before after) :
    store.Advances before after where
  drawn := Nat.le_of_eq hgrows.drawn.symm
  tree := hgrows.tree.widen fun _ hfalse => hfalse.elim

theorem of_adds
    {after : Tree} (hadds : disk.tree.Adds after) :
    store.Advances disk ⟨after, disk.drawn + 1⟩ where
  drawn := Nat.le_succ _
  tree := hadds.widen fun _ hfalse => hfalse.elim

theorem of_put
    {made : Tree} {filename : String} (hadds : disk.tree.Adds made)
    (hfile : made.isDirectory (store.place disk.drawn filename) = false)
    (content : Bytes) :
    store.Advances disk
      ⟨made.put (store.place disk.drawn filename) (.file content),
        disk.drawn + 1⟩ where
  drawn := Nat.le_succ _
  tree := by
    apply (hadds.widen fun _ hfalse => hfalse.elim).trans
    apply Tree.Grows.put hfile
    exact .inr ⟨disk.drawn, _, Nat.le_refl _, Nat.lt_succ_self _, rfl⟩

end Advances

theorem advances_upload
    (store : DocumentStore) (bytes : Bytes) (filename mediaType : String) :
    Moves store.Advances (store.upload bytes filename mediaType) := by
  intro disk
  rcases hrun : (store.upload bytes filename mediaType).run.run disk with
    ⟨outcome, after⟩
  cases uploads_of_run hrun with
  | notOpened hopen => exact .of_grows ((grows_openRoot store).of_run hopen)
  | noRoom hopen hmake =>
      have hfirst := ((grows_openRoot store).of_run hopen).tree
      have hsecond := (adds_makeDirectories _ _ _).of_run hmake
      exact .of_adds (Tree.chains_adds.trans hfirst hsecond)
  | noFile hroom hfault => exact .of_adds hroom.adds
  | brokenOff hroom hnew hbreak =>
      obtain ⟨-, -, hfile, -⟩ := creationFault?_eq_none_iff.mp hnew
      exact .of_put hroom.adds hfile _
  | stored hroom hnew hbreak =>
      obtain ⟨-, -, hfile, -⟩ := creationFault?_eq_none_iff.mp hnew
      exact .of_put hroom.adds hfile _

/-- A document that the store holds under a number. -/
structure Holds (store : DocumentStore) (disk : Disk) (number : Nat)
    (filename : String) (bytes : Bytes) : Prop where
  drawn : number < disk.drawn
  root : store.IsOpen disk.tree
  directory : disk.tree.Reaches [] (store.directory number).path
  short : (utf8 (safeName filename)).length ≤ longestName
  fits : (store.place number filename).path.length ≤ longestPath
  content :
    disk.tree.entry? (store.place number filename) = some (.file bytes)

theorem holds_of_upload
    {bytes : Bytes} {filename mediaType : String} {document : DocumentReference}
    (hrun : (store.upload bytes filename mediaType).run.run disk =
      (.ok document, after)) :
    document = reference (store.directory disk.drawn) (safeName filename) ∧
      store.Holds after disk.drawn filename bytes := by
  cases uploads_of_run hrun with
  | @stored made hroom hnew hbreak =>
      refine ⟨rfl, ?_⟩
      obtain ⟨hshort, hfits, hfile, -⟩ := creationFault?_eq_none_iff.mp hnew
      have hgrows :
          made.Grows (made.put (store.place disk.drawn filename) (.file bytes))
            fun _ => True :=
        .put hfile (.inr trivial) _
      constructor
      case drawn => exact Nat.lt_succ_self _
      case root => exact hroom.isOpen.grows hgrows
      case directory => exact hroom.reaches.grows hgrows
      case short => exact hshort
      case fits => exact hfits
      case content => exact Tree.entry?_put_self (place_ne_nil _ _) _

/-- What the store does later is elsewhere. -/
theorem Holds.advances
    {first number : Nat} {filename : String} {bytes : Bytes}
    (hapart : store.DrawsApart first after.drawn) (hnumber : first ≤ number)
    (hholds : store.Holds before number filename bytes)
    (hadvances : store.Advances before after) :
    store.Holds after number filename bytes where
  drawn := Nat.lt_of_lt_of_le hholds.drawn hadvances.drawn
  root := hholds.root.grows hadvances.tree
  directory := hholds.directory.grows hadvances.tree
  short := hholds.short
  fits := hholds.fits
  content := by
    apply hadvances.tree.file hholds.content
    -- A file touched since then is in a directory with a later number, hence in
    -- another one.
    rintro ⟨other, name, hother, hlast, hplace⟩
    have hless := Nat.lt_of_lt_of_le hholds.drawn hother
    exact directory_ne hapart hnumber hless hlast (eq_of_child_eq hplace)

/-! ### Downloading -/

theorem through_download
    {change : Tree → Tree → Prop} (hchains : Chains change)
    (hmake : Moves change
      (makeDirectories store.medium store.workingDirectory store.root))
    (document : DocumentReference) :
    Moves (Disk.Through change) (store.download document) := by
  have hdisks := Disk.chains_through hchains
  unfold download
  apply Moves.bind hdisks (.value hdisks _)
  intro path
  apply Moves.bind hdisks (through_openRoot hchains hmake)
  intro root
  apply Moves.bind hdisks (through_fromTree hchains _ _)
  intro location
  split
  · exact through_fromTree hchains _ _
  · exact .value hdisks (.error _)

theorem grows_download
    (store : DocumentStore) (document : DocumentReference) :
    Moves (Disk.Grows fun _ => False) (store.download document) :=
  through_download (Tree.chains_grows _) (adds_makeDirectories _ _ _) document

/-- The URL of a document leads back to the path of its file. -/
theorem documentPath_reference
    (hplain : store.IsPlain) (number : Nat) (filename : String) :
    store.documentPath
      (reference (store.directory number) (safeName filename)) =
        .ok (store.place number filename).path := by
  have hproper := properName_safeName filename
  have hparsed : Url.parse store.domains
      (reference (store.directory number) (safeName filename)).binaryUrl =
        .ok (Url.ofFile (store.place number filename)) :=
    Url.parse_ofFile _ (place_ne_nil _ _)
      (hplain.isAddressable_place number filename)
  have hfile := Url.filePath?_ofFile_append (store.directory number)
    hproper.ne_nil (colon_notMem_safeName filename)
      (bar_notMem_safeName filename)
  unfold documentPath
  rw [hparsed]
  simp only [place, hfile]

/-- The path of a document that the store holds leads to its file. -/
theorem Holds.resolve
    {number : Nat} {filename : String} {bytes : Bytes}
    (hnames : ∀ name ∈ store.directory number, ProperName name)
    (hholds : store.Holds disk number filename bytes)
    (workingDirectory : Location) :
    disk.tree.resolve workingDirectory (store.place number filename).path =
      .ok (store.place number filename) := by
  apply Tree.resolve_file workingDirectory (directory_ne_nil number) hnames
    (properName_safeName filename) (nul_notMem_safeName filename) hholds.short
    hholds.fits hholds.directory
  rw [← place, hholds.content]
  exact Option.some_ne_none _

/-- What the store holds can be downloaded, and downloading it changes
nothing. -/
theorem Holds.download
    {number : Nat} {filename : String} {bytes : Bytes} (hplain : store.IsPlain)
    (hholds : store.Holds disk number filename bytes) :
    (store.download
      (reference (store.directory number) (safeName filename))).run.run disk =
        (.ok bytes, disk) := by
  have hpath := documentPath_reference hplain number filename
  have hresolve := hholds.resolve (hplain.properName_directory number)
    store.workingDirectory
  have hwithin :
      (store.place number filename).isWithin store.location = true := by
    simp [Location.isWithin, place, DocumentStore.directory]
  have hread : disk.tree.read (store.place number filename) = .ok bytes := by
    rw [Tree.read, hholds.content]
  unfold DocumentStore.download
  rw [run_bind, hpath]
  change (store.openRoot >>= _).run.run disk = _
  rw [run_bind, openRoot_of_isOpen hholds.root]
  change (fromTree _ _ >>= _).run.run disk = _
  rw [run_bind, run_fromTree, hresolve]
  simp only [Except.mapError, hwithin, if_true]
  rw [run_fromTree, hread]
  rfl

end DocumentStore

end FamilyOrders.Storage

namespace FamilyOrders

/-! ## Deposits

Whatever is done with a store, in whichever order and with whichever failures,
each document that was ever given to it stays where its reference leads, and no
two documents share a reference. -/

def Call.content? : Call → Option Bytes
  | .upload bytes _ _ => some bytes
  | _ => none

/-- The content given away for storing in the exchanges. -/
def uploadedBytes (exchanges : List Exchange) : Bytes :=
  (exchanges.findSome? (·.call.content?)).getD []

theorem uploadedBytes_concat
    {earlier : List Exchange} {last : Exchange} {bytes : Bytes}
    (hearlier : .upload ∉ callKinds earlier)
    (hlast : last.call.content? = some bytes) :
    uploadedBytes (earlier ++ [last]) = bytes := by
  have hnone : earlier.findSome? (·.call.content?) = none := by
    rw [List.findSome?_eq_none_iff]
    rintro ⟨call, outcome⟩ hmem
    cases call with
    | upload => exact absurd (kind_mem_callKinds hmem) hearlier
    | render => rfl
    | download => rfl
    | sealDocument => rfl
  rw [uploadedBytes, List.findSome?_append, hnone, Option.none_or,
    List.findSome?_singleton, hlast]
  rfl

namespace Storage

open FamilyOrders.Text

/-- The creation of an order's document, with the answers of the services for
rendering and for sealing. -/
structure Commission where
  engine : Engine
  file : CaseFile
  status : OrderStatus
  format : FileFormat
  language : Language
  render :
    Layout → Particulars → FileFormat → Language → Except OrderError Rendered
  sealDocument : Bytes → String → Language → Except OrderError Rendered

inductive StoreStep
  | upload (bytes : Bytes) (filename mediaType : String)
  /-- An upload that the system breaks off when some of the content is written.
  One broken off sooner leaves what an upload under too long a name does. -/
  | interrupted (written : Bytes) (filename mediaType : String)
  | download (document : DocumentReference)
  | create (commission : Commission)

/-- Content given to a store, and the reference that came back. -/
structure Deposit where
  document : DocumentReference
  bytes : Bytes
  deriving DecidableEq

namespace Commission

def collaborators (commission : Commission) (store : DocumentStore) :
    Collaborators Disk where
  render layout particulars format language :=
    liftM (commission.render layout particulars format language)
  download := store.download
  sealDocument bytes filename language :=
    liftM (commission.sealDocument bytes filename language)
  upload := store.upload

def create (commission : Commission) (store : DocumentStore) :
    Action Disk CreatedDocument :=
  commission.engine.create (commission.collaborators store) commission.file
    commission.status commission.format commission.language

def exchangesFrom (commission : Commission) (store : DocumentStore)
    (disk : Disk) : List Exchange :=
  (commission.collaborators store).exchangesFrom disk
  (commission.engine.create · commission.file
    commission.status commission.format commission.language)

end Commission

namespace DocumentStore

def afterStep (store : DocumentStore) (disk : Disk) : StoreStep → Disk
  | .upload bytes filename mediaType
  | .interrupted bytes filename mediaType =>
    ((store.upload bytes filename mediaType).run.run disk).2
  | .download document => ((store.download document).run.run disk).2
  | .create commission => ((commission.create store).run.run disk).2

def deposit? (store : DocumentStore) (disk : Disk) : StoreStep → Option Deposit
  | .upload bytes filename mediaType =>
    match outcomeFrom disk (store.upload bytes filename mediaType) with
    | .ok document => some { document, bytes }
    | .error _ => none
  | .create commission =>
    match outcomeFrom disk (commission.create store) with
    | .ok created => some {
        document := created.document
        bytes := uploadedBytes (commission.exchangesFrom store disk) }
    | .error _ => none
  | .interrupted .. | .download _ => none

def afterAll (store : DocumentStore) (disk : Disk) (history : List StoreStep) :
    Disk :=
  history.foldl store.afterStep disk

/-- The deposits of the steps that gave a reference, in their order. -/
def deposits (store : DocumentStore) : Disk → List StoreStep → List Deposit
  | _, [] => []
  | disk, step :: later =>
    (store.deposit? disk step).toList ++ store.deposits
    (store.afterStep disk step) later

/-- A deposit held under a number that is not below the first. -/
def Keeps (store : DocumentStore) (first : Nat) (disk : Disk)
    (deposit : Deposit) : Prop :=
  ∃ number filename, first ≤ number ∧
    deposit.document = reference (store.directory number) (safeName filename) ∧
    store.Holds disk number filename deposit.bytes

variable {store : DocumentStore} {disk before after : Disk}

/-! ### Steps -/

theorem advances_perform
    (store : DocumentStore) (commission : Commission) (call : Call) :
    Moves store.Advances ((commission.collaborators store).perform call) := by
  cases call with
  | render => exact .value store.chains_advances _
  | download document =>
      exact (grows_download store document).weaken fun _ _ => Advances.of_grows
  | sealDocument => exact .value store.chains_advances _
  | upload bytes filename mediaType =>
      exact advances_upload store bytes filename mediaType

theorem advances_afterStep
    (store : DocumentStore) (disk : Disk) (step : StoreStep) :
    store.Advances disk (store.afterStep disk step) := by
  cases step with
  | upload bytes filename mediaType =>
      exact advances_upload store bytes filename mediaType disk
  | interrupted written filename mediaType =>
      exact advances_upload store written filename mediaType disk
  | download document => exact .of_grows (grows_download store document disk)
  | create commission =>
      exact commission.engine.moves_create store.chains_advances
        (advances_perform store commission) _ _ _ _ disk

theorem advances_afterAll
    (store : DocumentStore) (disk : Disk) (history : List StoreStep) :
    store.Advances disk (store.afterAll disk history) := by
  induction history generalizing disk with
  | nil => exact store.chains_advances.refl disk
  | cons step later ih =>
      have hfirst := advances_afterStep store disk step
      exact store.chains_advances.trans hfirst (ih (store.afterStep disk step))

theorem keeps_of_create
    {commission : Commission} {created : CreatedDocument}
    (hcreated : outcomeFrom disk (commission.create store) = .ok created) :
    store.Keeps disk.drawn ((commission.create store).run.run disk).2
      { document := created.document
        bytes := uploadedBytes (commission.exchangesFrom store disk) } := by
  have hcreation :=
    commission.engine.creation_of_create (commission.collaborators store) disk
    commission.file commission.status commission.format commission.language
  have hreplays :=
    commission.engine.replays_create (commission.collaborators store) disk
    commission.file commission.status commission.format commission.language
  change commission.engine.Creation _ _ _ _
    (commission.exchangesFrom store disk)
    (outcomeFrom disk (commission.create store)) at hcreation
  change (commission.collaborators store).Replays disk
    (commission.exchangesFrom store disk)
    ((commission.create store).run.run disk).2 at hreplays
  rw [hcreated] at hcreation
  generalize commission.exchangesFrom store disk =
    exchanges at hcreation hreplays ⊢
  cases hcreation with
  | @stored order exchanges produced document _ hproduction =>
      -- The upload is the last call, so it finds the disk that the earlier
      -- calls left.
      obtain ⟨middle, hearlier, hlast⟩ := hreplays.of_append
      have hadvances :=
        hearlier.related store.chains_advances
          (advances_perform store commission)
      have hupload : (store.upload produced.bytes
          (documentName order commission.status produced.format
            commission.language commission.file.answers.title)
          produced.format.mediaType).run.run middle = (.ok document, _) :=
            hlast.of_single
      obtain ⟨hdocument, hholds⟩ := holds_of_upload hupload
      refine ⟨middle.drawn, _, hadvances.drawn, hdocument, ?_⟩
      rw [uploadedBytes_concat hproduction.upload_notMem rfl]
      exact hholds

theorem keeps_of_deposit?
    {step : StoreStep} {deposit : Deposit}
    (hdeposit : store.deposit? disk step = some deposit) :
    store.Keeps disk.drawn (store.afterStep disk step) deposit := by
  cases step with
  | upload bytes filename mediaType =>
      rcases hrun :
        (store.upload bytes filename mediaType).run.run disk with ⟨outcome,
          after⟩
      rw [deposit?, outcomeFrom, hrun] at hdeposit
      cases outcome with
      | error error => cases hdeposit
      | ok document =>
          cases hdeposit
          rw [afterStep, hrun]
          obtain ⟨hdocument, hholds⟩ := holds_of_upload hrun
          exact ⟨disk.drawn, filename, Nat.le_refl _, hdocument, hholds⟩
  | interrupted => cases hdeposit
  | download => cases hdeposit
  | create commission =>
      rw [deposit?] at hdeposit
      cases hcreated : outcomeFrom disk (commission.create store) with
      | error error =>
          rw [hcreated] at hdeposit
          cases hdeposit
      | ok created =>
          rw [hcreated] at hdeposit
          cases hdeposit
          exact keeps_of_create hcreated

theorem Keeps.advances
    {first : Nat} {deposit : Deposit}
    (hapart : store.DrawsApart first after.drawn)
    (hkeeps : store.Keeps first before deposit)
    (hadvances : store.Advances before after) :
    store.Keeps first after deposit := by
  obtain ⟨number, filename, hnumber, hdocument, hholds⟩ := hkeeps
  exact ⟨number, filename, hnumber, hdocument,
    hholds.advances hapart hnumber hadvances⟩

/-! ### Histories -/

theorem afterAll_append
    (store : DocumentStore) (disk : Disk) (earlier later : List StoreStep) :
    store.afterAll disk (earlier ++ later) =
      store.afterAll (store.afterAll disk earlier) later :=
  List.foldl_append

theorem DrawsApart.within
    {first middle inner last : Nat} (hapart : store.DrawsApart first last)
    (hfirst : first ≤ middle) (hlast : inner ≤ last) :
    store.DrawsApart middle inner :=
  fun number other hnumber hless hother =>
    hapart number other (Nat.le_trans hfirst hnumber) hless
      (Nat.lt_of_lt_of_le hother hlast)

theorem keeps_of_mem_deposits
    {history : List StoreStep} {deposit : Deposit}
    (hapart : store.DrawsApart disk.drawn (store.afterAll disk history).drawn)
    (hdeposit : deposit ∈ store.deposits disk history) :
    store.Keeps disk.drawn (store.afterAll disk history) deposit := by
  induction history generalizing disk with
  | nil => cases hdeposit
  | cons step later ih =>
      -- What the first step stored outlasts the later ones; what they stored
      -- has later numbers.
      have hstep := advances_afterStep store disk step
      rcases List.mem_append.mp hdeposit with hfirst | hrest
      · have hkeeps := keeps_of_deposit? (Option.mem_toList.mp hfirst)
        exact hkeeps.advances hapart (advances_afterAll store _ later)
      · obtain ⟨number, filename, hnumber, hdocument, hholds⟩ :=
          ih (hapart.within hstep.drawn (Nat.le_refl _)) hrest
        exact ⟨number, filename, Nat.le_trans hstep.drawn hnumber, hdocument,
          hholds⟩

/-- References to documents with different numbers differ in both of their URLs.
-/
theorem urls_ne
    {first last number other : Nat} (hplain : store.IsPlain)
    (hapart : store.DrawsApart first last) (hnumber : first ≤ number)
    (hless : number < other)
    (hother : other < last) (filename otherName : String) :
    (reference (store.directory number) (safeName filename)).url ≠
        (reference (store.directory other) (safeName otherName)).url ∧
      (reference (store.directory number) (safeName filename)).binaryUrl ≠
        (reference (store.directory other) (safeName otherName)).binaryUrl := by
  have hdirectories := directory_ne hapart hnumber hless hother
  have haddress := hplain.isAddressable_directory number
  have hotherAddress := hplain.isAddressable_directory other
  constructor
  · intro hurl
    exact hdirectories
      (Url.eq_of_text_ofFile (directory_ne_nil number) (directory_ne_nil other)
      haddress hotherAddress hurl)
  · intro hurl
    have hfiles := Url.eq_of_text_ofFile (child_ne_nil _ _) (child_ne_nil _ _)
      (hplain.isAddressable_place number filename)
      (hplain.isAddressable_place other otherName) hurl
    exact hdirectories (eq_of_child_eq hfiles)

theorem pairwise_deposits
    {history : List StoreStep} (hplain : store.IsPlain)
    (hapart : store.DrawsApart disk.drawn (store.afterAll disk history).drawn) :
    (store.deposits disk history).Pairwise fun earlier later =>
      earlier.document.url ≠ later.document.url ∧
        earlier.document.binaryUrl ≠ later.document.binaryUrl := by
  induction history generalizing disk with
  | nil => exact .nil
  | cons step later ih =>
      have hstep := advances_afterStep store disk step
      have hrest := hapart.within hstep.drawn (Nat.le_refl _)
      rw [deposits, List.pairwise_append]
      refine ⟨?_, ih hrest, ?_⟩
      · cases store.deposit? disk step with
        | none => exact .nil
        | some deposit => exact List.pairwise_singleton _ _
      · intro deposit hdeposit other hother
        obtain ⟨number, filename, hnumber, hdocument, hholds⟩ :=
          keeps_of_deposit? (Option.mem_toList.mp hdeposit)
        obtain ⟨next, otherName, hnext, hotherDocument, hotherHolds⟩ :=
          keeps_of_mem_deposits hrest hother
        rw [hdocument, hotherDocument]
        exact urls_ne hplain hapart hnumber
          (Nat.lt_of_lt_of_le hholds.drawn hnext)
          hotherHolds.drawn filename otherName

/-- What becomes of the documents given to a store in the course of a history.
-/
structure Safekeeping (store : DocumentStore) (disk : Disk)
    (history : List StoreStep) : Prop where
  downloads :
    ∀ earlier later rest, history = earlier ++ later ++ rest →
      ∀ deposit ∈ store.deposits disk earlier,
        outcomeFrom (store.afterAll disk (earlier ++ later))
          (store.download deposit.document) =
            .ok deposit.bytes
  urls :
    ((store.deposits disk history).map (·.document.url)).Nodup
  binaryUrls :
    ((store.deposits disk history).map (·.document.binaryUrl)).Nodup
  written :
    ∀ deposit ∈ store.deposits disk history,
      ∃ place, store.documentPath deposit.document = .ok place.path ∧
        Tree.entry? (store.afterAll disk history).tree place =
          some (.file deposit.bytes)
  readBack :
    ∀ number filename,
      store.documentPath
        (reference (store.directory number) (safeName filename)) =
          .ok (store.directory number ++ [utf8 (safeName filename)]).path

theorem IsPlain.safekeeping
    {history : List StoreStep} (hplain : store.IsPlain)
    (hapart : store.DrawsApart disk.drawn (store.afterAll disk history).drawn) :
    store.Safekeeping disk history := by
  constructor
  case downloads =>
    rintro earlier later rest rfl deposit hdeposit
    have hrest :=
      advances_afterAll store (store.afterAll disk (earlier ++ later)) rest
    have hlater := advances_afterAll store (store.afterAll disk earlier) later
    rw [← afterAll_append] at hrest hlater
    have hsoFar := hapart.within (Nat.le_refl _) hrest.drawn
    have hkept :=
      keeps_of_mem_deposits (hsoFar.within (Nat.le_refl _) hlater.drawn)
        hdeposit
    obtain ⟨number, filename, -, hdocument, hholds⟩ :=
      hkept.advances hsoFar hlater
    rw [outcomeFrom, hdocument, hholds.download hplain]
  case urls =>
    exact List.pairwise_map.mpr ((pairwise_deposits hplain hapart).imp And.left)
  case binaryUrls =>
    exact List.pairwise_map.mpr
      ((pairwise_deposits hplain hapart).imp And.right)
  case written =>
    intro deposit hdeposit
    obtain ⟨number, filename, -, hdocument, hholds⟩ :=
      keeps_of_mem_deposits hapart hdeposit
    refine ⟨store.place number filename, ?_, hholds.content⟩
    rw [hdocument]
    exact documentPath_reference hplain number filename
  case readBack =>
    intro number filename
    exact documentPath_reference hplain number filename

def archiveNames : List String :=
  ["6f1e5b0c-29d4-4c8e-9a51-0d7c2b3e4f60",
    "0b7a9f12-5c3d-4e6f-8a1b-2c3d4e5f6a7b",
      "c4d5e6f7-a8b9-4cad-bcbd-aeafb0b1b2b3"]

def lastName : String := "e0d1c2b3-a495-4687-9879-6a5b4c3d2e1f"

def archive : DocumentStore where
  root := utf8 "/srv"
  workingDirectory := []
  directoryName number := utf8 (archiveNames.getD number lastName)

def passedOn (uploaded : Option DocumentReference) : Commission where
  engine := .standard {} [] []
  file := { answers := {
    order := some .other
    title := some "Trefn"
    uploadedFile := uploaded } }
  status := .plain
  format := .html
  language := .welsh
  render _ _ _ _ := .error (.missingField .orderType)
  sealDocument _ _ _ := .error (.missingField .orderType)

/-- An upload under a difficult name, one broken off, an order without its
document, and an order whose document is the first upload. -/
def mixedUse : List StoreStep :=
  [.upload [1, 2] "é %2e%2e #1.pdf" "application/pdf",
    .interrupted [3] "a.html" "text/html",
    .create (passedOn none),
    .create (passedOn (reference (archive.directory 0) "é %2e%2e #1.pdf"))]

theorem plain_of_length
    {name : Name} (hslash : slash ∉ name) (hlength : 2 < name.length) :
    ProperName name ∧ ¬ IsBarredDrive name := by
  refine ⟨⟨?_, hslash, ?_, ?_⟩, ?_⟩
  · rintro rfl
    simp at hlength
  · rintro rfl
    simp at hlength
  · rintro rfl
    simp at hlength
  · rintro ⟨letter, -, rfl⟩
    simp at hlength

theorem isPlain_archive : archive.IsPlain where
  workingDirectory _ hname := by cases hname
  location := by
    have hlocation : archive.location = [utf8 "srv"] := by decide
    intro name hname
    rw [hlocation] at hname
    obtain rfl := Option.some.inj hname
    exact (plain_of_length (by decide) (by decide)).2
  directoryName number := by
    have hnames : ∀ name ∈ lastName :: archiveNames,
        slash ∉ utf8 name ∧ 2 < (utf8 name).length := by
      decide
    have hmem :
        archiveNames.getD number lastName ∈ lastName :: archiveNames := by
      rw [List.getD_eq_getElem?_getD]
      cases hname : archiveNames[number]? with
      | none => exact List.mem_cons_self
      | some name => exact List.mem_cons_of_mem _ (List.mem_of_getElem? hname)
    obtain ⟨hslash, hlength⟩ := hnames _ hmem
    exact plain_of_length hslash hlength

theorem mixedUse_kept :
    archive.IsPlain ∧ archive.DrawsApart 0
      (archive.afterAll {} mixedUse).drawn ∧
      (archive.deposits {} mixedUse).map (·.bytes) = [[1, 2], [1, 2]] ∧
      archive.Safekeeping {} mixedUse := by
  have hdrawn : (archive.afterAll {} mixedUse).drawn = 3 := by decide +kernel
  have hdeposits :
      (archive.deposits {} mixedUse).map (·.bytes) = [[1, 2], [1, 2]] := by
    decide +kernel
  have hnames : ∀ other < 3, ∀ number < other,
      archive.directoryName number ≠ archive.directoryName other := by
    decide +kernel
  have hapart :
      archive.DrawsApart ({} : Disk).drawn
        (archive.afterAll {} mixedUse).drawn := by
    rw [hdrawn]
    intro number other _ hless hother
    exact hnames other hother number hless
  exact ⟨isPlain_archive, hapart, hdeposits, isPlain_archive.safekeeping hapart⟩

end DocumentStore

end Storage

end FamilyOrders
