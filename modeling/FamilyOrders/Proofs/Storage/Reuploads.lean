import FamilyOrders.Proofs.Creation.StoredContent
import FamilyOrders.Proofs.FileNames
import FamilyOrders.Proofs.Storage.FailedCreations

/-!
# Created documents as uploads

A document that was created and stored can be uploaded as an order of its own
later, unless its reference reads as one to a drive.  The name it was stored
under tells its format, the store still holds its content, and the same content
is stored again in a directory of its own.  A preview in HTML is no such
document.
-/

namespace FamilyOrders

namespace Engine

variable {collaborators : Collaborators σ} {state middle after : σ}
  {order : Order} {file : CaseFile} {status : OrderStatus} {language : Language}
  {document : DocumentReference}
  {announced : FileFormat} {bytes : Bytes} {stored : DocumentReference}
  {error : OrderError}

/-- An upload that needs no seal is stored again as it was fetched. -/
theorem shows_create_passedOn
    (horder : file.answers.order = some order)
    (hsource : order.source = .manualUpload)
    (hupload : file.upload = .ok (document, announced))
    (hdue : file.sealDue status = false) (hdownload :
      (collaborators.download document).run.run state = (.ok bytes, middle))
    (hstore : (collaborators.upload bytes
      (documentName order status announced language file.answers.title)
      announced.mediaType).run.run middle = (.ok stored, after))
    (engine : Engine) (format : FileFormat) :
    Shows (engine.create collaborators file status format language)
      (engine.create collaborators.watched file status format language) state
      [⟨.download document, .ok bytes⟩,
        ⟨.upload bytes (documentName order status announced language
          file.answers.title)
          announced.mediaType, .ok stored⟩]
      (.ok {
        document := stored
        title := order.displayTitle file.answers.title
        attachments := [] })
      after := by
  have hneed : need .orderType file.answers.order = .ok order :=
    need_eq_ok_iff.mpr horder
  have hfetched := Shows.exchange (.download document) hdownload
  have hstored := Shows.exchange
    (.upload bytes (documentName order status announced language
      file.answers.title) announced.mediaType) hstore
  have hpassed :
      Shows (engine.produce collaborators order file status format language)
      (engine.produce collaborators.watched order file status format language)
      state
      [⟨.download document, .ok bytes⟩]
      (.ok { bytes, format := announced, attachments := [] }) middle := by
    simp only [produce, hsource]
    refine (Shows.value hupload state).bind_ok (hfetched.bind_ok ?_)
    simp only [hdue]
    exact Shows.value rfl middle
  exact (Shows.value hneed state).bind_ok
    (hpassed.bind_ok (hstored.bind_ok (Shows.value rfl after)))

theorem shows_create_refused
    (horder : file.answers.order = some order)
    (hsource : order.source = .manualUpload)
    (hupload : file.upload = .error error) (engine : Engine)
    (collaborators : Collaborators σ)
    (state : σ) (status : OrderStatus) (format : FileFormat)
    (language : Language) :
    Shows (engine.create collaborators file status format language)
      (engine.create collaborators.watched file status format language) state []
      (.error error)
      state := by
  have hneed : need .orderType file.answers.order = .ok order :=
    need_eq_ok_iff.mpr horder
  have hrefused :
      Shows (engine.produce collaborators order file status format language)
      (engine.produce collaborators.watched order file status format language)
      state []
      (.error error) state := by
    simp only [produce, hsource]
    exact (Shows.value hupload state).bind_error
  exact (Shows.value hneed state).bind_ok hrefused.bind_error

end Engine

namespace Storage

open FamilyOrders.Text

namespace DocumentStore

variable {store : DocumentStore} {disk after : Disk} {bytes : Bytes}
  {filename : String}

/-- The next name drawn is not in use and can be the name of a directory, and
the disk takes what is put there. -/
structure CanDraw (store : DocumentStore) (disk : Disk) : Prop where
  free : store.IsFree disk.tree disk.drawn
  noNul : 0 ∉ store.directoryName disk.drawn
  short : (store.directoryName disk.drawn).length ≤ longestName
  taken :
    ∀ tree place, store.directory disk.drawn <+: place →
      store.medium.refusal tree place = none ∧
        ∀ stage, store.medium.shortfall stage tree place = none

theorem isFree_of_entries
    {tree : Tree} {number : Nat}
    (hentries : ∀ entry ∈ tree.entries, ¬ store.directory number <+: entry.1) :
    store.IsFree tree number := by
  intro place hplace
  have hne : place ≠ [] := by
    rintro rfl
    exact directory_ne_nil number (List.prefix_nil.mp hplace)
  simp only [Tree.entry?, hne, if_false, Option.map_eq_none_iff,
    List.find?_eq_none, decide_eq_true_eq]
  rintro entry hentry rfl
  exact hentries entry hentry hplace

/-- A file fits that has a name and a path within the limits of the system. -/
structure Fits (store : DocumentStore) (number : Nat) (filename : String) :
    Prop where
  short : (utf8 (safeName filename)).length ≤ longestName
  fits : (store.place number filename).path.length ≤ longestPath

theorem CanDraw.room
    {number : Nat} {held name : String} {content : Bytes}
    (hdraws : store.CanDraw disk) (hplain : store.IsPlain)
    (hholds : store.Holds disk number held content)
    (hfits : store.Fits disk.drawn name) :
    store.MakesRoom disk
      (disk.tree.put (store.directory disk.drawn) .directory) := by
  refine ⟨disk, openRoot_of_isOpen hholds.root, ?_⟩
  have habove : (store.directory disk.drawn).path.length ≤ longestPath :=
    (length_path_le_of_isPrefix (List.prefix_append _ _)).trans hfits.fits
  exact run_makeDirectories_fresh
    (properName_of_mem_destination hplain.workingDirectory)
    (hplain.directoryName number).1 hholds.directory
    (hplain.directoryName disk.drawn).1 hdraws.noNul hdraws.short habove
    (hdraws.free _ List.prefix_rfl) (hdraws.taken _ _ List.prefix_rfl).1

/-- A store that holds a document takes in another one. -/
theorem Holds.upload_succeeds
    {number : Nat} {held name : String} {content : Bytes}
    (hplain : store.IsPlain) (hholds : store.Holds disk number held content)
    (hdraws : store.CanDraw disk)
    (hfits : store.Fits disk.drawn name) (bytes : Bytes) (mediaType : String) :
    ∃ document,
      outcomeFrom disk (store.upload bytes name mediaType) = .ok document := by
  have hroom := hdraws.room hplain hholds hfits
  have hinside : store.directory disk.drawn <+: store.place disk.drawn name :=
    List.prefix_append _ _
  rcases hrun : (store.upload bytes name mediaType).run.run disk with
    ⟨outcome, after⟩
  rw [outcomeFrom, hrun]
  cases uploads_of_run hrun with
  | notOpened hopen =>
      rw [openRoot_of_isOpen hholds.root] at hopen
      cases hopen
  | noRoom hopen hmake =>
      obtain ⟨opened, hopens, hmakes⟩ := hroom
      rw [hopens] at hopen
      cases hopen
      rw [hmakes] at hmake
      cases hmake
  | @noFile made _ hmade hfault =>
      rw [← hroom.unique hmade] at hfault
      -- No name in the new directory can be taken, for nothing is below it.
      have hempty :
          Tree.isDirectory
            (disk.tree.put (store.directory disk.drawn) .directory)
            (store.place disk.drawn name) = false := by
        have hne :
            store.place disk.drawn name ≠ store.directory disk.drawn := by
          simp [place]
        rw [Tree.isDirectory, Tree.entry?_put_of_ne hne, hdraws.free _ hinside]
        rfl
      have hnew := creationFault?_eq_none_iff.mpr ⟨hfits.short, hfits.fits,
        hempty, (hdraws.taken _ _ hinside).1⟩
      rw [hnew] at hfault
      cases hfault
  | brokenOff hmade hnew hbreak =>
      simp only [breakOff?, (hdraws.taken _ _ hinside).2, Option.map_none]
        at hbreak
      cases hbreak
  | stored => exact ⟨_, rfl⟩

end DocumentStore

namespace Commission

open DocumentStore (reference)

variable {commission again : Commission} {store : DocumentStore}
  {disk after : Disk}
  {order : Order} {produced : Produced} {created : CreatedDocument}

theorem holds_of_create
    (horder : commission.file.answers.order = some order)
    (hproduced :
      outcomeFrom disk (commission.produce store order) = .ok produced)
    (hrun : (commission.create store).run.run disk = (.ok created, after)) :
    ∃ number, disk.drawn ≤ number ∧
      created.document = reference (store.directory number)
        (commission.filename order produced) ∧
      store.Holds after number
        (commission.filename order produced) produced.bytes := by
  unfold create Engine.create at hrun
  rw [horder] at hrun
  obtain ⟨chosen, start, hneed, hrest⟩ := run_bind_eq_ok_iff.mp hrun
  cases hneed
  obtain ⟨content, middle, hproduces, hstore⟩ := run_bind_eq_ok_iff.mp hrest
  obtain ⟨document, last, hupload, hreturn⟩ := run_bind_eq_ok_iff.mp hstore
  cases hreturn
  change (commission.produce store order).run.run disk =
    (.ok content, middle) at hproduces
  change (store.upload content.bytes (commission.filename order content)
    content.format.mediaType).run.run middle = (.ok document, after) at hupload
  rw [outcomeFrom, hproduces] at hproduced
  obtain rfl := Except.ok.inj hproduced
  have hdrawn :=
    ((founds_produce commission store order).of_run hproduces).drawn
  obtain ⟨hdocument, hholds⟩ := DocumentStore.holds_of_upload hupload
  refine ⟨middle.drawn, Nat.le_of_eq hdrawn.symm, ?_, hholds⟩
  rw [hdocument, filename, safeName_documentName]

theorem ofFileName?_filename
    (commission : Commission) (order : Order) (produced : Produced) :
    FileFormat.ofFileName? (commission.filename order produced) =
      produced.format.announced := by
  obtain ⟨stem, hname⟩ :=
    documentName_extension order commission.status produced.format
    commission.language commission.file.answers.title
  rw [filename, hname, FileFormat.ofFileName?_append]

/-- A stored document is fetched again, and stored once more as it is. -/
structure Reissues (commission : Commission) (store : DocumentStore)
    (disk : Disk) (document : DocumentReference) (produced : Produced)
    (reissued : CreatedDocument) : Prop where
  created :
    outcomeFrom disk (commission.create store) = .ok reissued
  exchanges :
    commission.exchangesFrom store disk =
      [⟨.download document, .ok produced.bytes⟩,
        ⟨.upload produced.bytes
          (commission.filename .other produced) produced.format.mediaType,
          .ok reissued.document⟩]
  kept :
    outcomeFrom ((commission.create store).run.run disk).2
      (store.download reissued.document) =
        .ok produced.bytes
  announced :
    FileFormat.ofFileName? reissued.document.filename = some produced.format
  extension :
    ∃ stem,
      reissued.document.filename = stem ++ "." ++ produced.format.fileExtension

theorem exists_reissues
    {number : Nat} {name : String} {document : DocumentReference}
    (hplain : store.IsPlain)
    (hdocument : document = reference (store.directory number) (safeName name))
    (hholds : store.Holds disk number name produced.bytes)
    (hformat : produced.format ≠ .html)
    (horder : commission.file.answers.order = some .other)
    (hupload : commission.file.upload = .ok (document, produced.format))
    (hdue : commission.file.sealDue commission.status = false)
    (hdraws : store.CanDraw disk)
    (hfits : store.Fits disk.drawn (commission.filename .other produced)) :
    ∃ reissued, commission.Reissues store disk document produced reissued := by
  have hdownload :
      ((commission.collaborators store).download document).run.run disk =
        (.ok produced.bytes, disk) := by
    rw [hdocument]
    exact hholds.download hplain
  have hsafe : safeName (commission.filename .other produced) =
      commission.filename .other produced := by
    rw [filename, safeName_documentName]
  obtain ⟨reference, hstored⟩ := hholds.upload_succeeds hplain hdraws hfits
    produced.bytes produced.format.mediaType
  rcases hstore :
    (store.upload produced.bytes (commission.filename .other produced)
    produced.format.mediaType).run.run disk with ⟨outcome, after⟩
  rw [outcomeFrom, hstore] at hstored
  obtain rfl : outcome = .ok reference := hstored
  obtain ⟨hreference, hkept⟩ := DocumentStore.holds_of_upload hstore
  have hcreates :=
    Engine.shows_create_passedOn horder rfl hupload hdue hdownload hstore
    commission.engine commission.format
  have hfilename :
      reference.filename = commission.filename .other produced := by
    rw [hreference]
    exact hsafe
  refine ⟨⟨reference, Order.other.displayTitle commission.file.answers.title,
    []⟩, ?_⟩
  constructor
  case created => exact hcreates.outcomeFrom_eq
  case exchanges => exact hcreates.exchangesFrom_eq
  case kept =>
    have hafter : ((commission.create store).run.run disk).2 = after :=
      congrArg Prod.snd hcreates.plain_run
    rw [hafter, outcomeFrom, hreference, hkept.download hplain]
  case announced =>
    rw [hfilename, ofFileName?_filename,
      FileFormat.announced_of_ne_html hformat]
  case extension =>
    rw [hfilename]
    exact documentName_extension _ _ _ _ _

open DocumentStore (archive isPlain_archive passedOn)

def contactOrder : DocumentReference :=
  reference (archive.directory 0) "c21_contact.pdf"

/-- A store whose directory has the name of a drive. -/
def driveStore : DocumentStore :=
  { archive with root := utf8 "/C|" }

end Commission

end Storage

end FamilyOrders
