import FamilyOrders.CommandLine.Run
import FamilyOrders.Proofs.Creation.Runs
import FamilyOrders.Proofs.Docmosis.Requests
import FamilyOrders.Proofs.PreviewMarks
import FamilyOrders.Proofs.PrintedJson
import FamilyOrders.Proofs.Storage.Reuploads

/-!
# Runs of the command line

A command line that asks for a document, and not for help, succeeds exactly when
its arguments, the configuration and the case can be read, there is a service
unless a preview is wanted, and the document is created.  Then one file is new,
the document, and what is printed tells where it is.  Every other run prints
nothing and leaves all files as they are, save where the writing of the document
breaks off.
-/

namespace FamilyOrders

open FamilyOrders.Storage FamilyOrders.Text

namespace CommandLine

/-- What a document is made from. -/
structure Assignment where
  options : GenerateOptions
  config : Config
  file : CaseFile

namespace Assignment

/-- The client of the service, if one is configured. -/
def client (assignment : Assignment) (environment : Environment) :
    Option Docmosis.Client :=
  assignment.config.docmosis.url.map fun url =>
    { base := Docmosis.dropTrailingSlashes url.text
      accessKey := assignment.config.docmosis.accessKey
      images := assignment.config.images
      domains := environment.domains }

def engine (assignment : Assignment) : Engine :=
  .standard assignment.config.images assignment.config.courts
    assignment.config.venues

def parties (assignment : Assignment) (environment : Environment)
    (service : Docmosis.Service Disk) : Collaborators Disk :=
  collaborators (assignment.client environment) service assignment.options.proof
    (environment.store assignment.config)

/-- The content of the document. -/
def produce (assignment : Assignment) (environment : Environment)
    (service : Docmosis.Service Disk) (order : Order) : Action Disk Produced :=
  assignment.engine.produce (assignment.parties environment service) order
    assignment.file assignment.options.status assignment.options.format
      assignment.options.language

def create (assignment : Assignment) (environment : Environment)
    (service : Docmosis.Service Disk) : Action Disk CreatedDocument :=
  assignment.engine.create
    (assignment.parties environment service) assignment.file
    assignment.options.status assignment.options.format
      assignment.options.language

/-- The arguments ask for this document, and what it is made from can be read.
-/
structure IsGiven (assignment : Assignment) (environment : Environment)
    (arguments : List String) (tree : Tree) : Prop where
  arguments_parse : readCommand arguments = .ok (.generate assignment.options)
  config_loads :
    Config.load environment.domains tree environment.workingDirectory
        (assignment.options.configPath.map utf8) environment.configPath? =
      .ok assignment.config
  case_parses :
    ∃ text,
      tree.readText environment.workingDirectory
        (utf8 assignment.options.casePath) = .ok text ∧
        CaseFile.ofText? text = some assignment.file
  renders :
    assignment.config.docmosis.url.isSome = true ∨
    assignment.options.proof = true

end Assignment

variable {environment : Environment} {service : Docmosis.Service Disk}
  {options : GenerateOptions}
  {config : Config} {file : CaseFile} {tree : Tree} {disk : Disk}
  {arguments : List String} {assignment : Assignment}

/-! ### Reading -/

theorem readInputs_eq_ok_iff :
    readInputs environment options tree = .ok (config, file) ↔
      Config.load environment.domains tree environment.workingDirectory
          (options.configPath.map utf8) environment.configPath? = .ok config ∧
        ∃ text,
          tree.readText environment.workingDirectory (utf8 options.casePath) =
              .ok text ∧
            CaseFile.ofText? text = some file := by
  unfold readInputs
  dsimp only
  cases Config.load environment.domains tree environment.workingDirectory
      (options.configPath.map utf8) environment.configPath? with
  | error fault => simp [bind_eq_ok_iff, throw, throwThe, MonadExceptOf.throw]
  | ok loaded =>
      cases tree.readText environment.workingDirectory
          (utf8 options.casePath) with
      | error fault =>
          simp [bind_eq_ok_iff, throw, throwThe, MonadExceptOf.throw]
      | ok text =>
          cases hfile : CaseFile.ofText? text with
          | none => simp [throw, throwThe, MonadExceptOf.throw, hfile]
          | some read => simp [bind_eq_ok_iff, pure, Except.pure, hfile]

theorem client?_eq_ok_iff
    (environment : Environment) (assignment : Assignment)
    {client : Option Docmosis.Client} :
    client? environment assignment.options assignment.config = .ok client ↔
      (assignment.config.docmosis.url.isSome = true ∨
          assignment.options.proof = true) ∧
        client = assignment.client environment := by
  unfold client? Assignment.client
  dsimp only
  cases assignment.config.docmosis.url with
  | none =>
      cases assignment.options.proof with
      | false => simp
      | true => simp [eq_comm (b := client)]
  | some url =>
      simp only [Option.isSome_some, if_true, true_or, true_and,
        Option.map_some]
      exact ⟨fun hclient => (Except.ok.inj hclient).symm,
        fun hclient => hclient ▸ rfl⟩

theorem readCommand_generate (rest : List String) :
    (∃ stop, readCommand ("generate" :: rest) = .error stop) ∨
      ∃ options,
        readCommand ("generate" :: rest) = .ok (.generate options) := by
  simp only [readCommand, bind, Except.bind]
  cases readOptions {} rest with
  | error stop => exact .inl ⟨stop, rfl⟩
  | ok given =>
      dsimp only
      cases given.options with
      | error stop => exact .inl ⟨stop, rfl⟩
      | ok options => exact .inr ⟨options, rfl⟩

/-! ### Running -/

theorem run_generate
    (environment : Environment) (service : Docmosis.Service Disk)
    (options : GenerateOptions) (disk : Disk) :
    (generate environment service options).run.run disk =
      match readInputs environment options disk.tree with
      | .error failure => (.error failure, disk)
      | .ok (config, file) =>
        match client? environment options config with
        | .error failure => (.error failure, disk)
        | .ok client =>
          (ExceptT.adapt Failure.create
            ((Engine.standard config.images config.courts config.venues).create
              (collaborators client service options.proof
                (environment.store config))
              file options.status options.format
              options.language)).run.run disk := by
  have hget :
      (get : ExceptT Failure (StateM Disk) Disk).run.run disk =
        (.ok disk, disk) := rfl
  unfold generate
  rw [run_bind, hget]
  dsimp only
  rw [run_bind, run_liftM]
  cases readInputs environment options disk.tree with
  | error failure => rfl
  | ok inputs =>
      dsimp only
      rw [run_bind, run_liftM]
      cases client? environment options inputs.1 with
      | error failure => rfl
      | ok client => rfl

/-- The outcome of a command line that asks for a document, by how its making
ends. -/
def Outcome.ofGenerate : Except Failure CreatedDocument → Outcome
  | .ok created => .printed (created.toJson.pretty ++ "\n")
  | .error failure => .failed failure

theorem run_of_options
    (hoptions : readCommand arguments = .ok (.generate options))
    (environment : Environment) (service : Docmosis.Service Disk)
    (disk : Disk) :
    run environment service arguments disk =
      (.ofGenerate ((generate environment service options).run.run disk).1,
        ((generate environment service options).run.run disk).2) := by
  have hbind (made : StateM Disk (Except Failure CreatedDocument))
      (next : Except Failure CreatedDocument → StateM Disk Outcome) :
      (made >>= next) disk = next (made disk).1 (made disk).2 := rfl
  unfold run
  rw [hoptions]
  dsimp only
  unfold runCommand
  dsimp only
  rw [hbind]
  change _ = (Outcome.ofGenerate
    ((generate environment service options).run disk).1,
    ((generate environment service options).run disk).2)
  cases ((generate environment service options).run disk).1 with
  | ok created => rfl
  | error failure => rfl

theorem run_of_isGiven
    (hgiven : assignment.IsGiven environment arguments disk.tree)
    (service : Docmosis.Service Disk) :
    run environment service arguments disk =
      (.ofGenerate
        ((outcomeFrom disk (assignment.create environment service)).mapError
          .create),
          ((assignment.create environment service).run.run disk).2) := by
  have hinputs :=
    readInputs_eq_ok_iff.mpr ⟨hgiven.config_loads, hgiven.case_parses⟩
  have hclient :=
    (client?_eq_ok_iff environment assignment).mpr ⟨hgiven.renders, rfl⟩
  rw [run_of_options hgiven.arguments_parse, run_generate, hinputs]
  dsimp only
  rw [hclient]
  rfl

/-- Where there is nothing to make a document from, nothing is done. -/
theorem run_of_not_isGiven
    {rest : List String}
    (hnone : ∀ assignment : Assignment,
      ¬ assignment.IsGiven environment ("generate" :: rest) disk.tree)
    (service : Docmosis.Service Disk) :
    (∃ stop, readCommand ("generate" :: rest) = .error stop ∧
        run environment service ("generate" :: rest) disk =
          (.stopped stop, disk)) ∨
      ∃ options failure,
        readCommand ("generate" :: rest) = .ok (.generate options) ∧
        run environment service ("generate" :: rest) disk =
          (.failed failure, disk) := by
  rcases readCommand_generate rest with ⟨stop, hstop⟩ | ⟨options, hoptions⟩
  · refine .inl ⟨stop, hstop, ?_⟩
    unfold run
    rw [hstop]
    rfl
  · rw [run_of_options hoptions, run_generate]
    cases hinputs : readInputs environment options disk.tree with
    | error failure => exact .inr ⟨options, failure, hoptions, rfl⟩
    | ok inputs =>
        obtain ⟨config, file⟩ := inputs
        dsimp only
        cases hclient : client? environment options config with
        | error failure => exact .inr ⟨options, failure, hoptions, rfl⟩
        | ok client =>
            obtain ⟨hconfig, hcase⟩ := readInputs_eq_ok_iff.mp hinputs
            have hrenders :=
              (client?_eq_ok_iff environment ⟨options, config, file⟩).mp hclient
            exact absurd ⟨hoptions, hconfig, hcase, hrenders.1⟩
              (hnone ⟨options, config, file⟩)

/-! ### Creating -/

/-- The service answers from elsewhere: the disk is none of its business. -/
def IsRemote (service : Docmosis.Service Disk) : Prop :=
  ∀ request disk, (service request disk).2 = disk

section Parties

variable {R : Disk → Disk → Prop} {client : Option Docmosis.Client}

theorem moves_renderWith
    (hchains : Chains R)
    (hservice : ∀ request disk, R disk (service request disk).2)
    (client : Option Docmosis.Client) (proof : Bool) (layout : Layout)
    (particulars : Particulars) (format : FileFormat) (language : Language) :
    Moves R (renderWith client service proof layout particulars format
      language) := by
  unfold renderWith
  split
  · exact Docmosis.Client.moves_render hchains hservice _ layout particulars
      format language
  · exact .value hchains _

theorem moves_sealWith
    (hchains : Chains R)
    (hservice : ∀ request disk, R disk (service request disk).2)
    (client : Option Docmosis.Client) (bytes : Bytes) (filename : String)
    (language : Language) :
    Moves R (sealWith client service bytes filename language) := by
  unfold sealWith
  split
  · exact Docmosis.Client.moves_sealDocument hchains hservice _ bytes filename
      language
  · exact .value hchains (.error _)

theorem sealWith_congr
    {other : Docmosis.Service Disk}
    (hsame : ∀ found, client = some found →
      ∀ request, request.address ≠ found.renderAddress →
        service request = other request)
    (bytes : Bytes) (filename : String) (language : Language) :
    sealWith client service bytes filename language =
      sealWith client other bytes filename language := by
  cases client with
  | none => rfl
  | some client =>
      apply client.sealDocument_congr
      intro request haddress
      apply hsame client rfl
      rw [haddress]
      exact client.convertAddress_ne_renderAddress

end Parties

namespace Assignment

theorem addsDirectories_produce
    (hremote : IsRemote service) (assignment : Assignment)
    (environment : Environment) (order : Order) :
    Moves (Disk.Through Tree.AddsDirectories)
      (assignment.produce environment service order) := by
  have hchains : Chains (Disk.Through Tree.AddsDirectories) :=
    Disk.chains_through (Tree.chains_founds _)
  have hservice (request : Docmosis.Request) (disk : Disk) :
      Disk.Through Tree.AddsDirectories disk (service request disk).2 := by
    rw [hremote request disk]
    exact hchains.refl disk
  apply assignment.engine.moves_produce hchains
  · exact fun layout particulars format language =>
      moves_renderWith hchains hservice _ _ layout particulars format language
  · exact fun document => DocumentStore.addsDirectories_download _ document
  · exact fun bytes filename language =>
      moves_sealWith hchains hservice _ bytes filename language

/-- What is made of a document that is not stored: nothing, or a beginning of
its content where the writing broke off. -/
inductive Leaves (assignment : Assignment) (environment : Environment)
    (service : Docmosis.Service Disk) (before : Disk) (after : Tree)
    (error : OrderError) : Prop
  | nothing (hadds : before.tree.AddsDirectories after)
  | part {order : Order} {produced : Produced} {place : Location}
      {stage : WriteStage} {fault : Fault} {kept : Nat}
      (horder : assignment.file.answers.order = some order)
      (hproduced :
        outcomeFrom before (assignment.produce environment service order) =
          .ok produced)
      (hbelow : (environment.store assignment.config).IsBelow place)
      (hstopped : error = .store (.stopped stage place.path fault))
      (hfile : before.tree.AddsFile after place (produced.bytes.take kept))

theorem isBelow_place
    (store : DocumentStore) (number : Nat) (filename : String) :
    store.IsBelow (store.place number filename) := by
  refine ⟨(List.prefix_append _ _).trans (List.prefix_append _ _), ?_⟩
  intro heq
  have hlength := congrArg List.length heq
  simp [DocumentStore.place, DocumentStore.directory] at hlength

theorem addsFile_place
    (store : DocumentStore) {number : Nat} {before made : Tree}
    (hadds : before.AddsDirectories made)
    (hfresh : ∀ entry ∈ before.entries, store.directoryName number ∉ entry.1)
    (filename : String) (bytes : Bytes) :
    before.AddsFile (made.put (store.place number filename) (.file bytes))
      (store.place number filename) bytes := by
  have hname : store.directoryName number ∈ store.place number filename := by
    simp [DocumentStore.place, DocumentStore.directory]
  exact .of_put (DocumentStore.place_ne_nil _ _) hadds
    (DocumentStore.entry?_eq_none_of_fresh hname hfresh) bytes

section Creating

variable (hremote : IsRemote service)
  (hfresh : ∀ entry ∈ disk.tree.entries,
    environment.directoryName disk.drawn ∉ entry.1)

include hremote hfresh

theorem leaves_of_create_error
    {error : OrderError}
    (hfailed :
      outcomeFrom disk (assignment.create environment service) = .error error) :
    assignment.Leaves environment service disk
      ((assignment.create environment service).run.run disk).2.tree error := by
  have hends := assignment.engine.ends_create
    (assignment.parties environment service) assignment.file
    assignment.options.status assignment.options.format
    assignment.options.language disk
  have hproduces := fun order =>
    addsDirectories_produce hremote assignment environment order
  unfold create at hfailed ⊢
  rw [hfailed] at hends
  cases hends with
  | noOrder horder hafter =>
      rw [hafter]
      exact .nothing ((Tree.chains_founds _).refl disk.tree)
  | notProduced horder hproduce =>
      exact .nothing ((hproduces _).of_run hproduce).tree
  | @notStored order produced middle _ horder hproduce hupload =>
      have hthrough := (hproduces order).of_run hproduce
      change ((environment.store assignment.config).upload produced.bytes _
        produced.format.mediaType).run.run middle = _ at hupload
      have hends := DocumentStore.uploads_of_run hupload
      rcases hends.left_of_error with
        hadds | ⟨made, stage, fault, kept, hadds, hstopped, htree⟩
      · exact .nothing ((Tree.chains_founds _).trans hthrough.tree hadds)
      · rw [hthrough.drawn] at hstopped htree
        have hmade := (Tree.chains_founds _).trans hthrough.tree hadds
        have hfile := addsFile_place (environment.store assignment.config) hmade
          hfresh
          (documentName order assignment.options.status produced.format
            assignment.options.language assignment.file.answers.title)
          (produced.bytes.take kept)
        rw [← htree] at hfile
        exact .part horder (congrArg Prod.fst hproduce) (isBelow_place _ _ _)
          hstopped hfile

end Creating

/-- The document is a new file at this place, the only one, and its reference
leads there. -/
structure Delivers (store : DocumentStore) (before after : Tree)
    (document : DocumentReference) (bytes : Bytes)
    (place : Location) : Prop where
  below : store.IsBelow place
  filename : place.getLast? = some (utf8 document.filename)
  binaryUrl : document.binaryUrl = (Url.ofFile place).text
  filePath : (Url.ofFile place).filePath? = some place.path
  readBack : store.IsPlain → store.documentPath document = .ok place.path
  file : before.AddsFile after place bytes

theorem Delivers.of_put
    {store : DocumentStore} {before made : Tree} {number : Nat}
    {filename : String} (hadds : before.AddsDirectories made)
    (hfresh : ∀ entry ∈ before.entries, store.directoryName number ∉ entry.1)
    (bytes : Bytes) :
    Delivers store before
      (made.put (store.place number filename) (.file bytes))
      (DocumentStore.reference (store.directory number) (safeName filename))
      bytes
      (store.place number filename) := by
  constructor
  case below => exact isBelow_place store number filename
  case filename => simp [DocumentStore.place, DocumentStore.reference]
  case binaryUrl => rfl
  case filePath =>
    exact Url.filePath?_ofFile_append _ (properName_safeName filename).ne_nil
      (colon_notMem_safeName filename) (bar_notMem_safeName filename)
  case readBack =>
    exact fun hplain =>
      DocumentStore.documentPath_reference hplain number filename
  case file => exact addsFile_place store hadds hfresh filename bytes

theorem delivers_of_create
    {created : CreatedDocument} (hremote : IsRemote service)
    (hfresh : ∀ entry ∈ disk.tree.entries,
      environment.directoryName disk.drawn ∉ entry.1)
    (hcreated :
      outcomeFrom disk (assignment.create environment service) = .ok created) :
    ∃ order produced place, assignment.file.answers.order = some order ∧
      outcomeFrom disk (assignment.produce environment service order) =
        .ok produced ∧
      (∃ stem,
        created.document.filename =
          stem ++ "." ++ produced.format.fileExtension) ∧
      Delivers (environment.store assignment.config) disk.tree
        ((assignment.create environment service).run.run disk).2.tree
        created.document produced.bytes place := by
  have hends := assignment.engine.ends_create
    (assignment.parties environment service) assignment.file
    assignment.options.status assignment.options.format
    assignment.options.language disk
  have hproduces := fun order =>
    addsDirectories_produce hremote assignment environment order
  unfold create at hcreated ⊢
  rw [hcreated] at hends
  cases hends with
  | @stored order produced middle document horder hproduce hupload =>
      have hthrough := (hproduces order).of_run hproduce
      change ((environment.store assignment.config).upload produced.bytes _
        produced.format.mediaType).run.run middle = _ at hupload
      have hends := DocumentStore.uploads_of_run hupload
      obtain ⟨rfl, made, hmade, hafter⟩ := hends.left_of_ok
      rw [hthrough.drawn] at hafter ⊢
      rw [hafter]
      have hsafe := safeName_documentName order assignment.options.status
        produced.format assignment.options.language
          assignment.file.answers.title
      have hname := documentName_extension order assignment.options.status
        produced.format assignment.options.language
          assignment.file.answers.title
      refine ⟨order, produced, _, horder, congrArg Prod.fst hproduce, ?_,
        .of_put ((Tree.chains_founds _).trans hthrough.tree hmade) hfresh
          produced.bytes⟩
      obtain ⟨stem, hstem⟩ := hname
      exact ⟨stem, hsafe.trans hstem⟩

/-! ### Previews and seals -/

/-- Previews do not depend on what the service would render. -/
theorem create_eq_of_proof
    {other : Docmosis.Service Disk} (hproof : assignment.options.proof = true)
    (hsame : ∀ client, assignment.client environment = some client →
      ∀ request, request.address ≠ client.renderAddress →
        service request = other request) :
    assignment.create environment service =
      assignment.create environment other := by
  have hrender : renderWith (assignment.client environment) service true =
      renderWith (assignment.client environment) other true := by
    funext layout particulars format language
    rw [renderWith_proof, renderWith_proof]
  have hseal : sealWith (assignment.client environment) service =
      sealWith (assignment.client environment) other := by
    funext bytes filename language
    exact sealWith_congr hsame bytes filename language
  simp only [create, parties, collaborators, hproof, hrender, hseal]

theorem format_of_proof
    {order : Order} {produced : Produced}
    (hproof : assignment.options.proof = true)
    (hsource : order.source = .digital)
    (hproduced :
      outcomeFrom disk (assignment.produce environment service order) =
        .ok produced) :
    produced.format = .html := by
  have hrun := Prod.fst_eq_iff.mp hproduced
  simp only [produce, Engine.produce, hsource] at hrun
  unfold Engine.generate at hrun
  obtain ⟨prepared, _, -, hrendering⟩ := run_bind_eq_ok_iff.mp hrun
  obtain ⟨rendered, _, hrendered, hattaching⟩ :=
    run_bind_eq_ok_iff.mp hrendering
  obtain ⟨attachments, _, -, hproduced⟩ := run_bind_eq_ok_iff.mp hattaching
  change (renderWith _ _ assignment.options.proof _ _ _ _).run.run _ =
    _ at hrendered
  rw [hproof, renderWith_proof, run_liftM] at hrendered
  obtain ⟨text, -, htext⟩ := bind_eq_ok_iff.mp (congrArg Prod.fst hrendered)
  cases htext
  cases hproduced
  rfl

section Unsealed

variable {order : Order} {document : DocumentReference} {format : FileFormat}
  {bytes : Bytes} {middle : Disk}

theorem run_produce_unsealed
    (hnone : assignment.client environment = none)
    (hsource : order.source = .manualUpload)
    (hdue : assignment.file.sealDue assignment.options.status = true)
    (hupload : assignment.file.upload = .ok (document, format))
    (hdownload :
      ((environment.store assignment.config).download document).run.run disk =
        (.ok bytes, middle))
    (service : Docmosis.Service Disk) :
    (assignment.produce environment service order).run.run disk =
      (.error (.sealing (.noService document.filename)), middle) := by
  simp only [produce, Engine.produce, hsource]
  unfold passUploaded
  rw [run_bind, run_liftM, hupload]
  dsimp only
  change (((environment.store assignment.config).download document >>=
    _)).run.run disk = _
  rw [run_bind, hdownload]
  simp only [hdue, if_true]
  change ((sealWith (assignment.client environment) service bytes
    document.filename assignment.options.language >>= _)).run.run middle = _
  rw [hnone, run_bind]
  rfl

/-- Without a service nothing comes of an order that is to be sealed. -/
theorem produce_unsealed_ne_ok
    (hnone : assignment.client environment = none)
    (hsource : order.source = .manualUpload)
    (hdue : assignment.file.sealDue assignment.options.status = true)
    (produced : Produced) :
    outcomeFrom disk (assignment.produce environment service order) ≠
      .ok produced := by
  intro hproduced
  have hrun := Prod.fst_eq_iff.mp hproduced
  simp only [produce, Engine.produce, hsource] at hrun
  unfold passUploaded at hrun
  obtain ⟨accepted, _, -, hdownloading⟩ := run_bind_eq_ok_iff.mp hrun
  obtain ⟨bytes, middle, -, hsealing⟩ := run_bind_eq_ok_iff.mp hdownloading
  simp only [hdue, if_true] at hsealing
  obtain ⟨stamped, _, hstamped, -⟩ := run_bind_eq_ok_iff.mp hsealing
  change (sealWith (assignment.client environment) service bytes
    accepted.1.filename assignment.options.language).run.run middle =
      _ at hstamped
  rw [hnone] at hstamped
  cases hstamped

theorem create_unsealed_ne_ok
    (hnone : assignment.client environment = none)
    (horder : assignment.file.answers.order = some order)
    (hsource : order.source = .manualUpload)
    (hdue : assignment.file.sealDue assignment.options.status = true)
    (created : CreatedDocument) :
    outcomeFrom disk (assignment.create environment service) ≠ .ok created := by
  intro hcreated
  have hends :=
    assignment.engine.ends_create (assignment.parties environment service)
    assignment.file assignment.options.status assignment.options.format
    assignment.options.language disk
  unfold create at hcreated
  rw [hcreated] at hends
  cases hends with
  | @stored chosen produced middle document hchosen hproduce hupload =>
      obtain rfl := Option.some.inj (horder.symm.trans hchosen)
      exact produce_unsealed_ne_ok hnone hsource hdue produced
        (congrArg Prod.fst hproduce)

end Unsealed

end Assignment

/-! ### Outcomes -/

/-- A reference as it is printed. -/
def referenceJson (document : DocumentReference) : Json :=
  .object [
    ("document_url", .string document.url),
    ("document_binary_url", .string document.binaryUrl),
    ("document_filename", .string document.filename)]

/-- What is printed of a document. -/
def createdJson (created : CreatedDocument) : Json :=
  .object [
    ("document", referenceJson created.document),
    ("orderTitle", .string created.title),
    ("additionalDocuments", .array (created.attachments.map referenceJson))]

theorem toJson_eq_createdJson (created : CreatedDocument) :
    created.toJson = createdJson created :=
  rfl

theorem readsBack_createdJson (created : CreatedDocument) :
    (createdJson created).ReadsBack := by
  have hreference (document : DocumentReference) :
      (referenceJson document).ReadsBack := by
    apply Json.readsBack_object
    simp
  have hattachments :
      (Json.array (created.attachments.map referenceJson)).ReadsBack := by
    apply Json.readsBack_array
    simp [hreference]
  apply Json.readsBack_object
  simp [hreference, hattachments]

/-- A line that asks for help is answered with its text, and nothing is done. -/
theorem run_of_help
    {topic : Topic} (hhelp : readCommand arguments = .error (.help topic))
    (environment : Environment) (service : Docmosis.Service Disk)
    (disk : Disk) :
    run environment service arguments disk =
      (.stopped (.help topic), disk) := by
  unfold run
  rw [hhelp]
  rfl

/-- Without a document, nothing is printed and no file is new but a beginning of
the document. -/
theorem run_of_nothing
    {rest : List String} (hremote : IsRemote service)
    (hfresh : ∀ entry ∈ disk.tree.entries,
      environment.directoryName disk.drawn ∉ entry.1)
    (hhelp : ∀ topic, readCommand ("generate" :: rest) ≠ .error (.help topic))
    (hnothing : ∀ assignment created,
      Assignment.IsGiven assignment environment ("generate" :: rest) disk.tree →
        outcomeFrom disk (assignment.create environment service) ≠
          .ok created) :
    (run environment service ("generate" :: rest) disk).1.exitStatus ≠ 0 ∧
      (run environment service ("generate" :: rest) disk).1.standardOutput =
        "" ∧
      (disk.tree.AddsDirectories
          (run environment service ("generate" :: rest) disk).2.tree ∨
        ∃ assignment error,
          Assignment.IsGiven assignment environment ("generate" :: rest)
              disk.tree ∧
            (run environment service ("generate" :: rest) disk).1 =
              .failed (.create error) ∧
            assignment.Leaves environment service disk
              (run environment service ("generate" :: rest) disk).2.tree
              error) := by
  have hfailed : (1 : UInt8) ≠ 0 := by decide
  have hsame := (Tree.chains_founds fun _ => True).refl disk.tree
  by_cases hgiven : ∃ assignment : Assignment,
    assignment.IsGiven environment ("generate" :: rest) disk.tree
  · obtain ⟨assignment, hgiven⟩ := hgiven
    have hrun := run_of_isGiven hgiven service
    cases hcreated :
      outcomeFrom disk (assignment.create environment service) with
    | ok created => exact absurd hcreated (hnothing assignment created hgiven)
    | error error =>
        have hleaves :=
          Assignment.leaves_of_create_error hremote hfresh hcreated
        rw [hcreated] at hrun
        rw [hrun]
        exact ⟨hfailed, rfl, .inr ⟨assignment, error, hgiven, rfl, hleaves⟩⟩
  · rcases run_of_not_isGiven (not_exists.mp hgiven) service with
      ⟨stop, hstop, hrun⟩ | ⟨options, failure, -, hrun⟩
    · rw [hrun]
      cases stop with
      | usage => exact ⟨(by decide : (2 : UInt8) ≠ 0), rfl, .inl hsame⟩
      | help topic => exact absurd hstop (hhelp topic)
    · rw [hrun]
      exact ⟨hfailed, rfl, .inl hsame⟩

/-- How a command line comes out that asks for a document. -/
structure OutcomeLaw (environment : Environment)
    (service : Docmosis.Service Disk) (arguments : List String) (disk : Disk) :
    Prop where
  helped :
    ∀ topic, readCommand arguments = .error (.help topic) →
      (run environment service arguments disk).1.exitStatus = 0 ∧
        (run environment service arguments disk).1.standardOutput =
          topic.helpText ∧
        (run environment service arguments disk).2 = disk
  succeeds_iff :
    (∀ topic, readCommand arguments ≠ .error (.help topic)) →
      ((run environment service arguments disk).1.exitStatus = 0 ↔
        ∃ assignment created,
          Assignment.IsGiven assignment environment arguments disk.tree ∧
            outcomeFrom disk (assignment.create environment service) =
              .ok created)
  delivered :
    ∀ assignment created,
      Assignment.IsGiven assignment environment arguments disk.tree →
      outcomeFrom disk (assignment.create environment service) = .ok created →
        (run environment service arguments disk).1.standardOutput =
            (createdJson created).pretty ++ "\n" ∧
          Json.parse? (run environment service arguments
            disk).1.standardOutput =
              some (createdJson created) ∧
          ∃ order produced place,
            assignment.file.answers.order = some order ∧
            outcomeFrom disk (assignment.produce environment service order) =
              .ok produced ∧
            (∃ stem,
              created.document.filename =
                stem ++ "." ++ produced.format.fileExtension) ∧
            (assignment.options.proof = true → order.source = .digital →
              produced.format = .html) ∧
            Assignment.Delivers (environment.store assignment.config) disk.tree
              (run environment service arguments disk).2.tree created.document
              produced.bytes place
  nothing :
    (∀ topic, readCommand arguments ≠ .error (.help topic)) →
      (∀ assignment created,
        Assignment.IsGiven assignment environment arguments disk.tree →
          outcomeFrom disk (assignment.create environment service) ≠
            .ok created) →
        (run environment service arguments disk).1.standardOutput = "" ∧
          ((∀ place bytes,
              Tree.entry? (run environment service arguments disk).2.tree
                place =
                  some (.file bytes) ↔
                disk.tree.entry? place = some (.file bytes)) ∨
            ∃ assignment order produced place stage fault kept,
              Assignment.IsGiven assignment environment arguments disk.tree ∧
              assignment.file.answers.order = some order ∧
              outcomeFrom disk (assignment.produce environment service order) =
                .ok produced ∧
              (run environment service arguments disk).1 =
                .failed (.create (.store (.stopped stage place.path fault))) ∧
              (environment.store assignment.config).IsBelow place ∧
              disk.tree.AddsFile
                (run environment service arguments disk).2.tree place
                (produced.bytes.take kept))
  previewed :
    ∀ assignment,
      Assignment.IsGiven assignment environment arguments disk.tree →
      assignment.options.proof = true →
        ∀ other : Docmosis.Service Disk,
          (∀ client, assignment.client environment = some client →
            ∀ request, request.address ≠ client.renderAddress →
              service request = other request) →
            run environment service arguments disk =
              run environment other arguments disk
  unsealed :
    ∀ assignment order,
      Assignment.IsGiven assignment environment arguments disk.tree →
      assignment.config.docmosis.url = none →
      assignment.file.answers.order = some order →
      order.source = .manualUpload →
      assignment.file.sealDue assignment.options.status = true →
        (∀ created,
          outcomeFrom disk (assignment.create environment service) ≠
            .ok created) ∧
          ∀ document format bytes middle,
            assignment.file.upload = .ok (document, format) →
            ((environment.store assignment.config).download document).run.run
                disk = (.ok bytes, middle) →
              run environment service arguments disk =
                (.failed (.create (.sealing (.noService document.filename))),
                  middle)

/-- A case with an uploaded order that is to be passed on. -/
def uploadedCase : String :=
  "\x7b\"manageOrdersType\":\"OTHER_ORDER\",\"manageOrdersUploadOrderFile\":" ++
  "[\"\",\"file:///home/a.pdf\",\"a.pdf\"]\x7d"

def desk : Environment where
  workingDirectory := [utf8 "home"]
  home := some (utf8 "/home")
  directoryName _ := utf8 "6f1e5b0c"

def deskDisk : Disk where
  tree := { entries := [
    ([utf8 "home"], .directory),
    ([utf8 "home", utf8 "a.json"], .file (utf8 uploadedCase)),
    ([utf8 "home", utf8 "a.toml"], .file (utf8 "storage.root_dir='/home'")),
    ([utf8 "home", utf8 "a.pdf"], .file [1, 2])] }

def deskLine : List String :=
  ["generate", "--case=a.json", "--config=a.toml", "--proof"]

end CommandLine

end FamilyOrders
