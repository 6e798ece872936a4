import FamilyOrders.Case.Basic
import FamilyOrders.Document.Basic
import FamilyOrders.Error
import FamilyOrders.Particulars

/-!
# Collaborators

What the making of a document asks of others: rendering, sealing, and a store of
documents.  Each of them may read and change a state of its own, also when it
fails.  They can be watched: every call is then noted with the way it ended,
and nothing else is different.
-/

namespace FamilyOrders

/-- The content of a document, with the format it really has. -/
structure Rendered where
  bytes : Bytes
  format : FileFormat
  deriving DecidableEq

/-- A step that changes the state and may fail. -/
abbrev Action (σ α : Type) := ExceptT OrderError (StateM σ) α

structure Collaborators (σ : Type) where
  render : Layout → Particulars → FileFormat → Language → Action σ Rendered
  download : DocumentReference → Action σ Bytes
  /-- Seals the content of a file with the given name. -/
  sealDocument : Bytes → (filename : String) → Language → Action σ Rendered
  upload : Bytes → (filename mediaType : String) → Action σ DocumentReference

/-! ## Exchanges -/

/-- One request to a collaborator. -/
inductive Call
  | render (layout : Layout) (format : FileFormat) (language : Language)
      (particulars : Particulars)
  | download (document : DocumentReference)
  | sealDocument (bytes : Bytes) (filename : String) (language : Language)
  | upload (bytes : Bytes) (filename mediaType : String)
  deriving DecidableEq

/-- What a call gives back when it is fulfilled. -/
abbrev Call.Reply : Call → Type
  | .render .. | .sealDocument .. => Rendered
  | .download _ => Bytes
  | .upload .. => DocumentReference

/-- A call and how it ended. -/
structure Exchange where
  call : Call
  outcome : Except OrderError call.Reply

/-- The same call, noted with how it ends. -/
def noted (call : Call) (action : Action σ call.Reply) :
    Action (σ × List Exchange) call.Reply :=
  ExceptT.mk fun (state, seen) =>
    let (outcome, after) := action.run.run state
    (outcome, after, seen ++ [⟨call, outcome⟩])

/-- The same collaborators, with a list of the exchanges beside their state. -/
def Collaborators.watched (collaborators : Collaborators σ) :
    Collaborators (σ × List Exchange) where
  render layout particulars format language :=
    noted (.render layout format language particulars)
      (collaborators.render layout particulars format language)
  download document :=
    noted (.download document) (collaborators.download document)
  sealDocument bytes filename language :=
    noted (.sealDocument bytes filename language)
      (collaborators.sealDocument bytes filename language)
  upload bytes filename mediaType :=
    noted (.upload bytes filename mediaType)
      (collaborators.upload bytes filename mediaType)

end FamilyOrders
