import FrameSchema.Files
import FrameSchema.Schema.Document

/-!
# Schema/Load — schemas from documents, texts and files
-/

namespace FrameSchema

/-- Why no schema could be loaded: the file, the text or its content is at fault. -/
inductive LoadError where
  | file (fault : FileFault)
  | json (fault : Json.Fault)
  | schema (cause : Schema.Error)
  deriving DecidableEq, Repr

/-- The wording of a cause. -/
def LoadError.message : LoadError → String
  | file fault => s!"IO: {fault.message}"
  | json fault => s!"Schema JSON: {fault.message}"
  | schema cause => cause.message

/-- The schema that a document describes. -/
def Schema.ofDocument (document : Schema.Document) : Except Schema.Error Schema := do
  Schema.ofModel (← document.toModel)

/-- The schema that a text describes. -/
def Schema.ofText (text : String) : Except LoadError Schema := do
  let document ← (Schema.Document.ofText text).mapError .json
  (Schema.ofDocument document).mapError .schema

/-- The schema that a file describes. -/
def Schema.ofFile {m : Type → Type} [Monad m] [Files m] (path : String) :
    m (Except LoadError Schema) := do
  match ← Files.readText path with
  | .ok text => return Schema.ofText text
  | .error fault => return .error (.file fault)

end FrameSchema
