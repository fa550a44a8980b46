import Narrative.Format.Basic
import Narrative.Json.Reader

/-!
# Documents as texts

Reading a text has two stages: it must be JSON at all, and the document must then be the stored
form of a value. A text that fails the first is not looked at for the second. A value that stands
for nothing does no harm to a stored form that passes over it, but a document that is no stored
form is no JSON either if there is such a value in it.
-/

namespace Narrative

/-- Why a text is not the stored form of a value. -/
inductive DocumentError where
  /-- The text is not JSON. -/
  | notJson
  /-- The document is not a stored form. -/
  | unfit (fault : Fault)
  deriving DecidableEq, Repr

namespace DocumentError

/-- The wording of an error. -/
def message : DocumentError → String
  | notJson => "the text is not valid JSON"
  | unfit fault => fault.detail?.getD "the document has an unexpected shape"

end DocumentError

namespace Format

variable {α : Type}

/-- The value of a document. -/
def ofDocument (format : Format α) (document : Json) : Except DocumentError α :=
  match format.read .streamed document with
  | .ok value => .ok value
  | .error fault => .error (if document.isReadable then .unfit fault else .notJson)

/-- The value of a text. -/
def ofText (format : Format α) (source : String) : Except DocumentError α :=
  match Json.parse source with
  | none => .error .notJson
  | some document => format.ofDocument document

end Format

end Narrative
