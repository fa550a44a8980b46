import Narrative.Bundle
import Narrative.Disk

/-!
# Repositories

A repository keeps bundles under the names they are given. Saving what is stored already changes
nothing and says so.
-/

namespace Narrative

/-- Why a repository refuses an operation. -/
inductive RepositoryError where
  /-- There is no bundle of a name. -/
  | notFound (id : String)
  /-- A file cannot be read. -/
  | unreadable (path : String) (cause : DiskError)
  /-- A file cannot be written. -/
  | unwritable (path : String) (cause : DiskError)
  /-- The folder of the bundles cannot be made. -/
  | noFolder (cause : DiskError)
  /-- It cannot be told whether there is a bundle. -/
  | unchecked (id : String) (cause : DiskError)
  /-- The folder of the bundles cannot be listed. -/
  | unlisted (folder : String) (cause : DiskError)
  /-- A file is no stored bundle. -/
  | invalid (cause : DocumentError)
  deriving DecidableEq, Repr

/-- The wording of an error. -/
def RepositoryError.message : RepositoryError → String
  | notFound id => s!"Bundle not found: {id}"
  | unreadable path cause => s!"IO error: Failed to read bundle file {path}: {cause.message}"
  | unwritable path cause => s!"IO error: Failed to write bundle file {path}: {cause.message}"
  | noFolder cause => s!"IO error: Failed to create bundle directory: {cause.message}"
  | unchecked id cause => s!"IO error: Failed to check bundle {id}: {cause.message}"
  | unlisted folder cause => s!"IO error: Failed to read directory {folder}: {cause.message}"
  | invalid cause => s!"Invalid data format: Failed to parse bundle: {cause.message}"

/-- A store of bundles by name. -/
class Repository (σ : Type) where
  /-- The bundle of a name. -/
  load : σ → String → Logged (Except RepositoryError Bundle)
  /-- Store a bundle; the answer tells whether that changed anything. -/
  save : σ → String → Bundle → Logged (Except RepositoryError Bool × σ)
  /-- Whether there is a bundle of a name. -/
  contains : σ → String → Except RepositoryError Bool
  /-- The names of the bundles in order. -/
  names : σ → Except RepositoryError (List String)

end Narrative
