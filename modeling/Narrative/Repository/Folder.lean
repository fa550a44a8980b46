import Narrative.Repository

/-!
# Repositories in a folder

Each bundle is a file of its own in one folder of a disk, which is made when the first bundle is
stored. A file is compared by the fingerprint of the bundle in it; one that is no bundle is
written over.
-/

namespace Narrative

/-- A folder of stored bundles. -/
structure FolderRepository where
  /-- The path of the folder. -/
  folder : String
  /-- The disk it is on. -/
  disk : Disk
  deriving DecidableEq

namespace FolderRepository

/-- What the names of the files end in. -/
def ending : String := ".json"

/-- The path of a bundle. -/
def path (repository : FolderRepository) (id : String) : String :=
  Disk.join repository.folder (id ++ ending)

/-- The name of the bundle in a file; none if the file has another ending, or nothing before it. -/
def idOf? (file : String) : Option String :=
  let characters := file.toList
  let id := characters.take (characters.length - ending.length)
  if id ≠ [] ∧ characters = id ++ ending.toList then some (String.ofList id) else none

/-- The text of the file of a bundle, if there is one. -/
def read (repository : FolderRepository) (id : String) :
    Except RepositoryError (Option String) :=
  match repository.disk.read (repository.path id) with
  | .ok text => .ok (some text)
  | .error .missing => .ok none
  | .error cause => .error (.unreadable (repository.path id) cause)

/-- The bundle of a name. -/
def load (repository : FolderRepository) (id : String) :
    Logged (Except RepositoryError Bundle) :=
  match repository.read id with
  | .error error => pure (.error error)
  | .ok none => pure (.error (.notFound id))
  | .ok (some text) =>
    match Bundle.format.ofText text with
    | .error cause => pure (.error (.invalid cause))
    | .ok bundle => do
      Logged.note .debug .resources s!"loaded bundle {id}"
      pure (.ok bundle)

/-- Whether a text is that of a bundle with a fingerprint. -/
def isStored (text : Option String) (fingerprint : String) : Bool :=
  match text.map Bundle.format.ofText with
  | some (.ok stored) => stored.fingerprint == fingerprint
  | _ => false

/-- Write the file of a bundle. The folder stays made if that fails. -/
def write (repository : FolderRepository) (id : String) (bundle : Bundle) :
    Except RepositoryError Unit × FolderRepository :=
  match repository.disk.makeFolders repository.folder with
  | .error cause => (.error (.noFolder cause), repository)
  | .ok disk =>
    match disk.write (repository.path id) bundle.save with
    | .error cause =>
      (.error (.unwritable (repository.path id) cause), { repository with disk := disk })
    | .ok disk => (.ok (), { repository with disk := disk })

/-- Store a bundle; the answer tells whether that changed anything. -/
def save (repository : FolderRepository) (id : String) (bundle : Bundle) :
    Logged (Except RepositoryError Bool × FolderRepository) :=
  let fingerprint := bundle.fingerprint
  match repository.read id with
  | .error error => pure (.error error, repository)
  | .ok text =>
    if isStored text fingerprint then do
      Logged.note .debug .resources s!"bundle {id} unchanged, not written"
      pure (.ok false, repository)
    else
      match repository.write id bundle with
      | (.error error, repository) => pure (.error error, repository)
      | (.ok (), repository) => do
        Logged.note .info .resources s!"saved bundle {id} ({fingerprint})"
        pure (.ok true, repository)

/-- Whether there is a file of a name. -/
def contains (repository : FolderRepository) (id : String) : Except RepositoryError Bool :=
  (repository.disk.contains (repository.path id)).mapError (.unchecked id)

/-- The names of the files that hold bundles, in order. -/
def names (repository : FolderRepository) : Except RepositoryError (List String) :=
  match repository.disk.names repository.folder with
  | .error cause => .error (.unlisted repository.folder cause)
  | .ok files => .ok (SortedSet.ofMembers (files.filterMap idOf?)).members

instance : Repository FolderRepository := ⟨load, save, contains, names⟩

end FolderRepository

end Narrative
