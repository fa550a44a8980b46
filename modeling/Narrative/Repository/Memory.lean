import Narrative.Repository

/-!
# Repositories in memory

Bundles are kept as they are, and compared as a whole.
-/

namespace Narrative

/-- Bundles by name. -/
structure MemoryRepository where
  /-- The bundles. -/
  bundles : SortedMap String Bundle
  deriving DecidableEq

namespace MemoryRepository

/-- A repository without bundles. -/
def empty : MemoryRepository := ⟨∅⟩

/-- The bundle of a name. -/
def load (repository : MemoryRepository) (id : String) : Except RepositoryError Bundle :=
  match repository.bundles.get? id with
  | some bundle => .ok bundle
  | none => .error (.notFound id)

/-- Store a bundle; the answer tells whether that changed anything. -/
def save (repository : MemoryRepository) (id : String) (bundle : Bundle) :
    Bool × MemoryRepository :=
  if repository.bundles.get? id = some bundle then (false, repository)
  else (true, ⟨repository.bundles.insert id bundle⟩)

instance : Repository MemoryRepository where
  load repository id := pure (repository.load id)
  save repository id bundle :=
    let (changed, repository) := repository.save id bundle
    pure (.ok changed, repository)
  contains repository id := .ok (repository.bundles.contains id)
  names repository := .ok repository.bundles.keys

end MemoryRepository

end Narrative
