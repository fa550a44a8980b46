import Narrative.Proofs.Repository.Mirror

/-!
# Repositories answer alike

What a repository is to answer can be told from what was saved before: a name has the bundle that
was saved under it last. A repository in memory answers so, and a repository in a folder that it
makes itself does, too, except that it cannot be listed before something was saved.
-/

namespace Narrative

namespace Repository

/-- An access to a repository. -/
inductive Access where
  /-- Load the bundle of a name. -/
  | load (id : String)
  /-- Save a bundle under a name. -/
  | save (id : String) (bundle : Bundle)
  /-- Ask whether there is a bundle of a name. -/
  | contains (id : String)
  /-- List the names. -/
  | names
  deriving DecidableEq

/-- What a repository answers to an access. -/
inductive Answer where
  /-- The bundle that was loaded. -/
  | loaded (result : Except RepositoryError Bundle)
  /-- Whether saving changed anything. -/
  | saved (result : Except RepositoryError Bool)
  /-- Whether there is a bundle. -/
  | checked (result : Except RepositoryError Bool)
  /-- The names in order. -/
  | listed (result : Except RepositoryError (List String))

/-- The name in an access. -/
def Access.id? : Access → Option String
  | load id => some id
  | save id _ => some id
  | contains id => some id
  | names => none

/-- The bundle that an access saves, under its name. -/
def Access.saved? : Access → Option (String × Bundle)
  | save id bundle => some (id, bundle)
  | _ => none

section

variable {σ : Type} [Repository σ]

/-- Access a repository: the answer, and the repository after it. -/
def Access.perform (repository : σ) : Access → Answer × σ
  | load id => (.loaded (Repository.load repository id).value, repository)
  | save id bundle =>
    let (result, after) := (Repository.save repository id bundle).value
    (.saved result, after)
  | contains id => (.checked (Repository.contains repository id), repository)
  | names => (.listed (Repository.names repository), repository)

/-- The repository after some accesses in order. -/
def performAll (repository : σ) (accesses : List Access) : σ :=
  accesses.foldl (fun repository access => (access.perform repository).2) repository

/-- The last access is made after all others. -/
theorem performAll_concat (repository : σ) (accesses : List Access) (access : Access) :
    performAll repository (accesses ++ [access]) =
      (access.perform (performAll repository accesses)).2 :=
  List.foldl_append

end

/-- The bundles that some accesses save, in order, each under its name. -/
def saves (accesses : List Access) : List (String × Bundle) := accesses.filterMap Access.saved?

/-- The bundle that was saved last under a name. -/
def latest (accesses : List Access) (id : String) : Option Bundle :=
  (((saves accesses).filter (·.1 = id)).getLast?).map Prod.snd

/-- The answer to an access after some others. -/
def Access.answerAfter (before : List Access) : Access → Answer
  | load id => .loaded ((latest before id).elim (.error (.notFound id)) .ok)
  | save id bundle => .saved (.ok (decide (latest before id ≠ some bundle)))
  | contains id => .checked (.ok (latest before id).isSome)
  | names => .listed (.ok (SortedSet.ofMembers ((saves before).map Prod.fst)).members)

variable {accesses : List Access} {access : Access} {id : String} {bundle : Bundle}

/-- What the earlier accesses save comes first. -/
theorem saves_append (first second : List Access) :
    saves (first ++ second) = saves first ++ saves second :=
  List.filterMap_append

/-- What was saved stays among what was saved. -/
theorem mem_saves_append {entry : String × Bundle} (member : entry ∈ saves accesses)
    (later : List Access) : entry ∈ saves (accesses ++ later) := by
  rw [saves_append]
  exact List.mem_append_left _ member

/-- What was saved was saved by an access to its name. -/
theorem exists_of_mem_saves {entry : String × Bundle} (member : entry ∈ saves accesses) :
    ∃ access ∈ accesses, access.id? = some entry.1 := by
  obtain ⟨access, within, saved⟩ := List.mem_filterMap.1 member
  cases access with
  | save id bundle =>
    obtain rfl := Option.some.inj saved
    exact ⟨_, within, rfl⟩
  | _ => cases saved

/-- The bundle saved by the last access comes last. -/
theorem saves_concat (accesses : List Access) (access : Access) :
    saves (accesses ++ [access]) = saves accesses ++ access.saved?.toList := by
  rw [saves_append]
  unfold saves
  cases saved : access.saved? <;> simp [saved]

/-- The bundle of a name is the one just saved under it, or else the one it had before. -/
theorem latest_concat (accesses : List Access) (access : Access) (id : String) :
    latest (accesses ++ [access]) id =
      match access.saved? with
      | some (other, bundle) => if other = id then some bundle else latest accesses id
      | none => latest accesses id := by
  unfold latest
  rw [saves_concat, List.filter_append]
  cases access.saved? with
  | none => rw [Option.toList_none, List.filter_nil, List.append_nil]
  | some entry =>
    obtain ⟨other, bundle⟩ := entry
    by_cases same : other = id
    · simp [same]
    · simp [same]

/-- The bundle of a name was saved under it. -/
theorem mem_saves_of_latest (found : latest accesses id = some bundle) :
    (id, bundle) ∈ saves accesses := by
  obtain ⟨⟨other, same⟩, last, rfl⟩ := Option.map_eq_some_iff.1 found
  obtain ⟨member, named⟩ := List.mem_filter.1 (List.mem_of_getLast? last)
  obtain rfl : other = id := of_decide_eq_true named
  exact member

/-- The names with a bundle are those that one was saved under. -/
theorem latest_isSome_iff :
    (latest accesses id).isSome = true ↔ id ∈ (saves accesses).map Prod.fst := by
  unfold latest
  rw [Option.isSome_map, List.getLast?_isSome, List.mem_map]
  constructor
  · intro something
    obtain ⟨entry, member⟩ := List.exists_mem_of_ne_nil _ something
    obtain ⟨member, named⟩ := List.mem_filter.1 member
    exact ⟨entry, member, of_decide_eq_true named⟩
  · rintro ⟨entry, member, named⟩
    exact List.ne_nil_of_mem (List.mem_filter.2 ⟨member, decide_eq_true named⟩)

end Repository

open Repository

namespace MemoryRepository

variable {memory : MemoryRepository} {accesses : List Access}

/-- A repository that has what was saved last. -/
def Recalls (memory : MemoryRepository) (accesses : List Access) : Prop :=
  ∀ id, memory.bundles.get? id = latest accesses id

/-- What was saved last is what is answered. -/
theorem Recalls.answer (recalls : memory.Recalls accesses) (access : Access) :
    (access.perform memory).1 = access.answerAfter accesses := by
  cases access with
  | load id =>
    refine congrArg Answer.loaded ?_
    change memory.load id = _
    unfold MemoryRepository.load
    rw [recalls]
    cases latest accesses id <;> rfl
  | save id bundle =>
    refine congrArg Answer.saved ?_
    change Except.ok (memory.save id bundle).1 = _
    unfold MemoryRepository.save
    rw [recalls]
    by_cases same : latest accesses id = some bundle
    · simp [same]
    · simp [same]
  | contains id =>
    refine congrArg (fun found => Answer.checked (.ok found)) ?_
    unfold SortedMap.contains
    rw [recalls]
  | names =>
    refine congrArg (fun names => Answer.listed (.ok names)) (SortedMap.keys_congr fun id => ?_)
    rw [Bool.eq_iff_iff, SortedSet.contains_ofMembers, ← latest_isSome_iff, ← recalls]
    rfl

/-- It has what was saved last after one more access, too. -/
theorem Recalls.perform (recalls : memory.Recalls accesses) (access : Access) :
    (access.perform memory).2.Recalls (accesses ++ [access]) := by
  intro id
  rw [latest_concat]
  cases access with
  | save other bundle =>
    change (memory.save other bundle).2.bundles.get? id = if other = id then _ else _
    unfold MemoryRepository.save
    by_cases same : memory.bundles.get? other = some bundle
    · rw [if_pos same]
      by_cases own : other = id
      · rw [if_pos own, ← own]
        exact same
      · rw [if_neg own]
        exact recalls id
    · rw [if_neg same]
      by_cases own : other = id
      · rw [if_pos own, ← own]
        exact SortedMap.get?_insert_self ..
      · rw [if_neg own, ← recalls]
        exact SortedMap.get?_insert_of_ne _ _ (Ne.symm own)
  | load _ => exact recalls id
  | contains _ => exact recalls id
  | names => exact recalls id

end MemoryRepository

namespace FolderRepository

/-- A repository in a folder beside one in memory after some accesses: it is as it was until
something was saved, and mirrors what is kept in memory from then on. -/
inductive Follows (begun : FolderRepository) (accesses : List Access) :
    FolderRepository → MemoryRepository → Prop where
  /-- Nothing was saved. -/
  | untouched (nothing : saves accesses = []) : Follows begun accesses begun .empty
  /-- Something was saved. -/
  | mirrored {disk : Disk} {place : List String} {memory : MemoryRepository}
    (something : saves accesses ≠ [])
    (mirrors : Mirrors ⟨begun.folder, disk⟩ place memory.bundles) :
    Follows begun accesses ⟨begun.folder, disk⟩ memory

namespace Follows

variable {begun repository : FolderRepository} {made : Disk} {memory : MemoryRepository}
  {accesses : List Access} {id : String} {bundles : List Bundle}

/-- A file has the text of the bundle that is kept in memory. -/
theorem read (follows : Follows begun accesses repository memory) (fresh : begun.Fresh made)
    (admits : Admits begun.folder id) :
    repository.read id = .ok ((memory.bundles.get? id).map Bundle.save) := by
  cases follows with
  | untouched nothing => exact fresh.read admits
  | mirrored something mirrors => exact mirrors.read admits

/-- There are the files of the bundles that are kept in memory. -/
theorem contains (follows : Follows begun accesses repository memory) (fresh : begun.Fresh made)
    (admits : Admits begun.folder id) :
    repository.contains id = .ok (memory.bundles.contains id) := by
  cases follows with
  | untouched nothing => exact fresh.contains admits
  | mirrored something mirrors => exact mirrors.contains admits

/-- One more bundle is written. -/
theorem write (follows : Follows begun accesses repository memory) (fresh : begun.Fresh made)
    (admits : Admits begun.folder id) (bundle : Bundle) :
    ∃ disk place, repository.write id bundle = (.ok (), ⟨begun.folder, disk⟩) ∧
      Mirrors ⟨begun.folder, disk⟩ place (memory.bundles.insert id bundle) := by
  cases follows with
  | untouched nothing =>
    obtain ⟨place, mirrors⟩ := fresh.mirrors
    obtain ⟨disk, written, after⟩ := write_of_makes fresh.makes mirrors admits bundle
    exact ⟨disk, place, written, after⟩
  | mirrored something mirrors =>
    obtain ⟨disk, written, after⟩ :=
      write_of_makes mirrors.leads.makeFolders mirrors admits bundle
    exact ⟨disk, _, written, after⟩

/-- An access that saves nothing keeps the two beside each other. -/
theorem unsaved (follows : Follows begun accesses repository memory) {access : Access}
    (nothing : access.saved? = none) :
    Follows begun (accesses ++ [access]) repository memory := by
  have same : saves (accesses ++ [access]) = saves accesses := by
    rw [saves_concat, nothing, Option.toList_none, List.append_nil]
  cases follows with
  | untouched nothing => exact .untouched (same.trans nothing)
  | mirrored something mirrors => exact .mirrored (same ▸ something) mirrors

/-- A bundle is saved in both unless it is there already, and both tell whether it is. -/
theorem save (follows : Follows begun accesses repository memory) (fresh : begun.Fresh made)
    (admits : Admits begun.folder id) (discernible : Bundle.Discernible bundles)
    (earlier : ∀ bundle ∈ memory.bundles.get? id, bundle ∈ bundles) {bundle : Bundle}
    (later : bundle ∈ bundles) :
    let access := Access.save id bundle
    (access.perform repository).1 = (access.perform memory).1 ∧
      Follows begun (accesses ++ [access]) (access.perform repository).2
        (access.perform memory).2 := by
  obtain ⟨disk, place, written, mirrors⟩ := follows.write fresh admits bundle
  have saved := save_of_read discernible earlier (follows.read fresh admits) later written
  have something : saves (accesses ++ [.save id bundle]) ≠ [] := by
    rw [saves_concat]
    exact List.append_ne_nil_of_right_ne_nil _ nofun
  have performed : (Access.save id bundle).perform repository =
      (.saved (repository.save id bundle).value.1, (repository.save id bundle).value.2) := rfl
  have remembered : (Access.save id bundle).perform memory =
      (.saved (.ok (memory.save id bundle).1), (memory.save id bundle).2) := rfl
  dsimp only
  rw [performed, remembered, saved]
  unfold MemoryRepository.save
  by_cases same : memory.bundles.get? id = some bundle
  · rw [if_pos same, if_pos same]
    refine ⟨rfl, ?_⟩
    cases follows with
    | untouched nothing =>
      -- There was nothing that the bundle could be the same as.
      cases same
    | mirrored _ mirrors => exact .mirrored something mirrors
  · rw [if_neg same, if_neg same]
    exact ⟨rfl, .mirrored something mirrors⟩

/-- The bundle that is kept in memory is loaded from its file. -/
theorem load (follows : Follows begun accesses repository memory) (fresh : begun.Fresh made)
    (admits : Admits begun.folder id)
    (addressable : ∀ bundle ∈ memory.bundles.get? id, bundle.Addressable) :
    (repository.load id).value = memory.load id := by
  rw [load_of_read addressable (follows.read fresh admits)]
  unfold MemoryRepository.load
  cases memory.bundles.get? id <;> rfl

/-- The names that are kept in memory are listed as soon as something was saved. -/
theorem names (follows : Follows begun accesses repository memory) (fresh : begun.Fresh made)
    (named : memory.bundles.get? "" = none) :
    repository.names = if saves accesses = [] then .error (.unlisted begun.folder .missing)
      else .ok memory.bundles.keys := by
  cases follows with
  | untouched nothing => rw [if_pos nothing, fresh.names]
  | mirrored something mirrors => rw [if_neg something, mirrors.names named]

/-- An access is answered alike, but for names before something was saved, and keeps the two beside
each other. -/
theorem access (follows : Follows begun accesses repository memory) (fresh : begun.Fresh made)
    (recalls : memory.Recalls accesses) {access : Access}
    (admitted : ∀ earlier ∈ accesses ++ [access], ∀ id ∈ earlier.id?, Admits begun.folder id)
    (discernible : Bundle.Discernible bundles)
    (known : ∀ entry ∈ saves (accesses ++ [access]), entry.2 ∈ bundles) :
    ((access.perform repository).1 =
        if access = .names ∧ saves accesses = [] then
          .listed (.error (.unlisted begun.folder .missing))
        else (access.perform memory).1) ∧
      Follows begun (accesses ++ [access]) (access.perform repository).2
        (access.perform memory).2 := by
  have admits : ∀ id ∈ access.id?, Admits begun.folder id :=
    admitted access (List.mem_append_right _ List.mem_cons_self)
  have kept : ∀ {id : String}, ∀ bundle ∈ memory.bundles.get? id,
      (id, bundle) ∈ saves accesses := fun {id} bundle found =>
    mem_saves_of_latest ((recalls id).symm.trans found)
  have earlier : ∀ {id : String}, ∀ bundle ∈ memory.bundles.get? id, bundle ∈ bundles :=
    fun {id} bundle found => known (id, bundle) (mem_saves_append (kept bundle found) _)
  cases access with
  | load id =>
    have same := follows.load fresh (admits id rfl) fun bundle found =>
      discernible.addressable bundle (earlier bundle found)
    exact ⟨(congrArg Answer.loaded same).trans (if_neg nofun).symm, follows.unsaved rfl⟩
  | save id bundle =>
    have later : bundle ∈ bundles := by
      refine known (id, bundle) ?_
      rw [saves_concat]
      exact List.mem_append_right _ List.mem_cons_self
    obtain ⟨same, after⟩ := follows.save fresh (admits id rfl) discernible earlier later
    exact ⟨same.trans (if_neg nofun).symm, after⟩
  | contains id =>
    have same := follows.contains fresh (admits id rfl)
    exact ⟨(congrArg Answer.checked same).trans (if_neg nofun).symm, follows.unsaved rfl⟩
  | names =>
    have named : memory.bundles.get? "" = none := by
      cases found : memory.bundles.get? "" with
      | none => rfl
      | some bundle =>
        obtain ⟨earlier, member, unnamed⟩ := exists_of_mem_saves (kept bundle found)
        have admits := admitted earlier (List.mem_append_left _ member) "" unnamed
        exact absurd rfl admits.named
    refine ⟨?_, follows.unsaved rfl⟩
    change Answer.listed repository.names = _
    rw [follows.names fresh named]
    by_cases nothing : saves accesses = []
    · rw [if_pos nothing, if_pos ⟨rfl, nothing⟩]
    · rw [if_neg nothing, if_neg fun both => nothing both.2]
      rfl

/-- The two are beside each other after any accesses. -/
theorem performAll (fresh : begun.Fresh made) (accesses : List Access)
    (admitted : ∀ access ∈ accesses, ∀ id ∈ access.id?, Admits begun.folder id)
    (discernible : Bundle.Discernible bundles)
    (known : ∀ entry ∈ saves accesses, entry.2 ∈ bundles) :
    let memory := Repository.performAll MemoryRepository.empty accesses
    memory.Recalls accesses ∧
      Follows begun accesses (Repository.performAll begun accesses) memory := by
  induction accesses using List.reverseRecOn with
  | nil => exact ⟨fun _ => rfl, .untouched rfl⟩
  | append_singleton earlier access ih =>
    obtain ⟨recalls, follows⟩ :=
      ih (fun access member => admitted access (List.mem_append_left _ member))
        fun entry member => known entry (mem_saves_append member _)
    rw [performAll_concat, performAll_concat]
    exact ⟨recalls.perform access, (follows.access fresh recalls admitted discernible known).2⟩

end Follows

end FolderRepository

/-- A repository in a folder that is not there yet and one in memory are accessed in the same way,
by names that can be those of files, and with bundles that have different digests if they are
different. Each access is answered from what was saved last: a bundle is loaded as it was saved,
saving tells whether it changes anything, and the names are listed in order. Both answer so, except
that the folder cannot be listed before something was saved. -/
theorem repositories_agree {repository : FolderRepository} {made : Disk}
    (fresh : repository.Fresh made) {accesses : List Access}
    (admitted : ∀ access ∈ accesses, ∀ id ∈ access.id?,
      FolderRepository.Admits repository.folder id)
    (discernible : Bundle.Discernible ((saves accesses).map Prod.snd)) :
    ∀ before access after, accesses = before ++ access :: after →
      let remembered := (access.perform (performAll MemoryRepository.empty before)).1
      let filed := (access.perform (performAll repository before)).1
      remembered = access.answerAfter before ∧
        filed = if access = .names ∧ saves before = [] then
            .listed (.error (.unlisted repository.folder .missing))
          else remembered := by
  rintro before access after rfl
  have split : before ++ access :: after = (before ++ [access]) ++ after := by
    rw [List.append_assoc, List.singleton_append]
  rw [split] at admitted discernible
  have admits : ∀ earlier ∈ before ++ [access], ∀ id ∈ earlier.id?,
      FolderRepository.Admits repository.folder id := fun earlier member =>
    admitted earlier (List.mem_append_left _ member)
  have known : ∀ entry ∈ saves (before ++ [access]),
      entry.2 ∈ (saves (before ++ [access] ++ after)).map Prod.snd := fun entry member =>
    List.mem_map_of_mem (mem_saves_append member after)
  obtain ⟨recalls, follows⟩ := FolderRepository.Follows.performAll fresh before
    (fun earlier member => admits earlier (List.mem_append_left _ member)) discernible
    fun entry member => known entry (mem_saves_append member _)
  exact ⟨recalls.answer access, (follows.access fresh recalls admits discernible known).1⟩

/-- The bundle without content but for a flag. -/
def Bundle.flagged : Bundle :=
  { Bundle.empty with flags := Flags.empty.declareFlag "met" false }

/-- The folder cannot be listed at first. A bundle that is saved a second time changes nothing, and
is loaded as it was saved; after another one took its place, its name is listed once. -/
theorem repositories_agree_flagged :
    let repository : FolderRepository := ⟨"store", .empty⟩
    let before : List Access := [.names, .save "intro" .empty]
    let later := before ++ [.save "intro" .empty, .load "intro", .save "intro" .flagged]
    (Access.names.perform repository).1 = .listed (.error (.unlisted "store" .missing)) ∧
      ((Access.save "intro" .empty).perform (performAll repository before)).1 =
        .saved (.ok false) ∧
      ((Access.load "intro").perform
          (performAll repository (before ++ [.save "intro" .empty]))).1 = .loaded (.ok .empty) ∧
      (Access.names.perform (performAll repository later)).1 = .listed (.ok ["intro"]) := by
  intro repository before later
  have fresh : repository.Fresh (Disk.empty.put ["store"] .folder) :=
    ⟨by decide, by decide, by decide⟩
  have admits : FolderRepository.Admits repository.folder "intro" := by
    constructor <;> decide
  have admitted : ∀ access ∈ later ++ [.names], ∀ id ∈ access.id?,
      FolderRepository.Admits repository.folder id := by
    intro access member id named
    have only : ∀ access ∈ later ++ [.names], ∀ id ∈ access.id?, id = "intro" := by decide
    rw [only access member id named]
    exact admits
  have different : Digest.md5 (Bundle.format.write .empty).compact.toUTF8.toList ≠
      Digest.md5 (Bundle.format.write .flagged).compact.toUTF8.toList := by
    decide +kernel
  have either : ∀ bundle ∈ (saves (later ++ [.names])).map Prod.snd,
      bundle = .empty ∨ bundle = .flagged := by decide
  have discernible : Bundle.Discernible ((saves (later ++ [.names])).map Prod.snd) := by
    constructor
    · intro bundle member
      obtain rfl | rfl := either bundle member <;> exact ⟨nofun, nofun, nofun⟩
    · intro first one second other same
      obtain ⟨left, leftSaved, rfl⟩ := List.mem_map.1 one
      obtain ⟨right, rightSaved, rfl⟩ := List.mem_map.1 other
      obtain rfl | rfl := either left leftSaved <;> obtain rfl | rfl := either right rightSaved
      · rfl
      · exact absurd same different
      · exact absurd same.symm different
      · rfl
  have agree := repositories_agree fresh admitted discernible
  obtain ⟨-, unlisted⟩ := agree [] .names _ rfl
  obtain ⟨unchanged, again⟩ := agree before (.save "intro" .empty) _ rfl
  obtain ⟨loaded, back⟩ := agree (before ++ [.save "intro" .empty]) (.load "intro") _ rfl
  obtain ⟨listed, all⟩ := agree later .names [] rfl
  refine ⟨unlisted.trans (if_pos ⟨rfl, rfl⟩), again.trans ?_, back.trans ?_, all.trans ?_⟩
  · exact (if_neg nofun).trans (unchanged.trans rfl)
  · exact (if_neg nofun).trans (loaded.trans rfl)
  · exact (if_neg nofun).trans (listed.trans rfl)

end Narrative
