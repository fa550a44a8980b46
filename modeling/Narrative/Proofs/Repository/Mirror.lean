import Narrative.Proofs.Bundle.RoundTrip
import Narrative.Proofs.Digest
import Narrative.Proofs.Disk
import Narrative.Repository.Folder
import Narrative.Repository.Memory

/-!
# Files that mirror bundles

A folder mirrors some bundles if it has a file for each of them, under its name and with its text,
and nothing else. Such a folder is made by the first bundle that is saved, and saving one more
bundle is inserting it. What a repository in a folder answers can be told from the bundles.
-/

namespace Narrative

/-- Bundles that are kept by their texts, and have different digests if they are different. -/
structure Bundle.Discernible (bundles : List Bundle) : Prop where
  /-- Their ports point at identifiers of 64 bits. -/
  addressable : ∀ bundle ∈ bundles, bundle.Addressable
  /-- Their digests are different. -/
  separates : Digest.Separates (bundles.map fun bundle => (format.write bundle).compact)

/-- Such bundles are known by their fingerprints. -/
theorem Bundle.Discernible.fingerprint_inj {bundles : List Bundle}
    (discernible : Bundle.Discernible bundles) {first second : Bundle} (one : first ∈ bundles)
    (other : second ∈ bundles) : first.fingerprint = second.fingerprint ↔ first = second := by
  constructor
  · intro same
    have text : ∀ {bundle}, bundle ∈ bundles → (format.write bundle).compact ∈
        bundles.map fun bundle => (format.write bundle).compact := List.mem_map_of_mem
    have compact := discernible.separates.eq_of_ofText (text one) (text other) same
    exact eq_of_compact (discernible.addressable _ one) (discernible.addressable _ other) compact
  · rintro rfl
    rfl

namespace FolderRepository

/-- Whether a bundle of a name can be a file in a folder: the name is not empty and goes on without
a slash, and neither the name of the file nor its path is refused. -/
structure Admits (folder id : String) : Prop where
  /-- There is a name. -/
  named : id ≠ ""
  /-- The file is in the folder itself. -/
  whole : '/' ∉ id.toList
  /-- The name of the file is not too long. -/
  short : (id ++ ending).utf8ByteSize ≤ Disk.longestName
  /-- The path of the file passes. -/
  passes : Disk.checkPath (Disk.join folder (id ++ ending)) = .ok ()

/-- A repository in a folder that is not there yet, but can be made, and has nothing in it then. -/
structure Fresh (repository : FolderRepository) (made : Disk) : Prop where
  /-- The folder is not there. -/
  absent : repository.disk.contains repository.folder = .ok false
  /-- It can be made. -/
  makes : repository.disk.makeFolders repository.folder = .ok made
  /-- Nothing is in it. -/
  vacant : made.names repository.folder = .ok []

/-- A folder with a file for each of some bundles, and nothing else. -/
structure Mirrors (repository : FolderRepository) (place : List String)
    (kept : SortedMap String Bundle) : Prop where
  /-- The folder is there. -/
  leads : repository.disk.Leads repository.folder place
  /-- What is in it is the files of the bundles. -/
  files : ∀ name, repository.disk.item? (place ++ [name]) =
    ((idOf? name).bind kept.get?).map fun bundle => .file bundle.save

variable {repository : FolderRepository} {id folder : String} {place : List String}
  {kept : SortedMap String Bundle} {made : Disk}

/-- The bundle of a name is in the file with the ending after the name. -/
theorem idOf?_eq_some {file : String} : idOf? file = some id ↔ file = id ++ ending ∧ id ≠ "" := by
  have ended : (id ++ ending).toList = id.toList ++ ending.toList := String.toList_append
  unfold idOf?
  dsimp only
  constructor
  · intro found
    split at found
    · next named =>
      obtain rfl := Option.some.inj found
      obtain ⟨something, split⟩ := named
      refine ⟨String.toList_inj.1 ?_, fun empty => something (String.ofList_eq_empty_iff.1 empty)⟩
      rw [ended, String.toList_ofList]
      exact split
    · cases found
  · rintro ⟨rfl, named⟩
    have length : (id ++ ending).toList.length - ending.length = id.toList.length := by
      rw [ended, List.length_append, String.length_toList, String.length_toList]
      exact Nat.add_sub_cancel _ _
    rw [length, ended, List.take_left, String.ofList_toList]
    exact if_pos ⟨fun empty => named (String.toList_eq_nil_iff.1 empty), rfl⟩

/-- The file of a bundle is in the folder itself. -/
theorem Admits.file_whole (admits : Admits folder id) : '/' ∉ (id ++ ending).toList := by
  rw [String.toList_append]
  intro member
  obtain own | ended := List.mem_append.1 member
  · exact admits.whole own
  · revert ended
    decide

/-- The file of a bundle has a proper name. -/
theorem ending_proper (id : String) : id ++ ending ∉ ["", ".", ".."] := by
  have long : 5 ≤ (id ++ ending).length := by
    rw [String.length_append]
    exact Nat.le_add_left 5 _
  intro member
  have short : ∀ name ∈ ["", ".", ".."], name.length < 5 := by decide
  exact Nat.not_lt_of_le long (short _ member)

/-- A folder that is to be made has a name. -/
theorem Fresh.real (fresh : repository.Fresh made) : repository.folder ≠ "" := by
  intro empty
  have vacant := fresh.vacant
  rw [empty] at vacant
  cases vacant

/-- No file is found. -/
theorem Fresh.locate (fresh : repository.Fresh made) (admits : Admits repository.folder id) :
    repository.disk.locate (repository.path id) = .error .missing :=
  Disk.locate_join_of_absent fresh.real admits.file_whole admits.passes fresh.absent

/-- There is no text. -/
theorem Fresh.read (fresh : repository.Fresh made) (admits : Admits repository.folder id) :
    repository.read id = .ok none := by
  unfold FolderRepository.read Disk.read
  rw [fresh.locate admits]
  rfl

/-- There is no file. -/
theorem Fresh.contains (fresh : repository.Fresh made) (admits : Admits repository.folder id) :
    repository.contains id = .ok false := by
  unfold FolderRepository.contains Disk.contains
  rw [fresh.locate admits]
  rfl

/-- Nothing can be listed. -/
theorem Fresh.names (fresh : repository.Fresh made) :
    repository.names = .error (.unlisted repository.folder .missing) := by
  unfold FolderRepository.names
  rw [Disk.names_of_absent fresh.absent]

/-- The folder that is made mirrors no bundles. -/
theorem Fresh.mirrors (fresh : repository.Fresh made) :
    ∃ place, Mirrors ⟨repository.folder, made⟩ place ∅ := by
  obtain ⟨place, leads⟩ := Disk.leads_of_names fresh.vacant
  obtain ⟨names, listed, members⟩ := leads.names
  obtain rfl := Except.ok.inj (listed.symm.trans fresh.vacant)
  refine ⟨place, leads, fun name => ?_⟩
  have nothing : made.item? (place ++ [name]) = none := by
    cases stands : made.item? (place ++ [name]) with
    | none => rfl
    | some item =>
      have member := (members name).2 (stands ▸ rfl)
      cases member
  rw [nothing]
  cases idOf? name <;> rfl

namespace Mirrors

/-- The file of a bundle is where its name says. -/
theorem locate (mirrors : repository.Mirrors place kept) (admits : Admits repository.folder id) :
    repository.disk.locate (repository.path id) = .ok (place ++ [id ++ ending]) :=
  mirrors.leads.locate_join admits.file_whole admits.passes (ending_proper id) admits.short

/-- A name has the file of its bundle. -/
theorem file (mirrors : repository.Mirrors place kept) (named : id ≠ "") :
    repository.disk.item? (place ++ [id ++ ending]) =
      (kept.get? id).map fun bundle => .file bundle.save := by
  rw [mirrors.files, idOf?_eq_some.2 ⟨rfl, named⟩, Option.bind_some]

/-- A file has the text of its bundle. -/
theorem read (mirrors : repository.Mirrors place kept) (admits : Admits repository.folder id) :
    repository.read id = .ok ((kept.get? id).map Bundle.save) := by
  have file := mirrors.file admits.named
  unfold FolderRepository.read Disk.read
  rw [mirrors.locate admits]
  dsimp only [bind, Except.bind]
  rw [file]
  cases kept.get? id <;> rfl

/-- There are the files of the bundles. -/
theorem contains (mirrors : repository.Mirrors place kept) (admits : Admits repository.folder id) :
    repository.contains id = .ok (kept.contains id) := by
  have file := mirrors.file admits.named
  unfold FolderRepository.contains Disk.contains
  rw [mirrors.locate admits]
  dsimp only
  rw [file, Option.isSome_map]
  rfl

/-- The names of the bundles are listed in order. -/
theorem names (mirrors : repository.Mirrors place kept) (named : kept.get? "" = none) :
    repository.names = .ok kept.keys := by
  obtain ⟨names, listed, members⟩ := mirrors.leads.names
  unfold FolderRepository.names
  rw [listed]
  refine congrArg Except.ok (SortedMap.keys_congr fun id => Bool.eq_iff_iff.2 ?_)
  rw [SortedSet.contains_ofMembers, List.mem_filterMap]
  unfold SortedMap.contains
  constructor
  · rintro ⟨name, member, found⟩
    have there := (members name).1 member
    rw [mirrors.files, found, Option.isSome_map] at there
    exact there
  · intro there
    -- A file of the ending alone would not be listed.
    have proper : id ≠ "" := by
      rintro rfl
      rw [named] at there
      cases there
    refine ⟨id ++ ending, (members _).2 ?_, idOf?_eq_some.2 ⟨rfl, proper⟩⟩
    rwa [mirrors.file proper, Option.isSome_map]

/-- No folder stands where the file of a bundle is. -/
theorem free (mirrors : repository.Mirrors place kept) (named : id ≠ "") :
    repository.disk.item? (place ++ [id ++ ending]) ≠ some .folder := by
  rw [mirrors.file named]
  cases kept.get? id <;> exact nofun

/-- The file of one more bundle makes the folder mirror it, too. -/
theorem put (mirrors : repository.Mirrors place kept) (named : id ≠ "") (bundle : Bundle) :
    Mirrors ⟨repository.folder,
      repository.disk.put (place ++ [id ++ ending]) (.file bundle.save)⟩ place
      (kept.insert id bundle) where
  leads := mirrors.leads.put (mirrors.free named) _
  files name := by
    dsimp only
    by_cases own : name = id ++ ending
    · have below : place ++ [id ++ ending] ≠ [] := List.append_ne_nil_of_right_ne_nil place nofun
      rw [own, Disk.item?_put_self below, idOf?_eq_some.2 ⟨rfl, named⟩, Option.bind_some,
        SortedMap.get?_insert_self, Option.map_some]
    · -- No other file is in the way of the bundle, and no other bundle has its file.
      have apart : place ++ [name] ≠ place ++ [id ++ ending] := fun same =>
        own (List.singleton_inj.1 (List.append_cancel_left same))
      rw [Disk.item?_put_of_ne apart, mirrors.files]
      cases found : idOf? name with
      | none => rfl
      | some other =>
        have different : other ≠ id := by
          rintro rfl
          exact own (idOf?_eq_some.1 found).1
        rw [Option.bind_some, Option.bind_some, SortedMap.get?_insert_of_ne _ _ different]

end Mirrors

/-- A bundle is written to a folder that mirrors others as soon as it is made. -/
theorem write_of_makes (makes : repository.disk.makeFolders repository.folder = .ok made)
    (mirrors : Mirrors ⟨repository.folder, made⟩ place kept)
    (admits : Admits repository.folder id) (bundle : Bundle) :
    ∃ disk, repository.write id bundle = (.ok (), ⟨repository.folder, disk⟩) ∧
      Mirrors ⟨repository.folder, disk⟩ place (kept.insert id bundle) := by
  have located : made.locate (repository.path id) = .ok (place ++ [id ++ ending]) :=
    mirrors.locate admits
  have free : made.item? (place ++ [id ++ ending]) ≠ some .folder := mirrors.free admits.named
  have written : made.write (repository.path id) bundle.save =
      .ok (made.put (place ++ [id ++ ending]) (.file bundle.save)) := by
    unfold Disk.write
    rw [located]
    dsimp only [bind, Except.bind]
    split
    · next stands => exact absurd stands free
    · rfl
  refine ⟨_, ?_, mirrors.put admits.named bundle⟩
  unfold FolderRepository.write
  rw [makes]
  dsimp only
  rw [written]

/-- The bundle of a file is loaded, if there is one. -/
theorem load_of_read {stored : Option Bundle} (addressable : ∀ bundle ∈ stored, bundle.Addressable)
    (read : repository.read id = .ok (stored.map Bundle.save)) :
    (repository.load id).value = stored.elim (.error (.notFound id)) .ok := by
  unfold load
  rw [read]
  cases stored with
  | none => rfl
  | some bundle =>
    have text := Bundle.ofText_save (addressable bundle rfl)
    simp only [Option.map_some, text]
    rfl

/-- A bundle is written unless it is stored already. -/
theorem save_of_read {bundles : List Bundle} (discernible : Bundle.Discernible bundles)
    {stored : Option Bundle} (earlier : ∀ bundle ∈ stored, bundle ∈ bundles)
    (read : repository.read id = .ok (stored.map Bundle.save)) {bundle : Bundle}
    (later : bundle ∈ bundles) {after : FolderRepository}
    (written : repository.write id bundle = (.ok (), after)) :
    (repository.save id bundle).value =
      if stored = some bundle then (.ok false, repository) else (.ok true, after) := by
  have compared : isStored (stored.map Bundle.save) bundle.fingerprint =
      decide (stored = some bundle) := by
    unfold isStored
    cases stored with
    | none => rfl
    | some previous =>
      have member := earlier previous rfl
      have text := Bundle.ofText_save (discernible.addressable previous member)
      simp only [Option.map_some, text, Option.some.injEq]
      rw [Bool.eq_iff_iff, beq_iff_eq, decide_eq_true_iff]
      exact discernible.fingerprint_inj member later
  unfold save
  dsimp only
  rw [read]
  dsimp only
  rw [compared, written]
  by_cases same : stored = some bundle
  · simp only [same, decide_true, if_true]
    rfl
  · simp only [same, decide_false, Bool.false_eq_true, if_false]
    rfl

end FolderRepository

end Narrative
