import Narrative.Disk
import Narrative.Proofs.SortedMap

/-!
# Files in a folder

A path into a folder is followed to the folder first, and then to the name in it. A file that is put
there is seen under its own path only, and no folder that was found before is lost by it.
-/

namespace Narrative.Disk

variable {disk : Disk} {here place target : List String} {folder name : String}

/-- What is put under a path stands there. -/
theorem item?_put_self (below : target ≠ []) (item : DiskItem) :
    (disk.put target item).item? target = some item := by
  unfold item? put
  rw [if_neg below, SortedMap.get?_insert_self]

/-- What is put under a path is not seen under any other. -/
theorem item?_put_of_ne (other : place ≠ target) (item : DiskItem) :
    (disk.put target item).item? place = disk.item? place := by
  unfold item? put
  rw [SortedMap.get?_insert_of_ne _ _ other]

/-- A slash ends a piece. -/
theorem pieces_slash (rest : List Char) : pieces ('/' :: rest) = [] :: pieces rest := by
  rw [pieces, if_pos rfl]

/-- Any other character goes to the first piece. -/
theorem pieces_cons {c : Char} (other : c ≠ '/') {rest first : List Char}
    {others : List (List Char)} (split : pieces rest = first :: others) :
    pieces (c :: rest) = (c :: first) :: others := by
  rw [pieces, if_neg other, split]

/-- There is at least one piece. -/
theorem pieces_eq_cons (path : List Char) : ∃ first others, pieces path = first :: others := by
  induction path with
  | nil => exact ⟨[], [], rfl⟩
  | cons c rest ih =>
    obtain ⟨first, others, split⟩ := ih
    by_cases slash : c = '/'
    · subst slash
      exact ⟨_, _, pieces_slash rest⟩
    · exact ⟨_, _, pieces_cons slash split⟩

/-- A slash separates pieces. -/
theorem pieces_append (before after : List Char) :
    pieces (before ++ '/' :: after) = pieces before ++ pieces after := by
  induction before with
  | nil => exact pieces_slash after
  | cons c rest ih =>
    by_cases slash : c = '/'
    · subst slash
      rw [List.cons_append, pieces_slash, ih, pieces_slash, List.cons_append]
    · obtain ⟨first, others, split⟩ := pieces_eq_cons rest
      rw [split, List.cons_append] at ih
      rw [List.cons_append, pieces_cons slash ih, pieces_cons slash split, List.cons_append]

/-- What has no slash is one piece. -/
theorem pieces_of_not_mem {path : List Char} (whole : '/' ∉ path) : pieces path = [path] := by
  induction path with
  | nil => rfl
  | cons c rest ih =>
    have other : c ≠ '/' := fun slash => whole (slash ▸ List.mem_cons_self)
    exact pieces_cons other (ih fun later => whole (List.mem_cons_of_mem c later))

/-- A name after a slash is followed last. -/
theorem namesOf_append (base : String) (whole : '/' ∉ name.toList) :
    namesOf (base ++ "/" ++ name) = namesOf base ++ [name] := by
  have slash : "/".toList = ['/'] := rfl
  unfold namesOf
  rw [String.toList_append, String.toList_append, slash, List.append_assoc, List.singleton_append,
    pieces_append, pieces_of_not_mem whole, List.map_append, List.map_singleton,
    String.ofList_toList]

/-- A slash at the end of a path stands for one more name, which is empty. -/
theorem namesOf_slash (base : String) : namesOf (base ++ "/") = namesOf base ++ [""] := by
  have whole : '/' ∉ "".toList := nofun
  have appended := namesOf_append base whole
  rwa [String.append_empty] at appended

/-- A path goes on from where it starts. -/
theorem origin_append (real : folder ≠ "") (more : String) :
    disk.origin (folder ++ more) = disk.origin folder := by
  unfold origin
  rw [String.toList_append]
  cases characters : folder.toList with
  | nil => exact absurd (String.toList_eq_nil_iff.1 characters) real
  | cons c rest => rfl

/-- A name is joined to a folder by one slash. -/
theorem join_eq (real : folder ≠ "") (whole : '/' ∉ name.toList) :
    ∃ base, join folder name = base ++ "/" ++ name ∧ (folder = base ∨ folder = base ++ "/") := by
  have relative : name.toList.head? ≠ some '/' := fun leads =>
    whole (List.mem_of_head? leads)
  unfold join
  rw [if_neg relative]
  by_cases closed : folder.toList.getLast? = some '/'
  · obtain ⟨characters, split⟩ := List.getLast?_eq_some_iff.1 closed
    have path : folder = String.ofList characters ++ "/" := by
      rw [← String.toList_inj, String.toList_append, String.toList_ofList, split]
      rfl
    refine ⟨String.ofList characters, ?_, .inr path⟩
    rw [if_pos (.inr closed), ← path]
  · exact ⟨folder, if_neg (not_or.2 ⟨real, closed⟩), .inl rfl⟩

/-- From a folder a name is a step. -/
theorem follow_cons (stands : disk.item? here = some .folder) (name : String)
    (rest : List String) :
    disk.follow here (name :: rest) = step here name >>= fun next => disk.follow next rest := by
  rw [follow, stands]

/-- A path is followed in two parts. -/
theorem follow_append (names more : List String) :
    disk.follow here (names ++ more) =
      disk.follow here names >>= fun place => disk.follow place more := by
  induction names generalizing here with
  | nil => rfl
  | cons name rest ih =>
    rw [List.cons_append]
    cases stands : disk.item? here with
    | none => simp only [follow, stands]; rfl
    | some item =>
      cases item with
      | file text => simp only [follow, stands]; rfl
      | folder =>
        rw [follow_cons stands, follow_cons stands, bind_assoc]
        exact congrArg _ (funext fun _ => ih)

/-- In a folder one more name is a step. -/
theorem follow_singleton (stands : disk.item? place = some .folder) (name : String) :
    disk.follow place [name] = step place name := by
  rw [follow_cons stands]
  exact bind_pure (step place name)

/-- A path leads to a place if it passes, is not empty and is followed there. -/
theorem locate_eq_ok {path : String} : disk.locate path = .ok place ↔
    checkPath path = .ok () ∧ path ≠ "" ∧
      disk.follow (disk.origin path) (namesOf path) = .ok place := by
  unfold locate
  cases passes : checkPath path with
  | error cause =>
    constructor
    · exact nofun
    · exact fun ⟨passed, _⟩ => nomatch passed
  | ok checked =>
    dsimp only [bind, Except.bind]
    by_cases real : path = ""
    · rw [if_pos real]
      exact ⟨nofun, fun ⟨_, named, _⟩ => absurd real named⟩
    · rw [if_neg real]
      exact ⟨fun followed => ⟨rfl, real, followed⟩, fun ⟨_, _, followed⟩ => followed⟩

/-- An empty name in front of another changes nothing. -/
theorem follow_blank (place : List String) (name : String) :
    (disk.follow place [""] >>= fun place => disk.follow place [name]) =
      disk.follow place [name] := by
  cases stands : disk.item? place with
  | none => simp only [follow, stands]; rfl
  | some item =>
    cases item with
    | file text => simp only [follow, stands]; rfl
    | folder =>
      rw [follow_singleton stands, show step place "" = .ok place from rfl]
      rfl

/-- A path that passes has no beginning that does not. -/
theorem checkPath_of_append {first second : String}
    (passes : checkPath (first ++ second) = .ok ()) : checkPath first = .ok () := by
  unfold checkPath at passes ⊢
  split at passes
  · cases passes
  · next clean =>
    split at passes
    · cases passes
    · next short =>
      rw [String.toList_append] at clean
      rw [String.utf8ByteSize_append] at short
      rw [if_neg fun member => clean (List.mem_append_left _ member), if_neg (by omega)]

/-- A path into a folder leads where the name leads to from the folder. -/
theorem locate_join (disk : Disk) (real : folder ≠ "") (whole : '/' ∉ name.toList)
    (passes : checkPath (join folder name) = .ok ()) :
    disk.locate (join folder name) =
      disk.locate folder >>= fun place => disk.follow place [name] := by
  obtain ⟨base, joined, path⟩ := join_eq real whole
  have followed (here : List String) : disk.follow here (namesOf (join folder name)) =
      disk.follow here (namesOf folder) >>= fun place => disk.follow place [name] := by
    rw [joined, namesOf_append base whole, follow_append]
    obtain rfl | rfl := path
    · rfl
    · -- A folder with a slash at its end has one more name, which stays.
      rw [namesOf_slash, follow_append, bind_assoc]
      exact congrArg _ (funext fun place => (follow_blank place name).symm)
  obtain ⟨more, longer⟩ : ∃ more, join folder name = folder ++ more := by
    obtain rfl | rfl := path
    · exact ⟨"/" ++ name, joined.trans String.append_assoc⟩
    · exact ⟨name, joined⟩
  have named : join folder name ≠ "" := by
    rw [longer]
    exact fun empty => real (String.append_eq_empty_iff.1 empty).1
  have folderPasses : checkPath folder = .ok () := checkPath_of_append (longer ▸ passes)
  unfold locate
  rw [passes, folderPasses, if_neg named, if_neg real, followed, longer, origin_append real]
  rfl

/-- A name leads into the folder it is in, if it is none of those that stay or lead back and not too
long. -/
theorem step_of_name (proper : name ∉ ["", ".", ".."])
    (short : name.utf8ByteSize ≤ longestName) (place : List String) :
    step place name = .ok (place ++ [name]) := by
  have stays : ¬(name = "" ∨ name = ".") := by
    rintro (rfl | rfl)
    · exact proper (.head _)
    · exact proper (.tail _ (.head _))
  have leadsBack : name ≠ ".." := by
    rintro rfl
    exact proper (.tail _ (.tail _ (.head _)))
  unfold step
  rw [if_neg stays, if_neg leadsBack, if_neg (Nat.not_lt.2 short)]

/-- A path under which there is nothing cannot be followed, or leads to a place without an item. -/
theorem absent_cases (absent : disk.contains folder = .ok false) :
    disk.locate folder = .error .missing ∨
      ∃ place, disk.locate folder = .ok place ∧ disk.item? place = none := by
  unfold contains at absent
  split at absent
  · next missing => exact .inl missing
  · cases absent
  · next place located =>
    have nothing := Option.isSome_eq_false_iff.1 (Except.ok.inj absent)
    exact .inr ⟨place, located, Option.isNone_iff_eq_none.1 nothing⟩

/-- Nothing is found in a folder that is not there. -/
theorem locate_join_of_absent (real : folder ≠ "") (whole : '/' ∉ name.toList)
    (passes : checkPath (join folder name) = .ok ())
    (absent : disk.contains folder = .ok false) :
    disk.locate (join folder name) = .error .missing := by
  rw [locate_join disk real whole passes]
  obtain missing | ⟨place, located, nothing⟩ := absent_cases absent
  · rw [missing]
    rfl
  · rw [located]
    change disk.follow place [name] = _
    rw [follow, nothing]

/-- Nothing is listed in a folder that is not there. -/
theorem names_of_absent (absent : disk.contains folder = .ok false) :
    disk.names folder = .error .missing := by
  unfold names
  obtain missing | ⟨place, located, nothing⟩ := absent_cases absent
  · rw [missing]
    rfl
  · rw [located]
    dsimp only [bind, Except.bind]
    rw [nothing]

/-- A path that leads to a folder at a place. -/
structure Leads (disk : Disk) (folder : String) (place : List String) : Prop where
  /-- It leads to the place. -/
  located : disk.locate folder = .ok place
  /-- A folder stands there. -/
  stands : disk.item? place = some .folder

/-- What can be listed is a folder. -/
theorem leads_of_names {names : List String} (listed : disk.names folder = .ok names) :
    ∃ place, disk.Leads folder place := by
  unfold Disk.names at listed
  cases located : disk.locate folder with
  | error cause =>
    rw [located] at listed
    cases listed
  | ok place =>
    rw [located] at listed
    dsimp only [bind, Except.bind] at listed
    split at listed
    · cases listed
    · cases listed
    · next stands => exact ⟨place, located, stands⟩

/-- What has been followed to a folder started in one. -/
theorem stands_of_follow {names : List String} (followed : disk.follow here names = .ok place)
    (stands : disk.item? place = some .folder) : disk.item? here = some .folder := by
  cases names with
  | nil => exact Except.ok.inj followed ▸ stands
  | cons name rest =>
    unfold follow at followed
    split at followed
    · cases followed
    · cases followed
    · assumption

/-- An item that takes the place of no folder is in nobody's way. -/
theorem follow_put (free : disk.item? target ≠ some .folder) (item : DiskItem)
    {names : List String} (followed : disk.follow here names = .ok place) :
    (disk.put target item).follow here names = .ok place := by
  induction names generalizing here with
  | nil => exact followed
  | cons name rest ih =>
    unfold follow at followed
    split at followed
    · cases followed
    · cases followed
    · next stands =>
      have apart : here ≠ target := by
        rintro rfl
        exact free stands
      rw [follow_cons ((item?_put_of_ne apart item).trans stands)]
      cases stepped : step here name with
      | error cause =>
        rw [stepped] at followed
        cases followed
      | ok next =>
        rw [stepped] at followed
        exact ih followed

namespace Leads

/-- A name in a folder is found in the folder. -/
theorem locate_join (leads : disk.Leads folder place) (whole : '/' ∉ name.toList)
    (passes : checkPath (join folder name) = .ok ()) (proper : name ∉ ["", ".", ".."])
    (short : name.utf8ByteSize ≤ longestName) :
    disk.locate (join folder name) = .ok (place ++ [name]) := by
  obtain ⟨-, real, -⟩ := locate_eq_ok.1 leads.located
  rw [Disk.locate_join disk real whole passes, leads.located]
  exact (follow_singleton leads.stands name).trans (step_of_name proper short place)

/-- A folder is found where it was after an item took the place of none. -/
theorem put (leads : disk.Leads folder place) (free : disk.item? target ≠ some .folder)
    (item : DiskItem) : (disk.put target item).Leads folder place where
  located := by
    obtain ⟨passes, real, followed⟩ := locate_eq_ok.1 leads.located
    exact locate_eq_ok.2 ⟨passes, real, follow_put free item followed⟩
  stands := by
    have apart : place ≠ target := by
      rintro rfl
      exact free leads.stands
    rw [item?_put_of_ne apart]
    exact leads.stands

/-- A folder that is there need not be made. -/
theorem makeFolders (leads : disk.Leads folder place) : disk.makeFolders folder = .ok disk := by
  have made : ∀ (names : List String) (here : List String),
      disk.follow here names = .ok place → disk.makeFoldersFrom here names = .ok disk := by
    intro names
    induction names with
    | nil => exact fun _ _ => rfl
    | cons name rest ih =>
      intro here followed
      rw [follow_cons (stands_of_follow followed leads.stands)] at followed
      rw [makeFoldersFrom]
      cases stepped : step here name with
      | error cause =>
        rw [stepped] at followed
        cases followed
      | ok next =>
        rw [stepped] at followed
        change disk.follow next rest = .ok place at followed
        dsimp only [bind, Except.bind]
        rw [stands_of_follow followed leads.stands]
        exact ih next followed
  obtain ⟨passes, -, followed⟩ := locate_eq_ok.1 leads.located
  unfold Disk.makeFolders
  rw [passes]
  exact made _ _ followed

/-- A folder lists the names under which items stand in it. -/
theorem names (leads : disk.Leads folder place) :
    ∃ names, disk.names folder = .ok names ∧
      ∀ name, name ∈ names ↔ (disk.item? (place ++ [name])).isSome = true := by
  refine ⟨disk.items.keys.filterMap (nameIn? place), ?_, fun name => ?_⟩
  · unfold Disk.names
    rw [leads.located]
    dsimp only [bind, Except.bind]
    rw [leads.stands]
  · have named : ∀ other, nameIn? place other = some name ↔ other = place ++ [name] := by
      intro other
      unfold nameIn?
      constructor
      · intro found
        split at found
        · next within =>
          obtain ⟨folders, split⟩ := List.getLast?_eq_some_iff.1 found
          rw [split, List.dropLast_concat] at within
          rw [split, within]
        · cases found
      · rintro rfl
        rw [List.dropLast_concat, if_pos rfl, List.getLast?_concat]
    have below : place ++ [name] ≠ [] := List.append_ne_nil_of_right_ne_nil place nofun
    unfold item?
    rw [if_neg below, List.mem_filterMap]
    constructor
    · rintro ⟨other, member, found⟩
      rw [named] at found
      subst found
      exact SortedMap.mem_keys_iff.1 member
    · intro there
      exact ⟨_, SortedMap.mem_keys_iff.2 there, (named _).2 rfl⟩

end Leads

end Narrative.Disk
