import Narrative.SortedMap

/-!
# Look-ups in finite maps

A finite map is known by its look-ups: what an insertion and a change of one value do to them,
and which entries its list has.
-/

namespace Narrative.SortedMap

variable {κ ν : Type} [Ord κ] [Std.TransOrd κ] [Std.LawfulEqOrd κ]

/-- An inserted key has the inserted value. -/
@[simp]
theorem get?_insert_self (map : SortedMap κ ν) (key : κ) (value : ν) :
    (map.insert key value).get? key = some value := by
  rw [get?_insert, if_pos Std.ReflCmp.compare_self]

/-- An insertion is not seen at any other key. -/
theorem get?_insert_of_ne (map : SortedMap κ ν) {key wanted : κ} (value : ν)
    (other : wanted ≠ key) : (map.insert key value).get? wanted = map.get? wanted := by
  rw [get?_insert, if_neg]
  exact fun equal => other (Std.LawfulEqCmp.eq_of_compare equal)

/-- A change of one value is seen at its key. -/
@[simp]
theorem get?_modify_self (map : SortedMap κ ν) (key : κ) (change : ν → ν) :
    (map.modify key change).get? key = (map.get? key).map change := by
  unfold modify
  split
  · next value found => rw [get?_insert_self, found, Option.map_some]
  · next missing => rw [missing, Option.map_none]

/-- A change of one value is not seen at any other key. -/
theorem get?_modify_of_ne (map : SortedMap κ ν) {key wanted : κ} (change : ν → ν)
    (other : wanted ≠ key) : (map.modify key change).get? wanted = map.get? wanted := by
  unfold modify
  split
  · exact get?_insert_of_ne map _ other
  · rfl

/-- A change of one value, at any key. -/
theorem get?_modify [DecidableEq κ] (map : SortedMap κ ν) (key wanted : κ) (change : ν → ν) :
    (map.modify key change).get? wanted =
      (map.get? wanted).map fun value => if wanted = key then change value else value := by
  by_cases same : wanted = key
  · subst same
    simp
  · simp [get?_modify_of_ne map change same, same]

/-- A change of one value keeps the keys. -/
@[simp]
theorem contains_modify (map : SortedMap κ ν) (key wanted : κ) (change : ν → ν) :
    (map.modify key change).contains wanted = map.contains wanted := by
  unfold contains
  by_cases same : compare wanted key = .eq
  · obtain rfl := Std.LawfulEqCmp.eq_of_compare same
    rw [get?_modify_self, Option.isSome_map]
  · rw [get?_modify_of_ne]
    rintro rfl
    exact same Std.ReflCmp.compare_self

/-- An insertion takes no key away. -/
theorem contains_insert (map : SortedMap κ ν) (key : κ) (value : ν) {wanted : κ}
    (member : map.contains wanted = true) : (map.insert key value).contains wanted = true := by
  unfold contains
  by_cases same : wanted = key
  · subst same
    rw [get?_insert_self]
    rfl
  · rwa [get?_insert_of_ne map value same]

omit [Std.TransOrd κ] in
/-- What a look-up in a list finds is an entry. -/
theorem mem_of_lookup {entries : List (κ × ν)} {key : κ} {value : ν}
    (found : lookup key entries = some value) : (key, value) ∈ entries := by
  induction entries with
  | nil => cases found
  | cons head rest ih =>
    unfold lookup at found
    split at found
    · next same =>
      obtain rfl := Std.LawfulEqCmp.eq_of_compare same
      obtain rfl := Option.some.inj found
      exact List.mem_cons_self
    · exact List.mem_cons_of_mem _ (ih found)

omit [Std.TransOrd κ] in
/-- What a look-up finds is an entry. -/
theorem mem_of_get? {map : SortedMap κ ν} {key : κ} {value : ν}
    (found : map.get? key = some value) : (key, value) ∈ map.toList :=
  mem_of_lookup found

/-- An entry is what a look-up of its key finds. -/
theorem get?_of_mem {map : SortedMap κ ν} {key : κ} {value : ν}
    (member : (key, value) ∈ map.toList) : map.get? key = some value := by
  obtain ⟨entries, increasing⟩ := map
  change (key, value) ∈ entries at member
  change lookup key entries = some value
  induction entries with
  | nil => cases member
  | cons head rest ih =>
    obtain ⟨before, later⟩ := List.pairwise_cons.1 increasing
    unfold lookup
    obtain rfl | further := List.mem_cons.1 member
    · exact if_pos Std.ReflCmp.compare_self
    · have greater : compare key head.1 = .gt :=
        Std.OrientedCmp.gt_iff_lt.2 (before _ further)
      rw [if_neg (by simp [greater])]
      exact ih later further

/-- A key is there exactly if it is the key of some entry. -/
theorem mem_keys_iff {map : SortedMap κ ν} {key : κ} :
    key ∈ map.keys ↔ map.contains key = true := by
  unfold contains
  rw [Option.isSome_iff_exists]
  constructor
  · intro member
    obtain ⟨entry, there, rfl⟩ := List.mem_map.1 member
    exact ⟨entry.2, get?_of_mem there⟩
  · rintro ⟨value, found⟩
    exact List.mem_map_of_mem (mem_of_get? found)

omit [Std.LawfulEqOrd κ] in
/-- No key is there twice. -/
theorem keys_nodup (map : SortedMap κ ν) : map.keys.Nodup := by
  refine List.pairwise_map.2 (map.increasing.imp fun {left right} before same => ?_)
  have equal : compare left.1 right.1 = .eq := same ▸ Std.ReflCmp.compare_self
  rw [equal] at before
  cases before

omit [Std.TransOrd κ] [Std.LawfulEqOrd κ] in
/-- Each key precedes every later one. -/
theorem keys_increasing (map : SortedMap κ ν) :
    map.keys.Pairwise fun left right => compare left right = .lt :=
  List.pairwise_map.2 map.increasing

/-- Maps with the same keys list them in the same order. -/
theorem keys_congr {μ : Type} {left : SortedMap κ ν} {right : SortedMap κ μ}
    (same : ∀ key, left.contains key = right.contains key) : left.keys = right.keys := by
  have members : ∀ key, key ∈ left.keys ↔ key ∈ right.keys := fun key => by
    rw [mem_keys_iff, mem_keys_iff, same]
  refine List.Perm.eq_of_pairwise (fun first second _ _ before after => ?_)
    left.keys_increasing right.keys_increasing
    ((List.perm_ext_iff_of_nodup left.keys_nodup right.keys_nodup).2 members)
  rw [Std.OrientedCmp.gt_iff_lt.2 after] at before
  cases before

/-- The keys of a list are those of the map that is built from it. -/
theorem contains_ofList {entries : List (κ × ν)} {key : κ} (member : key ∈ entries.map Prod.fst) :
    (ofList entries).contains key = true := by
  -- Folding over the list never removes a key.
  have folded : ∀ (rest : List (κ × ν)) (map : SortedMap κ ν),
      key ∈ rest.map Prod.fst ∨ map.contains key = true →
        (rest.foldl (fun map entry => map.insert entry.1 entry.2) map).contains key = true := by
    intro rest
    induction rest with
    | nil => exact fun _ there => there.resolve_left List.not_mem_nil
    | cons head rest ih =>
      intro map there
      refine ih _ ?_
      by_cases same : key = head.1
      · right
        unfold contains
        rw [same, get?_insert_self]
        rfl
      · refine there.imp (fun member => (List.mem_cons.1 member).resolve_left same) fun there => ?_
        unfold contains at there ⊢
        rwa [get?_insert_of_ne _ _ same]
  exact folded entries empty (.inl member)

/-- The entries of a map that was built from a list are among those of the list. -/
theorem mem_of_mem_ofList {entries : List (κ × ν)} {entry : κ × ν}
    (member : entry ∈ (ofList entries).toList) : entry ∈ entries := by
  -- Folding over the list only ever adds its entries to those that are already there.
  have folded : ∀ (rest : List (κ × ν)) (map : SortedMap κ ν),
      entry ∈ (rest.foldl (fun map entry => map.insert entry.1 entry.2) map).toList →
        entry ∈ rest ∨ entry ∈ map.toList := by
    intro rest
    induction rest with
    | nil => exact fun _ member => .inr member
    | cons head rest ih =>
      intro map member
      obtain later | earlier := ih _ member
      · exact .inl (List.mem_cons_of_mem _ later)
      · obtain rfl | before := mem_insertInto earlier
        · exact .inl List.mem_cons_self
        · exact .inr before
  exact (folded entries empty member).resolve_right List.not_mem_nil

omit [Std.TransOrd κ] [Std.LawfulEqOrd κ] in
/-- A map is known by its entries. -/
theorem eq_of_toList {left right : SortedMap κ ν} (same : left.toList = right.toList) :
    left = right := by
  cases left
  cases right
  cases same
  rfl

/-- An entry that is there already is inserted where it is. -/
theorem insertInto_of_lookup {entries : List (κ × ν)} {key : κ} {value : ν}
    (increasing : entries.Pairwise fun left right => compare left.1 right.1 = .lt)
    (found : lookup key entries = some value) : insertInto key value entries = entries := by
  induction entries with
  | nil => cases found
  | cons head rest ih =>
    obtain ⟨other, previous⟩ := head
    obtain ⟨before, later⟩ := List.pairwise_cons.1 increasing
    unfold lookup at found
    unfold insertInto
    split at found
    · next same =>
      obtain rfl := Option.some.inj found
      obtain rfl := Std.LawfulEqCmp.eq_of_compare same
      rw [same]
    · -- The key is found past the head, so it cannot come before it.
      have greater : compare key other = .gt :=
        Std.OrientedCmp.gt_iff_lt.2 (before _ (mem_of_lookup found))
      rw [greater]
      exact congrArg _ (ih later found)

/-- A change that leaves the value of a key as it is leaves the map as it is. -/
theorem modify_of_fixed {map : SortedMap κ ν} {key : κ} {value : ν} {change : ν → ν}
    (found : map.get? key = some value) (fixed : change value = value) :
    map.modify key change = map := by
  unfold modify
  rw [found]
  exact eq_of_toList (insertInto_of_lookup map.increasing (by rw [fixed]; exact found))

omit [Std.TransOrd κ] in
/-- Of two insertions at one key the later one counts. -/
theorem insertInto_insertInto (key : κ) (first second : ν) (entries : List (κ × ν)) :
    insertInto key second (insertInto key first entries) = insertInto key second entries := by
  induction entries with
  | nil => simp [insertInto]
  | cons head rest ih =>
    obtain ⟨other, previous⟩ := head
    cases order : compare key other with
    | lt => simp [insertInto, order]
    | eq => simp [insertInto, order]
    | gt => simp [insertInto, order, ih]

/-- Of two changes that give one key its value the later one counts. -/
theorem modify_modify {map : SortedMap κ ν} {key : κ} {first second both : ν → ν}
    (same : ∀ value, second (first value) = both value) :
    (map.modify key first).modify key second = map.modify key both := by
  cases found : map.get? key with
  | none =>
    have missing (change : ν → ν) : map.modify key change = map := by
      unfold modify
      rw [found]
    rw [missing, missing, missing]
  | some value =>
    have placed : (map.modify key first).get? key = some (first value) := by
      rw [get?_modify_self, found, Option.map_some]
    unfold modify at placed ⊢
    rw [found] at placed ⊢
    dsimp only at placed ⊢
    rw [placed]
    dsimp only
    rw [same]
    exact eq_of_toList (insertInto_insertInto key (first value) (both value) map.toList)

omit [Std.LawfulEqOrd κ] in
/-- A key past all others is inserted at the end. -/
theorem insertInto_of_lt {key : κ} (value : ν) {entries : List (κ × ν)}
    (past : ∀ entry ∈ entries, compare entry.1 key = .lt) :
    insertInto key value entries = entries ++ [(key, value)] := by
  induction entries with
  | nil => rfl
  | cons head rest ih =>
    have greater : compare key head.1 = .gt :=
      Std.OrientedCmp.gt_iff_lt.2 (past head List.mem_cons_self)
    have later := ih fun entry member => past entry (List.mem_cons_of_mem _ member)
    simp only [insertInto, greater, later, List.cons_append]

/-- The map that is built from the entries of a map is that map. -/
theorem ofList_toList (map : SortedMap κ ν) : ofList map.toList = map := by
  -- What was inserted so far comes before what is still to be inserted.
  have folded : ∀ (rest : List (κ × ν)) (built : SortedMap κ ν),
      (built.toList ++ rest).Pairwise (fun left right => compare left.1 right.1 = .lt) →
        (rest.foldl (fun map entry => map.insert entry.1 entry.2) built).toList =
          built.toList ++ rest := by
    intro rest
    induction rest with
    | nil => exact fun built _ => (List.append_nil _).symm
    | cons head rest ih =>
      intro built increasing
      have past : ∀ entry ∈ built.toList, compare entry.1 head.1 = .lt := fun entry member =>
        (List.pairwise_append.1 increasing).2.2 entry member head List.mem_cons_self
      have inserted : (built.insert head.1 head.2).toList = built.toList ++ [head] :=
        insertInto_of_lt head.2 past
      have split : built.toList ++ head :: rest = (built.insert head.1 head.2).toList ++ rest := by
        rw [inserted, List.append_assoc, List.singleton_append]
      rw [split] at increasing ⊢
      exact ih _ increasing
  exact eq_of_toList (folded map.toList empty map.increasing)

omit [Std.TransOrd κ] [Std.LawfulEqOrd κ] in
/-- A key has its changed value. -/
@[simp]
theorem get?_map {μ : Type} (map : SortedMap κ ν) (change : ν → μ) (key : κ) :
    (map.map change).get? key = (map.get? key).map change := by
  obtain ⟨entries, increasing⟩ := map
  change lookup key (entries.map fun entry => (entry.1, change entry.2)) =
    (lookup key entries).map change
  clear increasing
  induction entries with
  | nil => rfl
  | cons head rest ih =>
    unfold lookup
    rw [List.map_cons]
    dsimp only
    split
    · rfl
    · exact ih

omit [Std.TransOrd κ] [Std.LawfulEqOrd κ] in
/-- An entry may be changed before it is inserted or after that. -/
theorem insertInto_map {μ : Type} (change : ν → μ) (key : κ) (value : ν)
    (entries : List (κ × ν)) :
    (insertInto key value entries).map (fun entry => (entry.1, change entry.2)) =
      insertInto key (change value) (entries.map fun entry => (entry.1, change entry.2)) := by
  induction entries with
  | nil => rfl
  | cons head rest ih =>
    obtain ⟨other, previous⟩ := head
    rw [List.map_cons]
    unfold insertInto
    dsimp only
    cases compare key other with
    | lt => rfl
    | eq => rfl
    | gt => exact congrArg _ ih

/-- A value that the change makes the same as the one before cannot be told apart from it. -/
theorem map_insert_of_same {μ : Type} {map : SortedMap κ ν} {key : κ} {previous value : ν}
    {change : ν → μ} (found : map.get? key = some previous)
    (same : change value = change previous) :
    (map.insert key value).map change = map.map change := by
  refine eq_of_toList ((insertInto_map change key value map.toList).trans ?_)
  have changed : (map.map change).get? key = some (change value) := by
    rw [get?_map, found, same]
    rfl
  exact insertInto_of_lookup (map.map change).increasing changed

omit [Std.TransOrd κ] [Std.LawfulEqOrd κ] in
/-- A change that leaves every value as it is leaves the map as it is. -/
theorem map_of_fixed {map : SortedMap κ ν} {change : ν → ν}
    (fixed : ∀ entry ∈ map.toList, change entry.2 = entry.2) : map.map change = map := by
  refine eq_of_toList ((List.map_congr_left fun entry member => ?_).trans (List.map_id _))
  exact Prod.ext rfl (fixed entry member)

end Narrative.SortedMap

namespace Narrative.SortedSet

variable {κ : Type} [Ord κ] [Std.TransOrd κ] [Std.LawfulEqOrd κ]

/-- The members of a set that is built from a list are those of the list. -/
theorem contains_ofMembers (members : List κ) (member : κ) :
    (ofMembers members).contains member = true ↔ member ∈ members := by
  have added : ∀ (rest : List κ) (set : SortedSet κ),
      (rest.foldl add set).contains member = true ↔
        member ∈ rest ∨ set.contains member = true := by
    intro rest
    induction rest with
    | nil => exact fun set => (or_iff_right List.not_mem_nil).symm
    | cons head rest ih =>
      intro set
      have one : (add set head).contains member = true ↔
          member = head ∨ set.contains member = true := by
        unfold SortedMap.contains add
        by_cases same : member = head
        · subst same
          rw [SortedMap.get?_insert_self]
          exact iff_of_true rfl (.inl rfl)
        · rw [SortedMap.get?_insert_of_ne _ _ same]
          exact (or_iff_right same).symm
      rw [List.foldl_cons, ih, one, List.mem_cons, ← or_assoc, or_comm (a := member ∈ rest)]
  exact (added members SortedMap.empty).trans (or_iff_left nofun)

end Narrative.SortedSet
