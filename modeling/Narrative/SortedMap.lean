/-!
# Finite maps in key order

A sorted map holds its entries in strictly increasing key order. Every traversal is therefore
in key order whatever order the entries were inserted in, and a map is determined by its
look-ups. A sorted set is a sorted map without values.
-/

namespace Narrative

/-- Entries in strictly increasing key order. -/
structure SortedMap (κ ν : Type) [Ord κ] where
  /-- The entries, smallest key first. -/
  toList : List (κ × ν)
  /-- Each key precedes every later one. -/
  increasing : toList.Pairwise fun left right => compare left.1 right.1 = .lt
  deriving DecidableEq

namespace SortedMap

variable {κ ν μ : Type} [Ord κ]

/-- The value of a key in a list of entries: that of its first occurrence. -/
def lookup (key : κ) : List (κ × ν) → Option ν
  | [] => none
  | (other, value) :: rest => if compare key other = .eq then some value else lookup key rest

/-- Insertion into an ordered list of entries; a key that is present gets the new value. -/
def insertInto (key : κ) (value : ν) : List (κ × ν) → List (κ × ν)
  | [] => [(key, value)]
  | (other, previous) :: rest =>
    match compare key other with
    | .lt => (key, value) :: (other, previous) :: rest
    | .eq => (key, value) :: rest
    | .gt => (other, previous) :: insertInto key value rest

/-- Every entry after an insertion is the new one or was there before. -/
theorem mem_insertInto {key : κ} {value : ν} {entries : List (κ × ν)} {entry : κ × ν}
    (member : entry ∈ insertInto key value entries) : entry = (key, value) ∨ entry ∈ entries := by
  induction entries with
  | nil => simpa [insertInto] using member
  | cons head rest ih =>
    obtain ⟨other, previous⟩ := head
    simp only [insertInto] at member
    split at member
    · simpa using member
    · rcases List.mem_cons.1 member with rfl | member
      · exact .inl rfl
      · exact .inr (List.mem_cons_of_mem _ member)
    · rcases List.mem_cons.1 member with rfl | member
      · exact .inr (List.mem_cons_self ..)
      · exact (ih member).imp_right (List.mem_cons_of_mem _)

/-- Insertion keeps the entries in strictly increasing key order. -/
theorem insertInto_increasing [Std.TransOrd κ] [Std.LawfulEqOrd κ] (key : κ) (value : ν)
    {entries : List (κ × ν)}
    (increasing : entries.Pairwise fun left right => compare left.1 right.1 = .lt) :
    (insertInto key value entries).Pairwise fun left right => compare left.1 right.1 = .lt := by
  induction entries with
  | nil => simp [insertInto]
  | cons head rest ih =>
    obtain ⟨other, previous⟩ := head
    obtain ⟨before, later⟩ := List.pairwise_cons.1 increasing
    simp only [insertInto]
    split
    · next less =>
      refine List.pairwise_cons.2 ⟨fun entry member => ?_, increasing⟩
      rcases List.mem_cons.1 member with rfl | member
      · exact less
      · exact Std.TransCmp.lt_trans less (before entry member)
    · next equal =>
      obtain rfl := Std.LawfulEqCmp.eq_of_compare equal
      exact List.pairwise_cons.2 ⟨before, later⟩
    · next greater =>
      refine List.pairwise_cons.2 ⟨fun entry member => ?_, ih later⟩
      rcases mem_insertInto member with rfl | member
      · exact Std.OrientedCmp.gt_iff_lt.1 greater
      · exact before entry member

/-- The map without entries. -/
def empty : SortedMap κ ν := ⟨[], .nil⟩

instance : EmptyCollection (SortedMap κ ν) := ⟨empty⟩

instance : Inhabited (SortedMap κ ν) := ⟨empty⟩

/-- The value of a key. -/
def get? (map : SortedMap κ ν) (key : κ) : Option ν := lookup key map.toList

/-- Whether a key has a value. -/
def contains (map : SortedMap κ ν) (key : κ) : Bool := (map.get? key).isSome

/-- Give a key a value, replacing the one it has. -/
def insert [Std.TransOrd κ] [Std.LawfulEqOrd κ] (map : SortedMap κ ν) (key : κ) (value : ν) :
    SortedMap κ ν :=
  ⟨insertInto key value map.toList, insertInto_increasing key value map.increasing⟩

/-- The map of a list of entries; of two entries with one key the later one counts. -/
def ofList [Std.TransOrd κ] [Std.LawfulEqOrd κ] (entries : List (κ × ν)) : SortedMap κ ν :=
  entries.foldl (fun map entry => map.insert entry.1 entry.2) empty

/-- The keys, smallest first. -/
def keys (map : SortedMap κ ν) : List κ := map.toList.map Prod.fst

/-- The values, in the order of their keys. -/
def values (map : SortedMap κ ν) : List ν := map.toList.map Prod.snd

/-- Change every value and keep its key. -/
def mapWithKey (change : κ → ν → μ) (map : SortedMap κ ν) : SortedMap κ μ :=
  ⟨map.toList.map fun entry => (entry.1, change entry.1 entry.2),
    List.pairwise_map.2 map.increasing⟩

/-- Change every value, whatever its key. -/
def map (change : ν → μ) (source : SortedMap κ ν) : SortedMap κ μ :=
  source.mapWithKey fun _ => change

/-- Change the value of one key, if it has one. -/
def modify [Std.TransOrd κ] [Std.LawfulEqOrd κ] (map : SortedMap κ ν) (key : κ)
    (change : ν → ν) : SortedMap κ ν :=
  match map.get? key with
  | some value => map.insert key (change value)
  | none => map

/-- Look-up in an ordered list of entries after an insertion. -/
theorem lookup_insertInto [Std.TransOrd κ] [Std.LawfulEqOrd κ] (key wanted : κ) (value : ν)
    (entries : List (κ × ν)) :
    lookup wanted (insertInto key value entries) =
      if compare wanted key = .eq then some value else lookup wanted entries := by
  induction entries with
  | nil => rfl
  | cons head rest ih =>
    obtain ⟨other, previous⟩ := head
    simp only [insertInto]
    split
    · simp [lookup]
    · next equal =>
      obtain rfl := Std.LawfulEqCmp.eq_of_compare equal
      simp only [lookup]
      split <;> rfl
    · next greater =>
      simp only [lookup, ih]
      split
      · next same =>
        obtain rfl := Std.LawfulEqCmp.eq_of_compare same
        have less := Std.OrientedCmp.gt_iff_lt.1 greater
        simp [less]
      · rfl

/-- An insertion is seen at its key and nowhere else. -/
theorem get?_insert [Std.TransOrd κ] [Std.LawfulEqOrd κ] (map : SortedMap κ ν)
    (key wanted : κ) (value : ν) :
    (map.insert key value).get? wanted =
      if compare wanted key = .eq then some value else map.get? wanted :=
  lookup_insertInto key wanted value map.toList

@[simp]
theorem get?_empty (key : κ) : (empty : SortedMap κ ν).get? key = none := rfl

end SortedMap

/-- A finite set, traversed in increasing order. -/
abbrev SortedSet (κ : Type) [Ord κ] := SortedMap κ Unit

namespace SortedSet

variable {κ : Type} [Ord κ] [Std.TransOrd κ] [Std.LawfulEqOrd κ]

/-- Add a member. -/
def add (set : SortedSet κ) (member : κ) : SortedSet κ := SortedMap.insert set member ()

/-- The set of the members of a list. -/
def ofMembers (members : List κ) : SortedSet κ := members.foldl add SortedMap.empty

/-- The members, smallest first. -/
def members (set : SortedSet κ) : List κ := SortedMap.keys set

end SortedSet

end Narrative
