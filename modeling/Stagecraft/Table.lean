/-!
# Sorted tables

A table is a finite map kept as the list of its entries, with strictly ascending keys.  The order is
part of the type, so two tables with the same entries are equal, and listing a table needs no
sorting.
-/

namespace Stagecraft

variable {κ ν : Type} [Ord κ]

/-- A finite map as the list of its entries in strictly ascending order of their keys. -/
structure Table (κ : Type) (ν : Type) [Ord κ] where
  entries : List (κ × ν)
  ascending : entries.Pairwise fun a b => compare a.1 b.1 = .lt

namespace Table

@[ext] theorem ext {s t : Table κ ν} (same : s.entries = t.entries) : s = t := by
  cases s; cases t; simp_all

/-- The table without entries. -/
def empty : Table κ ν := ⟨[], .nil⟩

instance : EmptyCollection (Table κ ν) := ⟨empty⟩

instance : Inhabited (Table κ ν) := ⟨empty⟩

/-- The keys in ascending order. -/
def keys (t : Table κ ν) : List κ := t.entries.map (·.1)

/-- The values in the order of their keys. -/
def values (t : Table κ ν) : List ν := t.entries.map (·.2)

/-- The number of entries. -/
def size (t : Table κ ν) : Nat := t.entries.length

/-- The value that a list of entries gives to a key. -/
def lookup (key : κ) : List (κ × ν) → Option ν
  | [] => none
  | (k, v) :: rest => if compare key k = .eq then some v else lookup key rest

/-- The value of a key. -/
def get? (t : Table κ ν) (key : κ) : Option ν := lookup key t.entries

/-- Whether a key has a value. -/
def contains (t : Table κ ν) (key : κ) : Bool := (t.get? key).isSome

/-- Put an entry at its place in an ascending list, in place of one with the same key. -/
def place (key : κ) (value : ν) : List (κ × ν) → List (κ × ν)
  | [] => [(key, value)]
  | (k, v) :: rest =>
    match compare key k with
    | .lt => (key, value) :: (k, v) :: rest
    | .eq => (key, value) :: rest
    | .gt => (k, v) :: place key value rest

/-- Every entry of a placed list is the new one or an old one. -/
theorem mem_of_mem_place {key : κ} {value : ν} {entry : κ × ν} {entries : List (κ × ν)}
    (member : entry ∈ place key value entries) : entry = (key, value) ∨ entry ∈ entries := by
  induction entries with
  | nil => simpa [place] using member
  | cons head rest ih =>
    obtain ⟨k, v⟩ := head
    unfold place at member
    split at member <;> grind

/-- Placing keeps the keys ascending. -/
theorem pairwise_place [Std.TransOrd κ] [Std.LawfulEqOrd κ] (key : κ) (value : ν)
    {entries : List (κ × ν)}
    (ascending : entries.Pairwise fun a b => compare a.1 b.1 = .lt) :
    (place key value entries).Pairwise fun a b => compare a.1 b.1 = .lt := by
  induction entries with
  | nil => simp [place]
  | cons head rest ih =>
    obtain ⟨k, v⟩ := head
    obtain ⟨above, tail⟩ := List.pairwise_cons.mp ascending
    unfold place
    split
    · next below =>
      refine List.pairwise_cons.mpr ⟨?_, ascending⟩
      intro entry member
      rcases List.mem_cons.mp member with rfl | later
      · exact below
      · exact Std.TransCmp.lt_trans below (above entry later)
    · next same =>
      refine List.pairwise_cons.mpr ⟨?_, tail⟩
      intro entry member
      rw [Std.LawfulEqCmp.eq_of_compare same]
      exact above entry member
    · next greater =>
      refine List.pairwise_cons.mpr ⟨?_, ih tail⟩
      intro entry member
      rcases mem_of_mem_place member with rfl | old
      · exact Std.OrientedCmp.lt_of_gt greater
      · exact above entry old

/-- Give a key a value, in place of the one it had. -/
def insert [Std.TransOrd κ] [Std.LawfulEqOrd κ] (t : Table κ ν) (key : κ) (value : ν) :
    Table κ ν :=
  ⟨place key value t.entries, pairwise_place key value t.ascending⟩

/-- Take the value of a key away. -/
def erase (t : Table κ ν) (key : κ) : Table κ ν :=
  ⟨t.entries.filter fun entry => compare key entry.1 != .eq, t.ascending.filter _⟩

/-- Give a key a value, or take its value away. -/
def set [Std.TransOrd κ] [Std.LawfulEqOrd κ] (t : Table κ ν) (key : κ) : Option ν → Table κ ν
  | some value => t.insert key value
  | none => t.erase key

/-- Change the value of a key, if it has one. -/
def modify (t : Table κ ν) (key : κ) (change : ν → ν) : Table κ ν where
  entries := t.entries.map fun entry =>
    if compare key entry.1 = .eq then (entry.1, change entry.2) else entry
  ascending := by
    refine List.pairwise_map.mpr (t.ascending.imp ?_)
    intro a b below
    split <;> split <;> exact below

/-- The table of a list of entries; of several with one key the last counts. -/
def ofList [Std.TransOrd κ] [Std.LawfulEqOrd κ] (entries : List (κ × ν)) : Table κ ν :=
  entries.foldl (fun t entry => t.insert entry.1 entry.2) empty

/-! ## Looking up after a change -/

@[simp] theorem get?_empty (key : κ) : (empty : Table κ ν).get? key = none := rfl

private theorem lookup_place [Std.TransOrd κ] [Std.LawfulEqOrd κ] (key key' : κ) (value : ν)
    (entries : List (κ × ν)) :
    lookup key' (place key value entries) =
      if compare key' key = .eq then some value else lookup key' entries := by
  induction entries with
  | nil => simp [place, lookup]
  | cons head rest ih =>
    obtain ⟨k, v⟩ := head
    unfold place
    split
    · simp [lookup]
    · next same =>
      obtain rfl := Std.LawfulEqCmp.eq_of_compare same
      by_cases hit : compare key' key = .eq <;> simp [lookup, hit]
    · next greater =>
      have apart : ∀ x, compare x key = .eq → compare x k ≠ .eq := by
        intro x first second
        obtain rfl := Std.LawfulEqCmp.eq_of_compare first
        simp [greater] at second
      by_cases hit : compare key' key = .eq
      · simp [lookup, hit, apart key' hit, ih]
      · simp [lookup, hit, ih]

/-- An inserted key has the inserted value, and no other key is touched. -/
theorem get?_insert [Std.TransOrd κ] [Std.LawfulEqOrd κ] (t : Table κ ν) (key key' : κ)
    (value : ν) :
    (t.insert key value).get? key' = if compare key' key = .eq then some value else t.get? key' :=
  lookup_place key key' value t.entries

@[simp] theorem get?_insert_self [Std.TransOrd κ] [Std.LawfulEqOrd κ] (t : Table κ ν) (key : κ)
    (value : ν) : (t.insert key value).get? key = some value := by
  simp [get?_insert]

private theorem lookup_filter [Std.TransOrd κ] [Std.LawfulEqOrd κ] (key key' : κ)
    (entries : List (κ × ν)) :
    lookup key' (entries.filter fun entry => compare key entry.1 != .eq) =
      if compare key' key = .eq then none else lookup key' entries := by
  induction entries with
  | nil => simp [lookup]
  | cons head rest ih =>
    obtain ⟨k, v⟩ := head
    by_cases same : compare key k = .eq
    · obtain rfl := Std.LawfulEqCmp.eq_of_compare same
      by_cases hit : compare key' key = .eq <;> simp_all [lookup]
    · by_cases hit : compare key' k = .eq
      · obtain rfl := Std.LawfulEqCmp.eq_of_compare hit
        have : compare key' key ≠ .eq := fun h => same (by
          rw [Std.LawfulEqCmp.eq_of_compare h]; exact Std.ReflCmp.compare_self)
        simp [lookup, same, this]
      · simp [lookup, same, hit, ih]

/-- An erased key has no value, and no other key is touched. -/
theorem get?_erase [Std.TransOrd κ] [Std.LawfulEqOrd κ] (t : Table κ ν) (key key' : κ) :
    (t.erase key).get? key' = if compare key' key = .eq then none else t.get? key' :=
  lookup_filter key key' t.entries

/-- Changing a value changes what its key gives, and no other key is touched. -/
theorem get?_modify [Std.TransOrd κ] [Std.LawfulEqOrd κ] (t : Table κ ν) (key key' : κ)
    (change : ν → ν) :
    (t.modify key change).get? key' =
      if compare key' key = .eq then (t.get? key').map change else t.get? key' := by
  unfold get? modify
  simp only
  induction t.entries with
  | nil => simp [lookup]
  | cons head rest ih =>
    obtain ⟨k, v⟩ := head
    by_cases same : compare key k = .eq
    · obtain rfl := Std.LawfulEqCmp.eq_of_compare same
      by_cases hit : compare key' key = .eq <;> simp_all [lookup]
    · by_cases hit : compare key' k = .eq
      · obtain rfl := Std.LawfulEqCmp.eq_of_compare hit
        have : compare key' key ≠ .eq := fun h => same (by
          rw [Std.LawfulEqCmp.eq_of_compare h]; exact Std.ReflCmp.compare_self)
        simp [lookup, same, this]
      · simp only [List.map_cons, lookup, same, hit, if_false]
        exact ih

end Table

end Stagecraft
