/-!
# Rosters

A roster is a finite map from names that remembers the order in which the names were added.  Giving
a name a new value leaves it at its place, and taking a name away leaves the others in order.
-/

namespace Stagecraft

variable {ν : Type}

/-- A finite map from names, listed in the order in which the names were added. -/
structure Roster (ν : Type) where
  entries : List (String × ν)
  distinct : (entries.map (·.1)).Nodup

namespace Roster

@[ext] theorem ext {r s : Roster ν} (same : r.entries = s.entries) : r = s := by
  cases r; cases s; simp_all

/-- The roster without names. -/
def empty : Roster ν := ⟨[], .nil⟩

instance : EmptyCollection (Roster ν) := ⟨empty⟩

instance : Inhabited (Roster ν) := ⟨empty⟩

/-- The names, oldest first. -/
def names (r : Roster ν) : List String := r.entries.map (·.1)

/-- The values in the order of their names. -/
def values (r : Roster ν) : List ν := r.entries.map (·.2)

/-- The value that a list of entries gives to a name. -/
def find (name : String) : List (String × ν) → Option ν
  | [] => none
  | (n, v) :: rest => if name = n then some v else find name rest

/-- The value of a name. -/
def get? (r : Roster ν) (name : String) : Option ν := find name r.entries

/-- Whether a name is on the roster. -/
def contains (r : Roster ν) (name : String) : Bool := (r.get? name).isSome

/-- Give a name a value in a list of entries, at its place or else at the end. -/
def enter (name : String) (value : ν) : List (String × ν) → List (String × ν)
  | [] => [(name, value)]
  | (n, v) :: rest => if name = n then (n, value) :: rest else (n, v) :: enter name value rest

/-- The names after an entry are the old ones, and the new one at the end if it was not there. -/
theorem map_fst_enter (name : String) (value : ν) (entries : List (String × ν)) :
    (enter name value entries).map (·.1) =
      if name ∈ entries.map (·.1) then entries.map (·.1) else entries.map (·.1) ++ [name] := by
  induction entries with
  | nil => simp [enter]
  | cons head rest ih =>
    obtain ⟨n, v⟩ := head
    unfold enter
    by_cases same : name = n
    · simp [same]
    · simp only [same, if_false, List.map_cons, ih, List.mem_cons, false_or]
      split <;> simp

/-- Give a name a value, at its place if it is on the roster and else at the end. -/
def insert (r : Roster ν) (name : String) (value : ν) : Roster ν where
  entries := enter name value r.entries
  distinct := by
    rw [map_fst_enter]
    split
    · exact r.distinct
    · next fresh =>
      rw [List.nodup_append]
      exact ⟨r.distinct, by simp, by grind⟩

/-- Take a name off the roster. -/
def erase (r : Roster ν) (name : String) : Roster ν where
  entries := r.entries.filter fun entry => name ≠ entry.1
  distinct := by
    have := r.distinct
    rw [List.Nodup, List.pairwise_map] at this ⊢
    exact this.filter _

/-- Change the value of a name, if it is on the roster. -/
def modify (r : Roster ν) (name : String) (change : ν → ν) : Roster ν where
  entries := r.entries.map fun entry =>
    if name = entry.1 then (entry.1, change entry.2) else entry
  distinct := by
    have same : (r.entries.map fun entry =>
        if name = entry.1 then (entry.1, change entry.2) else entry).map (·.1) =
          r.entries.map (·.1) := by
      rw [List.map_map]
      refine List.map_congr_left fun entry _ => ?_
      simp only [Function.comp]
      split <;> rfl
    rw [same]
    exact r.distinct

/-- The roster of a list of entries; of several with one name the last counts, at the place of the
first. -/
def ofList (entries : List (String × ν)) : Roster ν :=
  entries.foldl (fun r entry => r.insert entry.1 entry.2) empty

/-! ## Looking up after a change -/

@[simp] theorem get?_empty (name : String) : (empty : Roster ν).get? name = none := rfl

/-- An inserted name has the inserted value, and no other name is touched. -/
theorem get?_insert (r : Roster ν) (name name' : String) (value : ν) :
    (r.insert name value).get? name' = if name' = name then some value else r.get? name' := by
  unfold get? insert
  simp only
  induction r.entries with
  | nil => simp [enter, find]
  | cons head rest ih =>
    obtain ⟨n, v⟩ := head
    unfold enter
    by_cases same : name = n
    · subst same
      by_cases hit : name' = name <;> simp [find, hit]
    · by_cases hit : name' = n
      · subst hit
        simp [same, find, Ne.symm same]
      · simp [same, find, hit, ih]

/-- An erased name has no value, and no other name is touched. -/
theorem get?_erase (r : Roster ν) (name name' : String) :
    (r.erase name).get? name' = if name' = name then none else r.get? name' := by
  unfold get? erase
  simp only
  induction r.entries with
  | nil => simp [find]
  | cons head rest ih =>
    obtain ⟨n, v⟩ := head
    by_cases same : name = n
    · subst same
      by_cases hit : name' = name <;> simp_all [find]
    · by_cases hit : name' = n
      · subst hit
        simp [same, find, Ne.symm same]
      · simp_all [find]

/-- Changing a value changes what its name gives, and no other name is touched. -/
theorem get?_modify (r : Roster ν) (name name' : String) (change : ν → ν) :
    (r.modify name change).get? name' =
      if name' = name then (r.get? name').map change else r.get? name' := by
  unfold get? modify
  simp only
  induction r.entries with
  | nil => simp [find]
  | cons head rest ih =>
    obtain ⟨n, v⟩ := head
    by_cases same : name = n
    · subst same
      by_cases hit : name' = name <;> simp_all [find]
    · by_cases hit : name' = n
      · subst hit
        simp [same, find, Ne.symm same]
      · simp_all [find]

/-- Changing a value leaves the names and their order alone. -/
@[simp] theorem names_modify (r : Roster ν) (name : String) (change : ν → ν) :
    (r.modify name change).names = r.names := by
  simp only [names, modify, List.map_map]
  refine List.map_congr_left fun entry _ => ?_
  simp only [Function.comp]
  split <;> rfl

end Roster

end Stagecraft
