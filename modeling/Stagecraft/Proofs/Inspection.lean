import Stagecraft.Proofs.Saving

/-!
# The list of saved games and the loader

The list of saved games looks into every file without running anything, and the loader takes the
world of one file up again.  The two agree: what makes a file unusable is found before anything is
run, and running the verbs that were stored between two actions does not change the version.
-/

namespace Stagecraft

/-! ## The version of a world that is played -/

theorem World.version_modifyVerbs (w : World) (owner : Owner) (change : VerbTable → VerbTable) :
    (w.modifyVerbs owner change).version = w.version := by
  cases owner <;> rfl

theorem World.version_modifyPlayer (w : World) (change : Actor → Actor) :
    (w.modifyPlayer change).version = w.version := by
  unfold modifyPlayer
  split <;> rfl

/-- No deed changes the version. -/
theorem Deed.version_apply (deed : Deed) (s : Stage) :
    (deed.apply s).world.version = s.world.version := by
  cases deed with
  | setState owner | setProperty owner => cases owner <;> rfl
  | install h | take h | putBack h => exact World.version_modifyVerbs ..
  | setPlayer actor =>
    exact (World.version_modifyPlayer ..).trans (World.version_modifyPlayer s.world _)
  | _ => rfl

/-- Whatever is done, the version stays. -/
theorem Stage.Course.version {driver : Option Handle} {s s' : Stage} {deeds : List Deed}
    {leaf : Leaf} (course : Course driver s deeds s' leaf) :
    s'.world.version = s.world.version := by
  rw [course.eq_applyAll]
  clear course
  induction deeds generalizing s with
  | nil => rfl
  | cons deed rest ih => exact (ih (s := deed.apply s)).trans (deed.version_apply s)

/-! ## The verbs that wait -/

namespace World

variable {w : World}

/-- The scripts of all verbs: those of the global table, of the scenes and of their actors. -/
def scripts (w : World) : List (Script Action) :=
  w.verbs.values ++ w.scenes.values.flatMap fun scene =>
    scene.verbs.values ++ scene.actors.values.flatMap (·.verbs.values)

/-- The handles of an owner's table lead to its scripts. -/
theorem map_script?_handlesOf {owner : Owner} {verbs : VerbTable}
    (present : w.verbs? owner = some verbs) :
    (handlesOf owner verbs).map w.script? = verbs.values.map some := by
  simp only [handlesOf, Table.keys, Table.values, List.map_map]
  refine List.map_congr_left fun entry member => ?_
  have found := (Table.get?_eq_some_iff verbs entry.1 entry.2).mpr member
  simp [script?, present, found]

/-- The handles of a scene lead to its scripts and those of its actors. -/
theorem Keyed.map_script?_sceneHandles (keyed : w.Keyed) {id : String} {scene : Scene}
    (present : w.scene? id = some scene) :
    (w.sceneHandles id).map w.script? =
      (scene.verbs.values ++ scene.actors.values.flatMap (·.verbs.values)).map some := by
  have own : w.verbs? (.scene id) = some scene.verbs := by simp [verbs?, present]
  simp only [sceneHandles, present, List.map_append, map_script?_handlesOf own, List.map_flatMap]
  congr 1
  refine List.flatMap_congr fun actor listed => ?_
  obtain ⟨⟨name, actor⟩, member, rfl⟩ := List.mem_map.mp listed
  have found := (Roster.get?_eq_some_iff scene.actors name actor).mpr member
  have sameName := (keyed id scene present).2 name actor found
  refine map_script?_handlesOf ?_
  simp only [sameName]
  simp [verbs?, actor?, present, Scene.actor?, found]

/-- In a keyed world every verb has one handle in the list of all. -/
theorem Keyed.map_script?_handles (keyed : w.Keyed) :
    w.handles.map w.script? = w.scripts.map some := by
  have global : w.verbs? .world = some w.verbs := rfl
  simp only [handles, scripts, List.map_append, map_script?_handlesOf global, Table.keys,
    Table.values, List.flatMap_map, List.map_flatMap]
  congr 1
  refine List.flatMap_congr fun entry member => ?_
  have present := (Table.get?_eq_some_iff w.scenes entry.1 entry.2).mpr member
  exact (keyed.map_script?_sceneHandles present).trans (by
    simp only [Table.values, List.map_append, List.map_flatMap])

end World

/-! ## Agreement -/

namespace Save

variable {folder path : String} {disk disk' : Disk}

/-- What is loaded from a file is told by what reading it gives. -/
theorem load_fst (path : String) (disk : Disk) :
    (load (m := StateM Disk) path disk).1 =
      match disk.readText path with
      | .error e => .error (.reading path e.message)
      | .ok text => loadText path text := by
  cases read : disk.readText path with
  | ok text => rw [load_eq read]
  | error e =>
    have asked : Storage.readText (m := StateM Disk) path disk = (.error e, disk) :=
      congrArg (·, disk) read
    unfold load
    rw [stepped, asked]
    rfl

/-- Looking into files leaves the disk as it is. -/
theorem inspectAll_eq (found : List Found) (disk : Disk) :
    inspectAll (m := StateM Disk) found disk =
      (found.map fun f => ⟨f, inspect (disk.readText f.path)⟩, disk) := by
  induction found with
  | nil => rfl
  | cons f rest ih =>
    have one : f.inspect (m := StateM Disk) disk =
        (⟨f, inspect (disk.readText f.path)⟩, disk) := rfl
    simp only [inspectAll, stepped, one, ih]
    rfl

/-- The saved games of a folder are those that its listing names. -/
theorem slots_eq (folder : String) (disk : Disk) :
    slots (m := StateM Disk) folder disk =
      (match disk.kind? folder with
        | none => .ok []
        | some _ =>
          match disk.list folder with
          | .error e => .error ⟨folder, e⟩
          | .ok entries => .ok
            ((entries.filterMap (Found.ofEntry? folder)).mergeSort fun a b => a.slot.le b.slot),
        disk) := by
  have asked : Storage.kind? (m := StateM Disk) folder disk = (disk.kind? folder, disk) := rfl
  have told : Storage.list (m := StateM Disk) folder disk = (disk.list folder, disk) := rfl
  simp only [slots, stepped, asked]
  cases disk.kind? folder with
  | none => rfl
  | some kind =>
    simp only [stepped, told]
    cases disk.list folder <;> rfl

/-- The list of saved games is that of the slots with what is found in their files. -/
theorem entries_eq (folder : String) (disk : Disk) :
    entries (m := StateM Disk) folder disk =
      ((slots (m := StateM Disk) folder disk).1.map fun found =>
        (found.map fun f => ⟨f, inspect (disk.readText f.path)⟩).mergeSort Entry.le,
        disk) := by
  have still : (slots (m := StateM Disk) folder disk).2 = disk := by rw [slots_eq]
  simp only [entries, stepped, still]
  cases (slots (m := StateM Disk) folder disk).1 with
  | error e => rfl
  | ok found =>
    simp only [stepped, inspectAll_eq]
    rfl

end Save

end Stagecraft
