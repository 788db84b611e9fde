import Stagecraft.Proofs.Rest
import Stagecraft.Proofs.StoredWorld
import Stagecraft.Save.Folder
import Stagecraft.Storage.Disk

/-!
# Saved games

What has been saved is loaded as it was.  A file that has been written holds its text, the text is
read as the world that was stored, and no verb of a world between two moves is between two actions,
so that taking up the world runs nothing.
-/

namespace Stagecraft

/-! ## Written files -/

namespace Disk

variable {d d' : Disk} {place other : Place} {item : DiskItem} {path text : String}

/-- The folder a program runs in and the root are folders. -/
theorem item?_root {root : Place} (isRoot : root = [] ∨ root = ["/"]) :
    d.item? root = some (.folder 0) := by
  unfold item?
  exact if_pos isRoot

/-- Putting something at one place leaves all others as they are. -/
theorem item?_put_of_ne (ne : other ≠ place) : (d.put place item).item? other = d.item? other := by
  have kept : ∀ items : List (Place × DiskItem),
      (items.filter (·.1 ≠ place)).lookup other = items.lookup other := by
    intro items
    induction items with
    | nil => rfl
    | cons entry rest ih =>
      rcases entry with ⟨here, found⟩
      by_cases same : here = place
      · subst same
        have apart : (other == here) = false := by simpa using ne
        simp only [ne_eq, not_true_eq_false, decide_false, Bool.false_eq_true, not_false_eq_true,
          List.filter_cons_of_neg, List.lookup_cons, apart]
        exact ih
      · rw [List.filter_cons_of_pos (by simpa using same), List.lookup_cons, List.lookup_cons, ih]
  have apart : (other == place) = false := by simpa using ne
  unfold item?
  split
  · rfl
  · simp only [put, List.lookup_append, kept, List.lookup_cons, apart, List.lookup_nil,
      Option.or_none]

/-- What has been put at a place is there, unless the place is that of a folder for good. -/
theorem item?_put_self (notRoot : ¬ (place = [] ∨ place = ["/"])) :
    (d.put place item).item? place = some item := by
  have gone : (d.items.filter (·.1 ≠ place)).lookup place = none := by
    rw [List.lookup_eq_none_iff]
    intro entry kept
    have ne : entry.1 ≠ place := by simpa using (List.mem_filter.mp kept).2
    simpa using ne.symm
  unfold item?
  rw [if_neg notRoot]
  simp only [put, List.lookup_append, gone, List.lookup_cons, beq_self_eq_true, Option.none_or]

/-- A path leads to the same place on every disk that has the folders on its way. -/
theorem follow_of_folders {start found : Place} {parts : List String}
    (kept : ∀ place time, d.item? place = some (.folder time) →
      d'.item? place = some (.folder time))
    (leads : d.follow start parts = .ok found) : d'.follow start parts = .ok found := by
  induction parts generalizing start with
  | nil => exact leads
  | cons name rest ih =>
    unfold follow at leads ⊢
    split at leads
    · cases leads
    · cases leads
    · next time isFolder =>
      rw [kept start time isFolder]
      simp only
      split at leads
      · next stays =>
        rw [if_pos stays]
        exact ih leads
      · next moves =>
        rw [if_neg moves]
        split at leads
        · next up =>
          rw [if_pos up]
          exact ih leads
        · next down =>
          rw [if_neg down]
          split at leads
          · cases leads
          · next short =>
            rw [if_neg short]
            exact ih leads

/-- A path that is followed is located alike on every disk that has the folders on its way. -/
theorem locate_of_folders
    (kept : ∀ place time, d.item? place = some (.folder time) →
      d'.item? place = some (.folder time))
    (located : d.locate path = .ok place) : d'.locate path = .ok place := by
  unfold locate at located ⊢
  split at located
  · cases located
  · next filled =>
    rw [if_neg filled]
    split at located
    · cases located
    · next clean =>
      rw [if_neg clean]
      exact follow_of_folders kept located

/-- Putting something where no folder is leaves all folders as they are. -/
theorem item?_put_of_folder (noFolder : ∀ time, d.item? place ≠ some (.folder time)) {time : Int}
    (isFolder : d.item? other = some (.folder time)) :
    (d.put place item).tick.item? other = some (.folder time) := by
  have ne : other ≠ place := by
    rintro rfl
    exact noFolder time isFolder
  exact (item?_put_of_ne ne).trans isFolder

/-- A file that is put where no folder is can be found under its path. -/
theorem find_put {time : Int} (located : d.locate path = .ok place)
    (noFolder : ∀ time, d.item? place ≠ some (.folder time)) :
    (d.put place (.file (some text) time)).tick.find path =
      .ok (place, .file (some text) time) := by
  have same : (d.put place (.file (some text) time)).tick.locate path = .ok place :=
    locate_of_folders (fun _ _ => item?_put_of_folder noFolder) located
  have notRoot : ¬ (place = [] ∨ place = ["/"]) := fun isRoot => noFolder 0 (item?_root isRoot)
  have there : (d.put place (.file (some text) time)).tick.item? place =
      some (.file (some text) time) := item?_put_self notRoot
  simp only [find, same, there]

/-- A file that has been written was put at the place that its path leads to. -/
theorem exists_put_of_writeText (written : d.writeText path text = .ok d') :
    ∃ place, d.locate path = .ok place ∧ (∀ time, d.item? place ≠ some (.folder time)) ∧
      d' = (d.put place (.file (some text) d.clock)).tick := by
  unfold writeText at written
  split at written
  · cases written
  · next place located =>
    split at written
    · cases written
    · next isFile =>
      cases written
      exact ⟨place, located, by simp [isFile], rfl⟩
    · next time absent _ =>
      cases written
      exact ⟨place, located, by simp [absent], rfl⟩
    · cases written

/-- A file that has been written holds its text. -/
theorem readText_writeText (written : d.writeText path text = .ok d') :
    d'.readText path = .ok text := by
  obtain ⟨place, located, noFolder, rfl⟩ := exists_put_of_writeText written
  simp only [readText, find_put located noFolder]

end Disk

/-! ## Taking up a world -/

/-- A verb that is not between two actions is left where it is. -/
theorem Stage.foldl_reenterVerb_eq {s : Stage} (perform : Performer) (handles : List Handle)
    (settled : ∀ h script, s.world.script? h = some script → ¬ script.IsBetween) :
    handles.foldl (Stage.reenterVerb perform) s = s := by
  induction handles with
  | nil => rfl
  | cons h rest ih =>
    have stays : s.reenterVerb perform h = s := by
      rw [Stage.reenterVerb_eq]
      cases found : s.world.script? h with
      | none => rfl
      | some script => exact if_neg (settled h script found)
    rw [List.foldl_cons, stays, ih]

/-- A valid world without a verb between two actions is taken up as it is. -/
theorem Stage.restore_eq {s : Stage} (valid : s.world.verbError? = none)
    (settled : ∀ h script, s.world.script? h = some script → ¬ script.IsBetween) (depth : Nat) :
    s.restore depth = .ok s := by
  unfold Stage.restore
  rw [valid]
  exact congrArg Except.ok (Stage.foldl_reenterVerb_eq _ _ settled)

/-! ## Saved games -/

namespace Save

variable {folder slot path : String} {disk disk' : Disk}

/-- A step on a disk goes on with what it answers, on the disk that it leaves. -/
theorem stepped {α β : Type} (x : StateM Disk α) (f : α → StateM Disk β) (d : Disk) :
    (x >>= f) d = f (x d).1 (x d).2 := rfl

/-- A game that has been saved was written into the file of its slot. -/
theorem exists_writeText_of_save {w : World}
    (saved : save (m := StateM Disk) w folder slot disk = (.ok path, disk')) :
    path = pathOf folder slot ∧
      ∃ created : Disk, created.writeText path w.toTree.render = .ok disk' := by
  unfold save World.saveText? at saved
  cases deep : w.toTree.levelsAfter Ron.nestingLimit with
  | none =>
    rw [deep] at saved
    cases saved
  | some levels =>
    simp only [deep, Option.map_some, stepped] at saved
    rcases made : Storage.createFolders (m := StateM Disk) folder disk with ⟨_ | _, created⟩
    · rw [made] at saved
      cases saved
    · rw [made] at saved
      have wrote : Storage.writeText (m := StateM Disk) (pathOf folder slot) w.toTree.render
          created = Disk.change (·.writeText (pathOf folder slot) w.toTree.render) created := rfl
      cases written : created.writeText (pathOf folder slot) w.toTree.render with
      | error reason =>
        simp only [stepped, wrote, Disk.change, written] at saved
        cases saved
      | ok after =>
        simp only [stepped, wrote, Disk.change, written] at saved
        cases saved
        exact ⟨rfl, created, written⟩

/-- The text of a saved world is in the file whose path has been answered. -/
theorem readText_save {w : World}
    (saved : save (m := StateM Disk) w folder slot disk = (.ok path, disk')) :
    disk'.readText path = .ok w.toTree.render := by
  obtain ⟨-, created, written⟩ := exists_writeText_of_save saved
  exact Disk.readText_writeText written

/-- What is loaded is told by the text of the file. -/
theorem load_eq {text : String} (read : disk.readText path = .ok text) :
    load (m := StateM Disk) path disk = (loadText path text, disk) := by
  have asked : Storage.readText (m := StateM Disk) path disk = (.ok text, disk) :=
    congrArg (·, disk) read
  unfold load
  rw [stepped, asked]
  rfl

end Save

/-- The text of a valid world without a verb between two actions is taken up as that world. -/
theorem loadText_render {w : World} (valid : w.verbError? = none)
    (settled : ∀ h script, w.script? h = some script → ¬ script.IsBetween)
    (shallow : w.toTree.levels ≤ Ron.nestingLimit) (numbers : ∀ n ∈ w.toTree.numbers, n.ReadsBack)
    (path : String) : loadText path w.toTree.render = .ok (Stage.ofWorld w) := by
  unfold loadText
  rw [World.parse?_render shallow numbers]
  exact congrArg (Except.mapError (LoadError.restoring path))
    (Stage.restore_eq (s := Stage.ofWorld w) valid settled _)

/-- A game that is saved between two moves is loaded as it was.  The stage has the world that was
saved, and nothing has been run to take it up: no verb of that world is between two actions.  What
is asked of the notation is that the text of each number of the world is read as that number, which
fails for a "not a number" with more bits set than the notation can tell, and that the world is
nested no deeper than readers go. -/
theorem Stage.Opening.load_save {s : Stage} (opening : s.Opening) (moves : List (Move × Nat))
    {folder slot path : String} {disk disk' : Disk}
    (valid : (s.play moves).world.verbError? = none)
    (saved : Save.save (m := StateM Disk) (s.play moves).world folder slot disk =
      (.ok path, disk'))
    (numbers : ∀ n ∈ (s.play moves).world.toTree.numbers, n.ReadsBack)
    (shallow : (s.play moves).world.toTree.levels ≤ Ron.nestingLimit) :
    Save.load (m := StateM Disk) path disk' = (.ok (Stage.ofWorld (s.play moves).world), disk') ∧
      ∀ h script, (s.play moves).world.script? h = some script → ¬ script.IsBetween := by
  obtain ⟨_, sound⟩ := opening.soundBut
  obtain ⟨deeds, course⟩ := s.play_course moves
  have settled : ∀ h script, (s.play moves).world.script? h = some script →
      ¬ script.IsBetween := fun h script found => (course.soundBut sound h script found).2
  constructor
  · rw [Save.load_eq (Save.readText_save saved)]
    exact congrArg (·, disk') (loadText_render valid settled shallow numbers path)
  · exact settled

/-- A world in which a verb is in the middle of a pause. -/
def World.landing : World :=
  { World.empty with
    title := "Landing"
    verbs := VerbTable.ofVerbs
      [⟨⟨"pause", none, none⟩, ⟨[.wait ⟨0x3f800000⟩ ⟨0x3f000000⟩], some 0, true⟩⟩,
        ⟨⟨"knock", none, none⟩, .ofActions [.setState .world (some "open")]⟩]
    elapsed := ⟨0x3fe0000000000000⟩ }

theorem World.landing_parsed : World.parse? World.landing.toTree.render = some .landing :=
  World.parse?_render (by decide +kernel) (by decide +kernel)

theorem World.landing_keyed : World.landing.Keyed := by
  intro id scene found
  cases found

theorem World.landing_taken (path : String) :
    loadText path World.landing.toTree.render = .ok (Stage.ofWorld .landing) := by
  unfold loadText
  rw [World.landing_parsed]
  rfl

theorem World.landing_opening : (Stage.ofWorld .landing).Opening :=
  .loaded .standard World.landing_parsed World.landing_keyed (World.landing_taken "landing")

/-- On the landing somebody knocks, the game is saved and loaded, and the pause can go on. -/
theorem World.landing_loads :
    ∃ disk, Save.save (m := StateM Disk)
        ((Stage.ofWorld .landing).play [(.runVerb .world "knock" none, 1)]).world "saves" "one"
        (.empty 0) = (.ok "saves/one-tableau-0.1.0.ron", disk) ∧
      Save.load (m := StateM Disk) "saves/one-tableau-0.1.0.ron" disk =
        (.ok (Stage.ofWorld
          ((Stage.ofWorld .landing).play [(.runVerb .world "knock" none, 1)]).world), disk) := by
  have saved : Save.save (m := StateM Disk)
      ((Stage.ofWorld .landing).play [(.runVerb .world "knock" none, 1)]).world "saves" "one"
      (.empty 0) = (.ok "saves/one-tableau-0.1.0.ron", _) := rfl
  exact ⟨_, saved, (World.landing_opening.load_save _ (by decide +kernel) saved
    (by decide +kernel) (by decide +kernel)).1⟩

end Stagecraft
