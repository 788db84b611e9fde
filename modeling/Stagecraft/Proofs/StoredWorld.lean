import Stagecraft.Proofs.StoredAction
import Stagecraft.Save.Load

/-!
# Stored worlds are read back

The stored form of a world is read as that world: verbs and properties come back into their tables,
and actors come back in the order in which they were added.
-/

namespace Stagecraft

/-! ## Tables and rosters from their entries -/

section Table

variable {κ ν : Type} [Ord κ]

/-- An entry with a key above all others is placed behind them. -/
theorem Table.place_last [Std.TransOrd κ] {key : κ} {value : ν} {entries : List (κ × ν)}
    (last : ∀ entry ∈ entries, compare entry.1 key = .lt) :
    place key value entries = entries ++ [(key, value)] := by
  induction entries with
  | nil => rfl
  | cons entry entries ih =>
    have above : compare key entry.1 = .gt :=
      Std.OrientedCmp.gt_of_lt (last entry (List.mem_cons_self ..))
    unfold place
    simp only [above]
    rw [ih fun other member => last other (List.mem_cons_of_mem _ member)]
    rfl

/-- A table is the table of its entries. -/
theorem Table.ofList_entries [Std.TransOrd κ] [Std.LawfulEqOrd κ] (t : Table κ ν) :
    ofList t.entries = t := by
  have fromHere : ∀ (rest : List (κ × ν)) (s : Table κ ν),
      (s.entries ++ rest).Pairwise (fun a b => compare a.1 b.1 = .lt) →
        (rest.foldl (fun t entry => t.insert entry.1 entry.2) s).entries = s.entries ++ rest := by
    intro rest
    induction rest with
    | nil => exact fun s _ => (List.append_nil s.entries).symm
    | cons entry rest ih =>
      intro s ascending
      have placed : (s.insert entry.1 entry.2).entries = s.entries ++ [entry] :=
        place_last fun other member =>
          (List.pairwise_append.mp ascending).2.2 other member entry (List.mem_cons_self ..)
      have moved : s.entries ++ entry :: rest = (s.insert entry.1 entry.2).entries ++ rest := by
        rw [placed, List.append_assoc]
        rfl
      rw [List.foldl_cons, ih _ (moved ▸ ascending), moved]
  exact Table.ext (fromHere t.entries empty t.ascending)

end Table

/-- The verbs of a table are put back into it. -/
theorem VerbTable.ofVerbs_toVerbs (t : VerbTable) : ofVerbs t.toVerbs = t := by
  have same : (toVerbs t).map (fun v => (v.key, v.script)) = t.entries := by
    simp [toVerbs, Function.comp_def]
  rw [ofVerbs, same, Table.ofList_entries]

/-- A new name is entered behind the others. -/
theorem Roster.enter_last {ν : Type} {name : String} {value : ν} {entries : List (String × ν)}
    (isNew : name ∉ entries.map (·.1)) : enter name value entries = entries ++ [(name, value)] := by
  induction entries with
  | nil => rfl
  | cons entry entries ih =>
    rw [List.map_cons, List.mem_cons, not_or] at isNew
    rw [enter, if_neg isNew.1, ih isNew.2]
    rfl

/-- A roster is the roster of its entries, in the same order. -/
theorem Roster.ofList_entries {ν : Type} (r : Roster ν) : ofList r.entries = r := by
  have fromHere : ∀ (rest : List (String × ν)) (s : Roster ν),
      ((s.entries ++ rest).map (·.1)).Nodup →
        (rest.foldl (fun r entry => r.insert entry.1 entry.2) s).entries = s.entries ++ rest := by
    intro rest
    induction rest with
    | nil => exact fun s _ => (List.append_nil s.entries).symm
    | cons entry rest ih =>
      intro s distinct
      have isNew : entry.1 ∉ s.entries.map (·.1) := by
        intro member
        rw [List.map_append, List.nodup_append] at distinct
        exact distinct.2.2 _ member _ (List.mem_cons_self ..) rfl
      have placed : (s.insert entry.1 entry.2).entries = s.entries ++ [entry] := enter_last isNew
      have moved : s.entries ++ entry :: rest = (s.insert entry.1 entry.2).entries ++ rest := by
        rw [placed, List.append_assoc]
        rfl
      rw [List.foldl_cons, ih _ (moved ▸ distinct), moved]
  exact Roster.ext (fromHere r.entries empty r.distinct)

open Ron Save

/-! ## The parts of a world -/

variable {bound : Nat}

theorem VerbTable.reads (small : bound ≤ nestingLimit) (t : VerbTable) :
    Reads bound (readVerbs .plain) (VerbTable.toTree t) t := by
  have verbs : Reads bound (readList (readVerb .plain)) (VerbTable.toTree t) t.toVerbs :=
    Reads.list _ fun v _ => v.reads fun a member =>
      (Action.reads_of_mem v.script.actions a member nestingLimit (Nat.le_refl _)).mono
        (by omega : bound - 2 - 6 ≤ nestingLimit)
  have read := verbs.andThen VerbTable.ofVerbs
  rw [t.ofVerbs_toVerbs] at read
  exact read

theorem readProperties_reads (t : Table String String) :
    Reads bound Definition.readProperties (textMap .text t.entries) t := by
  have entries : Reads bound (readMap readText) (textMap .text t.entries) t.entries :=
    Reads.map _ fun entry _ => Reads.text entry.2
  have read := entries.andThen Table.ofList
  rw [t.ofList_entries] at read
  exact read

theorem DialogOption.reads (o : DialogOption) :
    Reads bound (readDialogOption .plain) (.struct [("text", .text o.text),
      ("verb", optionText o.verb), ("once", .bool o.once), ("chosen", .bool o.chosen)]) o := by
  refine Reads.record rfl (by decide) (by simp) fun f within holds => ?_
  have text := holds.text "text" (s := o.text) rfl
  have verb := holds.optionText "verb" (o := o.verb) rfl
  have once := holds.bool "once" (b := o.once) rfl
  have chosen := holds.bool "chosen" (b := o.chosen) rfl
  simp only [text, verb, once, chosen, Option.bind_eq_bind, Option.bind_some]

theorem Dialog.reads (d : Dialog) : Reads bound (readDialog .plain) d.toTree d := by
  refine Reads.record rfl (by decide) (by simp) fun f within holds => ?_
  have id := holds.text "id" (s := d.id) rfl
  have options := holds.required within "options"
    (Reads.list d.options fun o _ => o.reads) rfl
  simp only [id, options, Option.bind_eq_bind, Option.bind_some]

theorem Sound.reads (s : Sound) : Reads bound (readSound .plain) s.toTree s := by
  refine Reads.record rfl (by decide) (by simp) fun f within holds => ?_
  have id := holds.text "id" (s := s.id) rfl
  have file := holds.text "file" (s := s.file) rfl
  have looping := holds.bool "looping" (b := s.looping) rfl
  have volume := holds.single "volume" (x := s.volume) rfl
  simp only [id, file, looping, volume, Option.bind_eq_bind, Option.bind_some]

theorem Polygon.reads (p : Polygon) :
    Reads bound (readRegion .plain) (.struct [("vertices", list Point.toTree p.vertices),
      ("position", p.position.toTree)]) p := by
  refine Reads.record rfl (by decide) (by simp) fun f within holds => ?_
  have vertices := holds.required within "vertices"
    (Reads.list p.vertices fun point _ => point.reads) rfl
  have position := holds.required within "position" p.position.reads rfl
  simp only [vertices, position, Option.bind_eq_bind, Option.bind_some]

theorem Actor.reads (small : bound ≤ nestingLimit) (a : Actor) :
    Reads bound (readActor .plain) a.toTree a := by
  refine Reads.record rfl (by decide) (by simp) fun f within holds => ?_
  have id := holds.text "id" (s := a.id) rfl
  have desc := holds.text "desc" (s := a.desc) rfl
  have scene := holds.optionText "scene" (o := a.scene) rfl
  have state := holds.optionText "state" (o := a.state) rfl
  have verbs := holds.required within "verbs" (VerbTable.reads (by omega) a.verbs) rfl
  have region := holds.required within "bbox" a.region.reads rfl
  have layer := holds.text "layer" (s := a.layer) rfl
  have zIndex := holds.single "z_index" (x := a.zIndex) rfl
  have visible := holds.bool "visible" (b := a.visible) rfl
  have interaction := holds.bool "interaction" (b := a.interaction) rfl
  have properties := holds.required within "properties" (readProperties_reads a.properties) rfl
  have dialogs := holds.required within "dialogs"
    (Reads.list a.dialogs fun d _ => d.reads) rfl
  have sounds := holds.required within "sounds"
    (Reads.list a.sounds fun s _ => s.reads) rfl
  have playingSound := holds.optionText "playing_sound" (o := a.playingSound) rfl
  have animation := holds.optionText "animation" (o := a.animation) rfl
  have playerInside := holds.bool "player_inside" (b := a.playerInside) rfl
  simp only [id, desc, scene, state, verbs, region, layer, zIndex, visible, interaction, properties,
    dialogs, sounds, playingSound, animation, playerInside, Option.bind_eq_bind, Option.bind_some]

theorem Layer.reads (l : Layer) : Reads bound (readLayer .plain) l.toTree l := by
  refine Reads.record rfl (by decide) (by simp) fun f within holds => ?_
  have name := holds.text "name" (s := l.name) rfl
  have visible := holds.bool "visible" (b := l.visible) rfl
  have dynamic := holds.bool "dynamic" (b := l.dynamic) rfl
  have actors := holds.required within "actors"
    (Reads.list l.actors fun name _ => Reads.text name) rfl
  simp only [name, visible, dynamic, actors, Option.bind_eq_bind, Option.bind_some]

theorem Scene.reads (small : bound ≤ nestingLimit) (s : Scene) :
    Reads bound (readScene .plain) s.toTree s := by
  refine Reads.record rfl (by decide) (by simp) fun f within holds => ?_
  have id := holds.text "id" (s := s.id) rfl
  have state := holds.optionText "state" (o := s.state) rfl
  have verbs := holds.required within "verbs" (VerbTable.reads (by omega) s.verbs) rfl
  have actors := holds.required within "actors"
    (Reads.map s.actors.entries fun entry _ => entry.2.reads (by omega)) rfl
  have layers := holds.required within "layers"
    (Reads.list s.layers fun l _ => l.reads) rfl
  have properties := holds.required within "properties" (readProperties_reads s.properties) rfl
  simp only [id, state, verbs, actors, layers, properties, Roster.ofList_entries,
    Option.bind_eq_bind, Option.bind_some]

theorem Handle.reads (h : Handle) :
    Reads bound (readHandle .plain)
      (.struct [("owner", h.owner.toTree), ("key", .struct h.key.toFields)]) h := by
  refine Reads.record rfl (by decide) (by simp) fun f within holds => ?_
  have owner := holds.required within "owner" h.owner.reads rfl
  have key := holds.required within "key" h.key.reads rfl
  simp only [owner, key, Option.bind_eq_bind, Option.bind_some]

theorem OpenDialog.reads (d : OpenDialog) : Reads bound (readOpenDialog .plain) d.toTree d := by
  refine Reads.record rfl (by decide) (by simp) fun f within holds => ?_
  have handle := holds.required within "handle" d.handle.reads rfl
  have scene := holds.text "scene" (s := d.scene) rfl
  have actor := holds.text "actor" (s := d.actor) rfl
  have dialog := holds.text "dialog" (s := d.dialog) rfl
  simp only [handle, scene, actor, dialog, Option.bind_eq_bind, Option.bind_some]

/-- A world is read back. -/
theorem World.reads (w : World) : Reads nestingLimit (readWorld .plain) w.toTree w := by
  refine Reads.record rfl (by decide) (by simp) fun f within holds => ?_
  have title := holds.text "title" (s := w.title) rfl
  have scenes := holds.required within "scenes"
    (Reads.map w.scenes.entries fun entry _ => entry.2.reads (by omega)) rfl
  have currentScene := holds.optionText "current_scene" (o := w.currentScene) rfl
  have player := holds.optionText "player" (o := w.player) rfl
  have state := holds.optionText "state" (o := w.state) rfl
  have verbs := holds.required within "verbs" (VerbTable.reads (by omega) w.verbs) rfl
  have properties := holds.required within "properties" (readProperties_reads w.properties) rfl
  have openDialog := holds.withDefault within "active_dialog" none
    (Reads.optionRecord (o := w.openDialog) "ActiveDialog" fun d _ => d.reads) rfl
  have elapsed := holds.required within "elapsed" (Reads.double w.elapsed) rfl
  have version := holds.text "version" (s := w.version) rfl
  simp only [title, scenes, currentScene, player, state, verbs, properties, openDialog, elapsed,
    version, Table.ofList_entries, Option.bind_eq_bind, Option.bind_some]

/-! ## What the stored form is made of -/

theorem VerbTable.plain_toTree (t : VerbTable) : (VerbTable.toTree t).Plain := by
  refine (plainAll_map _).mpr fun v _ => ?_
  simp +decide [Verb.toTree, Key.toFields, Node.struct, Node.Plain, Node.PlainFields,
    plain_optionText, v.script.plain_toTree]

theorem plain_properties (t : Table String String) : (textMap .text t.entries).Plain :=
  (plainEntries_map t.entries).mpr fun _ _ => trivial

theorem Dialog.plain_toTree (d : Dialog) : d.toTree.Plain := by
  simp +decide [Dialog.toTree, list, Node.struct, Node.Plain, Node.PlainFields, plainAll_map,
    plain_optionText, plain_bool]

theorem Sound.plain_toTree (s : Sound) : s.toTree.Plain := by
  simp +decide [Sound.toTree, Node.struct, Node.Plain, Node.PlainFields, plain_single, plain_bool]

theorem Actor.plain_toTree (a : Actor) : a.toTree.Plain := by
  simp +decide [Actor.toTree, list, Node.struct, Node.Plain, Node.PlainFields, plainAll_map,
    plain_optionText, plain_bool, plain_single, VerbTable.plain_toTree, Point.plain_toTree,
    plain_properties, Dialog.plain_toTree, Sound.plain_toTree]

theorem Layer.plain_toTree (l : Layer) : l.toTree.Plain := by
  simp +decide [Layer.toTree, list, Node.struct, Node.Plain, Node.PlainFields, plainAll_map,
    plain_bool]

theorem Scene.plain_toTree (s : Scene) : s.toTree.Plain := by
  have actors : (textMap Actor.toTree s.actors.entries).Plain :=
    (plainEntries_map s.actors.entries).mpr fun entry _ => entry.2.plain_toTree
  simp +decide [Scene.toTree, list, Node.struct, Node.Plain, Node.PlainFields, plainAll_map,
    plain_optionText, VerbTable.plain_toTree, plain_properties, Layer.plain_toTree, actors]

theorem OpenDialog.plain_toTree (d : OpenDialog) : d.toTree.Plain := by
  simp +decide [OpenDialog.toTree, Key.toFields, Node.struct, Node.Plain, Node.PlainFields,
    Owner.plain_toTree, plain_optionText]

theorem World.plain_toTree (w : World) : w.toTree.Plain := by
  have scenes : (textMap Scene.toTree w.scenes.entries).Plain :=
    (plainEntries_map w.scenes.entries).mpr fun entry _ => entry.2.plain_toTree
  simp +decide [World.toTree, Node.struct, Node.Plain, Node.PlainFields, plain_optionText,
    VerbTable.plain_toTree, plain_properties, plain_option OpenDialog.plain_toTree, scenes]

/-! ## Reading the text of a world -/

/-- The text under which a world is stored is read as that world, if it is not nested too deeply and
its numbers are read back. -/
theorem World.parse?_render {w : World} (shallow : w.toTree.levels ≤ nestingLimit)
    (numbers : ∀ n ∈ w.toTree.numbers, n.ReadsBack) :
    World.parse? w.toTree.render = some w := by
  obtain ⟨src, parsed, form⟩ := Document.parse?_render w.plain_toTree shallow
  have read := w.reads nestingLimit src (Nat.le_refl _) ⟨form, shallow, numbers⟩
  simp only [World.parse?, Document.read, parsed, Option.bind_some, read]

end Stagecraft
