import Stagecraft.Proofs.Decoding
import Stagecraft.Save.Decode
import Stagecraft.Save.Encode

/-!
# Stored scripts are read back

The stored form of an action is read as that action with its progress, and the stored form of a
script as that script with its cursor, whatever scripts are nested in it.
-/

namespace Stagecraft

open Ron Save Definition

variable {bound : Nat}

/-! ## Parts of many records -/

namespace Ron.Fields.Holds

variable {f : Fields} {fields : List (String × Tree)} (holds : f.Holds fields) (name : String)

include holds

theorem text {s : String} (isField : fields.lookup name = some (.text s)) :
    f.required name readText = some s :=
  holds.required (Nat.le_refl _) name (Reads.text s) isField

theorem optionText {o : Option String} (isField : fields.lookup name = some (Save.optionText o)) :
    textOf? .plain f name = some o :=
  holds.withDefault (Nat.le_refl _) name none (Reads.option fun s _ => Reads.text s) isField

theorem bool {b : Bool} (isField : fields.lookup name = some (.bool b)) :
    f.required name readBool = some b :=
  holds.required (Nat.le_refl _) name (Reads.bool b) isField

theorem optionBool {o : Option Bool}
    (isField : fields.lookup name = some (Node.option .bool o)) :
    f.withDefault name (readOption .plain readBool) none = some o :=
  holds.withDefault (Nat.le_refl _) name none (Reads.option fun b _ => Reads.bool b) isField

theorem single {x : Single} (isField : fields.lookup name = some (Save.single x)) :
    f.required name readSingle = some x :=
  holds.required (Nat.le_refl _) name (Reads.single x) isField

theorem optionSingle {o : Option Single}
    (isField : fields.lookup name = some (Node.option Save.single o)) :
    f.withDefault name (readOption .plain readSingle) none = some o :=
  holds.withDefault (Nat.le_refl _) name none (Reads.option fun x _ => Reads.single x) isField

end Ron.Fields.Holds

/-! ## Points, targets, owners and keys -/

theorem Point.reads (p : Point) : Reads bound (Save.readPoint .plain) p.toTree p := by
  refine Reads.record rfl (by decide) (by simp) fun f within holds => ?_
  have x := holds.single "x" (x := p.x) rfl
  have y := holds.single "y" (x := p.y) rfl
  simp only [x, y, Option.bind_eq_bind, Option.bind_some]

theorem Target.reads (t : Target) : Reads bound Target.reader t.toTree t := by
  cases t with
  | owner => exact Reads.variantWord (fun _ => rfl) (by decide)
  | scene => exact Reads.variantWord (fun _ => rfl) (by decide)
  | world => exact Reads.variantWord (fun _ => rfl) (by decide)
  | actor id => exact Reads.variantPart (fun _ _ => rfl) (Reads.text id)

theorem Owner.reads (o : Owner) : Reads bound (readOwner .plain) o.toTree o := by
  cases o with
  | world => exact Reads.variantWord (fun _ => rfl) (by decide)
  | scene id => exact Reads.variantPart (fun _ _ => rfl) (Reads.text id)
  | actor home id =>
    refine Reads.variantFields (fun _ _ => rfl) rfl (by decide) (by simp) fun f within holds => ?_
    have scene := holds.text "scene" (s := home) rfl
    have actor := holds.text "actor" (s := id) rfl
    simp only [scene, actor, Option.bind_eq_bind, Option.bind_some]

theorem Key.reads (k : Key) : Reads bound (readKey .plain) (.struct k.toFields) k := by
  refine Reads.record rfl (by decide) (by simp [Key.toFields]) fun f within holds => ?_
  have id := holds.text "id" (s := k.id) rfl
  have state := holds.optionText "state" (o := k.state) rfl
  have target := holds.optionText "target" (o := k.target) rfl
  simp only [id, state, target, Option.bind_eq_bind, Option.bind_some]

theorem Ron.Fields.Holds.target {f : Fields} {fields : List (String × Tree)}
    (holds : f.Holds fields) (name : String) {t : Target}
    (isField : fields.lookup name = some t.toTree) : f.required name Target.reader = some t :=
  holds.required (Nat.le_refl _) name t.reads isField

/-! ## Conditions -/

theorem Condition.toTrees_eq_map (list : List Condition) :
    Condition.toTrees list = list.map Condition.toTree := by
  induction list with
  | nil => rfl
  | cons condition rest ih => rw [Condition.toTrees, ih, List.map_cons]

theorem Condition.levels_pos (c : Condition) : 0 < c.toTree.levels := by
  cases c <;> simp [Condition.toTree, Node.structVariant, Node.variant, Node.levels]

mutual

theorem Condition.reads_succ : (c : Condition) → ∀ fuel,
    Reads (fuel + 1) (Condition.readerOf false .plain (fuel + 1)) c.toTree c
  | .stateIs target state, fuel => by
    refine Reads.variantFields (fun _ _ => rfl) rfl (by decide) (by simp) fun f within holds => ?_
    have target := holds.target "target" (t := target) rfl
    have state := holds.optionText "state" (o := state) rfl
    rw [textOf?] at state
    simp [target, state]
  | .propertyIs target name value, fuel => by
    refine Reads.variantFields (fun _ _ => rfl) rfl (by decide) (by simp) fun f within holds => ?_
    have target := holds.target "target" (t := target) rfl
    have name := holds.text "name" (s := name) rfl
    have value := holds.optionText "value" (o := value) rfl
    rw [textOf?] at value
    simp [target, name, value]
  | .visible actor, fuel => by
    refine Reads.variantFields (fun _ _ => rfl) rfl (by decide) (by simp) fun f within holds => ?_
    have actor := holds.optionText "actor" (o := actor) rfl
    rw [textOf?] at actor
    simp [actor]
  | .playerInside actor, fuel => by
    refine Reads.variantFields (fun _ _ => rfl) rfl (by decide) (by simp) fun f within holds => ?_
    have actor := holds.optionText "actor" (o := actor) rfl
    rw [textOf?] at actor
    simp [actor]
  | .not inner, fuel => by
    have reads : Reads fuel (Condition.readerOf false .plain fuel) inner.toTree inner :=
      Reads.of_succ inner.levels_pos fun less _ => Condition.reads_succ inner less
    exact Reads.variantPart (fun _ _ => rfl) (reads.mono (by omega))
  | .all list, fuel => by
    rw [Condition.toTree, Condition.toTrees_eq_map]
    exact Reads.variantPart (fun _ _ => rfl) (Reads.list _ fun c member =>
      (Condition.reads_of_mem list c member fuel).mono (by omega))
  | .any list, fuel => by
    rw [Condition.toTree, Condition.toTrees_eq_map]
    exact Reads.variantPart (fun _ _ => rfl) (Reads.list _ fun c member =>
      (Condition.reads_of_mem list c member fuel).mono (by omega))

theorem Condition.reads_of_mem : (list : List Condition) → ∀ c ∈ list, ∀ fuel,
    Reads fuel (Condition.readerOf false .plain fuel) c.toTree c
  | [], c, member, fuel => by cases member
  | first :: rest, c, member, fuel => by
    rcases List.mem_cons.mp member with isFirst | member
    · rw [isFirst]
      exact Reads.of_succ first.levels_pos fun less _ => Condition.reads_succ first less
    · exact Condition.reads_of_mem rest c member fuel

end

/-- A condition is read back, with as much fuel as there are levels. -/
theorem Condition.reads (c : Condition) (fuel : Nat) :
    Reads fuel (Condition.readerOf false .plain fuel) c.toTree c :=
  Reads.of_succ c.levels_pos fun less _ => c.reads_succ less

/-! ## Actions -/

theorem Action.toTrees_eq_map (list : List Action) :
    Action.toTrees list = list.map Action.toTree := by
  induction list with
  | nil => rfl
  | cons action rest ih => rw [Action.toTrees, ih, List.map_cons]

theorem Action.levels_pos (a : Action) : 0 < a.toTree.levels := by
  cases a <;> simp [Action.toTree, Node.structVariant, Node.levels]

/-- A script is read back if its actions are. -/
theorem Script.reads {each : Reader Action} (script : Script Action)
    (members : ∀ a ∈ script.actions, Reads (bound - 4) each a.toTree a) :
    Reads bound (readScriptOf .plain each) script.toTree script := by
  obtain ⟨actions, ip, suspended⟩ := script
  rw [Script.toTree, Action.toTrees_eq_map]
  refine Reads.record rfl (by decide) (by simp) fun f within holds => ?_
  have list := Reads.list _ fun a member => (members a member).mono
    (by omega : f.limit - 2 ≤ bound - 4)
  have actions := holds.required (Nat.le_refl _) "actions" list rfl
  have ip := holds.required within "ip" (Reads.option (o := ip) fun n _ => Reads.count n) rfl
  have suspended := holds.bool "suspended" (b := suspended) rfl
  simp only [actions, ip, suspended, Option.bind_eq_bind, Option.bind_some]

/-- A verb is read back if its script is. -/
theorem Verb.reads {each : Reader Action} (v : Verb)
    (members : ∀ a ∈ v.script.actions, Reads (bound - 6) each a.toTree a) :
    Reads bound (readVerbOf .plain each) v.toTree v := by
  refine Reads.record rfl (by decide) (by simp) fun f within holds => ?_
  have id := holds.text "id" (s := v.key.id) rfl
  have state := holds.optionText "state" (o := v.key.state) rfl
  have target := holds.optionText "target" (o := v.key.target) rfl
  have script := holds.required within "script" (v.script.reads members) rfl
  simp only [id, state, target, script, Option.bind_eq_bind, Option.bind_some]

theorem Ron.Fields.Holds.condition {f : Fields} {fields : List (String × Tree)}
    (holds : f.Holds fields) (within : f.limit ≤ nestingLimit) (name : String) {c : Condition}
    (isField : fields.lookup name = some c.toTree) :
    f.required name (Condition.readerOf false .plain nestingLimit) = some c :=
  holds.required within name (c.reads nestingLimit) isField

mutual

/-- An action is read back with its progress, with as much fuel as there are levels. -/
theorem Action.reads_succ : (a : Action) → ∀ fuel ≤ nestingLimit,
    Reads (fuel + 1) (readActionOf .plain (fuel + 1)) a.toTree a
  | .setState target state, fuel, small => by
    refine Reads.variantFields (fun _ _ => rfl) rfl (by decide) (by simp) fun f within holds => ?_
    have target := holds.target "target" (t := target) rfl
    have state := holds.optionText "state" (o := state) rfl
    simp only [target, state, Option.bind_eq_bind, Option.bind_some]
  | .setProperty target name value, fuel, small => by
    refine Reads.variantFields (fun _ _ => rfl) rfl (by decide) (by simp) fun f within holds => ?_
    have target := holds.target "target" (t := target) rfl
    have name := holds.text "name" (s := name) rfl
    have value := holds.optionText "value" (o := value) rfl
    simp only [target, name, value, Option.bind_eq_bind, Option.bind_some]
  | .setActorAttr actor visible interaction layer, fuel, small => by
    refine Reads.variantFields (fun _ _ => rfl) rfl (by decide) (by simp) fun f within holds => ?_
    have actor := holds.optionText "actor" (o := actor) rfl
    have visible := holds.optionBool "visible" (o := visible) rfl
    have interaction := holds.optionBool "interaction" (o := interaction) rfl
    have layer := holds.optionText "layer" (o := layer) rfl
    simp only [actor, visible, interaction, layer, Option.bind_eq_bind, Option.bind_some]
  | .position actor pos, fuel, small => by
    refine Reads.variantFields (fun _ _ => rfl) rfl (by decide) (by simp) fun f within holds => ?_
    have actor := holds.optionText "actor" (o := actor) rfl
    have pos := holds.required within "pos" pos.reads rfl
    simp only [actor, pos, Option.bind_eq_bind, Option.bind_some]
  | .goto actor pos speed origin, fuel, small => by
    refine Reads.variantFields (fun _ _ => rfl) rfl (by decide) (by simp) fun f within holds => ?_
    have actor := holds.optionText "actor" (o := actor) rfl
    have pos := holds.required within "pos" pos.reads rfl
    have speed := holds.optionSingle "speed" (o := speed) rfl
    have origin := holds.required within "origin"
      (Reads.optionRecord (o := origin) "Vec2" fun p _ => p.reads) rfl
    simp only [actor, pos, speed, origin, Option.bind_eq_bind, Option.bind_some]
  | .playAnimation actor animation duration waits elapsed, fuel, small => by
    refine Reads.variantFields (fun _ _ => rfl) rfl (by decide) (by simp) fun f within holds => ?_
    have actor := holds.optionText "actor" (o := actor) rfl
    have animation := holds.text "animation" (s := animation) rfl
    have duration := holds.single "duration" (x := duration) rfl
    have waits := holds.bool "wait" (b := waits) rfl
    have elapsed := holds.single "elapsed" (x := elapsed) rfl
    simp only [actor, animation, duration, waits, elapsed, Option.bind_eq_bind, Option.bind_some]
  | .playSound actor sound, fuel, small => by
    refine Reads.variantFields (fun _ _ => rfl) rfl (by decide) (by simp) fun f within holds => ?_
    have actor := holds.optionText "actor" (o := actor) rfl
    have sound := holds.text "sound" (s := sound) rfl
    simp only [actor, sound, Option.bind_eq_bind, Option.bind_some]
  | .say actor text duration waits elapsed, fuel, small => by
    refine Reads.variantFields (fun _ _ => rfl) rfl (by decide) (by simp) fun f within holds => ?_
    have actor := holds.optionText "actor" (o := actor) rfl
    have text := holds.text "text" (s := text) rfl
    have duration := holds.optionSingle "duration" (o := duration) rfl
    have waits := holds.bool "wait" (b := waits) rfl
    have elapsed := holds.single "elapsed" (x := elapsed) rfl
    simp only [actor, text, duration, waits, elapsed, Option.bind_eq_bind, Option.bind_some]
  | .wait seconds elapsed, fuel, small => by
    refine Reads.variantFields (fun _ _ => rfl) rfl (by decide) (by simp) fun f within holds => ?_
    have seconds := holds.single "seconds" (x := seconds) rfl
    have elapsed := holds.single "elapsed" (x := elapsed) rfl
    simp only [seconds, elapsed, Option.bind_eq_bind, Option.bind_some]
  | .showDialog actor dialog, fuel, small => by
    refine Reads.variantFields (fun _ _ => rfl) rfl (by decide) (by simp) fun f within holds => ?_
    have actor := holds.optionText "actor" (o := actor) rfl
    have dialog := holds.text "dialog" (s := dialog) rfl
    simp only [actor, dialog, Option.bind_eq_bind, Option.bind_some]
  | .conditional condition ⟨actions, ip, suspended⟩, fuel, small => by
    refine Reads.variantFields (fun _ _ => rfl) rfl (by decide) (by simp) fun f within holds => ?_
    have condition := holds.condition (by omega) "condition" (c := condition) rfl
    have reads := Script.reads ⟨actions, ip, suspended⟩ fun a member =>
      (Action.reads_of_mem actions a member fuel small).mono (by omega : f.limit - 4 ≤ fuel)
    have script := holds.required (Nat.le_refl _) "script" reads rfl
    simp only [condition, script, Option.bind_eq_bind, Option.bind_some]
  | .runVerb whose verb target bound ⟨actions, ip, suspended⟩, fuel, small => by
    refine Reads.variantFields (fun _ _ => rfl) rfl (by decide) (by simp) fun f within holds => ?_
    have whose := holds.target "owner" (t := whose) rfl
    have verb := holds.text "verb" (s := verb) rfl
    have target := holds.optionText "target" (o := target) rfl
    have bound := holds.required within "bound" (Reads.option (o := bound) fun o _ => o.reads) rfl
    have reads := Script.reads ⟨actions, ip, suspended⟩ fun a member =>
      (Action.reads_of_mem actions a member fuel small).mono (by omega : f.limit - 4 ≤ fuel)
    have script := holds.required (Nat.le_refl _) "script" reads rfl
    simp only [whose, verb, target, bound, script, Option.bind_eq_bind, Option.bind_some]
  | .cancelVerb whose verb target, fuel, small => by
    refine Reads.variantFields (fun _ _ => rfl) rfl (by decide) (by simp) fun f within holds => ?_
    have whose := holds.target "owner" (t := whose) rfl
    have verb := holds.text "verb" (s := verb) rfl
    have target := holds.optionText "target" (o := target) rfl
    simp only [whose, verb, target, Option.bind_eq_bind, Option.bind_some]
  | .addVerb whose key ⟨actions, ip, suspended⟩, fuel, small => by
    refine Reads.variantFields (fun _ _ => rfl) rfl (by decide) (by simp) fun f within holds => ?_
    have whose := holds.target "owner" (t := whose) rfl
    have reads := Verb.reads ⟨key, ⟨actions, ip, suspended⟩⟩ fun a member =>
      (Action.reads_of_mem actions a member fuel small).mono (by omega : f.limit - 6 ≤ fuel)
    have verb := holds.required (Nat.le_refl _) "verb" reads rfl
    simp only [whose, verb, Option.bind_eq_bind, Option.bind_some]
  | .changeScene scene, fuel, small => by
    refine Reads.variantFields (fun _ _ => rfl) rfl (by decide) (by simp) fun f within holds => ?_
    have scene := holds.text "scene" (s := scene) rfl
    simp only [scene, Option.map_some]
  | .setPlayer actor, fuel, small => by
    refine Reads.variantFields (fun _ _ => rfl) rfl (by decide) (by simp) fun f within holds => ?_
    have actor := holds.optionText "actor" (o := actor) rfl
    simp only [actor, Option.map_some]
  | .removeActor actor, fuel, small => by
    refine Reads.variantFields (fun _ _ => rfl) rfl (by decide) (by simp) fun f within holds => ?_
    have actor := holds.text "actor" (s := actor) rfl
    simp only [actor, Option.map_some]

/-- The actions of a list are read back. -/
theorem Action.reads_of_mem : (list : List Action) → ∀ a ∈ list, ∀ fuel ≤ nestingLimit,
    Reads fuel (readActionOf .plain fuel) a.toTree a
  | [], a, member, fuel, small => by cases member
  | first :: rest, a, member, fuel, small => by
    rcases List.mem_cons.mp member with isFirst | member
    · rw [isFirst]
      exact Reads.of_succ first.levels_pos fun less below =>
        Action.reads_succ first less (by omega)
    · exact Action.reads_of_mem rest a member fuel small

end

/-! ## What the stored forms are made of -/

namespace Ron

variable {α : Type} {form : α → Tree}

theorem plainAll_map (xs : List α) :
    Node.PlainAll (xs.map form) ↔ ∀ x ∈ xs, (form x).Plain := by
  induction xs with
  | nil => simp [Node.PlainAll]
  | cons x xs ih => simp [Node.PlainAll, ih]

theorem plainEntries_map (entries : List (String × α)) :
    Node.PlainEntries (entries.map fun (key, value) => (.text key, form value)) ↔
      ∀ entry ∈ entries, (form entry.2).Plain := by
  induction entries with
  | nil => simp [Node.PlainEntries]
  | cons entry entries ih =>
    rw [List.map_cons, Node.PlainEntries, ih]
    simp [Node.Plain]

theorem plain_option (plain : ∀ x, (form x).Plain) (o : Option α) :
    (Node.option form o).Plain := by
  cases o with
  | none => exact ⟨rfl, by decide, by decide⟩
  | some x => exact ⟨by simp, plain x, trivial⟩

theorem plain_text (s : String) : (Node.text s : Tree).Plain := trivial

theorem plain_bool (b : Bool) : (Node.bool b : Tree).Plain := by
  cases b <;> exact ⟨rfl, by decide, by decide⟩

theorem plain_single (x : Single) : (Save.single x).Plain := trivial

theorem plain_optionText (o : Option String) : (Save.optionText o).Plain :=
  plain_option plain_text o

end Ron

theorem Point.plain_toTree (p : Point) : p.toTree.Plain := by
  simp +decide [Point.toTree, Node.struct, Node.Plain, Node.PlainFields, plain_single]

theorem Target.plain_toTree (t : Target) : t.toTree.Plain := by
  cases t <;> simp +decide [Target.toTree, Node.variant, Node.Plain, Node.PlainAll, Name.Plain]

theorem Owner.plain_toTree (o : Owner) : o.toTree.Plain := by
  cases o <;>
    simp +decide [Owner.toTree, Node.variant, Node.structVariant, Node.Plain, Node.PlainAll,
      Node.PlainFields, Name.Plain]

mutual

theorem Condition.plain_toTree : (c : Condition) → c.toTree.Plain
  | .stateIs target state => by
    simp +decide [Condition.toTree, Node.structVariant, Node.Plain, Node.PlainFields, Name.Plain,
      target.plain_toTree, plain_optionText]
  | .propertyIs target name value => by
    simp +decide [Condition.toTree, Node.structVariant, Node.Plain, Node.PlainFields, Name.Plain,
      target.plain_toTree, plain_optionText]
  | .visible actor => by
    simp +decide [Condition.toTree, Node.structVariant, Node.Plain, Node.PlainFields, Name.Plain,
      plain_optionText]
  | .playerInside actor => by
    simp +decide [Condition.toTree, Node.structVariant, Node.Plain, Node.PlainFields, Name.Plain,
      plain_optionText]
  | .not inner => by
    simp +decide [Condition.toTree, Node.variant, Node.Plain, Node.PlainAll, Name.Plain,
      Condition.plain_toTree inner]
  | .all list => by
    simp +decide [Condition.toTree, Node.variant, Node.Plain, Node.PlainAll, Name.Plain,
      Condition.plainAll_toTrees list]
  | .any list => by
    simp +decide [Condition.toTree, Node.variant, Node.Plain, Node.PlainAll, Name.Plain,
      Condition.plainAll_toTrees list]

theorem Condition.plainAll_toTrees : (list : List Condition) →
    Node.PlainAll (Condition.toTrees list)
  | [] => trivial
  | condition :: rest => ⟨Condition.plain_toTree condition, Condition.plainAll_toTrees rest⟩

end

mutual

theorem Action.plain_toTree : (a : Action) → a.toTree.Plain
  | .conditional condition script => by
    simp +decide [Action.toTree, Node.structVariant, Node.Plain, Node.PlainFields, Name.Plain,
      condition.plain_toTree, Script.plain_toTree script]
  | .runVerb whose verb target bound script => by
    simp +decide [Action.toTree, Node.structVariant, Node.Plain, Node.PlainFields, Name.Plain,
      whose.plain_toTree, plain_optionText, plain_option Owner.plain_toTree,
      Script.plain_toTree script]
  | .addVerb whose key script => by
    simp +decide [Action.toTree, Key.toFields, Node.struct, Node.structVariant, Node.Plain,
      Node.PlainFields, Name.Plain, whose.plain_toTree, plain_optionText,
      Script.plain_toTree script]
  | .setState .. | .setProperty .. | .setActorAttr .. | .position .. | .goto .. | .playAnimation ..
  | .playSound .. | .say .. | .wait .. | .showDialog .. | .cancelVerb .. | .changeScene ..
  | .setPlayer .. | .removeActor .. => by
    simp +decide [Action.toTree, Node.structVariant, Node.Plain, Node.PlainFields, Name.Plain,
      Target.plain_toTree, Point.plain_toTree, plain_optionText, plain_single, plain_bool,
      plain_option plain_bool, plain_option plain_single, plain_option Point.plain_toTree]

theorem Script.plain_toTree : (script : Script Action) → script.toTree.Plain
  | ⟨actions, ip, suspended⟩ => by
    have count : ∀ n : Nat, (Node.number (.natural n) : Tree).Plain := fun n => trivial
    simp +decide [Script.toTree, Node.struct, Node.Plain, Node.PlainFields,
      Action.plainAll_toTrees actions, plain_option count, plain_bool]

theorem Action.plainAll_toTrees : (list : List Action) → Node.PlainAll (Action.toTrees list)
  | [] => trivial
  | action :: rest => ⟨Action.plain_toTree action, Action.plainAll_toTrees rest⟩

end

end Stagecraft
