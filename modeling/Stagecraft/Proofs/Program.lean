import Mathlib.Algebra.Order.BigOperators.Group.List
import Mathlib.Algebra.Order.Ring.Nat
import Mathlib.Data.Finset.Card
import Mathlib.Logic.Relation
import Stagecraft.Proofs.Upkeep

/-!
# The program of a world

The program of a world is all the verbs that it may come to run: those in its tables, and those that
their actions may install, and so on.  No verb of another program ever comes into the world, and if
no verb of it leads back to itself by running verbs inside verbs, then verbs have ranks that descend
along these calls.
-/

namespace Stagecraft

/-! ## Calls and payloads -/

mutual

/-- The ids of the verbs that an action runs inside its own, under any conditions. -/
def Action.calls : Action → List String
  | .conditional _ script => script.calls
  | .runVerb _ verb _ _ _ => [verb]
  | _ => []

/-- The ids of the verbs that the actions of a script run inside it. -/
def Script.calls : Script Action → List String
  | ⟨actions, _, _⟩ => Action.callsAll actions

/-- The ids of the verbs that actions run inside their own. -/
def Action.callsAll : List Action → List String
  | [] => []
  | action :: rest => action.calls ++ Action.callsAll rest

end

mutual

/-- The verbs that an action or one inside it may install, and those that their actions may. -/
def Action.payloads : Action → List Verb
  | .conditional _ script => script.payloads
  | .runVerb _ _ _ _ script => script.payloads
  | .addVerb _ key script => ⟨key, script⟩ :: script.payloads
  | _ => []

/-- The verbs that the actions of a script may install. -/
def Script.payloads : Script Action → List Verb
  | ⟨actions, _, _⟩ => Action.payloadsAll actions

/-- The verbs that actions may install. -/
def Action.payloadsAll : List Action → List Verb
  | [] => []
  | action :: rest => action.payloads ++ Action.payloadsAll rest

end

namespace Script

theorem calls_eq (s : Script Action) : s.calls = Action.callsAll s.actions := by
  cases s
  rfl

theorem payloads_eq (s : Script Action) : s.payloads = Action.payloadsAll s.actions := by
  cases s
  rfl

theorem weight_eq (s : Script Action) : s.weight = Action.weightAll s.actions + 1 := by
  cases s
  rfl

end Script

namespace Action

theorem mem_callsAll {id : String} {actions : List Action} :
    id ∈ Action.callsAll actions ↔ ∃ action ∈ actions, id ∈ action.calls := by
  induction actions with
  | nil => simp [Action.callsAll]
  | cons head rest ih => simp [Action.callsAll, ih]

theorem mem_payloadsAll {verb : Verb} {actions : List Action} :
    verb ∈ Action.payloadsAll actions ↔ ∃ action ∈ actions, verb ∈ action.payloads := by
  induction actions with
  | nil => simp [Action.payloadsAll]
  | cons head rest ih => simp [Action.payloadsAll, ih]

/-- An action weighs no more than a list in which it is. -/
theorem weight_le_weightAll {action : Action} {actions : List Action} (member : action ∈ actions) :
    action.weight ≤ Action.weightAll actions := by
  induction actions with
  | nil => cases member
  | cons head rest ih =>
    simp only [Action.weightAll]
    rcases List.mem_cons.mp member with rfl | later
    · exact Nat.le_add_right ..
    · exact (ih later).trans (Nat.le_add_left ..)

/-! ## Clearing progress -/

private theorem callsAll_resetAll_of {actions : List Action}
    (below : ∀ action ∈ actions, action.reset.calls = action.calls) :
    Action.callsAll (Action.resetAll actions) = Action.callsAll actions := by
  induction actions with
  | nil => rfl
  | cons head rest ih =>
    rw [List.forall_mem_cons] at below
    simp only [Action.resetAll, Action.callsAll, below.1, ih below.2]

/-- Clearing progress leaves the calls of an action. -/
theorem calls_reset (action : Action) : action.reset.calls = action.calls := by
  induction action using Action.nestedInduction with
  | leaf action noInner =>
    cases action with
    | conditional condition script => cases noInner
    | runVerb whose verb target bound script => cases noInner
    | _ => rfl
  | conditional condition script ih =>
    simp only [Action.reset, Action.calls, Script.calls_eq, Script.reset_eq, Script.ofActions]
    exact callsAll_resetAll_of ih
  | runVerb whose verb target bound script ih => rfl

private theorem resetAll_le_of {actions : List Action}
    (below : ∀ action ∈ actions, action.reset.payloads ⊆ action.payloads ∧
      action.reset.weight ≤ action.weight) :
    Action.payloadsAll (Action.resetAll actions) ⊆ Action.payloadsAll actions ∧
      Action.weightAll (Action.resetAll actions) ≤ Action.weightAll actions := by
  induction actions with
  | nil => exact ⟨List.Subset.refl _, Nat.le_refl _⟩
  | cons head rest ih =>
    rw [List.forall_mem_cons] at below
    rcases below.1 with ⟨headPayloads, headWeight⟩
    rcases ih below.2 with ⟨payloads, weight⟩
    constructor
    · apply List.append_subset.mpr
      constructor
      · exact List.subset_append_of_subset_left _ headPayloads
      · exact List.subset_append_of_subset_right _ payloads
    · exact Nat.add_le_add headWeight weight

/-- Clearing progress adds no payload and no weight. -/
theorem reset_le (action : Action) :
    action.reset.payloads ⊆ action.payloads ∧ action.reset.weight ≤ action.weight := by
  induction action using Action.nestedInduction with
  | leaf action noInner =>
    cases action with
    | conditional condition script => cases noInner
    | runVerb whose verb target bound script => cases noInner
    | _ => exact ⟨List.Subset.refl _, Nat.le_refl _⟩
  | conditional condition script ih =>
    rcases resetAll_le_of ih with ⟨payloads, weight⟩
    simp only [Action.reset, Action.payloads, Action.weight, Script.payloads_eq, Script.weight_eq,
      Script.reset_eq, Script.ofActions]
    exact ⟨payloads, by omega⟩
  | runVerb whose verb target bound script ih =>
    simp only [Action.reset, Action.payloads, Action.weight, Script.weight_eq, Script.ofActions]
    exact ⟨List.nil_subset _, by simp [Action.weightAll]⟩

end Action

/-- Clearing progress leaves the calls of a script. -/
theorem Script.calls_reset (s : Script Action) : s.reset.calls = s.calls := by
  rw [Script.reset_eq, Script.calls_eq, Script.calls_eq]
  exact Action.callsAll_resetAll_of fun action _ => action.calls_reset

mutual

/-- A payload of an action is lighter than the action, and what it may install the action may. -/
theorem Action.payload_le : ∀ (action : Action), ∀ verb ∈ action.payloads,
    verb.script.weight ≤ action.weight ∧ verb.script.payloads ⊆ action.payloads
  | .conditional _ script, verb, member => by
    have inner := Script.payload_le script verb member
    exact ⟨inner.1.trans (Nat.le_succ _), inner.2⟩
  | .runVerb _ _ _ _ script, verb, member => by
    have inner := Script.payload_le script verb member
    exact ⟨inner.1.trans (Nat.le_succ _), inner.2⟩
  | .addVerb _ key script, verb, member => by
    rcases List.mem_cons.mp member with rfl | below
    · exact ⟨Nat.le_succ _, List.subset_cons_self ..⟩
    · have inner := Script.payload_le script verb below
      exact ⟨inner.1.trans (Nat.le_succ _), List.Subset.trans inner.2 (List.subset_cons_self ..)⟩
  | .setState .., _, member | .setProperty .., _, member | .setActorAttr .., _, member
  | .position .., _, member | .goto .., _, member | .playAnimation .., _, member
  | .playSound .., _, member | .say .., _, member | .wait .., _, member
  | .showDialog .., _, member | .cancelVerb .., _, member | .changeScene .., _, member
  | .setPlayer .., _, member | .removeActor .., _, member => nomatch member

/-- A payload of a script is lighter than the script, and what it may install the script may. -/
theorem Script.payload_le : ∀ (script : Script Action), ∀ verb ∈ script.payloads,
    verb.script.weight ≤ script.weight ∧ verb.script.payloads ⊆ script.payloads
  | ⟨actions, _, _⟩, verb, member => by
    have inner := Action.payloadAll_le actions verb member
    exact ⟨inner.1.trans (Nat.le_succ _), inner.2⟩

theorem Action.payloadAll_le : ∀ (actions : List Action), ∀ verb ∈ Action.payloadsAll actions,
    verb.script.weight ≤ Action.weightAll actions ∧
      verb.script.payloads ⊆ Action.payloadsAll actions
  | [], _, member => nomatch member
  | action :: rest, verb, member => by
    rcases List.mem_append.mp member with first | later
    · rcases Action.payload_le action verb first with ⟨light, closed⟩
      constructor
      · exact light.trans (Nat.le_add_right ..)
      · exact List.subset_append_of_subset_left _ closed
    · rcases Action.payloadAll_le rest verb later with ⟨light, closed⟩
      constructor
      · exact light.trans (Nat.le_add_left ..)
      · exact List.subset_append_of_subset_right _ closed

end

/-! ## Programs -/

/-- The verbs that may come to be run, the owners that may have them, and a weight that none of
their scripts exceeds.  What these verbs may install is among them. -/
structure Program where
  verbs : List Verb
  owners : List Owner
  weight : Nat
  light : ∀ verb ∈ verbs, verb.script.weight ≤ weight
  closed : ∀ verb ∈ verbs, verb.script.payloads ⊆ verbs

namespace Program

variable {p : Program} {w : World}

/-- Whether an action is light enough for a program and installs only verbs of it. -/
def Permits (p : Program) (action : Action) : Prop :=
  action.weight ≤ p.weight ∧ action.payloads ⊆ p.verbs

/-- Whether some verb of the one id runs a verb of the other id inside it. -/
def Calls (p : Program) (u v : String) : Prop :=
  ∃ verb ∈ p.verbs, verb.key.id = u ∧ v ∈ verb.script.calls

/-- Whether no verb leads back to one of its id by verbs that run verbs inside them. -/
def Acyclic (p : Program) : Prop := ∀ id, ¬ Relation.TransGen p.Calls id id

/-- The program permits the actions of a script that is light enough and installs only its verbs. -/
theorem permits_of_mem {script : Script Action} (light : script.weight ≤ p.weight)
    (closed : script.payloads ⊆ p.verbs) {action : Action} (member : action ∈ script.actions) :
    p.Permits action := by
  rw [Script.weight_eq] at light
  rw [Script.payloads_eq] at closed
  constructor
  · exact (Action.weight_le_weightAll member).trans ((Nat.le_succ _).trans light)
  · intro verb isPayload
    exact closed (Action.mem_payloadsAll.mpr ⟨action, member, isPayload⟩)

/-- Clearing progress leaves an action permitted. -/
theorem Permits.reset {action : Action} (permits : p.Permits action) : p.Permits action.reset := by
  rcases action.reset_le with ⟨payloads, weight⟩
  constructor
  · exact weight.trans permits.1
  · exact List.Subset.trans payloads permits.2

/-- All actions inside a permitted one are permitted. -/
theorem Permits.throughout {action : Action} (permits : p.Permits action) :
    action.Throughout p.Permits := by
  induction action using Action.nestedInduction with
  | leaf action noInner => exact .of_leaf noInner permits.reset
  | conditional condition script ih =>
    constructor
    · exact permits.reset
    · rintro _ _ ⟨⟩ inner member
      apply ih inner member
      exact permits_of_mem ((Nat.le_succ _).trans permits.1) permits.2 member
  | runVerb whose verb target bound script ih =>
    constructor
    · exact permits.reset
    · rintro _ _ ⟨⟩ inner member
      apply ih inner member
      exact permits_of_mem ((Nat.le_succ _).trans permits.1) permits.2 member

/-- All actions of the verbs of a program are permitted. -/
theorem throughout {verb : Verb} (member : verb ∈ p.verbs) :
    verb.script.Throughout p.Permits := by
  intro action inScript
  exact (permits_of_mem (p.light verb member) (p.closed verb member) inScript).throughout

/-- Whatever is played, the scripts of verbs stay those of the program, and no owner comes up. -/
def upkeep (p : Program) : Upkeep where
  said := p.Permits
  filed h script := ∃ verb ∈ p.verbs, verb.key = h.key ∧ verb.script.reset = script
  holds w := ∀ owner, (w.verbs? owner).isSome → owner ∈ p.owners
  installs {whose key script} permits owner := by
    have member : ⟨key, script⟩ ∈ p.verbs := permits.2 (List.mem_cons_self ..)
    exact ⟨(p.throughout member).reset, ⟨key, script⟩, member, rfl, rfl⟩
  deed allowed holds owner present := holds owner (allowed.isSome_verbs? present)
  verbs {w} other change holds owner present := by
    rw [World.isSome_verbs?_modifyVerbs] at present
    exact holds owner present
  shows _ holds owner present := by
    apply holds owner
    cases owner <;> exact present

/-! ## Ranks -/

/-- Ranks of verbs that descend along calls and are less than the number of verbs. -/
structure Ranks (p : Program) (rank : String → Nat) : Prop where
  descends : ∀ {u : String} {verb : Verb}, verb ∈ p.verbs → p.Calls u verb.key.id →
    rank verb.key.id < rank u
  bounded : ∀ {verb : Verb}, verb ∈ p.verbs → rank verb.key.id < p.verbs.length

/-- If no verb leads back to itself, the number of verbs to which it leads is a rank. -/
theorem Acyclic.exists_ranks (acyclic : p.Acyclic) : ∃ rank, p.Ranks rank := by
  classical
  let ids := (p.verbs.map (·.key.id)).toFinset
  have isId : ∀ {verb : Verb}, verb ∈ p.verbs → verb.key.id ∈ ids := by
    intro verb member
    exact List.mem_toFinset.mpr (List.mem_map_of_mem member)
  refine ⟨fun u => (ids.filter (Relation.TransGen p.Calls u)).card, ?_, ?_⟩
  · intro u verb member calls
    apply Finset.card_lt_card
    constructor
    · intro v leads
      rw [Finset.mem_filter] at leads ⊢
      exact ⟨leads.1, .head calls leads.2⟩
    · intro same
      have leadsBack : verb.key.id ∈ ids.filter (Relation.TransGen p.Calls verb.key.id) :=
        same (Finset.mem_filter.mpr ⟨isId member, .single calls⟩)
      exact acyclic _ (Finset.mem_filter.mp leadsBack).2
  · intro verb member
    have fewer : (ids.filter (Relation.TransGen p.Calls verb.key.id)).card < ids.card := by
      apply Finset.card_lt_card
      apply Finset.filter_ssubset.mpr
      exact ⟨verb.key.id, isId member, acyclic _⟩
    have atMost : ids.card ≤ (p.verbs.map (·.key.id)).length := List.toFinset_card_le _
    rw [List.length_map] at atMost
    exact fewer.trans_le atMost

end Program

/-! ## The program of a world -/

mutual

/-- An action has no more payloads than it weighs. -/
theorem Action.length_payloads_le : ∀ action : Action, action.payloads.length ≤ action.weight
  | .conditional _ script => (Script.length_payloads_lt script).le.trans (Nat.le_succ _)
  | .runVerb _ _ _ _ script => (Script.length_payloads_lt script).le.trans (Nat.le_succ _)
  | .addVerb _ _ script => Nat.succ_le_succ (Script.length_payloads_lt script).le
  | .setState .. | .setProperty .. | .setActorAttr .. | .position .. | .goto ..
  | .playAnimation .. | .playSound .. | .say .. | .wait .. | .showDialog .. | .cancelVerb ..
  | .changeScene .. | .setPlayer .. | .removeActor .. => Nat.zero_le _

/-- A script has fewer payloads than it weighs. -/
theorem Script.length_payloads_lt : ∀ script : Script Action, script.payloads.length < script.weight
  | ⟨actions, _, _⟩ => Nat.lt_succ_of_le (Action.length_payloadsAll_le actions)

theorem Action.length_payloadsAll_le :
    ∀ actions : List Action, (Action.payloadsAll actions).length ≤ Action.weightAll actions
  | [] => Nat.le_refl _
  | action :: rest => by
    simp only [Action.payloadsAll, List.length_append, Action.weightAll]
    exact Nat.add_le_add (Action.length_payloads_le action) (Action.length_payloadsAll_le rest)

end

/-- Adding up what the members of a list count comes to the sum of it. -/
private theorem foldr_add_eq {α : Type} (count : α → Nat) (list : List α) (total : Nat) :
    list.foldr (fun member total => count member + total) total =
      (list.map count).sum + total := by
  induction list with
  | nil => exact (Nat.zero_add total).symm
  | cons member rest ih => rw [List.foldr_cons, ih, List.map_cons, List.sum_cons, Nat.add_assoc]

/-- A table weighs one more than its scripts. -/
theorem VerbTable.weight_eq (t : VerbTable) : t.weight = (t.values.map Script.weight).sum + 1 :=
  foldr_add_eq Script.weight t.values 1

namespace World

/-- All tables of verbs. -/
def tables (w : World) : List VerbTable :=
  w.verbs :: w.scenes.values.flatMap fun scene =>
    scene.verbs :: scene.actors.values.map (·.verbs)

/-- All owners. -/
def owners (w : World) : List Owner :=
  .world :: w.scenes.entries.flatMap fun entry =>
    .scene entry.1 :: entry.2.actors.names.map (.actor entry.1 ·)

/-- The verbs of all tables, and what their actions may install. -/
def written (w : World) : List Verb :=
  w.tables.flatMap fun table => table.toVerbs.flatMap fun verb => verb :: verb.script.payloads

/-- A world weighs what its tables weigh. -/
theorem weight_eq (w : World) : w.weight = (w.tables.map VerbTable.weight).sum := by
  have scenes : ∀ (scenes : List Scene) (total : Nat),
      scenes.foldr (fun scene total =>
          scene.actors.values.foldr (fun actor total => actor.verbs.weight + total)
            (scene.verbs.weight + total)) total =
        ((scenes.flatMap fun scene =>
          scene.verbs :: scene.actors.values.map (·.verbs)).map VerbTable.weight).sum + total := by
    intro scenes total
    induction scenes with
    | nil => exact (Nat.zero_add total).symm
    | cons scene rest ih =>
      rw [List.foldr_cons, ih, foldr_add_eq]
      simp only [List.flatMap_cons, List.map_append, List.map_cons, List.map_map,
        Function.comp_def, List.sum_append, List.sum_cons]
      omega
  unfold weight tables
  rw [scenes, List.map_cons, List.sum_cons, Nat.add_comm]

theorem length_owners (w : World) : w.owners.length = w.ownerCount := by
  unfold owners ownerCount Table.values
  induction w.scenes.entries with
  | nil => rfl
  | cons entry rest ih =>
    simp only [List.length_cons, List.flatMap_cons, List.length_append, List.length_map,
      List.map_cons, List.foldr_cons, Roster.names] at ih ⊢
    omega

/-- Every table that an owner has is one of all tables, and the owner is one of all owners. -/
theorem mem_tables {w : World} {owner : Owner} {verbs : VerbTable}
    (present : w.verbs? owner = some verbs) : verbs ∈ w.tables ∧ owner ∈ w.owners := by
  have inScene : ∀ {id : String} {scene : Scene}, w.scene? id = some scene →
      (id, scene) ∈ w.scenes.entries :=
    fun found => (Table.get?_eq_some_iff w.scenes _ _).mp found
  cases owner with
  | world =>
    cases present
    exact ⟨List.mem_cons_self .., List.mem_cons_self ..⟩
  | scene id =>
    rcases Option.map_eq_some_iff.mp present with ⟨scene, found, rfl⟩
    constructor
    · apply List.mem_cons_of_mem
      exact List.mem_flatMap.mpr ⟨scene, List.mem_map_of_mem (inScene found), List.mem_cons_self ..⟩
    · apply List.mem_cons_of_mem
      exact List.mem_flatMap.mpr ⟨(id, scene), inScene found, List.mem_cons_self ..⟩
  | actor home id =>
    rcases Option.map_eq_some_iff.mp present with ⟨actor, found, rfl⟩
    rcases Option.bind_eq_some_iff.mp found with ⟨scene, isThere, inRoster⟩
    have member := (Roster.get?_eq_some_iff scene.actors id actor).mp inRoster
    constructor
    · apply List.mem_cons_of_mem
      refine List.mem_flatMap.mpr ⟨scene, List.mem_map_of_mem (inScene isThere), ?_⟩
      exact List.mem_cons_of_mem _ (List.mem_map_of_mem (List.mem_map_of_mem member))
    · apply List.mem_cons_of_mem
      refine List.mem_flatMap.mpr ⟨(home, scene), inScene isThere, ?_⟩
      exact List.mem_cons_of_mem _ (List.mem_map_of_mem (List.mem_map_of_mem member))

/-- Every verb of a table is written in the world. -/
theorem mem_written {w : World} {h : Handle} {script : Script Action}
    (found : w.script? h = some script) : ⟨h.key, script⟩ ∈ w.written := by
  rcases (w.script?_eq_some_iff h script).mp found with ⟨verbs, present, inTable⟩
  have entry := (Table.get?_eq_some_iff verbs h.key script).mp inTable
  refine List.mem_flatMap.mpr ⟨verbs, (mem_tables present).1, ?_⟩
  exact List.mem_flatMap.mpr ⟨⟨h.key, script⟩, List.mem_map_of_mem entry, List.mem_cons_self ..⟩

/-- There are no more verbs written in a world than it weighs. -/
theorem length_written_le (w : World) : w.written.length ≤ w.weight := by
  have inTable : ∀ table : VerbTable,
      (table.toVerbs.flatMap fun verb => verb :: verb.script.payloads).length ≤ table.weight := by
    intro table
    rw [List.length_flatMap, VerbTable.weight_eq]
    have each : ((table.toVerbs.map fun verb => (verb :: verb.script.payloads).length).sum ≤
        (table.toVerbs.map fun verb => verb.script.weight).sum) :=
      List.sum_le_sum fun verb _ => Script.length_payloads_lt verb.script
    have same : table.toVerbs.map (fun verb => verb.script.weight) =
        table.values.map Script.weight := by
      simp only [VerbTable.toVerbs, Table.values, List.map_map, Function.comp_def]
    rw [same] at each
    exact each.trans (Nat.le_succ _)
  unfold written
  rw [List.length_flatMap, weight_eq]
  exact List.sum_le_sum fun table _ => inTable table

/-- Every verb written in a world is a verb of a table or a payload of one, so it weighs no more
than the world, and what it may install is written in the world too. -/
theorem written_le {w : World} {verb : Verb} (member : verb ∈ w.written) :
    verb.script.weight ≤ w.weight ∧ verb.script.payloads ⊆ w.written := by
  rcases List.mem_flatMap.mp member with ⟨table, isTable, inTable⟩
  rcases List.mem_flatMap.mp inTable with ⟨holder, isVerb, isHolderOrPayload⟩
  rcases List.mem_map.mp isVerb with ⟨entry, isEntry, rfl⟩
  have light : entry.2.weight ≤ w.weight := by
    have inTables : table.weight ≤ w.weight := by
      rw [weight_eq]
      exact List.le_sum_of_mem (List.mem_map_of_mem isTable)
    have inValues : entry.2.weight ≤ (table.values.map Script.weight).sum :=
      List.le_sum_of_mem (List.mem_map_of_mem (List.mem_map_of_mem isEntry))
    rw [VerbTable.weight_eq] at inTables
    omega
  have installs : entry.2.payloads ⊆ w.written := by
    intro payload isPayload
    apply List.mem_flatMap.mpr
    refine ⟨table, isTable, List.mem_flatMap.mpr ⟨⟨entry.1, entry.2⟩, isVerb, ?_⟩⟩
    exact List.mem_cons_of_mem _ isPayload
  rcases List.mem_cons.mp isHolderOrPayload with rfl | isPayload
  · exact ⟨light, installs⟩
  · rcases Script.payload_le entry.2 verb isPayload with ⟨lighter, below⟩
    exact ⟨lighter.trans light, List.Subset.trans below installs⟩

/-- The verbs that are written in a world are its program. -/
def program (w : World) : Program where
  verbs := w.written
  owners := w.owners
  weight := w.weight
  light _ member := (written_le member).1
  closed _ member := (written_le member).2

/-- Playing a world keeps to its program. -/
theorem upheld_program (w : World) : w.program.upkeep.Upheld w where
  world owner present := by
    rcases Option.isSome_iff_exists.mp present with ⟨verbs, found⟩
    exact (mem_tables found).2
  scripts h script found := by
    have member : ⟨h.key, script⟩ ∈ w.program.verbs := mem_written found
    exact ⟨Program.throughout member, ⟨h.key, script⟩, member, rfl, rfl⟩

end World

end Stagecraft
