import Stagecraft.Proofs.Keeping

/-!
# What is kept whoever acts

Where it does not matter for whom actions run, there is no need to place them: an upkeep says what
is true of all actions as they were written, of the scripts of verbs, and of worlds.  It is a
placement that says the same for every owner, so that playing keeps it.
-/

namespace Stagecraft

/-! ## Actions within actions -/

/-- What is said of actions as they were written is true of an action and of all the actions in the
scripts inside it. -/
inductive Action.Throughout (said : Action → Prop) : Action → Prop
  | intro {action : Action} (own : said action.reset)
      (inside : ∀ script bound, action.inner? = some (script, bound) →
        ∀ inner ∈ script.actions, Throughout said inner) : Throughout said action

/-- What is said of actions is true of all the actions of a script. -/
def Script.Throughout (said : Action → Prop) (s : Script Action) : Prop :=
  ∀ action ∈ s.actions, action.Throughout said

namespace Action.Throughout

variable {said : Action → Prop} {action : Action}

theorem own (through : action.Throughout said) : said action.reset := by
  cases through with
  | intro own _ => exact own

theorem inside (through : action.Throughout said) {script : Script Action} {bound : Option Owner}
    (inner : action.inner? = some (script, bound)) : script.Throughout said := by
  cases through with
  | intro _ inside => exact inside script bound inner

/-- An action without a script inside has only what it was written as. -/
theorem of_leaf (leaf : action.inner? = none) (own : said action.reset) :
    action.Throughout said := by
  constructor
  · exact own
  · intro script bound inner
    rw [leaf] at inner
    cases inner

/-- What is said of all actions is true throughout. -/
theorem of_always (always : ∀ action, said action) : action.Throughout said := by
  induction action using Action.nestedInduction with
  | leaf action noInner => exact of_leaf noInner (always _)
  | conditional condition script ih =>
    constructor
    · exact always _
    · rintro _ _ ⟨⟩
      exact ih
  | runVerb whose verb target bound script ih =>
    constructor
    · exact always _
    · rintro _ _ ⟨⟩
      exact ih

/-- What is said of all actions is said of those that run for an owner. -/
theorem placed (through : action.Throughout said) (owner : Owner) :
    action.Placed (fun _ => said) owner := by
  induction through generalizing owner with
  | intro own _ ih =>
    constructor
    · exact own
    · intro script bound inner action member
      exact ih script bound inner action member (bound.getD owner)

/-- What is said whoever acts is true throughout, if it is of an action that runs for somebody. -/
theorem of_placed {owner : Owner} (placed : action.Placed (fun _ => said) owner) :
    action.Throughout said := by
  induction placed with
  | intro own _ ih => exact .intro own ih

theorem placed_iff {owner : Owner} :
    action.Placed (fun _ => said) owner ↔ action.Throughout said :=
  ⟨.of_placed, fun through => through.placed owner⟩

/-- Clearing progress leaves an action what it was written as. -/
theorem reset (through : action.Throughout said) : action.reset.Throughout said :=
  .of_placed (through.placed .world).reset

end Action.Throughout

namespace Script.Throughout

variable {said : Action → Prop} {s : Script Action}

theorem placed_iff {owner : Owner} : s.Placed (fun _ => said) owner ↔ s.Throughout said :=
  forall₂_congr fun _ _ => Action.Throughout.placed_iff

/-- Clearing progress leaves all actions of a script what they were written as. -/
theorem reset (through : s.Throughout said) : s.reset.Throughout said :=
  placed_iff.mp (placed_iff.mpr through : s.Placed (fun _ => said) .world).reset

end Script.Throughout

/-! ## Upkeeps -/

/-- What is said of actions as they were written, under which handles scripts are filed as they were
written, and what holds of worlds, such that verbs that actions install may be filed and every
change keeps what holds. -/
structure Upkeep where
  said : Action → Prop
  filed : Handle → Script Action → Prop
  holds : World → Prop
  installs : ∀ {whose key script}, said (.addVerb whose key script) → ∀ owner : Owner,
    script.reset.Throughout said ∧ filed ⟨owner, key⟩ script.reset
  deed : ∀ {driver s deed}, Deed.Allowed driver s deed → holds s.world →
    holds (deed.apply s).world
  verbs : ∀ {w} owner change, holds w → holds (w.modifyVerbs owner change)
  shows : ∀ {w h scene id dialog}, ((w.actor? scene id).bind (·.chooseOption? dialog 0)).isSome →
    holds w → holds { w with openDialog := some ⟨h, scene, id, dialog⟩ }

namespace Upkeep

/-- Whether a script may be under a handle. -/
def Files (u : Upkeep) (h : Handle) (script : Script Action) : Prop :=
  script.Throughout u.said ∧ u.filed h script.reset

/-- Whether a world is kept, with the scripts of all its verbs. -/
structure Upheld (u : Upkeep) (w : World) : Prop where
  world : u.holds w
  scripts : ∀ h script, w.script? h = some script → u.Files h script

/-- How an action may become another one: it was written the same. -/
structure Progress (u : Upkeep) (action action' : Action) : Prop where
  through : action'.Throughout u.said
  reset_eq : action'.reset = action.reset

/-- How actions may become others, one by one. -/
def ProgressAll (u : Upkeep) (actions actions' : List Action) : Prop :=
  List.Forall₂ u.Progress actions actions'

variable {u : Upkeep}

/-! ## Upkeeps as placements -/

/-- The placement that says the same of actions whoever they run for. -/
def placement (u : Upkeep) : Placement where
  fits _ := u.said
  filed := u.filed
  holds _ _ := u.holds
  installs {_ _ _ _ owner} _ said _ _ := by
    rcases u.installs said owner with ⟨written, filed⟩
    exact ⟨Script.Throughout.placed_iff.mpr written, filed⟩
  deed allowed _ holds := u.deed allowed holds
  verbs owner change holds := u.verbs owner change holds
  shows shows holds := u.shows shows.choosable holds
  closes _ holds := holds

variable {s : Stage} {f f' : Frame} {owner : Owner} {actions actions' : List Action}

/-- To keep a stage is to keep its world. -/
theorem keeps_iff : u.placement.Keeps s ↔ u.Upheld s.world := by
  constructor
  · rintro ⟨world, scripts⟩
    constructor
    · exact world
    · intro h script found
      rcases scripts h script found with ⟨placed, filed⟩
      exact ⟨Script.Throughout.placed_iff.mp placed, filed⟩
  · rintro ⟨world, scripts⟩
    constructor
    · exact world
    · intro h script found
      rcases scripts h script found with ⟨through, filed⟩
      exact ⟨Script.Throughout.placed_iff.mpr through, filed⟩

theorem Upheld.keeps (upheld : u.Upheld s.world) : u.placement.Keeps s := keeps_iff.mpr upheld

/-- Whichever frame comes after another one, the same actions may run in it. -/
theorem after_iff : u.placement.After f f' ↔ u.Upheld f'.stage.world := by
  constructor
  · rintro ⟨keeps, _⟩
    exact keeps_iff.mp keeps
  · intro upheld
    constructor
    · exact upheld.keeps
    · intro action
      exact Action.Throughout.placed_iff.trans Action.Throughout.placed_iff.symm

theorem progress_iff {action action' : Action} :
    u.placement.Progress owner action action' ↔ u.Progress action action' := by
  constructor
  · rintro ⟨placed, same⟩
    exact ⟨.of_placed placed, same⟩
  · rintro ⟨through, same⟩
    exact ⟨through.placed owner, same⟩

theorem progressAll_iff :
    u.placement.ProgressAll owner actions actions' ↔ u.ProgressAll actions actions' := by
  constructor
  · exact List.Forall₂.imp fun _ _ => progress_iff.mp
  · exact List.Forall₂.imp fun _ _ => progress_iff.mpr

namespace ProgressAll

theorem through (progress : u.ProgressAll actions actions') :
    ∀ action ∈ actions', action.Throughout u.said := by
  have placed : u.placement.ProgressAll .world actions actions' := progressAll_iff.mpr progress
  exact fun action member => .of_placed (placed.placed action member)

/-- Progress leaves what the actions were written as. -/
theorem reset_eq {s s' : Script Action} (progress : u.ProgressAll s.actions s'.actions) :
    s'.reset = s.reset := by
  have placed : u.placement.ProgressAll .world s.actions s'.actions := progressAll_iff.mpr progress
  exact placed.reset_eq

theorem set {action action' : Action} {ip : Nat}
    (through : ∀ action ∈ actions, action.Throughout u.said) (here : actions[ip]? = some action)
    (progress : u.Progress action action') : u.ProgressAll actions (actions.set ip action') := by
  have placed := fun action member => (through action member).placed .world
  exact progressAll_iff.mp (.set placed here (progress_iff.mpr progress))

end ProgressAll

/-! ## Deeds -/

variable {driver : Option Handle} {deed : Deed} {deeds : List Deed}

/-- A single deed keeps a world, if what it installs may be filed. -/
theorem Upheld.apply (upheld : u.Upheld s.world) (allowed : deed.Allowed driver s)
    (proper : ∀ h script, deed = .install h script → u.Files h script) :
    u.Upheld (deed.apply s).world where
  world := u.deed allowed upheld.world
  scripts h script found := by
    rcases allowed.script?_apply found with earlier | ⟨installed, _⟩
    · exact upheld.scripts h script earlier
    · exact proper h script installed

/-- Deeds one after the other keep a world. -/
theorem Upheld.applyAll (upheld : u.Upheld s.world) (driver : Option Handle)
    (allowed : Deed.AllAllowed driver s deeds)
    (proper : ∀ h script, .install h script ∈ deeds → u.Files h script) :
    u.Upheld (Deed.applyAll deeds s).world := by
  induction deeds generalizing s with
  | nil => exact upheld
  | cons deed rest ih =>
    rcases allowed with ⟨first, others⟩
    apply ih _ others
    · intro h script member
      exact proper h script (List.mem_cons_of_mem _ member)
    · apply upheld.apply first
      rintro h script rfl
      exact proper h script (List.mem_cons_self ..)

/-- Lending a verb keeps a world. -/
theorem Upheld.lend (upheld : u.Upheld s.world) (h : Handle) : u.Upheld (s.lend h).world :=
  keeps_iff.mp (upheld.keeps.lend h)

/-- Letting go of what the action at the cursor holds keeps the world. -/
theorem Upheld.release {script : Script Action} (upheld : u.Upheld f.stage.world)
    (through : script.Throughout u.said) : u.Upheld (script.release f).stage.world :=
  after_iff.mp (.release upheld.keeps (Script.Throughout.placed_iff.mpr through))

/-! ## Performing -/

/-- Whether what performs actions keeps the world. -/
def KeptBy (u : Upkeep) (perform : Performer) : Prop :=
  ∀ action f, u.Upheld f.stage.world → action.Throughout u.said →
    u.Upheld (perform action f).2.2.stage.world ∧ u.Progress action (perform action f).1

variable {perform : Performer}

theorem keptBy_iff : u.placement.KeptBy perform ↔ u.KeptBy perform := by
  constructor
  · intro kept action f upheld through
    rcases kept action f upheld.keeps (through.placed f.scope) with ⟨after, progress⟩
    exact ⟨after_iff.mp after, progress_iff.mp progress⟩
  · intro kept action f keeps placed
    rcases kept action f (keeps_iff.mp keeps) (.of_placed placed) with ⟨upheld, progress⟩
    exact ⟨after_iff.mpr upheld, progress_iff.mpr progress⟩

/-- Performing an action keeps the world at every depth. -/
theorem keptBy_perform (depth : Nat) : u.KeptBy (Action.perform depth) :=
  keptBy_iff.mp (u.placement.keptBy_perform depth)

namespace KeptBy

variable (kept : u.KeptBy perform)

include kept

/-- Time that passes for an action keeps the world, and the action was written the same. -/
theorem tickAction (delta : Single) {action : Action} (upheld : u.Upheld f.stage.world)
    (through : action.Throughout u.said) :
    u.Upheld (action.tick perform delta f).2.2.stage.world ∧
      u.Progress action (action.tick perform delta f).1 := by
  rcases (keptBy_iff.mpr kept).tickAction delta upheld.keeps (through.placed f.scope) with
    ⟨after, progress⟩
  exact ⟨after_iff.mp after, progress_iff.mp progress⟩

/-- The arrival of what an action waits for keeps the world, and the action was written the same. -/
theorem resumeAction {action action' : Action} {state : RunState}
    (upheld : u.Upheld f.stage.world) (through : action.Throughout u.said)
    (resumed : action.resume perform f = .ok (action', state, f')) :
    u.Upheld f'.stage.world ∧ u.Progress action action' := by
  rcases (keptBy_iff.mpr kept).resumeAction upheld.keeps (through.placed f.scope) resumed with
    ⟨after, progress⟩
  exact ⟨after_iff.mp after, progress_iff.mp progress⟩

/-- However a script is driven, that keeps the world, and its actions were written the same. -/
theorem drive {driving : Driving} {s s' : Script Action} {state : RunState}
    (upheld : u.Upheld f.stage.world) (through : s.Throughout u.said)
    (driven : driving.drive perform s f = .ok (s', state, f')) :
    u.Upheld f'.stage.world ∧ u.ProgressAll s.actions s'.actions := by
  rcases (keptBy_iff.mpr kept).drive upheld.keeps (Script.Throughout.placed_iff.mpr through)
    driven with ⟨after, progress⟩
  exact ⟨after_iff.mp after, progressAll_iff.mp progress⟩

end KeptBy

/-! ## The operations -/

variable {depth : Nat}

theorem Upheld.tickVerb (upheld : u.Upheld s.world) (delta : Single) (h : Handle) :
    u.Upheld (s.tickVerb (Action.perform depth) delta h).world :=
  keeps_iff.mp (upheld.keeps.tickVerb delta h)

theorem Upheld.resumeVerb (upheld : u.Upheld s.world) (h : Handle) :
    u.Upheld (s.resumeVerb h depth).2.world :=
  keeps_iff.mp (upheld.keeps.resumeVerb h)

theorem Upheld.reenterVerb (upheld : u.Upheld s.world) (h : Handle) :
    u.Upheld (s.reenterVerb (Action.perform depth) h).world :=
  keeps_iff.mp (upheld.keeps.reenterVerb h)

theorem Upheld.noticePlayer (upheld : u.Upheld s.world) (scene actor : String) :
    u.Upheld (s.noticePlayer (Action.perform depth) scene actor).world :=
  keeps_iff.mp (upheld.keeps.noticePlayer scene actor)

theorem Upheld.ticked (upheld : u.Upheld s.world) (delta : Single) :
    u.Upheld (s.ticked (Action.perform depth) delta).world :=
  keeps_iff.mp (upheld.keeps.ticked delta)

theorem Upheld.chosen (upheld : u.Upheld s.world) {opened : OpenDialog} {index : Nat}
    {option : DialogOption} {actor : Actor} (isOpen : s.world.openDialog = some opened)
    (chooses : (s.world.actor? opened.scene opened.actor).bind
      (·.chooseOption? opened.dialog index) = some (option, actor)) :
    u.Upheld (s.chosen opened option actor).world :=
  keeps_iff.mp (u.placement.outlastsDeeds.chosen isOpen chooses upheld.keeps)

theorem Upheld.afterOption (upheld : u.Upheld s.world) (opened : OpenDialog)
    (option : DialogOption) : u.Upheld (s.afterOption opened option depth).world :=
  keeps_iff.mp (upheld.keeps.afterOption opened option)

/-- Every run of moves keeps the world. -/
theorem Upheld.play (upheld : u.Upheld s.world) (moves : List (Move × Nat)) :
    u.Upheld (s.play moves).world :=
  keeps_iff.mp (upheld.keeps.play moves)

/-- The upkeep that keeps nothing but what actions were written as. -/
def nothing : Upkeep where
  said _ := True
  filed _ _ := True
  holds _ := True
  installs _ _ := ⟨fun _ _ => .of_always fun _ => trivial, trivial⟩
  deed _ _ := trivial
  verbs _ _ _ := trivial
  shows _ _ := trivial

theorem upheld_nothing (w : World) : nothing.Upheld w where
  world := trivial
  scripts _ _ _ := ⟨fun _ _ => .of_always fun _ => trivial, trivial⟩

end Upkeep

/-- However a script is driven, its actions stay what they were written as. -/
theorem Driving.reset_drive {driving : Driving} {depth : Nat} {s s' : Script Action} {f f' : Frame}
    {state : RunState} (driven : driving.drive (Action.perform depth) s f = .ok (s', state, f')) :
    s'.reset = s.reset := by
  have anyhow : s.Throughout Upkeep.nothing.said := fun _ _ => .of_always fun _ => trivial
  have kept := (Upkeep.keptBy_perform (u := .nothing) depth).drive
    (Upkeep.upheld_nothing f.stage.world) anyhow driven
  exact kept.2.reset_eq

end Stagecraft
