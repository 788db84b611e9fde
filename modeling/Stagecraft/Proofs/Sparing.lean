import Stagecraft.Proofs.Persistence
import Stagecraft.Proofs.Scenes

/-!
# Scenes that are spared

A verb acts in the scene of its owner, or in the current one if its owner is the world, and so do
the verbs that run inside it.  As long as no change of scene is attempted, performing its actions
spares all other scenes.
-/

namespace Stagecraft

/-- Whether an owner, if it is in a scene, is in one of some scenes. -/
def Owner.Within (named : String → Prop) (owner : Owner) : Prop :=
  ∀ id, owner.sceneId? = some id → named id

/-- Whether a verb acts in some scenes only: the owner it acts for is in one of them, and so is the
current scene. -/
structure Frame.Within (named : String → Prop) (f : Frame) : Prop where
  scope : f.scope.Within named
  current : ∀ id, f.stage.world.currentScene = some id → named id

/-- Whether a world has become another one with the same current scene, in which all scenes but some
are as they were. -/
structure World.Spares (named : String → Prop) (w w' : World) : Prop where
  current : w'.currentScene = w.currentScene
  scenes : ∀ id, ¬ named id → w'.scene? id = w.scene? id

variable {named : String → Prop}

namespace World.Spares

variable {w w' w'' : World}

theorem refl (w : World) : w.Spares named w := ⟨rfl, fun _ _ => rfl⟩

theorem trans (first : w.Spares named w') (second : w'.Spares named w'') :
    w.Spares named w'' where
  current := second.current.trans first.current
  scenes id notNamed := (second.scenes id notNamed).trans (first.scenes id notNamed)

/-- What changes only scenes that need not be spared spares the others. -/
theorem of_changesOnly {place current : Option String} (changes : w.ChangesOnly w' place current)
    (same : w'.currentScene = w.currentScene) (inPlace : ∀ id, place = some id → named id)
    (inCurrent : ∀ id, current = some id → named id) : w.Spares named w' where
  current := same
  scenes id notNamed := changes.scene?_eq (fun here => notNamed (inPlace id here))
    fun here => notNamed (inCurrent id here)

theorem modifyVerbs {owner : Owner} (within : owner.Within named)
    (change : VerbTable → VerbTable) : w.Spares named (w.modifyVerbs owner change) := by
  have changes : w.ChangesOnly (w.modifyVerbs owner change) owner.sceneId? none :=
    .modifyVerbs owner change
  exact of_changesOnly changes (w.currentScene_modifyVerbs owner change) within nofun

/-- A deed spares the scenes that it does not name, if it goes to no other scene. -/
theorem apply {s : Stage} {deed : Deed} (current : ∀ id, s.world.currentScene = some id → named id)
    (inside : ∀ id, deed.sceneId? = some id → named id) (stays : ∀ scene, deed ≠ .goTo scene) :
    s.world.Spares named (deed.apply s).world := by
  have same : (deed.apply s).world.currentScene = s.world.currentScene := by
    rw [Deed.currentScene_apply]
    cases deed with
    | goTo scene => exact absurd rfl (stays scene)
    | _ => rfl
  exact .of_changesOnly (deed.changesOnly_apply s) same inside current

/-- Deeds one after the other do so too. -/
theorem applyAll {s : Stage} {deeds : List Deed}
    (current : ∀ id, s.world.currentScene = some id → named id)
    (within : ∀ deed ∈ deeds, (∀ id, deed.sceneId? = some id → named id) ∧
      ∀ scene, deed ≠ .goTo scene) :
    s.world.Spares named (Deed.applyAll deeds s).world := by
  induction deeds generalizing s with
  | nil => exact .refl _
  | cons deed rest ih =>
    rw [List.forall_mem_cons] at within
    rcases within with ⟨⟨inside, stays⟩, later⟩
    have first : s.world.Spares named (deed.apply s).world := .apply current inside stays
    exact first.trans (ih (by rwa [first.current]) later)

end World.Spares

/-! ## Frames -/

namespace Frame

variable {f f' : Frame}

/-- A verb that has spared other scenes goes on in the same ones. -/
theorem Within.spared (within : f.Within named) (sameScope : f'.scope = f.scope)
    (spares : f.stage.world.Spares named f'.stage.world) : f'.Within named where
  scope := by
    rw [sameScope]
    exact within.scope
  current := by
    rw [spares.current]
    exact within.current

theorem Within.of_sceneId (within : f.Within named) {id : String} (here : f.sceneId = .ok id) :
    named id := by
  unfold sceneId at here
  cases inScene : f.scope.sceneId? with
  | some scene =>
    simp only [inScene] at here
    cases here
    exact within.scope id inScene
  | none =>
    simp only [inScene] at here
    cases current : f.stage.world.currentScene with
    | none =>
      rw [current] at here
      cases here
    | some scene =>
      rw [current] at here
      cases here
      exact within.current id current

/-- What a target names is in the scenes in which the verb acts. -/
theorem Within.of_target (within : f.Within named) {target : Target} {owner : Owner}
    (meant : f.target target = .ok owner) : owner.Within named :=
  fun _ inScene => within.of_sceneId (sceneId_of_target meant inScene)

theorem Within.enterScope (within : f.Within named) {bound : Option Owner}
    (inside : ∀ owner, bound = some owner → owner.Within named) :
    (f.enterScope bound).Within named where
  scope := by
    cases bound with
    | none => exact within.scope
    | some owner => exact inside owner rfl
  current := within.current

end Frame

/-! ## Cancelling -/

/-- Nothing that is noted or told changes a scene, and no dialog does. -/
theorem World.Spares.lasting (w : World) : Stage.Lasting fun s => w.Spares named s.world where
  note _ _ _ spared := spared
  emit _ _ spared := spared
  dialog _ _ spared := ⟨spared.current, spared.scenes⟩

/-- Driving a verb spares the scenes that are spared while it is out of its table, but for that of
its owner. -/
theorem Stage.spares_withVerb {α : Type} {s : Stage} {h : Handle}
    {body : Script Action → Stage → Script Action × α × Stage} (within : h.owner.Within named)
    (spares : ∀ script, h ∉ s.executing → s.world.script? h = some script →
      (s.lend h).world.Spares named (body script (s.lend h)).2.2.world) :
    s.world.Spares named (s.withVerb h body).2.world := by
  by_cases idle : h ∈ s.executing
  · rw [withVerb, if_pos idle]
    exact .refl _
  cases found : s.world.script? h with
  | none =>
    simp only [withVerb, if_neg idle, found]
    exact .refl _
  | some script =>
    have driven := spares script idle found
    rw [withVerb_of_found idle found]
    have lent : s.world.Spares named (s.lend h).world :=
      World.Spares.modifyVerbs within (·.erase h.key)
    have spared := lent.trans driven
    generalize body script (s.lend h) = done at spared
    simp only
    split
    · exact spared.trans (World.Spares.modifyVerbs within (·.restore h.key done.1))
    · exact spared

/-- Cancelling a verb spares every scene but that of its owner. -/
theorem Stage.spares_cancelVerb (s : Stage) {h : Handle} (within : h.owner.Within named) :
    s.world.Spares named (s.cancelVerb h).2.world := by
  have driven : s.world.Spares named (s.withVerb h fun script stage =>
      (((Frame.enter h stage).cancelVerb script).1, (),
        ((Frame.enter h stage).cancelVerb script).2.stage)).2.world :=
    spares_withVerb within fun script _ _ =>
      (World.Spares.lasting (s.lend h).world).cancel script (.refl _)
  exact driven

/-! ## Performing -/

/-- A direct action spares other scenes than those in which the verb acts. -/
theorem Action.spares_of_direct (inner : Option Performer) {action : Action} {f : Frame}
    (direct : action.isDirect) (within : f.Within named) :
    f.stage.world.Spares named (Action.performWith inner action f).2.2.stage.world := by
  rcases performed : Action.performWith inner action f with ⟨action', outcome, f'⟩
  rcases (Action.performWith_acts inner direct performed).deeds with ⟨deeds, rfl, _, befit⟩
  refine .applyAll within.current fun deed member => ⟨?_, (befit deed member).stays⟩
  exact fun id inScene => within.of_sceneId ((befit deed member).inScene id inScene)

/-- The scripts that an action starts act in the same scenes, if it is no change of scene. -/
theorem Action.Starts.within {action : Action} {f g : Frame} {script : Script Action}
    (starts : action.Starts f script g) (stays : ∀ scene, action ≠ .changeScene scene)
    (within : f.Within named) : g.Within named := by
  cases starts with
  | conditional holds => exact ⟨within.scope, within.current⟩
  | runVerb found =>
    rcases Frame.inlineVerb_eq_ok found with ⟨text, rfl⟩
    rcases Frame.inlineVerb_eq_some found with ⟨_, _, meant, _⟩
    have noted : (f.info text).Within named := ⟨within.scope, within.current⟩
    apply noted.enterScope
    rintro _ ⟨⟩
    exact within.of_target meant
  | changeScene => exact absurd rfl (stays _)

/-- Performing an action that is no change of scene spares other scenes than those in which the verb
acts, if that is so for the scripts that it starts. -/
theorem Action.spares_performWith {inner : Option Performer} {action : Action} {f : Frame}
    (within : f.Within named) (stays : ∀ scene, action ≠ .changeScene scene)
    (below : ∀ perform ∈ inner, ∀ script g, action.Starts f script g → g.Within named →
      g.stage.world.Spares named (script.start perform g).2.2.stage.world) :
    f.stage.world.Spares named (Action.performWith inner action f).2.2.stage.world := by
  apply (World.Spares.lasting f.stage.world).performWith (.refl _)
  case direct => exact fun direct => Action.spares_of_direct inner direct within
  case cancels =>
    exact fun _ _ meant s spared => spared.trans (s.spares_cancelVerb (within.of_target meant))
  case installs =>
    intro whose key script owner _ meant _ _
    exact World.Spares.modifyVerbs (within.of_target meant) (·.insert key script.reset)
  case changes => exact fun scene isChange => absurd isChange (stays scene)
  case below =>
    intro perform isInner script g starts spared
    exact spared.trans (below perform isInner script g starts (starts.within stays within))

/-- Performing an action that comes to no change of scene spares other scenes than those in which
the verb acts. -/
theorem Action.spares_perform {depth : Nat} {action : Action} {f : Frame} (within : f.Within named)
    (stays : ∀ scene g, ¬ action.Reaches depth f (.changeScene scene) g) :
    f.stage.world.Spares named (Action.perform depth action f).2.2.stage.world := by
  have isNone : ∀ scene, action ≠ .changeScene scene := by
    rintro scene rfl
    exact stays scene f .itself
  induction depth generalizing action f with
  | zero => exact spares_performWith within isNone nofun
  | succ depth ih =>
    apply spares_performWith within isNone
    rintro _ ⟨⟩ script g starts inside
    have lasting : Stage.Lasting fun s => g.stage.world.Spares named s.world :=
      World.Spares.lasting g.stage.world
    apply lasting.start _ (.refl _)
    intro k next g' comes spared
    have sameScope : g'.scope = g.scope := by
      rw [comes.scope_eq (Action.perform_runs depth), script.scope_release]
    have onStage : g'.Within named := inside.spared sameScope spared
    have staysInside : ∀ scene r, ¬ next.Reaches depth g' (.changeScene scene) r :=
      fun scene r reaches => stays scene r (.inside starts comes reaches)
    apply spared.trans (ih onStage staysInside _)
    rintro scene rfl
    exact staysInside scene g' .itself

end Stagecraft
