import Stagecraft.Proofs.Opening
import Stagecraft.Proofs.Sparing

/-!
# Isolation of scenes

A verb that is driven leaves all scenes alone but the current one and those of its owner and of the
owners that are bound in it, whatever it does at whatever depth, as long as it does not change the
scene.
-/

namespace Stagecraft

variable {named : String → Prop}

/-! ## Going on -/

/-- A parked script binds the owners for whom the verbs run that are parked inside it. -/
inductive Script.Binds : Script Action → Owner → Prop
  | bound {actions ip action script owner} (here : actions[ip]? = some action)
      (inner : action.inner? = some (script, some owner)) : Binds ⟨actions, some ip, true⟩ owner
  | inside {actions ip action script bound owner} (here : actions[ip]? = some action)
      (inner : action.inner? = some (script, bound)) (binds : script.Binds owner) :
      Binds ⟨actions, some ip, true⟩ owner

/-- An action that a script goes past leaves the verb in the scope in which it is. -/
theorem Action.scope_of_passes? {perform : Performer} (runs : perform.Runs) {driving : Driving}
    {action action' : Action} {ip : Nat} {f f' : Frame} (calm : f.cancelRequested = false)
    (passes : action.passes? perform ip f driving = some (action', f')) : f'.scope = f.scope := by
  cases driving with
  | resume =>
    simp only [Action.passes?] at passes
    split at passes
    · next resumed =>
      cases passes
      rcases Action.resumeRuns runs action f _ _ _ calm resumed with ⟨_, course⟩
      exact course.scope_eq
    · cases passes
  | tick delta =>
    simp only [Action.passes?] at passes
    by_cases waits : action.WaitsForChoice
    · rw [Action.tick_of_waitsForChoice perform delta action f waits] at passes
      cases passes
    · have ticks := Action.tickRuns runs delta action f _ _ _ waits calm rfl
      split at passes
      · next ticked =>
        rw [ticked] at ticks
        cases passes
        exact ticks.choose_spec.scope_eq
      · next ticked =>
        rw [ticked] at ticks
        cases passes
        exact ticks.choose_spec.scope_eq
      · cases passes
  | _ => cases passes

/-- A script goes on in the scope in which it is, or in that of an owner that is bound in it. -/
theorem Script.GoesOn.scope {perform : Performer} (runs : perform.Runs) {driving : Driving}
    {s : Script Action} {f g : Frame} {ip : Nat} {actions : List Action}
    (goesOn : s.GoesOn perform driving f ip actions g) (calm : f.cancelRequested = false) :
    g.scope = f.scope ∨ s.Binds g.scope := by
  induction goesOn with
  | @inside actions ip action script bound f _ _ g here inner _ ih =>
    rcases ih calm with same | binds
    · cases bound with
      | none => exact .inl same
      | some owner =>
        have isBound : g.scope = owner := same
        exact .inr (isBound ▸ .bound here inner)
    · exact .inr (.inside here inner binds)
  | past here passes => exact .inl (Action.scope_of_passes? runs calm passes)

/-- The innermost parked action runs in the scope of its verb, or in that of an owner that is bound
there. -/
theorem Script.scope_of_leaf? {s : Script Action} {action : Action} {owner scope : Owner}
    (isLeaf : s.leaf? owner = some (action, scope)) : scope = owner ∨ s.Binds scope := by
  induction Script.leaf?_eq_some_iff.mp isLeaf with
  | leaf here plain => exact .inl rfl
  | conditional here below ih =>
    exact (ih (Script.leaf?_eq_some_iff.mpr below)).imp_right (.inside here rfl)
  | @runVerb owner _ _ _ _ _ bound _ here below ih =>
    rcases ih (Script.leaf?_eq_some_iff.mpr below) with same | binds
    · cases bound with
      | none => exact .inl same
      | some owner =>
        have isBound : scope = owner := same
        exact .inr (isBound ▸ .bound here rfl)
    · exact .inr (.inside here rfl binds)

/-! ## Driving -/

/-- A sweep begins in the scope of the verb that is driven, or in that of an owner that is bound
there. -/
theorem Driving.Sweeps.scope {perform : Performer} (runs : perform.Runs) {driving : Driving}
    {s : Script Action} {f g : Frame} {ip : Nat} {actions : List Action}
    (sweeps : driving.Sweeps perform s f ip actions g) (calm : f.cancelRequested = false) :
    g.scope = f.scope ∨ s.Binds g.scope := by
  cases driving with
  | run =>
    rcases sweeps with ⟨rfl, rfl, rfl⟩
    exact .inl (s.scope_release _)
  | reenter =>
    rcases sweeps with ⟨_, _, rfl, rfl⟩
    exact .inl rfl
  | resume => exact Script.GoesOn.scope runs sweeps calm
  | tick delta => exact Script.GoesOn.scope runs sweeps calm
  | cancel => cases sweeps

/-- Time that passes for a single action spares the scenes in which the verb does not act. -/
theorem Action.spares_tick {perform : Performer} {delta : Single} {action : Action} {f : Frame}
    (noInner : action.inner? = none) (within : f.Within named) :
    f.stage.world.Spares named (action.tick perform delta f).2.2.stage.world := by
  rcases Action.stage_tick noInner delta f with same | ⟨scene, id, pos, here, _, same⟩ <;> rw [same]
  · exact .refl _
  · apply World.Spares.apply within.current
    · rintro _ ⟨⟩
      exact within.of_sceneId here
    · simp

/-- Driving a script whose scopes are in some scenes spares the others, if that is so for each action
to which a sweep comes. -/
theorem Driving.spares_drive {perform : Performer} (runs : perform.Runs) (driving : Driving)
    {s : Script Action} {f : Frame} (calm : f.cancelRequested = false) (within : f.Within named)
    (binds : ∀ owner, s.Binds owner → owner.Within named)
    (each : ∀ ip actions g k action g', driving.Sweeps perform s f ip actions g →
      Action.Comes perform ip actions g k action g' → g'.Within named →
        g'.stage.world.Spares named (perform action g').2.2.stage.world)
    {done : Script Action × RunState × Frame} (driven : driving.drive perform s f = .ok done) :
    f.stage.world.Spares named done.2.2.stage.world := by
  have inScope : ∀ g : Frame, g.scope = f.scope ∨ s.Binds g.scope →
      f.stage.world.Spares named g.stage.world → g.Within named := by
    intro g scopes spared
    constructor
    · rcases scopes with same | bound
      · rw [same]
        exact within.scope
      · exact binds g.scope bound
    · rw [spared.current]
      exact within.current
  apply (World.Spares.lasting f.stage.world).drive _ _ driven (.refl _)
  · intro delta _ action owner isLeaf noInner spared
    have inside : Frame.Within named { f with scope := owner } :=
      inScope _ (Script.scope_of_leaf? isLeaf) spared
    exact spared.trans (Action.spares_tick noInner inside)
  · intro ip actions g sweeps k action g' comes spared
    apply spared.trans (each ip actions g k action g' sweeps comes _)
    apply inScope g' _ spared
    rw [comes.scope_eq runs]
    exact sweeps.scope runs calm

namespace Stage

/-- Whether a verb can be driven without an attempt to change the scene. -/
def Stays (s : Stage) (depth : Nat) (driving : Driving) (h : Handle) : Prop :=
  ∀ script scene g, h ∉ s.executing → s.world.script? h = some script →
    ¬ driving.Attempts depth script (.enter h (s.lend h)) (.perform (.changeScene scene)) g

/-- Whether a verb has been driven in isolation: the current scene is the same, and every scene is
as it was but for the current one, that of the verb's owner, and those of the owners that the parked
verb binds. -/
structure Isolates (s : Stage) (h : Handle) (t : Stage) : Prop where
  current : t.world.currentScene = s.world.currentScene
  scenes : ∀ id, s.world.currentScene ≠ some id → h.owner.sceneId? ≠ some id →
    (∀ script owner, s.world.script? h = some script → script.Binds owner →
      owner.sceneId? ≠ some id) → t.world.scene? id = s.world.scene? id

/-- The scenes in which a verb may do something when it is driven. -/
private def Reachable (s : Stage) (h : Handle) (id : String) : Prop :=
  s.world.currentScene = some id ∨ h.owner.sceneId? = some id ∨
    ∃ script owner, s.world.script? h = some script ∧ script.Binds owner ∧ owner.sceneId? = some id

theorem isolates_driveVerb {s : Stage} {depth : Nat} {driving : Driving} {h : Handle}
    (stays : s.Stays depth driving h) :
    s.Isolates h (s.driveVerb (Action.perform depth) driving h).2 := by
  have spared : s.world.Spares (s.Reachable h)
      (s.driveVerb (Action.perform depth) driving h).2.world := by
    apply spares_withVerb fun id here => .inr (.inl here)
    intro script idle found
    cases driven : driving.drive (Action.perform depth) script (.enter h (s.lend h)) with
    | error reason => exact .refl _
    | ok done =>
      have current : (s.lend h).world.currentScene = s.world.currentScene :=
        s.world.currentScene_modifyVerbs h.owner _
      have within : (Frame.enter h (s.lend h)).Within (s.Reachable h) := by
        constructor
        · exact fun id here => .inr (.inl here)
        · exact fun id here => .inl (current.symm.trans here)
      exact driving.spares_drive (Action.perform_runs depth) rfl within
        (fun owner binds id here => .inr (.inr ⟨script, owner, found, binds, here⟩))
        (fun ip actions g k next g' sweeps comes inside => Action.spares_perform inside
          fun scene r reaches => stays script scene r idle found (.perform sweeps comes reaches))
        driven
  constructor
  · exact spared.current
  · intro id notCurrent notOwn notBound
    apply spared.scenes
    rintro (isCurrent | isOwn | ⟨script, owner, found, binds, isBound⟩)
    · exact notCurrent isCurrent
    · exact notOwn isOwn
    · exact notBound script owner found binds isBound

/-- A verb that is run, resumed or given time without an attempt to change the scene, or that is
cancelled, is driven in isolation. -/
theorem drives_isolated (s : Stage) (depth : Nat) (h : Handle) :
    (s.Stays depth .run h → s.Isolates h (s.runHandle (Action.perform depth) h).2) ∧
    (s.Stays depth .resume h → s.Isolates h (s.resumeVerb h depth).2) ∧
    (∀ delta, s.Stays depth (.tick delta) h →
      s.Isolates h (s.tickVerb (Action.perform depth) delta h)) ∧
    s.Isolates h (s.cancelVerb h).2 := by
  constructor
  · intro stays
    have isolates := isolates_driveVerb stays
    rwa [runHandle_eq] at isolates
  constructor
  · intro stays
    rw [resumeVerb_eq]
    exact isolates_driveVerb stays
  constructor
  · intro delta stays
    rw [tickVerb_eq]
    exact isolates_driveVerb stays
  · rw [cancelVerb_eq (Action.perform depth)]
    apply isolates_driveVerb
    intro script scene g _ _ attempts
    cases attempts with
    | perform sweeps => exact sweeps

end Stage

/-- A room of a house, with its verbs. -/
def SceneDefinition.room (id : String) (verbs : List VerbDefinition) : SceneDefinition where
  id := id
  state := none
  layers := []
  actors := []
  verbs := verbs
  properties := ∅

/-- A house with a lamp in the study. -/
def Definition.house : Definition where
  game := ⟨"House", "house", "1", "hall", none⟩
  scenes := [.room "hall" [], .room "attic" [], .room "study" [⟨⟨"light", none, none⟩,
    [.conditional (.all []) [.setState .scene (some "lit")]]⟩]]
  verbs := []
  properties := ∅

/-- The stage in the hall of the house. -/
def Stage.house : Stage := .ofWorld (Definition.house.build.toOption.getD .empty)

/-- Lighting the lamp in the study changes nothing in the attic. -/
theorem Stage.house_isolates :
    Stage.house.Stays 1 .run ⟨.scene "study", "light", none, none⟩ ∧
    (Stage.house.runHandle (Action.perform 1) ⟨.scene "study", "light", none, none⟩).2.world.state?
      (.scene "study") = some (some "lit") ∧
    (Stage.house.runHandle (Action.perform 1)
      ⟨.scene "study", "light", none, none⟩).2.world.scene? "attic" =
        Stage.house.world.scene? "attic" := by
  have stays : Stage.house.Stays 1 .run ⟨.scene "study", "light", none, none⟩ := by
    intro script scene g _ found attempts
    obtain rfl : Script.ofActions [.conditional (.all []) (.ofActions
      [.setState .scene (some "lit")])] = script := Option.some.inj found
    rcases attempts with ⟨⟨rfl, rfl, rfl⟩, comes, reaches⟩
    cases comes with
    | here =>
      cases reaches with
      | inside starts comes reaches =>
        cases starts
        cases comes with
        | here => cases reaches
        | past _ _ _ comes => cases comes
    | past _ _ _ comes => cases comes
  refine ⟨stays, rfl, ?_⟩
  have isolates := (Stage.drives_isolated .house 1 ⟨.scene "study", "light", none, none⟩).1 stays
  apply isolates.scenes "attic" (by decide) (by decide)
  intro script owner found binds
  obtain rfl : Script.ofActions [.conditional (.all []) (.ofActions
    [.setState .scene (some "lit")])] = script := Option.some.inj found
  cases binds

end Stagecraft
