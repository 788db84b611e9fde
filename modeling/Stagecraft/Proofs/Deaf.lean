import Stagecraft.Proofs.Journal

/-!
# Performing whatever the journal says

What performs actions does not read the journal, and nor does what drives verbs by it.
-/

namespace Stagecraft

variable {f : Frame} {journal : List Note}

/-! ## Performing -/

/-- The frame after an action at a position is the same but for the journal, whatever the position
and the journal. -/
theorem Frame.past_under (f : Frame) (ip ip' : Nat) (action : Action) (outcome : Outcome)
    (journal : List Note) :
    ∃ journal', (f.under journal).past ip' action outcome =
      (f.past ip action outcome).under journal' := by
  cases outcome <;> exact ⟨_, rfl⟩

/-- Whether what performs actions does not depend on the journal. -/
def Performer.Deaf (perform : Performer) : Prop :=
  ∀ action f journal, ∃ journal', perform action (f.under journal) =
    ((perform action f).1, (perform action f).2.1, (perform action f).2.2.under journal')

namespace Performer.Deaf

variable {perform : Performer}

/-- A sweep depends neither on the journal nor, but for the position that it reaches, on where it
begins. -/
theorem sweep (deaf : perform.Deaf) (actions : List Action) (ip ip' : Nat) (f : Frame)
    (journal : List Note) :
    ∃ swept steps state f' journal',
      Action.sweep perform ip actions f = (swept, ip + steps, state, f') ∧
        Action.sweep perform ip' actions (f.under journal) =
          (swept, ip' + steps, state, f'.under journal') := by
  induction actions generalizing ip ip' f journal with
  | nil => exact ⟨[], 0, .finished, f, journal, rfl, rfl⟩
  | cons action rest ih =>
    cases calm : f.cancelRequested with
    | true =>
      rcases Action.cancelFrom_ignores 0 (action :: rest) f journal with ⟨journal', cancelled⟩
      rw [Action.sweep_cancelled calm, Action.sweep_cancelled (f := f.under journal) calm,
        cancelled]
      exact ⟨_, rest.length + 1, _, _, _, rfl, rfl⟩
    | false =>
      rcases deaf action f journal with ⟨journal', same⟩
      rcases performed : perform action f with ⟨done, outcome, f₁⟩
      rw [performed] at same
      by_cases parks : outcome = .park
      · subst parks
        rw [Action.sweep_parks calm performed, Action.sweep_parks (f := f.under journal) calm same]
        exact ⟨_, 0, _, _, _, rfl, rfl⟩
      · rcases f₁.past_under ip ip' done outcome journal' with ⟨journal'', noted⟩
        rcases ih (ip + 1) (ip' + 1) (f₁.past ip done outcome) journal'' with
          ⟨swept, steps, state, f', last, first, second⟩
        rw [Action.sweep_past calm performed parks,
          Action.sweep_past (f := f.under journal) calm same parks, noted, first, second]
        exact ⟨done :: swept, 1 + steps, state, f', last, by simp only [Nat.add_assoc],
          by simp only [Nat.add_assoc]⟩

theorem stepFrom (deaf : perform.Deaf) (ip : Nat) (actions : List Action) (f : Frame)
    (journal : List Note) :
    ∃ journal', Script.stepFrom perform ip actions (f.under journal) =
      ((Script.stepFrom perform ip actions f).1, (Script.stepFrom perform ip actions f).2.1,
        (Script.stepFrom perform ip actions f).2.2.under journal') := by
  rcases deaf.sweep (actions.drop ip) ip ip f journal with
    ⟨swept, steps, state, f', journal', first, second⟩
  exact ⟨journal', by simp only [Script.stepFrom, first, second]⟩

theorem start (deaf : perform.Deaf) (s : Script Action) (f : Frame) (journal : List Note) :
    ∃ journal', s.start perform (f.under journal) =
      ((s.start perform f).1, (s.start perform f).2.1,
        (s.start perform f).2.2.under journal') := by
  rcases s.release_under f journal with ⟨journal', released⟩
  unfold Script.start
  rw [released]
  exact deaf.stepFrom 0 s.reset.actions (s.release f) journal'

end Performer.Deaf

/-- How a run of a verb ends does not depend on the journal. -/
theorem Frame.settle_under (f : Frame) (s : Script Action) (state : RunState)
    (journal : List Note) :
    ∃ journal', (f.under journal).settle s state =
      ((f.settle s state).1, (f.settle s state).2.1, (f.settle s state).2.2.under journal') := by
  rcases f with ⟨h, scope, requested, stage⟩
  cases requested with
  | false =>
    cases state with
    | finished => exact ⟨_, rfl⟩
    | suspended => exact ⟨journal, rfl⟩
  | true =>
    rcases (Frame.mk h scope false stage).cancelVerb_under s journal with ⟨journal', cancelled⟩
    refine ⟨journal', ?_⟩
    change ((((Frame.mk h scope false stage).under journal).cancelVerb s).1, RunState.finished,
      (((Frame.mk h scope false stage).under journal).cancelVerb s).2) = _
    rw [cancelled]
    rfl

namespace Performer.Deaf

variable {perform : Performer}

theorem run (deaf : perform.Deaf) (s : Script Action) (f : Frame) (journal : List Note) :
    ∃ journal', (f.under journal).run perform s =
      ((f.run perform s).1, (f.run perform s).2.1, (f.run perform s).2.2.under journal') := by
  rcases f.info_under journal s!">>> running verb {f.handle.key.text}" with ⟨noted, same⟩
  rcases deaf.start s (f.info s!">>> running verb {f.handle.key.text}") noted with ⟨_, started⟩
  unfold Frame.run
  rw [Frame.handle_under, same, started]
  exact Frame.settle_under _ _ _ _

theorem runHandle (deaf : perform.Deaf) (s : Stage) (h : Handle) (journal : List Note) :
    ∃ journal', (s.under journal).runHandle perform h =
      ((s.runHandle perform h).1, (s.runHandle perform h).2.under journal') := by
  apply Stage.withVerb_under
  intro script s journal
  rcases deaf.run script (.enter h s) journal with ⟨journal', ran⟩
  have entered : Frame.enter h (s.under journal) = (Frame.enter h s).under journal := rfl
  exact ⟨journal', by simp only [entered, ran]; rfl⟩

theorem runNamed (deaf : perform.Deaf) (s : Stage) (owner : Owner) (id : String)
    (target : Option String) (journal : List Note) :
    ∃ journal', (s.under journal).runNamed perform owner id target =
      ((s.runNamed perform owner id target).1,
        (s.runNamed perform owner id target).2.under journal') := by
  have sameVerb : (s.under journal).resolve? owner id target = s.resolve? owner id target := rfl
  unfold Stage.runNamed
  rw [sameVerb]
  cases s.resolve? owner id target with
  | none => exact ⟨journal, rfl⟩
  | some h => exact deaf.runHandle s h journal

theorem goToScene (deaf : perform.Deaf) (s : Stage) (id : String) (journal : List Note) :
    ∃ journal', (s.under journal).goToScene perform id =
      (s.goToScene perform id).map (·.under journal') := by
  rw [Stage.goToScene_eq, Stage.goToScene_eq]
  have sameScenes : (s.under journal).world.scenes = s.world.scenes := rfl
  rw [sameScenes]
  cases s.world.scenes.contains id with
  | false => exact ⟨[], rfl⟩
  | true =>
    rcases deaf.runNamed (s.arrive id) (.scene id) "init" none
      (journal ++ [⟨.info, s!"current scene is now '{id}'"⟩]) with ⟨journal', ran⟩
    have arrived : (s.under journal).arrive id =
        (s.arrive id).under (journal ++ [⟨.info, s!"current scene is now '{id}'"⟩]) := rfl
    exact ⟨journal', by simp only [arrived, ran, if_true]; rfl⟩

end Performer.Deaf

/-- A change of the stage that does not depend on the journal. -/
theorem Frame.Deaf.onStage (change : Stage → Except Fault Stage)
    (deaf : ∀ s journal, ∃ journal', change (s.under journal) = (change s).map (·.under journal')) :
    Frame.Deaf fun f => (change f.stage).map fun stage => (Outcome.proceed, { f with stage }) := by
  intro f journal
  rcases deaf f.stage journal with ⟨journal', same⟩
  have sameStage : (f.under journal).stage = f.stage.under journal := rfl
  simp only [sameStage, same]
  cases change f.stage with
  | error reason => exact ⟨[], rfl⟩
  | ok stage => exact ⟨journal', rfl⟩

theorem Stage.setPlayer_under (actor : Option String) (s : Stage) (journal : List Note) :
    ∃ journal', (s.under journal).setPlayer actor = (s.setPlayer actor).map (·.under journal') := by
  have sameWorld : (s.under journal).world = s.world := rfl
  unfold setPlayer
  rw [sameWorld]
  cases actor with
  | none => exact ⟨_, rfl⟩
  | some id =>
    simp only
    cases (s.world.current?.bind (·.actor? id)).isSome with
    | false => exact ⟨[], rfl⟩
    | true => exact ⟨_, rfl⟩

/-- What comes of attempting an effect does not depend on the journal if the effect does not. -/
theorem Frame.Deaf.attempt {effect : Frame → Except Fault (Outcome × Frame)}
    (deaf : Frame.Deaf effect) (f : Frame) (journal : List Note) :
    ∃ journal', (f.under journal).attempt (effect (f.under journal)) =
      ((f.attempt (effect f)).1, (f.attempt (effect f)).2.under journal') := by
  rcases deaf f journal with ⟨journal', same⟩
  rw [same]
  cases effect f with
  | error reason => exact ⟨journal, rfl⟩
  | ok answer => exact ⟨journal', rfl⟩

/-- Performing does not depend on the journal, if that is so for the actions of the scripts that are
started. -/
theorem Action.deaf_performWith {inner : Option Performer}
    (below : ∀ perform ∈ inner, perform.Deaf) : Performer.Deaf (Action.performWith inner) := by
  intro action f journal
  have tried : ∀ {action : Action} {effect : Frame → Except Fault (Outcome × Frame)},
      Frame.Deaf effect → ∃ journal',
        (action, (f.under journal).attempt (effect (f.under journal))) =
          (action, (f.attempt (effect f)).1, (f.attempt (effect f)).2.under journal') := by
    intro action effect deaf
    rcases deaf.attempt f journal with ⟨journal', same⟩
    exact ⟨journal', by rw [same]⟩
  cases action with
  | setState target state => exact tried (.setState target state)
  | setProperty target name value => exact tried (.setProperty target name value)
  | setActorAttr actor visible interaction layer =>
    exact tried (.setActorAttr actor visible interaction layer)
  | position actor pos => exact tried (.putActor actor pos)
  | playAnimation actor animation duration waits elapsed =>
    exact tried (.playAnimation actor animation waits)
  | playSound actor sound => exact tried (.playSound actor sound)
  | say actor text duration waits elapsed => exact tried (.say actor text waits)
  | wait seconds elapsed => exact ⟨_, rfl⟩
  | showDialog actor dialog => exact tried (.showDialog actor dialog)
  | cancelVerb whose verb target => exact tried (.cancelNamed whose verb target)
  | addVerb whose key script => exact tried (.addVerb whose key script)
  | goto actor pos speed origin =>
    rcases Frame.Deaf.startWalk actor pos f journal with ⟨journal', same⟩
    simp only [Action.performWith, same]
    rcases f.startWalk actor pos with reason | ⟨_ | start, f₁⟩
    · exact ⟨journal, rfl⟩
    · exact ⟨journal', rfl⟩
    · exact ⟨journal', rfl⟩
  | conditional condition script =>
    simp only [Action.performWith, Condition.holds_under]
    rcases condition.holds f with reason | (_ | _)
    · exact ⟨journal, rfl⟩
    · exact ⟨_, rfl⟩
    · cases inner with
      | none => exact ⟨journal, rfl⟩
      | some perform =>
        rcases f.info_under journal
          s!"└─ action: Conditional(true), entering {script.length} action(s)" with ⟨noted, same⟩
        rcases (below perform rfl).start script
          (f.info s!"└─ action: Conditional(true), entering {script.length} action(s)") noted with
          ⟨journal', started⟩
        exact ⟨journal', by simp only [same, started]⟩
  | runVerb whose verb target bound script =>
    rcases Frame.Deaf.inlineVerb whose verb target f journal with ⟨journal', same⟩
    simp only [Action.performWith, same]
    rcases f.inlineVerb whose verb target with reason | ⟨_ | ⟨owner, actions⟩, f₁⟩
    · exact ⟨journal, rfl⟩
    · exact ⟨journal', rfl⟩
    · cases inner with
      | none => exact ⟨journal', rfl⟩
      | some perform =>
        rcases (below perform rfl).start (.ofActions actions) (f₁.enterScope (some owner)) journal'
          with ⟨journal'', started⟩
        have entered : (f₁.under journal').enterScope (some owner) =
            (f₁.enterScope (some owner)).under journal' := rfl
        exact ⟨journal'', by simp only [Except.map, entered, started]; rfl⟩
  | changeScene scene =>
    rcases f.info_under journal s!"└─ action: ChangeScene({scene})" with ⟨noted, same⟩
    simp only [Action.performWith, same]
    cases inner with
    | none => exact ⟨noted, rfl⟩
    | some perform =>
      have deaf := Frame.Deaf.onStage (·.goToScene perform scene)
        fun s => (below perform rfl).goToScene s scene
      rcases deaf.attempt (f.info s!"└─ action: ChangeScene({scene})") noted with
        ⟨journal', attempted⟩
      exact ⟨journal', by simp only [attempted]⟩
  | setPlayer actor =>
    rcases f.info_under journal s!"└─ action: SetPlayer({Text.shownOptionText actor})" with
      ⟨noted, same⟩
    have deaf := Frame.Deaf.onStage (·.setPlayer actor) (Stage.setPlayer_under actor)
    rcases deaf.attempt (f.info s!"└─ action: SetPlayer({Text.shownOptionText actor})") noted with
      ⟨journal', attempted⟩
    exact ⟨journal', by simp only [Action.performWith, same, attempted]⟩
  | removeActor actor =>
    rcases f.info_under journal s!"└─ action: RemoveActor({actor})" with ⟨noted, same⟩
    rcases (Frame.Deaf.removeActor actor).attempt (f.info s!"└─ action: RemoveActor({actor})") noted
      with ⟨journal', attempted⟩
    exact ⟨journal', by simp only [Action.performWith, same, attempted]⟩

theorem Action.deaf_perform (depth : Nat) : (Action.perform depth).Deaf := by
  induction depth with
  | zero => exact deaf_performWith (by simp)
  | succ depth ih =>
    apply deaf_performWith
    rintro _ ⟨⟩
    exact ih

/-! ## Going on -/

namespace Performer.Deaf

variable {perform : Performer}

private theorem tickScript_of (deaf : perform.Deaf) (delta : Single) {s : Script Action}
    (below : ∀ action ∈ s.actions, ∀ f journal, ∃ journal',
      action.tick perform delta (f.under journal) =
        ((action.tick perform delta f).1, (action.tick perform delta f).2.1,
          (action.tick perform delta f).2.2.under journal')) (f : Frame) (journal : List Note) :
    ∃ journal', s.tick perform delta (f.under journal) =
      ((s.tick perform delta f).1, (s.tick perform delta f).2.1,
        (s.tick perform delta f).2.2.under journal') := by
  rcases s.parked_or_still with ⟨actions, ip, action, rfl, here⟩ | still
  · rcases below action (List.mem_of_getElem? here) f journal with ⟨journal', same⟩
    rw [Script.tick_parked _ _ _ here, Script.tick_parked _ _ _ here, same]
    rcases action.tick perform delta f with ⟨action', reason | (_ | _), f₁⟩
    · rcases f₁.error_under journal'
        s!"{f₁.handle.key.text} step {ip} failed while in progress: {reason.message}" with
        ⟨noted, sameError⟩
      rcases deaf.stepFrom (ip + 1) (actions.set ip action') (f₁.error _) noted with
        ⟨after, goesOn⟩
      rw [← sameError] at goesOn
      exact ⟨after, goesOn⟩
    · exact ⟨journal', rfl⟩
    · exact deaf.stepFrom (ip + 1) (actions.set ip action') f₁ journal'
  · rw [still.tick, still.tick]
    exact ⟨journal, rfl⟩

/-- What time passes for does not depend on the journal. -/
theorem tickAction (deaf : perform.Deaf) (delta : Single) (action : Action) (f : Frame)
    (journal : List Note) :
    ∃ journal', action.tick perform delta (f.under journal) =
      ((action.tick perform delta f).1, (action.tick perform delta f).2.1,
        (action.tick perform delta f).2.2.under journal') := by
  induction action using Action.nestedInduction generalizing f journal with
  | leaf action noInner =>
    cases action with
    | goto actor pos speed origin =>
      rcases Frame.Deaf.walkOn actor pos speed delta f journal with ⟨journal', same⟩
      simp only [Action.tick, same]
      cases f.walkOn actor pos speed delta with
      | error reason => exact ⟨journal, rfl⟩
      | ok walked => exact ⟨journal', rfl⟩
    | playAnimation actor animation duration waits elapsed =>
      simp only [Action.tick]
      split <;> exact ⟨journal, rfl⟩
    | conditional condition script => cases noInner
    | runVerb whose verb target bound script => cases noInner
    | _ => exact ⟨journal, rfl⟩
  | conditional condition script ih =>
    rcases deaf.tickScript_of delta ih f journal with ⟨journal', same⟩
    exact ⟨journal', by simp only [Action.tick, same]⟩
  | runVerb whose verb target bound script ih =>
    rcases deaf.tickScript_of delta ih (f.enterScope bound) journal with ⟨journal', same⟩
    have entered : (f.under journal).enterScope bound = (f.enterScope bound).under journal := rfl
    refine ⟨journal', ?_⟩
    simp only [Action.tick, entered, same]
    rfl

private theorem resumeScript_of (deaf : perform.Deaf) {s : Script Action}
    (below : ∀ action ∈ s.actions, ∀ f journal, ∃ journal',
      action.resume perform (f.under journal) = (action.resume perform f).map fun answer =>
        (answer.1, answer.2.1, answer.2.2.under journal')) (f : Frame) (journal : List Note) :
    ∃ journal', s.resume perform (f.under journal) =
      (s.resume perform f).map fun answer => (answer.1, answer.2.1, answer.2.2.under journal') := by
  rcases s.parked_or_still with ⟨actions, ip, action, rfl, here⟩ | still
  · rcases below action (List.mem_of_getElem? here) f journal with ⟨journal', same⟩
    rw [Script.resume_parked _ _ here, Script.resume_parked _ _ here, same]
    rcases action.resume perform f with reason | ⟨action', _ | _, f₁⟩
    · exact ⟨journal, rfl⟩
    · exact ⟨journal', rfl⟩
    · rcases deaf.stepFrom (ip + 1) (actions.set ip action') f₁ journal' with ⟨after, goesOn⟩
      exact ⟨after, congrArg Except.ok goesOn⟩
  · rw [still.resume, still.resume]
    exact ⟨journal, rfl⟩

/-- What is told that it may go on does not depend on the journal. -/
theorem resumeAction (deaf : perform.Deaf) (action : Action) (f : Frame) (journal : List Note) :
    ∃ journal', action.resume perform (f.under journal) =
      (action.resume perform f).map fun answer =>
        (answer.1, answer.2.1, answer.2.2.under journal') := by
  induction action using Action.nestedInduction generalizing f journal with
  | leaf action noInner =>
    rw [Action.resume_of_inner?_eq_none noInner, Action.resume_of_inner?_eq_none noInner]
    exact ⟨journal, rfl⟩
  | conditional condition script ih =>
    rcases deaf.resumeScript_of ih f journal with ⟨journal', same⟩
    refine ⟨journal', ?_⟩
    simp only [Action.resume, same]
    cases script.resume perform f <;> rfl
  | runVerb whose verb target bound script ih =>
    rcases deaf.resumeScript_of ih (f.enterScope bound) journal with ⟨journal', same⟩
    have entered : (f.under journal).enterScope bound = (f.enterScope bound).under journal := rfl
    refine ⟨journal', ?_⟩
    simp only [Action.resume, entered, same]
    cases script.resume perform (f.enterScope bound) <;> rfl

theorem resumeScript (deaf : perform.Deaf) (s : Script Action) (f : Frame) (journal : List Note) :
    ∃ journal', s.resume perform (f.under journal) =
      (s.resume perform f).map fun answer => (answer.1, answer.2.1, answer.2.2.under journal') :=
  deaf.resumeScript_of (fun action _ => deaf.resumeAction action) f journal

end Performer.Deaf

end Stagecraft
