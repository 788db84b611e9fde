import Stagecraft.Proofs.Deaf
import Stagecraft.Proofs.Resuming
import Stagecraft.Proofs.Transparency

/-!
# Time and arrival

A parked verb goes on when its time has passed or when it is told that what it waits for has
arrived, and both come to the same: time passes for the innermost action and for nothing else, and
if that action is over, going on is being resumed.
-/

namespace Stagecraft

/-! ## The innermost action -/

mutual

/-- Change the innermost action on which a parked action waits. -/
def Action.onLeaf (change : Action → Action) : Action → Action
  | .conditional condition script => .conditional condition (script.onLeaf change)
  | .runVerb whose verb target bound script =>
    .runVerb whose verb target bound (script.onLeaf change)
  | action => change action

/-- Change the innermost action on which a script is parked. -/
def Script.onLeaf (change : Action → Action) : Script Action → Script Action
  | ⟨actions, some ip, true⟩ => ⟨Action.onLeafAt change ip actions, some ip, true⟩
  | script => script

/-- Change the innermost action below the one at a position. -/
def Action.onLeafAt (change : Action → Action) : Nat → List Action → List Action
  | _, [] => []
  | 0, action :: rest => action.onLeaf change :: rest
  | ip + 1, action :: rest => action :: Action.onLeafAt change ip rest

end

mutual

/-- The cursors below a parked action, from the outermost script to the innermost. -/
def Action.path : Action → List Nat
  | .conditional _ script => script.path
  | .runVerb _ _ _ _ script => script.path
  | _ => []

/-- The cursors of a parked script and of those parked inside it. -/
def Script.path : Script Action → List Nat
  | ⟨actions, some ip, true⟩ => ip :: Action.pathAt ip actions
  | _ => []

/-- The cursors below the action at a position. -/
def Action.pathAt : Nat → List Action → List Nat
  | _, [] => []
  | 0, action :: _ => action.path
  | ip + 1, _ :: rest => Action.pathAt ip rest

end

namespace Action

theorem onLeafAt_eq (change : Action → Action) (ip : Nat) (actions : List Action) :
    Action.onLeafAt change ip actions = actions.modify ip (Action.onLeaf change) := by
  induction actions generalizing ip with
  | nil => cases ip <;> rfl
  | cons head rest ih => cases ip <;> simp [Action.onLeafAt, ih]

theorem pathAt_eq (ip : Nat) (actions : List Action) :
    Action.pathAt ip actions = (actions[ip]?.map Action.path).getD [] := by
  induction actions generalizing ip with
  | nil => simp [Action.pathAt]
  | cons head rest ih => cases ip <;> simp [Action.pathAt, ih]

/-- The innermost action below one without a script inside is that action. -/
theorem onLeaf_of_inner?_eq_none {action : Action} (plain : action.inner? = none)
    (change : Action → Action) : action.onLeaf change = change action := by
  cases action with
  | conditional condition script => cases plain
  | runVerb whose verb target bound script => cases plain
  | _ => rfl

theorem path_of_inner?_eq_none {action : Action} (plain : action.inner? = none) :
    action.path = [] := by
  cases action with
  | conditional condition script => cases plain
  | runVerb whose verb target bound script => cases plain
  | _ => rfl

end Action

namespace Script

variable {actions : List Action} {ip : Nat} {action : Action}

theorem onLeaf_parked (change : Action → Action) (here : actions[ip]? = some action) :
    Script.onLeaf change ⟨actions, some ip, true⟩ =
      ⟨actions.set ip (action.onLeaf change), some ip, true⟩ := by
  simp only [Script.onLeaf, Action.onLeafAt_eq, List.modify_eq_set, here, Option.getD_some]

theorem path_parked (here : actions[ip]? = some action) :
    Script.path ⟨actions, some ip, true⟩ = ip :: action.path := by
  simp only [Script.path, Action.pathAt_eq, here]
  rfl

variable {leaf leaf' : Action} {owner scope : Owner} {s : Script Action}

/-- An innermost action has no script inside. -/
theorem inner?_of_leaf? (parks : s.leaf? owner = some (leaf, scope)) : leaf.inner? = none := by
  have parksOn := leaf?_eq_some_iff.mp parks
  induction parksOn with
  | leaf here plain => exact plain
  | conditional here _ ih | runVerb here _ ih =>
    exact ih (by rwa [leaf?_parked _ here] at parks)

/-- All cursors stay where they are when the innermost action is changed. -/
theorem path_onLeaf (parks : s.leaf? owner = some (leaf, scope)) (plain : leaf'.inner? = none) :
    (s.onLeaf fun _ => leaf').path = s.path := by
  have parksOn := leaf?_eq_some_iff.mp parks
  clear parks
  induction parksOn with
  | leaf here isPlain =>
    obtain ⟨inside, _⟩ := List.getElem?_eq_some_iff.mp here
    rw [onLeaf_parked _ here, path_parked here, path_parked (List.getElem?_set_self inside),
      Action.onLeaf_of_inner?_eq_none isPlain, Action.path_of_inner?_eq_none plain,
      Action.path_of_inner?_eq_none isPlain]
  | conditional here _ ih | runVerb here _ ih =>
    obtain ⟨inside, _⟩ := List.getElem?_eq_some_iff.mp here
    rw [onLeaf_parked _ here, path_parked here, path_parked (List.getElem?_set_self inside)]
    simp only [Action.onLeaf, Action.path, ih]

/-- A parked script has an innermost cursor. -/
theorem exists_getLast?_path (parks : s.leaf? owner = some (leaf, scope)) :
    ∃ step, s.path.getLast? = some step := by
  obtain ⟨actions, ip, action, same, here⟩ | still := s.parked_or_still
  · rw [same, path_parked here, List.getLast?_cons]
    exact ⟨_, rfl⟩
  · rw [still.leaf] at parks
    cases parks

/-- The innermost cursor of a script is that of the parked script inside it. -/
theorem getLast?_path_inner {step : Nat} (parks : s.leaf? owner = some (leaf, scope))
    (isLast : (ip :: s.path).getLast? = some step) : s.path.getLast? = some step := by
  obtain ⟨below, isBelow⟩ := exists_getLast?_path parks
  rw [List.getLast?_cons, isBelow] at isLast
  rwa [isBelow]

/-- A suspended script that is sound is parked down to an innermost action. -/
theorem exists_leaf?_of_sound (suspended : s.suspended = true) (sound : s.corruption? = none)
    (owner : Owner) : ∃ leaf scope, s.leaf? owner = some (leaf, scope) := by
  induction s using Script.parkedInduction generalizing owner with
  | notParked s notParked =>
    obtain ⟨ip, action, same, here, _⟩ := exists_ip_of_suspended sound suspended
    rw [isParked_iff.mpr ⟨_, ip, action, same, here⟩] at notParked
    cases notParked
  | leaf actions ip action here plain =>
    rw [leaf?_parked owner here, Action.leaf?_of_inner?_eq_none plain]
    exact ⟨_, _, rfl⟩
  | conditional actions ip condition script here ih =>
    obtain ⟨action, isHere, actionSound⟩ := sound_parked_iff.mp sound
    cases here.symm.trans isHere
    obtain ⟨inSuspended, inSound⟩ := Action.corruption?_conditional.mp actionSound
    rw [leaf?_parked owner here]
    exact ih inSuspended inSound owner
  | runVerb actions ip whose verb target bound script here ih =>
    obtain ⟨action, isHere, actionSound⟩ := sound_parked_iff.mp sound
    cases here.symm.trans isHere
    obtain ⟨_, inSuspended, inSound⟩ := Action.corruption?_runVerb.mp actionSound
    rw [leaf?_parked owner here]
    exact ih inSuspended inSound (bound.getD owner)

end Script

/-! ## Time passes for the innermost action -/

/-- An action keeps the script inside it when it loses its progress. -/
theorem Action.isSome_inner?_reset (action : Action) :
    action.reset.inner?.isSome = action.inner?.isSome := by
  cases action <;> rfl

/-- What time that passes for an action may change: the progress of the action, or the place of the
actor that it lets walk. -/
inductive Action.TimeChanges (f : Frame) : Action → Action → Frame → Prop
  | progress {action action'} (written : action'.reset = action.reset) :
      TimeChanges f action action' f
  | walk {actor goal speed origin scene id walker pos}
      (walks : f.actor actor = .ok (scene, id, walker)) :
      TimeChanges f (.goto actor goal speed origin) (.goto actor goal speed origin)
        (f.after [.place scene id pos])

/-- Time that passes for an action without a script inside changes only its progress or the place of
an actor that walks. -/
theorem Action.timeChanges_of_tick {perform : Performer} {delta : Single} {action action' : Action}
    {f g : Frame} {answer : Except Fault Bool} (plain : action.inner? = none)
    (ticks : action.tick perform delta f = (action', answer, g)) :
    action.TimeChanges f action' g := by
  cases action with
  | goto actor goal speed origin =>
    simp only [Action.tick] at ticks
    split at ticks
    · next arrived walked done =>
      cases ticks
      unfold Frame.walkOn at done
      simp only at done
      split at done
      · obtain ⟨⟨scene, id, walker⟩, walks, rest⟩ := Except.exists_of_bind_eq_ok done
        cases rest
        exact .walk walks
      · cases done
    · cases ticks
      exact .progress rfl
  | playAnimation actor animation duration waits elapsed =>
    simp only [Action.tick] at ticks
    split at ticks <;>
      (cases ticks
       exact .progress rfl)
  | conditional condition script => cases plain
  | runVerb whose verb target bound script => cases plain
  | _ =>
    cases ticks
    exact .progress rfl

namespace Action.TimeChanges

variable {action action' : Action} {f g : Frame}

/-- Time puts no script inside an action. -/
theorem inner?_eq_none (changes : action.TimeChanges f action' g) (plain : action.inner? = none) :
    action'.inner? = none := by
  cases changes with
  | progress written =>
    have same : action'.inner?.isSome = action.inner?.isSome := by
      rw [← Action.isSome_inner?_reset, written, Action.isSome_inner?_reset]
    rw [plain] at same
    exact Option.isNone_iff_eq_none.mp (by simpa using same)
  | walk walks => rfl

/-- Time leaves the verb in its frame as it is. -/
theorem frame_eq (changes : action.TimeChanges f action' g) : g = { f with stage := g.stage } := by
  cases changes <;> rfl

end Action.TimeChanges

/-! ## Scripts -/

namespace Script

variable {perform : Performer} {delta : Single} {s : Script Action} {f g : Frame}
  {leaf leaf' : Action} {scope : Owner}

/-- Time that passes for a parked script whose innermost action goes on passes for that action
only. -/
theorem tick_of_leaf_goesOn (parks : s.leaf? f.scope = some (leaf, scope))
    (ticks : leaf.tick perform delta { f with scope } = (leaf', .ok false, g)) :
    s.tick perform delta f = (s.onLeaf fun _ => leaf', .suspended, f.leaveScope g) := by
  induction s using Script.parkedInduction generalizing f with
  | notParked s notParked =>
    rw [(still_of_not_isParked notParked).leaf] at parks
    cases parks
  | leaf actions ip action here plain =>
    rw [leaf?_parked _ here, Action.leaf?_of_inner?_eq_none plain] at parks
    cases parks
    have inFrame : f.leaveScope g = g := by
      rw [(Action.timeChanges_of_tick plain ticks).frame_eq]
      rfl
    rw [tick_parked perform delta f here, onLeaf_parked _ here,
      Action.onLeaf_of_inner?_eq_none plain, inFrame]
    have sameTick : leaf.tick perform delta f = (leaf', .ok false, g) := ticks
    simp only [sameTick]
  | conditional actions ip condition script here ih =>
    rw [leaf?_parked _ here] at parks
    rw [tick_parked perform delta f here, onLeaf_parked _ here]
    simp only [Action.tick, Action.onLeaf, ih parks ticks]
    rfl
  | runVerb actions ip whose verb target bound script here ih =>
    rw [leaf?_parked _ here] at parks
    rw [tick_parked perform delta f here, onLeaf_parked _ here]
    simp only [Action.tick, Action.onLeaf, ih (f := f.enterScope bound) parks ticks]
    rfl

/-- When time has passed for the innermost action of a parked script and the action is over, the
script goes on as if it was resumed then. -/
theorem resume_of_leaf_passes {step : Nat} (parks : s.leaf? f.scope = some (leaf, scope))
    (isStep : s.path.getLast? = some step)
    (passes : leaf.passes? perform step { f with scope } (.tick delta) = some (leaf', g)) :
    (s.onLeaf fun _ => leaf').resume perform (f.leaveScope g) = .ok (s.tick perform delta f) := by
  induction s using Script.parkedInduction generalizing f step with
  | notParked s notParked =>
    rw [(still_of_not_isParked notParked).leaf] at parks
    cases parks
  | leaf actions ip action here plain =>
    rw [leaf?_parked _ here, Action.leaf?_of_inner?_eq_none plain] at parks
    cases parks
    rw [path_parked here, Action.path_of_inner?_eq_none plain] at isStep
    cases isStep
    obtain ⟨inside, _⟩ := List.getElem?_eq_some_iff.mp here
    rcases ticks : leaf.tick perform delta f with ⟨after, answer, g'⟩
    have changes := Action.timeChanges_of_tick plain ticks
    -- an action that is over is resumed by going past it, which is what time does then
    have goesPast : ∀ g, { f with stage := g.stage } = g → Script.resume perform
        (Script.onLeaf (fun _ => after) ⟨actions, some ip, true⟩) (f.leaveScope g) =
          .ok (Script.advance perform ip (actions.set ip after) g) := by
      intro g sameFrame
      have inFrame : f.leaveScope g = g := by
        rw [← sameFrame]
        rfl
      rw [onLeaf_parked _ here, Action.onLeaf_of_inner?_eq_none plain, inFrame,
        resume_parked perform g (List.getElem?_set_self inside),
        Action.resume_of_inner?_eq_none (changes.inner?_eq_none plain)]
      simp only [List.set_set]
    have sameTick : leaf.passes? perform ip f (.tick delta) = some (leaf', g) := passes
    simp only [Action.passes?, ticks] at sameTick
    rw [tick_parked perform delta f here, ticks]
    cases answer with
    | error reason =>
      cases sameTick
      exact goesPast _ (congrArg (Frame.error · _) changes.frame_eq.symm)
    | ok isOver =>
      cases isOver with
      | false => cases sameTick
      | true =>
        cases sameTick
        exact goesPast _ changes.frame_eq.symm
  | conditional actions ip condition script here ih =>
    obtain ⟨inside, _⟩ := List.getElem?_eq_some_iff.mp here
    rw [leaf?_parked _ here] at parks
    rw [path_parked here] at isStep
    have below := ih parks (getLast?_path_inner parks isStep) passes
    rw [tick_parked perform delta f here, onLeaf_parked _ here,
      resume_parked perform _ (List.getElem?_set_self inside)]
    simp only [Action.tick, Action.onLeaf, Action.resume, below, List.set_set]
    rcases script.tick perform delta f with ⟨script', _ | _, f'⟩ <;> rfl
  | runVerb actions ip whose verb target bound script here ih =>
    obtain ⟨inside, _⟩ := List.getElem?_eq_some_iff.mp here
    rw [leaf?_parked _ here] at parks
    rw [path_parked here] at isStep
    have below := ih (f := f.enterScope bound) parks (getLast?_path_inner parks isStep) passes
    have entered : (f.leaveScope g).enterScope bound = (f.enterScope bound).leaveScope g := rfl
    rw [tick_parked perform delta f here, onLeaf_parked _ here,
      resume_parked perform _ (List.getElem?_set_self inside)]
    simp only [Action.tick, Action.onLeaf, Action.resume, entered, below, List.set_set]
    rcases script.tick perform delta (f.enterScope bound) with ⟨script', _ | _, f'⟩ <;> rfl

end Script

/-! ## Verbs -/

section

variable {perform : Performer} {delta : Single} {s : Script Action} {f g : Frame}
  {leaf leaf' : Action} {scope : Owner} {answer : Except Fault Bool}

/-- What comes of resuming a verb does not depend on the journal. -/
theorem Driving.resume_under (deaf : perform.Deaf) (s : Script Action) (f : Frame)
    (journal : List Note) : ∃ journal', Driving.resume.drive perform s (f.under journal) =
      (Driving.resume.drive perform s f).map fun done =>
        (done.1, done.2.1, done.2.2.under journal') := by
  obtain ⟨journal', same⟩ := deaf.resumeScript s f journal
  simp only [Driving.drive, same]
  rcases s.resume perform f with reason | ⟨s', state, f'⟩
  · exact ⟨journal, rfl⟩
  · obtain ⟨settled, sameEnd⟩ := f'.settle_under s' state journal'
    exact ⟨settled, congrArg Except.ok sameEnd⟩

/-- When time has passed for the innermost action of a verb and the action is over, the verb goes on
as if it was resumed then. -/
theorem Driving.resume_eq_tick {step : Nat} (parks : s.leaf? f.scope = some (leaf, scope))
    (isStep : s.path.getLast? = some step)
    (passes : leaf.passes? perform step { f with scope } (.tick delta) = some (leaf', g)) :
    Driving.resume.drive perform (s.onLeaf fun _ => leaf') (f.leaveScope g) =
      (Driving.tick delta).drive perform s f := by
  simp only [Driving.drive, Script.resume_of_leaf_passes parks isStep passes]
  rfl

/-- What the passing of time comes to for a parked script in the frame of its verb: time passes for
its innermost action, in the scope of that action, and for nothing else.  If the action goes on,
that is all.  If it is over or has failed, the rest is what comes of resuming the script then; only
a failure is noted in the journal besides. -/
structure Script.TimeAgrees (perform : Performer) (delta : Single) (s : Script Action) (f : Frame)
    (leaf : Action) (scope : Owner) (leaf' : Action) (answer : Except Fault Bool) (g : Frame) :
    Prop where
  parks : s.leaf? f.scope = some (leaf, scope)
  ticks : leaf.tick perform delta { f with scope } = (leaf', answer, g)
  changes : leaf.TimeChanges { f with scope } leaf' g
  path_eq : (s.onLeaf fun _ => leaf').path = s.path
  goesOn : answer = .ok false → (Driving.tick delta).drive perform s f =
    .ok (s.onLeaf fun _ => leaf', .suspended, f.leaveScope g)
  finishes : answer = .ok true → ∃ done,
    Driving.resume.drive perform (s.onLeaf fun _ => leaf') (f.leaveScope g) = .ok done ∧
    (Driving.tick delta).drive perform s f = .ok done
  failed : ∀ reason, answer = .error reason → ∃ s' state f' journal,
    Driving.resume.drive perform (s.onLeaf fun _ => leaf') (f.leaveScope g) =
      .ok (s', state, f') ∧
    (Driving.tick delta).drive perform s f = .ok (s', state, f'.under journal)

/-- Time that passes for a verb that is suspended and sound passes for its innermost action, and
what comes of it then is what comes of resuming the verb. -/
theorem Script.exists_timeAgrees (deaf : perform.Deaf) (delta : Single)
    (suspended : s.suspended = true) (sound : s.corruption? = none)
    (steady : f.cancelRequested = false) : ∃ leaf scope leaf' answer g,
      s.TimeAgrees perform delta f leaf scope leaf' answer g := by
  obtain ⟨leaf, scope, parks⟩ := exists_leaf?_of_sound suspended sound f.scope
  obtain ⟨step, isStep⟩ := exists_getLast?_path parks
  rcases ticks : leaf.tick perform delta { f with scope } with ⟨leaf', answer, g⟩
  have plain := inner?_of_leaf? parks
  have changes := Action.timeChanges_of_tick plain ticks
  refine ⟨leaf, scope, leaf', answer, g, parks, ticks, changes,
    path_onLeaf parks (changes.inner?_eq_none plain), ?_, ?_, ?_⟩
  · rintro rfl
    have calm : (f.leaveScope g).cancelRequested = false := by
      rw [changes.frame_eq]
      exact steady
    simp only [Driving.drive, tick_of_leaf_goesOn parks ticks, Frame.settle, calm]
    rfl
  · rintro rfl
    have passes : leaf.passes? perform step { f with scope } (.tick delta) = some (leaf', g) := by
      simp only [Action.passes?, ticks]
    exact ⟨_, Driving.resume_eq_tick parks isStep passes, rfl⟩
  · rintro reason rfl
    let noted : Frame :=
      g.error s!"{g.handle.key.text} step {step} failed while in progress: {reason.message}"
    have passes : leaf.passes? perform step { f with scope } (.tick delta) =
        some (leaf', noted) := by
      simp only [Action.passes?, ticks, noted]
    have agrees := Driving.resume_eq_tick parks isStep passes
    obtain ⟨journal, unnoted⟩ := Driving.resume_under deaf (s.onLeaf fun _ => leaf')
      (f.leaveScope g) noted.stage.journal
    have ticked := agrees.symm.trans unnoted
    cases resumes : Driving.resume.drive perform (s.onLeaf fun _ => leaf') (f.leaveScope g) with
    | error refusal =>
      rw [resumes] at ticked
      cases ticked
    | ok done =>
      rw [resumes] at ticked
      exact ⟨done.1, done.2.1, done.2.2, journal, rfl, ticked⟩

/-! ## On the stage -/

namespace Stage

/-- Let time pass for the innermost action on which the script of a verb is parked. -/
def tickingLeaf (perform : Performer) (delta : Single) (h : Handle) (script : Script Action)
    (stage : Stage) : Script Action × Unit × Stage :=
  match script.leaf? h.owner with
  | some (leaf, scope) =>
    let (leaf, _, g) := leaf.tick perform delta { Frame.enter h stage with scope }
    (script.onLeaf fun _ => leaf, (), g.stage)
  | none => (script, (), stage)

/-- Let time pass for the innermost action on which a verb is parked, and for nothing else. -/
def tickLeaf (perform : Performer) (delta : Single) (s : Stage) (h : Handle) : Stage :=
  (s.withVerb h (tickingLeaf perform delta h)).2

/-- A verb that is lent can come back. -/
theorem expects_lend {s : Stage} {h : Handle} {script : Script Action}
    (found : s.world.script? h = some script) : (s.lend h).Expects h := by
  constructor
  · obtain ⟨verbs, present, _⟩ := (s.world.script?_eq_some_iff h script).mp found
    simp [lend, World.isSome_verbs?_modifyVerbs, present]
  · rw [script?_lend, if_pos rfl]

end Stage

/-- Time that passes for an action leaves the verbs alone. -/
theorem Action.TimeChanges.expects {h : Handle} (changes : leaf.TimeChanges f leaf' g)
    (expects : f.stage.Expects h) :
    g.stage.Expects h ∧ g.stage.executing = f.stage.executing := by
  cases changes with
  | progress written => exact ⟨expects, rfl⟩
  | @walk _ _ _ _ scene id _ pos walks =>
    have sameVerbs := @Deed.verbs?_apply (.place scene id pos) rfl f.stage
    have sameScripts := @Deed.script?_apply (.place scene id pos) rfl f.stage
    obtain ⟨present, absent⟩ := expects
    refine ⟨⟨?_, ?_⟩, rfl⟩
    · rwa [← sameVerbs] at present
    · rwa [← sameScripts] at absent

namespace Stage

variable {t : Stage} {h : Handle}

/-- Two ways of driving that differ in the journal only leave stages that differ in it only. -/
theorem driveVerb_like {driving driving' : Driving} {t' : Stage} {again s' : Script Action}
    {state : RunState} {f' : Frame} {journal : List Note} (idle : h ∉ t.executing)
    (sameExecuting : t'.executing = t.executing) (found : t.world.script? h = some s)
    (foundAgain : t'.world.script? h = some again)
    (drives : driving.drive perform s (.enter h (t.lend h)) = .ok (s', state, f'))
    (drivesAlike : driving'.drive perform again (.enter h (t'.lend h)) =
      .ok (s', state, f'.under journal)) :
    ∃ journal', t'.driveVerb perform driving' h =
      ((t.driveVerb perform driving h).1, (t.driveVerb perform driving h).2.under journal') := by
  have idleAgain : h ∉ t'.executing := by rwa [sameExecuting]
  unfold driveVerb
  rw [withVerb_of_found idle found, withVerb_of_found idleAgain foundAgain, drives, drivesAlike,
    sameExecuting]
  simp only [Frame.under, under]
  cases f'.stage.world.verbs? h.owner with
  | none => exact ⟨_, rfl⟩
  | some verbs => exact ⟨journal, rfl⟩

/-- The stage on which time has passed for the innermost action of a verb: the verb is back in its
table, and the next time it is driven it is as if it had not come back. -/
structure LeafTicked (t : Stage) (h : Handle) (s : Script Action) (g : Frame) (after : Stage) :
    Prop where
  comesBack : after = (g.stage.closing h s).apply g.stage
  executing_eq : after.executing = t.executing
  found : after.world.script? h = some s
  lend_eq : after.lend h = g.stage

/-- Time passes for the innermost action of a verb. -/
theorem leafTicked (idle : h ∉ t.executing) (found : t.world.script? h = some s)
    (agrees : s.TimeAgrees perform delta (.enter h (t.lend h)) leaf scope leaf' answer g) :
    t.LeafTicked h (s.onLeaf fun _ => leaf') g (t.tickLeaf perform delta h) := by
  obtain ⟨expects, executing⟩ := agrees.changes.expects (h := h) (t.expects_lend found)
  have comesBack : t.tickLeaf perform delta h =
      (g.stage.closing h (s.onLeaf fun _ => leaf')).apply g.stage := by
    have parks : s.leaf? h.owner = some (leaf, scope) := agrees.parks
    have ticked : tickingLeaf perform delta h s (t.lend h) =
        (s.onLeaf fun _ => leaf', (), g.stage) := by
      simp only [tickingLeaf, parks, agrees.ticks]
    exact congrArg Prod.snd (withVerb_eq idle found ticked executing)
  refine ⟨comesBack, ?_, ?_, ?_⟩ <;> rw [comesBack, expects.closing_eq]
  · simp only [Deed.apply, mapWorld, release, executing]
    rfl
  · exact expects.script?_putBack _
  · exact expects.lend_putBack executing _

/-- A verb that is driven with success answers its run state. -/
theorem driveVerb_fst {driving : Driving} {s' : Script Action} {state : RunState} {f' : Frame}
    (idle : h ∉ t.executing) (found : t.world.script? h = some s)
    (driven : driving.drive perform s (.enter h (t.lend h)) = .ok (s', state, f')) :
    (t.driveVerb perform driving h).1 = some (.ok state) := by
  unfold driveVerb
  rw [withVerb_of_found idle found, driven]
  simp only
  split <;> rfl

/-- Between its coming back and its being driven again a verb has not left its frame. -/
theorem LeafTicked.enter_eq {after : Stage} (ticked : t.LeafTicked h s g after)
    (changes : leaf.TimeChanges { Frame.enter h (t.lend h) with scope } leaf' g) :
    Frame.enter h (after.lend h) = (Frame.enter h (t.lend h)).leaveScope g := by
  rw [ticked.lend_eq, changes.frame_eq]
  rfl

/-- Time that passes for a suspended verb passes for its innermost action.  If that goes on the verb
stays parked as it is, and if not, resuming the verb then comes to the same as time has come to: it
is not refused, and the run state, the script in the table, the world and the events are the same.
What has failed is noted in the journal besides. -/
theorem timeAgrees (idle : h ∉ t.executing) (found : t.world.script? h = some s)
    (suspended : s.suspended = true) (sound : s.corruption? = none) (delta : Single) (depth : Nat) :
    (∀ f : Frame, f.cancelRequested = false → ∃ leaf scope leaf' answer g,
      s.TimeAgrees (Action.perform depth) delta f leaf scope leaf' answer g) ∧
    ∃ leaf scope leaf' answer g,
      s.TimeAgrees (Action.perform depth) delta (.enter h (t.lend h)) leaf scope leaf' answer g ∧
      (answer = .ok false →
        t.tickVerb (Action.perform depth) delta h = t.tickLeaf (Action.perform depth) delta h) ∧
      (answer = .ok true → ∃ state, (t.tickLeaf (Action.perform depth) delta h).resumeVerb h depth =
        (.ok state, t.tickVerb (Action.perform depth) delta h)) ∧
      ∀ reason, answer = .error reason → ∃ state t' journal,
        (t.tickLeaf (Action.perform depth) delta h).resumeVerb h depth = (.ok state, t') ∧
        t.tickVerb (Action.perform depth) delta h = t'.under journal := by
  have agreesIn : ∀ f : Frame, f.cancelRequested = false → ∃ leaf scope leaf' answer g,
      s.TimeAgrees (Action.perform depth) delta f leaf scope leaf' answer g :=
    fun f => Script.exists_timeAgrees (Action.deaf_perform depth) delta suspended sound
  refine ⟨agreesIn, ?_⟩
  obtain ⟨leaf, scope, leaf', answer, g, agrees⟩ := agreesIn (.enter h (t.lend h)) rfl
  have ticked := leafTicked idle found agrees
  have entered := ticked.enter_eq agrees.changes
  refine ⟨leaf, scope, leaf', answer, g, agrees, ?_, ?_, ?_⟩
  · rintro rfl
    have lent : g.stage.executing = h :: t.executing := by
      rw [← ticked.lend_eq, ← ticked.executing_eq]
      rfl
    rw [tickVerb_eq, driveVerb_eq_of_ok idle found (agrees.goesOn rfl) lent]
    exact ticked.comesBack.symm
  · rintro rfl
    obtain ⟨⟨s', state, f'⟩, resumes, ticks⟩ := agrees.finishes rfl
    rw [← entered] at resumes
    have same : t.driveVerb (Action.perform depth) (.tick delta) h =
        (t.tickLeaf (Action.perform depth) delta h).driveVerb (Action.perform depth) .resume h :=
      withVerb_congr idle ticked.executing_eq found ticked.found (by simp only [ticks, resumes])
    refine ⟨state, ?_⟩
    rw [resumeVerb_eq, tickVerb_eq, ← same, driveVerb_fst idle found ticks]
    rfl
  · rintro reason rfl
    obtain ⟨s', state, f', noted, resumes, ticks⟩ := agrees.failed reason rfl
    rw [← entered] at resumes
    have idleAfter : h ∉ (t.tickLeaf (Action.perform depth) delta h).executing := by
      rwa [ticked.executing_eq]
    obtain ⟨journal, alike⟩ := driveVerb_like idleAfter ticked.executing_eq.symm ticked.found found
      resumes ticks
    refine ⟨state, _, journal, ?_, by rw [tickVerb_eq, alike]⟩
    rw [resumeVerb_eq, driveVerb_fst idleAfter ticked.found resumes]
    rfl

end Stage

end

/-- A world whose only verb waits below a condition before it opens something. -/
def World.knocking : World :=
  World.empty.modifyVerbs .world (·.insert ⟨"knock", none, none⟩
    ⟨[.conditional (.all []) ⟨[.wait 1 0, .setState .owner (some "open")], some 0, true⟩],
      some 0, true⟩)

/-- Knocking for two seconds is knocking until the wait is over and being let in then. -/
theorem Stage.knocking_timeAgrees :
    ⟨.world, "knock", none, none⟩ ∉ (Stage.ofWorld .knocking).executing ∧
    (∃ script, World.knocking.script? ⟨.world, "knock", none, none⟩ = some script ∧
      script.suspended = true ∧ script.corruption? = none) ∧
    ∃ state, ((Stage.ofWorld .knocking).tickLeaf (Action.perform 2) 2
        ⟨.world, "knock", none, none⟩).resumeVerb ⟨.world, "knock", none, none⟩ 2 =
      (.ok state, (Stage.ofWorld .knocking).tickVerb (Action.perform 2) 2
        ⟨.world, "knock", none, none⟩) := by
  have idle : ⟨.world, "knock", none, none⟩ ∉ (Stage.ofWorld .knocking).executing :=
    List.not_mem_nil
  have found : World.knocking.script? ⟨.world, "knock", none, none⟩ = some
      ⟨[.conditional (.all []) ⟨[.wait 1 0, .setState .owner (some "open")], some 0, true⟩],
        some 0, true⟩ := rfl
  have sound : Script.corruption?
      ⟨[.conditional (.all []) ⟨[.wait 1 0, .setState .owner (some "open")], some 0, true⟩],
        some 0, true⟩ = none := by decide +kernel
  refine ⟨idle, ⟨_, found, rfl, sound⟩, ?_⟩
  obtain ⟨_, leaf, scope, leaf', answer, g, agrees, _, finishes, _⟩ :=
    Stage.timeAgrees idle found rfl sound 2 2
  cases agrees.parks
  have isOver : answer = .ok (decide ((1 : Single) ≤ 0 + 2)) :=
    (congrArg (·.2.1) agrees.ticks).symm
  have passed : decide ((1 : Single) ≤ 0 + 2) = true := by decide +kernel
  exact finishes (isOver.trans (congrArg Except.ok passed))

end Stagecraft
