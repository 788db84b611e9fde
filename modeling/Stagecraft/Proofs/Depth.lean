import Mathlib.Tactic.Ring
import Stagecraft.Proofs.Descent
import Stagecraft.Proofs.Opening

/-!
# Depths that suffice

If no verb of a world leads back to itself by verbs that run verbs inside them, every operation
comes to the same however deep verbs may run each other, from the depth on that is taken if none is
given.
-/

namespace Stagecraft

namespace Program

variable {p : Program} {first second : Performer} {s : Stage} {f : Frame} {h : Handle}

/-! ## Performers that are as good as each other -/

/-- Whether it makes no difference which of two performers carries out an action that keeps to a
program. -/
structure Interchange (p : Program) (first second : Performer) : Prop where
  kept : p.upkeep.KeptBy first
  runs : first.Runs
  same : ∀ action f, action.Throughout p.Permits → p.upkeep.Upheld f.stage.world →
    first action f = second action f

namespace Interchange

variable (inter : p.Interchange first second)

include inter

theorem stepFrom (ip : Nat) {actions : List Action} (upheld : p.upkeep.Upheld f.stage.world)
    (through : ∀ action ∈ actions, action.Throughout p.Permits) :
    Script.stepFrom first ip actions f = Script.stepFrom second ip actions f := by
  -- Without calls to tell apart, all actions are below one height.
  have fits : ∀ action ∈ actions, p.Fits (fun _ => 0) 1 p.weight action := fun action member =>
    ⟨through action member, (through action member).own.1, fun _ _ _ => Nat.zero_lt_one⟩
  have agree : p.Agree (fun _ => 0) (p.spare f.stage) 1 p.weight first second :=
    fun action f fits admits => inter.same action f fits.through admits.upheld
  exact agree.stepFrom inter.kept inter.runs ip fits ⟨upheld, Nat.le_refl _⟩

/-- Scripts are started alike. -/
theorem start {script : Script Action} (upheld : p.upkeep.Upheld f.stage.world)
    (through : script.Throughout p.Permits) : script.start first f = script.start second f :=
  inter.stepFrom 0 (upheld.release through) through.reset

private theorem advance {actions : List Action} {action action' : Action} {ip : Nat}
    (upheld : p.upkeep.Upheld f.stage.world)
    (through : ∀ action ∈ actions, action.Throughout p.Permits) (here : actions[ip]? = some action)
    (progress : p.upkeep.Progress action action') :
    Script.advance first ip (actions.set ip action') f =
      Script.advance second ip (actions.set ip action') f :=
  inter.stepFrom (ip + 1) upheld (Upkeep.ProgressAll.set through here progress).through

/-! ## Time -/

private theorem tick_of {delta : Single} {script : Script Action}
    (below : ∀ action ∈ script.actions, ∀ f : Frame, p.upkeep.Upheld f.stage.world →
      action.Throughout p.Permits → action.tick first delta f = action.tick second delta f)
    (upheld : p.upkeep.Upheld f.stage.world) (through : script.Throughout p.Permits) :
    script.tick first delta f = script.tick second delta f := by
  rcases script.parked_or_still with ⟨actions, ip, action, rfl, here⟩ | still
  · have member := List.mem_of_getElem? here
    rw [Script.tick_parked _ _ _ here, Script.tick_parked _ _ _ here,
      ← below action member f upheld (through action member)]
    rcases inter.kept.tickAction delta upheld (through action member) with ⟨afterAction, progress⟩
    generalize action.tick first delta f = ticked at afterAction progress ⊢
    rcases ticked with ⟨action', (reason | (_ | _)), f₁⟩
    · exact inter.advance afterAction through here progress
    · rfl
    · exact inter.advance afterAction through here progress
  · rw [still.tick, still.tick]

/-- Time passes for actions alike. -/
private theorem tickAction (delta : Single) (action : Action)
    (upheld : p.upkeep.Upheld f.stage.world) (through : action.Throughout p.Permits) :
    action.tick first delta f = action.tick second delta f := by
  induction action using Action.nestedInduction generalizing f with
  | leaf action noInner =>
    cases action with
    | conditional condition script => cases noInner
    | runVerb whose verb target bound script => cases noInner
    | _ => rfl
  | conditional condition script ih =>
    have inner := inter.tick_of (f := f) (fun action member f => ih action member) upheld
      (through.inside rfl)
    simp only [Action.tick, inner]
  | runVerb whose verb target bound script ih =>
    have inner := inter.tick_of (f := f.enterScope bound) (fun action member f => ih action member)
      upheld (through.inside rfl)
    simp only [Action.tick, inner]

/-- Time passes for scripts alike. -/
theorem tick (delta : Single) {script : Script Action} (upheld : p.upkeep.Upheld f.stage.world)
    (through : script.Throughout p.Permits) :
    script.tick first delta f = script.tick second delta f :=
  inter.tick_of (fun action _ _ => inter.tickAction delta action) upheld through

/-! ## Arrival of what is waited for -/

private theorem resume_of {script : Script Action}
    (below : ∀ action ∈ script.actions, ∀ f : Frame, p.upkeep.Upheld f.stage.world →
      action.Throughout p.Permits → action.resume first f = action.resume second f)
    (upheld : p.upkeep.Upheld f.stage.world) (through : script.Throughout p.Permits) :
    script.resume first f = script.resume second f := by
  rcases script.parked_or_still with ⟨actions, ip, action, rfl, here⟩ | still
  · have member := List.mem_of_getElem? here
    rw [Script.resume_parked _ _ here, Script.resume_parked _ _ here,
      ← below action member f upheld (through action member)]
    rcases resumed : action.resume first f with reason | ⟨action', (_ | _), f₁⟩
    · rfl
    · rfl
    · rcases inter.kept.resumeAction upheld (through action member) resumed with
        ⟨afterAction, progress⟩
      exact congrArg Except.ok (inter.advance afterAction through here progress)
  · rw [still.resume, still.resume]

private theorem resumeAction (action : Action) (upheld : p.upkeep.Upheld f.stage.world)
    (through : action.Throughout p.Permits) : action.resume first f = action.resume second f := by
  induction action using Action.nestedInduction generalizing f with
  | leaf action noInner =>
    cases action with
    | conditional condition script => cases noInner
    | runVerb whose verb target bound script => cases noInner
    | _ => rfl
  | conditional condition script ih =>
    have inner := inter.resume_of (f := f) (fun action member f => ih action member) upheld
      (through.inside rfl)
    simp only [Action.resume, inner]
  | runVerb whose verb target bound script ih =>
    have inner := inter.resume_of (f := f.enterScope bound)
      (fun action member f => ih action member) upheld (through.inside rfl)
    simp only [Action.resume, inner]

/-- Scripts hear alike of what they wait for. -/
theorem resume {script : Script Action} (upheld : p.upkeep.Upheld f.stage.world)
    (through : script.Throughout p.Permits) : script.resume first f = script.resume second f :=
  inter.resume_of (fun action _ _ => inter.resumeAction action) upheld through

/-! ## Whole verbs -/

/-- However verbs are driven, they are driven alike. -/
theorem drive (driving : Driving) {script : Script Action} (upheld : p.upkeep.Upheld f.stage.world)
    (through : script.Throughout p.Permits) :
    driving.drive first script f = driving.drive second script f := by
  cases driving with
  | run =>
    have sameStart := inter.start (f := f.info s!">>> running verb {f.handle.key.text}") upheld
      through
    simp only [Driving.drive, Frame.run, sameStart]
  | resume => simp only [Driving.drive, inter.resume upheld through]
  | tick delta => simp only [Driving.drive, inter.tick delta upheld through]
  | reenter =>
    have sameReenter : script.reenter first f = script.reenter second f := by
      unfold Script.reenter
      split
      · split
        · exact inter.stepFrom _ upheld through
        · rfl
      · rfl
    simp only [Driving.drive, sameReenter]
  | cancel => rfl

/-- Verbs of a stage are driven alike. -/
theorem driveVerb (driving : Driving) (upheld : p.upkeep.Upheld s.world) (h : Handle) :
    s.driveVerb first driving h = s.driveVerb second driving h := by
  unfold Stage.driveVerb
  by_cases executing : h ∈ s.executing
  · simp only [Stage.withVerb, executing, if_true]
  · cases found : s.world.script? h with
    | none => simp only [Stage.withVerb, executing, if_false, found]
    | some script =>
      have through := (upheld.scripts h script found).1
      apply Stage.withVerb_congr executing rfl found found
      simp only [inter.drive driving (f := .enter h (s.lend h)) (upheld.lend h) through]

theorem runHandle (upheld : p.upkeep.Upheld s.world) (h : Handle) :
    s.runHandle first h = s.runHandle second h := by
  have driven := inter.driveVerb .run upheld h
  rw [Stage.runHandle_eq, Stage.runHandle_eq] at driven
  rcases Prod.mk.inj driven with ⟨sameAnswer, sameStage⟩
  have ok_injective : Function.Injective (Except.ok : RunState → Except VerbError RunState) :=
    fun _ _ same => Except.ok.inj same
  exact Prod.ext (Option.map_injective ok_injective sameAnswer) sameStage

theorem runNamed (upheld : p.upkeep.Upheld s.world) (owner : Owner) (id : String)
    (target : Option String) :
    s.runNamed first owner id target = s.runNamed second owner id target := by
  unfold Stage.runNamed
  split
  · exact inter.runHandle upheld _
  · rfl

theorem goToScene (upheld : p.upkeep.Upheld s.world) (id : String) :
    s.goToScene first id = s.goToScene second id :=
  goToScene_congr upheld fun _ upheld _ => inter.runNamed upheld _ _ _

theorem noticePlayer (upheld : p.upkeep.Upheld s.world) (scene actor : String) :
    s.noticePlayer first scene actor = s.noticePlayer second scene actor := by
  cases sees : s.sees? scene actor with
  | none => rw [Stage.noticePlayer_of_unseen sees, Stage.noticePlayer_of_unseen sees]
  | some crossing =>
    have crossed : p.upkeep.Upheld (s.crossed scene actor crossing).world :=
      upheld.apply (Stage.allowed_notice sees) (by rintro _ _ ⟨⟩)
    rw [Stage.noticePlayer_of_sees sees, Stage.noticePlayer_of_sees sees, inter.runNamed crossed]

end Interchange

/-! ## The operations -/

/-- Steps that are alike wherever something holds come to the same one after the other, if they keep
it. -/
private theorem foldl_congr {α β : Type} {motive : β → Prop} {step step' : β → α → β}
    (same : ∀ b a, motive b → step b a = step' b a) (keeps : ∀ b a, motive b → motive (step b a))
    (list : List α) {b : β} (start : motive b) : list.foldl step b = list.foldl step' b := by
  induction list generalizing b with
  | nil => rfl
  | cons a rest ih =>
    rw [List.foldl_cons, List.foldl_cons, ← same b a start]
    exact ih (keeps b a start)

namespace Interchange

variable {depth more : Nat} (inter : p.Interchange (Action.perform depth) (Action.perform more))

include inter

theorem resumeVerb (upheld : p.upkeep.Upheld s.world) (h : Handle) :
    s.resumeVerb h depth = s.resumeVerb h more := by
  rw [Stage.resumeVerb_eq, Stage.resumeVerb_eq, inter.driveVerb .resume upheld h]

theorem ticked (upheld : p.upkeep.Upheld s.world) (delta : Single) :
    s.ticked (Action.perform depth) delta = s.ticked (Action.perform more) delta := by
  have passes : (Deed.pass delta).Allowed none s := rfl
  apply foldl_congr (motive := fun s => p.upkeep.Upheld s.world)
  · intro s h upheld
    rw [Stage.tickVerb_eq, Stage.tickVerb_eq, inter.driveVerb (.tick delta) upheld h]
  · exact fun s h upheld => upheld.tickVerb delta h
  · exact upheld.apply passes (by simp)

theorem update (upheld : p.upkeep.Upheld s.world) (delta : Single) :
    s.update delta depth = s.update delta more := by
  rw [Stage.update_eq, Stage.update_eq, ← inter.ticked upheld delta]
  apply foldl_congr (motive := fun s => p.upkeep.Upheld s.world)
  · exact fun s onlooker upheld => inter.noticePlayer upheld onlooker.1 onlooker.2
  · exact fun s onlooker upheld => upheld.noticePlayer onlooker.1 onlooker.2
  · exact upheld.ticked delta

theorem interact (upheld : p.upkeep.Upheld s.world) (actor id : String) (target : Option String) :
    s.interact actor id target depth = s.interact actor id target more := by
  unfold Stage.interact
  split
  · rfl
  · split
    · rfl
    · split
      · split
        · next h _ =>
          exact inter.runHandle (s := s.info s!"player: {id} {actor} -> {h.text}") upheld h
        · rfl
      · rfl

theorem animationFinished (upheld : p.upkeep.Upheld s.world) (actor : String) :
    s.animationFinished actor depth = s.animationFinished actor more := by
  unfold Stage.animationFinished
  apply foldl_congr (motive := fun reached : Nat × Stage => p.upkeep.Upheld reached.2.world)
  · rintro ⟨count, s⟩ h upheld
    simp only [inter.resumeVerb upheld h]
  · rintro ⟨count, s⟩ h upheld
    have resumed : p.upkeep.Upheld (s.resumeVerb h depth).2.world := upheld.resumeVerb h
    rcases answer : s.resumeVerb h depth with ⟨reason | state, after⟩ <;>
      (rw [answer] at resumed
       simp only [answer]
       exact resumed)
  · exact upheld

theorem chooseOption (upheld : p.upkeep.Upheld s.world) (index : Nat) :
    s.chooseOption index depth = s.chooseOption index more := by
  cases isOpen : s.world.openDialog with
  | none => simp only [Stage.chooseOption, isOpen]
  | some opened =>
    cases chooses : (s.world.actor? opened.scene opened.actor).bind
        (·.chooseOption? opened.dialog index) with
    | none => simp only [Stage.chooseOption, isOpen, chooses]
    | some choice =>
      obtain ⟨option, actor⟩ := choice
      have chosen := upheld.chosen isOpen chooses
      have sameOption : (s.chosen opened option actor).afterOption opened option depth =
          (s.chosen opened option actor).afterOption opened option more := by
        unfold Stage.afterOption
        split
        · exact congrArg Prod.snd (inter.runNamed chosen _ _ none)
        · rfl
      rw [Stage.chooseOption_eq isOpen chooses, Stage.chooseOption_eq isOpen chooses, ← sameOption,
        inter.resumeVerb (chosen.afterOption opened option)]

theorem restore (upheld : p.upkeep.Upheld s.world) : s.restore depth = s.restore more := by
  unfold Stage.restore
  split
  · rfl
  · apply congrArg Except.ok
    apply foldl_congr (motive := fun s => p.upkeep.Upheld s.world)
    · intro s h upheld
      rw [Stage.reenterVerb_eq, Stage.reenterVerb_eq]
      simp only [inter.driveVerb .reenter
        (s := s.info s!"re-entering verb {h.text} after load") upheld h]
    · exact fun s h upheld => upheld.reenterVerb h
    · exact upheld

end Interchange

/-- Depths that suffice for all actions of a program are as good as each other, whatever is at the
bottom. -/
theorem Ranks.interchange {rank : String → Nat} (ranks : p.Ranks rank) (bottom : Performer)
    {depth more : Nat} (deep : p.need p.handles.length p.verbs.length p.weight ≤ depth)
    (deeper : p.need p.handles.length p.verbs.length p.weight ≤ more) :
    p.Interchange (Action.perform depth) (Action.performAbove bottom more) where
  kept := p.upkeep.keptBy_perform depth
  runs := Action.perform_runs depth
  same action f through upheld :=
    ranks.perform bottom deep deeper action f (ranks.fits through)
      ⟨upheld, List.length_filter_le ..⟩

end Program

/-- What all actions of a program need at most. -/
theorem Program.need_all (p : Program) (room : Nat) :
    p.need room p.verbs.length p.weight = (room + 1) * ((p.verbs.length + 1) * (p.weight + 1)) := by
  unfold need
  ring

/-- The depth that is taken if none is given suffices for the program of the world. -/
theorem Stage.need_le_depthBound (s : Stage) :
    s.world.program.need s.world.program.handles.length s.world.program.verbs.length
      s.world.program.weight ≤ s.depthBound := by
  have verbs : s.world.program.verbs.length ≤ s.world.weight := s.world.length_written_le
  have each : s.world.program.handles.length =
      s.world.owners.length * s.world.program.verbs.length := by
    unfold Program.handles
    rw [List.length_flatMap]
    simp [World.program]
  have handles : s.world.program.handles.length ≤ s.world.ownerCount * s.world.weight := by
    rw [each, World.length_owners]
    exact Nat.mul_le_mul_left _ verbs
  rw [Program.need_all]
  unfold depthBound
  rw [Nat.mul_assoc]
  apply Nat.mul_le_mul (Nat.succ_le_succ handles)
  exact Nat.mul_le_mul_right _ (Nat.succ_le_succ verbs)

/-- Whether from a depth on every operation on a stage comes to the same, and no verb that is driven
gets to the bottom.  Cancelling a verb and handing over control go down to no depth at all. -/
structure Stage.Settles (s : Stage) (bound : Nat) : Prop where
  driveVerb : ∀ depth ≥ bound, ∀ bottom driving h,
    s.driveVerb (Action.performAbove bottom depth) driving h =
      s.driveVerb (Action.perform bound) driving h
  begin : ∀ depth ≥ bound, s.begin depth = s.begin bound
  enterScene : ∀ depth ≥ bound, ∀ id, s.enterScene id depth = s.enterScene id bound
  runVerb : ∀ depth ≥ bound, ∀ owner id target,
    s.runVerb owner id target depth = s.runVerb owner id target bound
  interact : ∀ depth ≥ bound, ∀ actor id target,
    s.interact actor id target depth = s.interact actor id target bound
  resumeVerb : ∀ depth ≥ bound, ∀ h, s.resumeVerb h depth = s.resumeVerb h bound
  update : ∀ depth ≥ bound, ∀ delta, s.update delta depth = s.update delta bound
  animationFinished : ∀ depth ≥ bound, ∀ actor,
    s.animationFinished actor depth = s.animationFinished actor bound
  chooseOption : ∀ depth ≥ bound, ∀ index, s.chooseOption index depth = s.chooseOption index bound
  restore : ∀ depth ≥ bound, s.restore depth = s.restore bound

/-- If no verb of a world leads back to one of its id by verbs that run verbs inside them, there is
a depth that depends on the world alone from which on every operation comes to the same; it is the
one that is taken if none is given. -/
theorem World.settles {w : World} (acyclic : w.program.Acyclic) :
    ∃ bound, ∀ s : Stage, s.world = w → s.depthBound = bound ∧ s.Settles bound := by
  rcases acyclic.exists_ranks with ⟨rank, ranks⟩
  refine ⟨(Stage.ofWorld w).depthBound, ?_⟩
  rintro s rfl
  have upheld := s.world.upheld_program
  have above : ∀ bottom, ∀ depth ≥ s.depthBound, s.world.program.Interchange
      (Action.perform s.depthBound) (Action.performAbove bottom depth) := fun bottom depth deep =>
    ranks.interchange bottom s.need_le_depthBound (s.need_le_depthBound.trans deep)
  have inter : ∀ depth ≥ s.depthBound,
      s.world.program.Interchange (Action.perform depth) (Action.perform s.depthBound) := by
    intro depth deep
    rw [Action.perform_eq_performAbove s.depthBound]
    exact ranks.interchange _ (s.need_le_depthBound.trans deep) s.need_le_depthBound
  constructor
  · rfl
  constructor
  case driveVerb =>
    intro depth deep bottom driving h
    exact ((above bottom depth deep).driveVerb driving upheld h).symm
  case begin =>
    intro depth deep
    unfold Stage.begin
    split
    · exact (inter depth deep).goToScene upheld _
    · rfl
  case enterScene => exact fun depth deep id => (inter depth deep).goToScene upheld id
  case runVerb =>
    exact fun depth deep owner id target => (inter depth deep).runNamed upheld owner id target
  case interact =>
    exact fun depth deep actor id target => (inter depth deep).interact upheld actor id target
  case resumeVerb => exact fun depth deep h => (inter depth deep).resumeVerb upheld h
  case update => exact fun depth deep delta => (inter depth deep).update upheld delta
  case animationFinished =>
    exact fun depth deep actor => (inter depth deep).animationFinished upheld actor
  case chooseOption => exact fun depth deep index => (inter depth deep).chooseOption upheld index
  case restore => exact fun depth deep => (inter depth deep).restore upheld

/-- On the stairs, where the verbs `init` lead into each other in a circle, every operation comes to
the same from some depth on. -/
theorem World.stairs_settles :
    World.stairs.program.Acyclic ∧
      (Stage.ofWorld .stairs).Settles (Stage.ofWorld .stairs).depthBound := by
  have onlyCall : ∀ verb ∈ World.stairs.program.verbs, ∀ id ∈ verb.script.calls,
      verb.key.id = "go" ∧ id = "down" := by
    decide +kernel
  have calls : ∀ {u v}, World.stairs.program.Calls u v → u = "go" ∧ v = "down" := by
    rintro u v ⟨verb, member, rfl, called⟩
    exact onlyCall verb member v called
  have acyclic : World.stairs.program.Acyclic := by
    intro id leads
    rcases Relation.TransGen.head'_iff.mp leads with ⟨_, first, _⟩
    rcases Relation.TransGen.tail'_iff.mp leads with ⟨_, _, last⟩
    have same : "go" = "down" := (calls first).1.symm.trans (calls last).2
    exact absurd same (by decide)
  constructor
  · exact acyclic
  · rcases World.settles acyclic with ⟨bound, settles⟩
    rcases settles (.ofWorld .stairs) rfl with ⟨rfl, settled⟩
    exact settled

end Stagecraft
