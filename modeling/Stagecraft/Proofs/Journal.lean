import Stagecraft.Proofs.Reaching

/-!
# The journal

The journal is written and never read: whatever stands in it, the same is done, and the frames that
result differ in nothing but their journals.
-/

namespace Stagecraft

/-- A stage with another journal. -/
def Stage.under (s : Stage) (journal : List Note) : Stage := { s with journal }

/-- A frame with another journal. -/
def Frame.under (f : Frame) (journal : List Note) : Frame :=
  { f with stage := f.stage.under journal }

/-- Whether a stage is the same as another one but for its journal. -/
def Stage.Like (s s' : Stage) : Prop := ∃ journal, s' = s.under journal

/-- Whether a frame is the same as another one but for its journal. -/
def Frame.Like (f f' : Frame) : Prop := ∃ journal, f' = f.under journal

theorem Frame.Like.refl (f : Frame) : f.Like f := ⟨f.stage.journal, rfl⟩

variable {f : Frame} {journal : List Note}

namespace Frame

@[simp] theorem world_under : (f.under journal).stage.world = f.stage.world := rfl

@[simp] theorem handle_under : (f.under journal).handle = f.handle := rfl

@[simp] theorem resolve?_under (owner : Owner) (id : String) (target : Option String) :
    (f.under journal).stage.resolve? owner id target = f.stage.resolve? owner id target := rfl

@[simp] theorem scene_under : (f.under journal).scene = f.scene := rfl

@[simp] theorem actorRef_under (actor : Option String) :
    (f.under journal).actorRef actor = f.actorRef actor := rfl

@[simp] theorem actor_under (actor : Option String) :
    (f.under journal).actor actor = f.actor actor := rfl

theorem info_under (f : Frame) (journal : List Note) (text : String) :
    ∃ noted, (f.under journal).info text = (f.info text).under noted := ⟨_, rfl⟩

theorem error_under (f : Frame) (journal : List Note) (text : String) :
    ∃ noted, (f.under journal).error text = (f.error text).under noted := ⟨_, rfl⟩

@[simp] theorem target_under (target : Target) :
    (f.under journal).target target = f.target target := by
  cases target <;> rfl

end Frame

mutual

/-- Whether a condition holds does not depend on the journal. -/
theorem Condition.holds_under : ∀ condition : Condition,
    condition.holds (f.under journal) = condition.holds f
  | .stateIs target state => by simp only [Condition.holds, Frame.target_under, Frame.world_under]
  | .propertyIs target name value => by
    simp only [Condition.holds, Frame.target_under, Frame.world_under]
  | .visible actor => rfl
  | .playerInside actor => rfl
  | .not inner => by simp only [Condition.holds, Condition.holds_under inner]
  | .all list => (Condition.list_under list).1
  | .any list => (Condition.list_under list).2

/-- Whether conditions hold does not depend on the journal. -/
theorem Condition.list_under : ∀ list : List Condition,
    Condition.allHold (f.under journal) list = Condition.allHold f list ∧
      Condition.anyHolds (f.under journal) list = Condition.anyHolds f list
  | [] => ⟨rfl, rfl⟩
  | condition :: rest => by
    simp only [Condition.allHold, Condition.anyHolds, Condition.holds_under condition,
      (Condition.list_under rest).1, (Condition.list_under rest).2, and_self]

end

/-! ## Effects -/

/-- Whether an effect does not depend on the journal. -/
def Frame.Deaf {α : Type} (effect : Frame → Except Fault (α × Frame)) : Prop :=
  ∀ f journal, ∃ journal', effect (f.under journal) =
    (effect f).map fun answer => (answer.1, answer.2.under journal')

namespace Frame.Deaf

variable {α β : Type}

/-- An effect that reads something from the frame and goes on. -/
theorem bind {read : Frame → Except Fault β} {next : β → Frame → Except Fault (α × Frame)}
    (same : ∀ f journal, read (f.under journal) = read f) (rest : ∀ b, Deaf (next b)) :
    Deaf fun f => read f >>= fun b => next b f := by
  intro f journal
  simp only [same]
  cases read f with
  | error reason => exact ⟨[], rfl⟩
  | ok b => exact rest b f journal

/-- An effect that depends on something that is not in the journal. -/
theorem ite {condition : Frame → Prop} [∀ f, Decidable (condition f)]
    (same : ∀ f journal, condition (f.under journal) ↔ condition f)
    {first second : Frame → Except Fault (α × Frame)} (one : Deaf first) (other : Deaf second) :
    Deaf fun f => if condition f then first f else second f := by
  intro f journal
  by_cases holds : condition f
  · simp only [(same f journal).mpr holds, holds, if_true]
    exact one f journal
  · simp only [mt (same f journal).mp holds, holds, if_false]
    exact other f journal

theorem setState (target : Target) (state : Option String) :
    Deaf (·.setState target state) := by
  apply bind fun f journal => target_under target
  intro owner
  apply ite fun f journal => Iff.rfl
  · exact fun f journal => ⟨[], rfl⟩
  · exact fun f journal => ⟨_, rfl⟩

theorem setProperty (target : Target) (name : String) (value : Option String) :
    Deaf (·.setProperty target name value) := by
  apply bind fun f journal => target_under target
  intro owner
  apply ite fun f journal => Iff.rfl
  · exact fun f journal => ⟨[], rfl⟩
  · exact fun f journal => ⟨_, rfl⟩

theorem setActorAttr (actor : Option String) (visible interaction : Option Bool)
    (layer : Option String) : Deaf (·.setActorAttr actor visible interaction layer) := by
  apply bind fun f journal => actorRef_under actor
  rintro ⟨home, id⟩ f journal
  simp only [world_under]
  cases f.stage.world.scene? home with
  | none => exact ⟨[], rfl⟩
  | some scene =>
    cases layer with
    | none =>
      simp only
      cases scene.actors.contains id with
      | false => exact ⟨[], rfl⟩
      | true => exact ⟨_, rfl⟩
    | some layer =>
      simp only
      cases scene.moveToLayer? id layer with
      | none => exact ⟨[], rfl⟩
      | some moved => exact ⟨_, rfl⟩

theorem putActor (actor : Option String) (pos : Point) : Deaf (·.putActor actor pos) := by
  apply bind fun f journal => actor_under actor
  exact fun _ f journal => ⟨_, rfl⟩

theorem startWalk (actor : Option String) (pos : Point) : Deaf (·.startWalk actor pos) := by
  apply bind fun f journal => actor_under actor
  rintro ⟨home, id, walker⟩
  apply ite fun f journal => Iff.rfl
  · exact fun f journal => ⟨_, rfl⟩
  · exact fun f journal => ⟨_, rfl⟩

theorem walkOn (actor : Option String) (goal : Point) (speed : Option Single) (delta : Single) :
    Deaf (·.walkOn actor goal speed delta) := by
  apply ite fun f journal => Iff.rfl
  · apply bind fun f journal => actor_under actor
    exact fun _ f journal => ⟨_, rfl⟩
  · exact fun f journal => ⟨[], rfl⟩

theorem playAnimation (actor : Option String) (animation : String) (waits : Bool) :
    Deaf (·.playAnimation actor animation waits) := by
  apply bind fun f journal => actor_under actor
  exact fun _ f journal => ⟨_, rfl⟩

theorem playSound (actor : Option String) (sound : String) : Deaf (·.playSound actor sound) := by
  apply bind fun f journal => actor_under actor
  rintro ⟨home, id, found⟩ f journal
  simp only
  cases found.sound? sound with
  | none => exact ⟨[], rfl⟩
  | some effect => exact ⟨_, rfl⟩

theorem say (actor : Option String) (text : String) (waits : Bool) :
    Deaf (·.say actor text waits) := by
  apply bind fun f journal => actor_under actor
  exact fun _ f journal => ⟨_, rfl⟩

theorem showDialog (actor : Option String) (dialog : String) :
    Deaf (·.showDialog actor dialog) := by
  apply bind fun f journal => actor_under actor
  rintro ⟨home, id, found⟩ f journal
  simp only [world_under, handle_under]
  cases found.dialog? dialog with
  | none => exact ⟨[], rfl⟩
  | some shown =>
    simp only
    cases (shown.visibleOptions.map (·.text)).isEmpty with
    | true => exact ⟨_, rfl⟩
    | false =>
      cases f.stage.world.openDialog with
      | none => exact ⟨_, rfl⟩
      | some other =>
        simp only
        by_cases own : other.handle = f.handle
        · simp only [own, if_true]
          exact ⟨_, rfl⟩
        · simp only [own, if_false]
          exact ⟨[], rfl⟩

theorem inlineVerb (whose : Target) (verb : String) (target : Option String) :
    Deaf (·.inlineVerb whose verb target) := by
  apply bind fun f journal => target_under whose
  intro owner f journal
  simp only [resolve?_under, handle_under, world_under]
  cases f.stage.resolve? owner verb target with
  | none => exact ⟨_, rfl⟩
  | some h =>
    simp only
    by_cases own : h = f.handle
    · simp only [own, if_true]
      exact ⟨[], rfl⟩
    · simp only [own, if_false]
      cases f.stage.world.script? h with
      | none => exact ⟨[], rfl⟩
      | some script => exact ⟨_, rfl⟩

theorem addVerb (whose : Target) (key : Key) (script : Script Action) :
    Deaf (·.addVerb whose key script) := by
  apply bind fun f journal => target_under whose
  intro owner
  apply ite fun f journal => Iff.rfl
  · exact fun f journal => ⟨[], rfl⟩
  · apply ite fun f journal => Iff.rfl
    · exact fun f journal => ⟨[], rfl⟩
    · exact fun f journal => ⟨_, rfl⟩

theorem removeActor (id : String) : Deaf (·.removeActor id) := by
  apply bind fun f journal => scene_under
  rintro ⟨home, scene⟩ f journal
  simp only
  cases scene.removeActor? id with
  | none => exact ⟨[], rfl⟩
  | some left => exact ⟨_, rfl⟩

end Frame.Deaf

/-! ## Cancelling -/

/-- Whether what is done in a frame does not depend on the journal. -/
def Frame.Ignores {α : Type} (run : Frame → α × Frame) : Prop :=
  ∀ f journal, ∃ journal', run (f.under journal) = ((run f).1, (run f).2.under journal')

theorem Frame.releaseDialog_under (f : Frame) (journal : List Note) :
    ∃ journal', (f.under journal).releaseDialog = f.releaseDialog.under journal' := by
  unfold releaseDialog
  simp only [world_under, handle_under]
  cases f.stage.world.openDialog with
  | none => exact ⟨journal, rfl⟩
  | some opened =>
    simp only
    by_cases own : opened.handle = f.handle
    · simp only [own, if_true]
      exact ⟨_, rfl⟩
    · simp only [own, if_false]
      exact ⟨journal, rfl⟩

private theorem Action.cancelFrom_ignores_of {actions : List Action}
    (below : ∀ action ∈ actions, Frame.Ignores action.cancel) (ip : Nat) :
    Frame.Ignores (Action.cancelFrom ip actions) := by
  induction actions generalizing ip with
  | nil =>
    intro f journal
    exact ⟨journal, by simp only [Action.cancelFrom]⟩
  | cons head rest ih =>
    rw [List.forall_mem_cons] at below
    intro f journal
    cases ip with
    | zero =>
      rcases below.1 f journal with ⟨journal', first⟩
      rcases ih below.2 0 (head.cancel f).2 journal' with ⟨journal'', others⟩
      refine ⟨journal'', ?_⟩
      simp only [Action.cancelFrom, first, others]
    | succ ip =>
      rcases ih below.2 ip f journal with ⟨journal', others⟩
      refine ⟨journal', ?_⟩
      simp only [Action.cancelFrom, others]

private theorem Script.cancel_ignores_of {s : Script Action}
    (below : ∀ action ∈ s.actions, Frame.Ignores action.cancel) : Frame.Ignores s.cancel := by
  rcases s with ⟨actions, ip, suspended⟩
  intro f journal
  cases ip with
  | none => exact ⟨journal, rfl⟩
  | some ip =>
    rcases Action.cancelFrom_ignores_of below ip f journal with ⟨journal', cancelled⟩
    refine ⟨journal', ?_⟩
    simp only [Script.cancel, cancelled]

/-- What an action gives up when it is cancelled does not depend on the journal. -/
theorem Action.cancel_ignores (action : Action) : Frame.Ignores action.cancel := by
  induction action using Action.nestedInduction with
  | leaf action noInner =>
    intro f journal
    cases action with
    | showDialog actor dialog =>
      rcases f.releaseDialog_under journal with ⟨journal', released⟩
      refine ⟨journal', ?_⟩
      simp only [Action.cancel, released]
    | conditional condition script => cases noInner
    | runVerb whose verb target bound script => cases noInner
    | _ => exact ⟨journal, rfl⟩
  | conditional condition script ih =>
    intro f journal
    rcases Script.cancel_ignores_of ih f journal with ⟨journal', cancelled⟩
    refine ⟨journal', ?_⟩
    simp only [Action.cancel, cancelled]
  | runVerb whose verb target bound script ih =>
    intro f journal
    rcases Script.cancel_ignores_of ih (f.enterScope bound) journal with ⟨journal', cancelled⟩
    refine ⟨journal', ?_⟩
    have entered : (f.under journal).enterScope bound = (f.enterScope bound).under journal := rfl
    simp only [Action.cancel, entered, cancelled]
    rfl

theorem Action.cancelFrom_ignores (ip : Nat) (actions : List Action) :
    Frame.Ignores (Action.cancelFrom ip actions) :=
  cancelFrom_ignores_of (fun action _ => action.cancel_ignores) ip

theorem Script.cancel_ignores (s : Script Action) : Frame.Ignores s.cancel :=
  cancel_ignores_of fun action _ => action.cancel_ignores

theorem Script.release_under (s : Script Action) (f : Frame) (journal : List Note) :
    ∃ journal', s.release (f.under journal) = (s.release f).under journal' := by
  unfold Script.release
  cases s.ip.bind (s.actions[·]?) with
  | none => exact ⟨journal, rfl⟩
  | some action =>
    rcases action.cancel_ignores f journal with ⟨journal', cancelled⟩
    exact ⟨journal', by simp only [cancelled]⟩

/-! ## Verbs of the world -/

/-- Driving a verb does not depend on the journal, if that is so for what is done with it. -/
theorem Stage.withVerb_under {α : Type} {body : Script Action → Stage → Script Action × α × Stage}
    (deaf : ∀ script s journal, ∃ journal', body script (s.under journal) =
      ((body script s).1, (body script s).2.1, (body script s).2.2.under journal'))
    (s : Stage) (h : Handle) (journal : List Note) :
    ∃ journal', (s.under journal).withVerb h body =
      ((s.withVerb h body).1, (s.withVerb h body).2.under journal') := by
  by_cases executing : h ∈ s.executing
  · exact ⟨_, by simp only [withVerb, under, executing, if_true]; rfl⟩
  · cases found : s.world.script? h with
    | none => exact ⟨journal, by simp only [withVerb, under, executing, if_false, found]⟩
    | some script =>
      have lent : (s.under journal).lend h = (s.lend h).under journal := rfl
      rcases deaf script (s.lend h) journal with ⟨journal', same⟩
      rw [withVerb_of_found (s := s.under journal) executing found,
        withVerb_of_found executing found, lent, same]
      rcases body script (s.lend h) with ⟨script', answer, after⟩
      simp only [under]
      cases after.world.verbs? h.owner with
      | none => exact ⟨_, rfl⟩
      | some verbs => exact ⟨journal', rfl⟩

theorem Frame.cancelVerb_under (f : Frame) (s : Script Action) (journal : List Note) :
    ∃ journal', (f.under journal).cancelVerb s =
      ((f.cancelVerb s).1, (f.cancelVerb s).2.under journal') :=
  s.cancel_ignores (f.info s!">>> cancelling verb {f.handle.key.text}") _

theorem Stage.cancelVerb_under (s : Stage) (h : Handle) (journal : List Note) :
    ∃ journal', (s.under journal).cancelVerb h =
      ((s.cancelVerb h).1, (s.cancelVerb h).2.under journal') := by
  let body := fun (script : Script Action) (s : Stage) =>
    (((Frame.enter h s).cancelVerb script).1, (), ((Frame.enter h s).cancelVerb script).2.stage)
  have deaf : ∀ script s journal, ∃ journal', body script (s.under journal) =
      ((body script s).1, (body script s).2.1, (body script s).2.2.under journal') := by
    intro script s journal
    rcases (Frame.enter h s).cancelVerb_under script journal with ⟨journal', same⟩
    have entered : Frame.enter h (s.under journal) = (Frame.enter h s).under journal := rfl
    exact ⟨journal', by simp only [body, entered, same]; rfl⟩
  rcases s.withVerb_under deaf h journal with ⟨journal', same⟩
  have cancels : ∀ s : Stage, s.cancelVerb h =
      ((s.withVerb h body).1.isSome, (s.withVerb h body).2) := fun _ => rfl
  exact ⟨journal', by simp only [cancels, same]⟩

theorem Frame.Deaf.cancelNamed (whose : Target) (verb : String) (target : Option String) :
    Deaf (·.cancelNamed whose verb target) := by
  apply bind fun f journal => target_under whose
  intro owner f journal
  simp only [resolve?_under, handle_under]
  cases f.stage.resolve? owner verb target with
  | none => exact ⟨_, rfl⟩
  | some h =>
    simp only
    by_cases own : h = f.handle
    · simp only [own, if_true]
      exact ⟨_, rfl⟩
    · rcases (f.info s!"└─ action: CancelVerb({h.text})").stage.cancelVerb_under h
        (journal ++ [⟨.info, s!"└─ action: CancelVerb({h.text})"⟩]) with ⟨journal', same⟩
      have noted : ((f.under journal).info s!"└─ action: CancelVerb({h.text})").stage =
          (f.info s!"└─ action: CancelVerb({h.text})").stage.under
            (journal ++ [⟨.info, s!"└─ action: CancelVerb({h.text})"⟩]) := rfl
      simp only [own, if_false, noted, same]
      split <;> exact ⟨_, rfl⟩

end Stagecraft
