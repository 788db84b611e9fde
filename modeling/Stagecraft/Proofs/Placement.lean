import Mathlib.Data.List.Forall2
import Stagecraft.Proofs.Reaching
import Stagecraft.Proofs.VerbsAfter

/-!
# What is kept where actions run

An action runs for an owner, and what it may be depends on whose it is: a verb that is run inside
another one runs for its own owner, and a verb that is installed belongs to the one that gets it.  A
placement says which actions may run for whom, as they were written, and what holds of the world.
Here it is shown that performing keeps it.
-/

namespace Stagecraft

/-! ## Actions within actions -/

/-- What is said of actions that run for an owner, as they were written, is true of an action and of
all the actions in the scripts inside it, which run for the owner to whom a script is bound. -/
inductive Action.Placed (fits : Owner → Action → Prop) : Owner → Action → Prop
  | intro {owner : Owner} {action : Action} (own : fits owner action.reset)
      (inside : ∀ script bound, action.inner? = some (script, bound) →
        ∀ inner ∈ script.actions, Placed fits (bound.getD owner) inner) : Placed fits owner action

/-- All the actions of a script may run for an owner. -/
def Script.Placed (fits : Owner → Action → Prop) (owner : Owner) (s : Script Action) : Prop :=
  ∀ action ∈ s.actions, action.Placed fits owner

namespace Action.Placed

variable {fits : Owner → Action → Prop} {owner : Owner} {action : Action}

theorem own (placed : action.Placed fits owner) : fits owner action.reset := by
  cases placed with
  | intro own _ => exact own

theorem inside (placed : action.Placed fits owner) {script : Script Action} {bound : Option Owner}
    (inner : action.inner? = some (script, bound)) : script.Placed fits (bound.getD owner) := by
  cases placed with
  | intro _ inside => exact inside script bound inner

/-- An action without a script inside has only what it was written as. -/
theorem of_leaf (leaf : action.inner? = none) (own : fits owner action.reset) :
    action.Placed fits owner := by
  constructor
  · exact own
  · intro script bound inner
    rw [leaf] at inner
    cases inner

/-- Clearing progress leaves an action what it was written as. -/
theorem reset (placed : action.Placed fits owner) : action.reset.Placed fits owner := by
  induction action using Action.nestedInduction with
  | leaf action noInner =>
    have own := placed.own
    rw [← Action.reset_reset] at own
    apply of_leaf _ own
    cases action with
    | conditional condition script => cases noInner
    | runVerb whose verb target bound script => cases noInner
    | _ => rfl
  | conditional condition script ih =>
    have inside := placed.inside rfl
    constructor
    · rw [Action.reset_reset]
      exact placed.own
    · rintro _ _ ⟨⟩ inner member
      rw [Script.reset_eq] at member
      simp only [Script.ofActions, Action.resetAll_eq_map, List.mem_map] at member
      rcases member with ⟨original, isInside, rfl⟩
      exact ih original isInside (inside original isInside)
  | runVerb whose verb target bound script ih =>
    constructor
    · rw [Action.reset_reset]
      exact placed.own
    · rintro _ _ ⟨⟩ inner member
      cases member

end Action.Placed

/-- Clearing progress leaves all actions of a script what they were written as. -/
theorem Script.Placed.reset {fits : Owner → Action → Prop} {owner : Owner} {s : Script Action}
    (placed : s.Placed fits owner) : s.reset.Placed fits owner := by
  intro action member
  rw [Script.reset_eq] at member
  simp only [Script.ofActions, Action.resetAll_eq_map, List.mem_map] at member
  rcases member with ⟨original, inScript, rfl⟩
  exact (placed original inScript).reset

/-- Deeds do not change the settings. -/
@[simp] theorem Deed.settings_apply (deed : Deed) (s : Stage) :
    (deed.apply s).settings = s.settings := by
  cases deed <;> rfl

/-! ## Placements -/

/-- Whether a deed is one for which there is an action, where it takes one that says so: an actor is
removed, or shown in another way, only as some action may do it, and no event is about a dialog. -/
def Deed.Licensed (fits : Owner → Action → Prop) : Deed → Prop
  | .remove _ id => ∃ owner, fits owner (.removeActor id)
  | .dress _ _ visible interaction layer =>
    ∃ owner actor, fits owner (.setActorAttr actor visible interaction layer)
  | .emit event => event.isAboutDialog = false
  | _ => True

/-- Which actions may run for whom, under which handles scripts are filed as they were written, and
what holds of worlds and of what the front end has been told, such that every change keeps what
holds, and verbs that actions install may run for those who get them. -/
structure Placement where
  fits : Owner → Action → Prop
  filed : Handle → Script Action → Prop
  holds : List Event → Settings → World → Prop
  installs : ∀ {f : Frame} {whose key script owner},
    holds f.stage.outbox f.stage.settings f.stage.world →
      fits f.scope (.addVerb whose key script) → f.target whose = .ok owner →
        (f.stage.world.verbs? owner).isSome →
          script.reset.Placed fits owner ∧ filed ⟨owner, key⟩ script.reset
  deed : ∀ {driver s deed}, Deed.Allowed driver s deed → deed.Licensed fits →
    holds s.outbox s.settings s.world →
      holds (deed.apply s).outbox s.settings (deed.apply s).world
  verbs : ∀ {outbox settings w} owner change, holds outbox settings w →
    holds outbox settings (w.modifyVerbs owner change)
  /-- A dialog is opened, and the front end is told what can be chosen in it. -/
  shows : ∀ {outbox settings w h scene id dialog shown}, w.Shows scene id dialog shown →
    holds outbox settings w →
      holds (outbox ++ [.dialogOpened id dialog (shown.visibleOptions.map (·.text))]) settings
        { w with openDialog := some ⟨h, scene, id, dialog⟩ }
  /-- When no dialog is open any more, the front end is told that one has been closed. -/
  closes : ∀ {outbox settings w actor dialog}, w.openDialog = none → holds outbox settings w →
    holds (outbox ++ [.dialogClosed actor dialog]) settings w

namespace Placement

/-- Whether a script may be under a handle. -/
def Files (p : Placement) (h : Handle) (script : Script Action) : Prop :=
  script.Placed p.fits h.owner ∧ p.filed h script.reset

/-- Whether a world is kept, with the scripts of all its verbs. -/
structure Upheld (p : Placement) (outbox : List Event) (settings : Settings) (w : World) :
    Prop where
  world : p.holds outbox settings w
  scripts : ∀ h script, w.script? h = some script → p.Files h script

/-- Whether the world of a stage is kept. -/
def Keeps (p : Placement) (s : Stage) : Prop := p.Upheld s.outbox s.settings s.world

/-- How an action that runs for an owner may become another one: it was written the same. -/
structure Progress (p : Placement) (owner : Owner) (action action' : Action) : Prop where
  placed : action'.Placed p.fits owner
  reset_eq : action'.reset = action.reset

/-- How actions that run for an owner may become others, one by one. -/
def ProgressAll (p : Placement) (owner : Owner) (actions actions' : List Action) : Prop :=
  List.Forall₂ (p.Progress owner) actions actions'

/-- A frame that comes after another one: its world is kept, and the same actions may run in it. -/
structure After (p : Placement) (f f' : Frame) : Prop where
  keeps : p.Keeps f'.stage
  hosts : ∀ action : Action, action.Placed p.fits f'.scope ↔ action.Placed p.fits f.scope

variable {p : Placement} {owner : Owner}

/-! ## Progress -/

theorem Progress.refl {action : Action} (placed : action.Placed p.fits owner) :
    p.Progress owner action action := ⟨placed, rfl⟩

/-- An action without a script inside may make any progress. -/
theorem Progress.of_leaf {action action' : Action} (placed : action.Placed p.fits owner)
    (leaf : action'.inner? = none) (same : action'.reset = action.reset) :
    p.Progress owner action action' where
  placed := .of_leaf leaf (same ▸ placed.own)
  reset_eq := same

namespace ProgressAll

variable {actions actions' : List Action}

theorem refl (placed : ∀ action ∈ actions, action.Placed p.fits owner) :
    p.ProgressAll owner actions actions :=
  List.forall₂_same.mpr fun action member => .refl (placed action member)

theorem placed (progress : p.ProgressAll owner actions actions') :
    ∀ action ∈ actions', action.Placed p.fits owner := by
  induction progress with
  | nil => simp
  | cons first _ ih => exact List.forall_mem_cons.mpr ⟨first.placed, ih⟩

/-- Progress leaves what the actions were written as. -/
theorem resetAll_eq (progress : p.ProgressAll owner actions actions') :
    Action.resetAll actions' = Action.resetAll actions := by
  induction progress with
  | nil => rfl
  | cons first _ ih => simp only [Action.resetAll, first.reset_eq, ih]

theorem reset_eq {s s' : Script Action} (progress : p.ProgressAll owner s.actions s'.actions) :
    s'.reset = s.reset := by
  rw [Script.reset_eq, Script.reset_eq, progress.resetAll_eq]

theorem trans {actions'' : List Action} (first : p.ProgressAll owner actions actions')
    (second : p.ProgressAll owner actions' actions'') : p.ProgressAll owner actions actions'' := by
  induction first generalizing actions'' with
  | nil => exact second
  | cons head _ ih =>
    cases second with
    | cons head' rest' =>
      constructor
      · exact ⟨head'.placed, head'.reset_eq.trans head.reset_eq⟩
      · exact ih rest'

theorem append {more more' : List Action} (first : p.ProgressAll owner actions actions')
    (second : p.ProgressAll owner more more') :
    p.ProgressAll owner (actions ++ more) (actions' ++ more') := by
  induction first with
  | nil => exact second
  | cons head _ ih => exact .cons head ih

/-- Clearing progress is one way to become another action. -/
theorem of_reset (placed : ∀ action ∈ actions, action.Placed p.fits owner) :
    p.ProgressAll owner actions (Action.resetAll actions) := by
  induction actions with
  | nil => exact .nil
  | cons head rest ih =>
    rw [List.forall_mem_cons] at placed
    constructor
    · exact ⟨placed.1.reset, Action.reset_reset head⟩
    · exact ih placed.2

theorem set {action action' : Action} {ip : Nat}
    (placed : ∀ action ∈ actions, action.Placed p.fits owner) (here : actions[ip]? = some action)
    (progress : p.Progress owner action action') :
    p.ProgressAll owner actions (actions.set ip action') := by
  induction actions generalizing ip with
  | nil => cases here
  | cons head rest ih =>
    rw [List.forall_mem_cons] at placed
    cases ip with
    | zero =>
      cases here
      exact .cons progress (refl placed.2)
    | succ ip => exact .cons (.refl placed.1) (ih placed.2 here)

end ProgressAll

/-- Progress inside a condition is progress of the action around it. -/
theorem Progress.conditional {condition : Condition} {script script' : Script Action}
    (placed : (Action.conditional condition script).Placed p.fits owner)
    (inner : p.ProgressAll owner script.actions script'.actions) :
    p.Progress owner (.conditional condition script) (.conditional condition script') := by
  have same : (Action.conditional condition script').reset =
      (Action.conditional condition script).reset := by
    simp only [Action.reset, inner.reset_eq]
  constructor
  · constructor
    · rw [same]
      exact placed.own
    · rintro _ _ ⟨⟩
      exact inner.placed
  · exact same

/-- Whatever verb is run inside another one, the action around it was written the same. -/
theorem Progress.runVerb {whose : Target} {verb : String} {target : Option String}
    {bound bound' : Option Owner} {script script' : Script Action}
    (placed : (Action.runVerb whose verb target bound script).Placed p.fits owner)
    (inner : script'.Placed p.fits (bound'.getD owner)) :
    p.Progress owner (.runVerb whose verb target bound script)
      (.runVerb whose verb target bound' script') := by
  constructor
  · constructor
    · exact placed.own
    · rintro _ _ ⟨⟩
      exact inner
  · rfl

/-! ## Frames -/

/-- A frame with a kept world in which the verb runs for the same owner comes after another one. -/
theorem After.of_scope_eq {f f' : Frame} (keeps : p.Keeps f'.stage) (same : f'.scope = f.scope) :
    p.After f f' where
  keeps := keeps
  hosts action := by rw [same]

theorem After.refl {f : Frame} (keeps : p.Keeps f.stage) : p.After f f := .of_scope_eq keeps rfl

theorem After.trans {f f' f'' : Frame} (first : p.After f f') (second : p.After f' f'') :
    p.After f f'' where
  keeps := second.keeps
  hosts action := (second.hosts action).trans (first.hosts action)

/-- Whatever may run in a frame may run after it. -/
theorem After.placed {f f' : Frame} {actions : List Action} (after : p.After f f')
    (placed : ∀ action ∈ actions, action.Placed p.fits f.scope) :
    ∀ action ∈ actions, action.Placed p.fits f'.scope :=
  fun action member => (after.hosts action).mpr (placed action member)

/-- Progress that is made after a frame is made for the owner for whom the verb ran there. -/
theorem After.progress {f f' : Frame} {actions actions' : List Action} (after : p.After f f')
    (progress : p.ProgressAll f'.scope actions actions') :
    p.ProgressAll f.scope actions actions' :=
  progress.imp fun _ _ one => ⟨(after.hosts _).mp one.placed, one.reset_eq⟩

/-! ## Deeds -/

variable {driver : Option Handle} {s : Stage} {deed : Deed} {deeds : List Deed}

/-- Whether a deed is proper: what it installs may be filed, and there is an action for it. -/
def Proper (p : Placement) : Deed → Prop
  | .install h script => p.Files h script
  | deed => deed.Licensed p.fits

@[simp] theorem proper_note (level : Level) (text : String) : p.Proper (.note level text) := trivial

@[simp] theorem proper_emit_iff (event : Event) :
    p.Proper (.emit event) ↔ event.isAboutDialog = false := .rfl

/-- There is an action for a proper deed. -/
theorem Proper.licensed (proper : p.Proper deed) : deed.Licensed p.fits := by
  cases deed with
  | install => trivial
  | _ => exact proper

/-- A single proper deed keeps a stage. -/
theorem Keeps.apply (keeps : p.Keeps s) (allowed : deed.Allowed driver s)
    (proper : p.Proper deed) : p.Keeps (deed.apply s) where
  world := by
    rw [Deed.settings_apply]
    exact p.deed allowed proper.licensed keeps.world
  scripts h script found := by
    rcases allowed.script?_apply found with earlier | ⟨installed, _⟩
    · exact keeps.scripts h script earlier
    · subst installed
      exact proper

/-- Telling the front end about something else than a dialog keeps a stage. -/
theorem Keeps.emit (keeps : p.Keeps s) {event : Event} (calm : event.isAboutDialog = false) :
    p.Keeps (s.emit event) := by
  have allowed : (Deed.emit event).Allowed none s := trivial
  exact keeps.apply allowed calm

/-- Proper deeds one after the other keep a stage. -/
theorem Keeps.applyAll (keeps : p.Keeps s) (driver : Option Handle)
    (allowed : Deed.AllAllowed driver s deeds) (proper : ∀ deed ∈ deeds, p.Proper deed) :
    p.Keeps (Deed.applyAll deeds s) := by
  induction deeds generalizing s with
  | nil => exact keeps
  | cons deed rest ih =>
    rcases allowed with ⟨first, others⟩
    rw [List.forall_mem_cons] at proper
    exact ih (keeps.apply first proper.1) others proper.2

/-- A failed effect keeps the stage. -/
theorem After.attempt {f : Frame} {effect : Except Fault (Outcome × Frame)}
    (keeps : p.Keeps f.stage)
    (succeeds : ∀ outcome f', effect = .ok (outcome, f') → p.After f f') :
    p.After f (f.attempt effect).2 := by
  cases effect with
  | error reason => exact .refl keeps
  | ok result => exact succeeds result.1 result.2 rfl

/-- Lending a verb keeps a stage. -/
theorem Keeps.lend (keeps : p.Keeps s) (h : Handle) : p.Keeps (s.lend h) where
  world := p.verbs h.owner (·.erase h.key) keeps.world
  scripts other script found := by
    rw [Stage.script?_lend] at found
    split at found
    · cases found
    · exact keeps.scripts other script found

/-- A script that may be filed may come back. -/
theorem Upheld.restore {outbox : List Event} {settings : Settings} {w : World}
    (upheld : p.Upheld outbox settings w) {h : Handle} {script : Script Action}
    (files : p.Files h script) :
    p.Upheld outbox settings (w.modifyVerbs h.owner (·.restore h.key script)) where
  world := p.verbs h.owner (·.restore h.key script) upheld.world
  scripts other found isFound := by
    rw [World.script?_restore] at isFound
    split at isFound
    · next same =>
      subst same
      rcases Option.bind_eq_some_iff.mp isFound with ⟨verbs, present, comesBack⟩
      rcases Option.or_eq_some_iff.mp comesBack with defined | ⟨_, same⟩
      · exact upheld.scripts other found
          ((World.script?_eq_some_iff _ other found).mpr ⟨verbs, present, defined⟩)
      · cases same
        exact files
    · exact upheld.scripts other found isFound

/-- A verb that is handed out and comes back with progress keeps the stage. -/
theorem Keeps.withVerb {α : Type} {h : Handle}
    {body : Script Action → Stage → Script Action × α × Stage} (keeps : p.Keeps s)
    (body_keeps : ∀ script, s.world.script? h = some script →
      p.Keeps (body script (s.lend h)).2.2 ∧
        p.ProgressAll h.owner script.actions (body script (s.lend h)).1.actions) :
    p.Keeps (s.withVerb h body).2 := by
  by_cases executing : h ∈ s.executing
  · simp only [Stage.withVerb, executing, if_true]
    exact keeps
  · cases found : s.world.script? h with
    | none =>
      simp only [Stage.withVerb, executing, if_false, found]
      exact keeps
    | some script =>
      rcases body_keeps script found with ⟨after, progress⟩
      have files : p.Files h (body script (s.lend h)).1 := by
        constructor
        · exact progress.placed
        · rw [progress.reset_eq]
          exact (keeps.scripts h script found).2
      rw [Stage.withVerb_of_found executing found]
      simp only
      split
      · exact after.restore files
      · exact after

/-! ## Cancelling -/

/-- Closing its dialog, a verb keeps the stage. -/
private theorem After.releaseDialog {f : Frame} (keeps : p.Keeps f.stage) :
    p.After f f.releaseDialog := by
  unfold Frame.releaseDialog
  cases isOpen : f.stage.world.openDialog with
  | none => exact .refl keeps
  | some opened =>
    simp only
    split
    · next own =>
      have allowed : Deed.closeDialog.Allowed (some f.handle) f.stage :=
        ⟨f.handle, opened, rfl, isOpen, own⟩
      have closed : p.Keeps (Deed.closeDialog.apply f.stage) := keeps.apply allowed trivial
      exact .of_scope_eq ⟨p.closes rfl closed.world, closed.scripts⟩ rfl
    · exact .refl keeps

/-- Whether cancelling an action keeps the stage. -/
private def CancelKeeps (p : Placement) (action : Action) : Prop :=
  ∀ f : Frame, p.Keeps f.stage → action.Placed p.fits f.scope →
    p.After f (action.cancel f).2 ∧ p.Progress f.scope action (action.cancel f).1

private theorem cancelFrom_keeps_of {actions : List Action}
    (below : ∀ action ∈ actions, p.CancelKeeps action) (ip : Nat) (f : Frame)
    (keeps : p.Keeps f.stage) (placed : ∀ action ∈ actions, action.Placed p.fits f.scope) :
    p.After f (Action.cancelFrom ip actions f).2 ∧
      p.ProgressAll f.scope actions (Action.cancelFrom ip actions f).1 := by
  induction actions generalizing ip f with
  | nil =>
    unfold Action.cancelFrom
    exact ⟨.refl keeps, .nil⟩
  | cons head rest ih =>
    rw [List.forall_mem_cons] at below placed
    cases ip with
    | zero =>
      rcases below.1 f keeps placed.1 with ⟨afterHead, progress⟩
      rcases ih below.2 0 _ afterHead.keeps (afterHead.placed placed.2) with ⟨after, others⟩
      exact ⟨afterHead.trans after, .cons progress (afterHead.progress others)⟩
    | succ ip =>
      rcases ih below.2 ip f keeps placed.2 with ⟨after, others⟩
      exact ⟨after, .cons (.refl placed.1) others⟩

private theorem cancel_keeps_of {s : Script Action}
    (below : ∀ action ∈ s.actions, p.CancelKeeps action) (f : Frame) (keeps : p.Keeps f.stage)
    (placed : s.Placed p.fits f.scope) :
    p.After f (s.cancel f).2 ∧ p.ProgressAll f.scope s.actions (s.cancel f).1.actions := by
  rcases s with ⟨actions, ip, suspended⟩
  cases ip with
  | none => exact ⟨.refl keeps, .refl placed⟩
  | some ip => exact cancelFrom_keeps_of below ip f keeps placed

/-- Cancelling an action keeps the stage, and the action was written the same. -/
private theorem cancelKeeps (action : Action) : p.CancelKeeps action := by
  induction action using Action.nestedInduction with
  | leaf action noInner =>
    intro f keeps placed
    cases action with
    | showDialog actor dialog => exact ⟨.releaseDialog keeps, .refl placed⟩
    | conditional condition script => cases noInner
    | runVerb whose verb target bound script => cases noInner
    | _ => exact ⟨.refl keeps, .of_leaf placed rfl rfl⟩
  | conditional condition script ih =>
    intro f keeps placed
    rcases cancel_keeps_of ih f keeps (placed.inside rfl) with ⟨after, inner⟩
    exact ⟨after, .conditional placed inner⟩
  | runVerb whose verb target bound script ih =>
    intro f keeps placed
    rcases cancel_keeps_of ih (f.enterScope bound) keeps (placed.inside rfl) with ⟨after, inner⟩
    exact ⟨.of_scope_eq after.keeps rfl, .runVerb placed inner.placed⟩

/-- Cancelling actions keeps the stage. -/
theorem cancelFrom_keeps (ip : Nat) {actions : List Action} {f : Frame} (keeps : p.Keeps f.stage)
    (placed : ∀ action ∈ actions, action.Placed p.fits f.scope) :
    p.After f (Action.cancelFrom ip actions f).2 ∧
      p.ProgressAll f.scope actions (Action.cancelFrom ip actions f).1 :=
  cancelFrom_keeps_of (fun action _ => cancelKeeps action) ip f keeps placed

/-- Cancelling a script keeps the stage. -/
theorem cancel_keeps {s : Script Action} {f : Frame} (keeps : p.Keeps f.stage)
    (placed : s.Placed p.fits f.scope) :
    p.After f (s.cancel f).2 ∧ p.ProgressAll f.scope s.actions (s.cancel f).1.actions :=
  cancel_keeps_of (fun action _ => cancelKeeps action) f keeps placed

/-- Letting go of what the action at the cursor holds keeps the stage. -/
theorem After.release {s : Script Action} {f : Frame} (keeps : p.Keeps f.stage)
    (placed : s.Placed p.fits f.scope) : p.After f (s.release f) := by
  unfold Script.release
  split
  · next action here =>
    rcases Option.bind_eq_some_iff.mp here with ⟨ip, _, atIp⟩
    exact (cancelKeeps action f keeps (placed action (List.mem_of_getElem? atIp))).1
  · exact .refl keeps

/-- Cancelling a verb of the world keeps the stage. -/
theorem Keeps.cancelVerb (keeps : p.Keeps s) (h : Handle) : p.Keeps (s.cancelVerb h).2 := by
  unfold Stage.cancelVerb
  apply keeps.withVerb
  intro script found
  rcases cancel_keeps (f := (Frame.enter h (s.lend h)).info s!">>> cancelling verb {h.key.text}")
    (keeps.lend h) (keeps.scripts h script found).1 with ⟨after, progress⟩
  exact ⟨after.keeps, progress⟩

/-! ## Performing -/

/-- Whether what performs actions keeps the stage. -/
def KeptBy (p : Placement) (perform : Performer) : Prop :=
  ∀ action f, p.Keeps f.stage → action.Placed p.fits f.scope →
    p.After f (perform action f).2.2 ∧ p.Progress f.scope action (perform action f).1

variable {perform : Performer}

/-- A sweep keeps the stage. -/
theorem KeptBy.sweep (kept : p.KeptBy perform) (ip : Nat) {actions : List Action} {f : Frame}
    (keeps : p.Keeps f.stage) (placed : ∀ action ∈ actions, action.Placed p.fits f.scope) :
    p.After f (Action.sweep perform ip actions f).2.2.2 ∧
      p.ProgressAll f.scope actions (Action.sweep perform ip actions f).1 := by
  induction actions generalizing ip f with
  | nil => exact ⟨.refl keeps, .nil⟩
  | cons action rest ih =>
    unfold Action.sweep
    split
    · exact cancelFrom_keeps 0 keeps placed
    · rw [List.forall_mem_cons] at placed
      rcases kept action f keeps placed.1 with ⟨afterFirst, progress⟩
      rcases performed : perform action f with ⟨done, outcome, f₁⟩
      rw [performed] at afterFirst progress
      cases outcome with
      | park => exact ⟨afterFirst, .cons progress (ProgressAll.refl placed.2)⟩
      | proceed =>
        rcases ih (ip + 1) afterFirst.keeps (afterFirst.placed placed.2) with ⟨after, others⟩
        exact ⟨afterFirst.trans after, .cons progress (afterFirst.progress others)⟩
      | fault reason =>
        have noted : p.After f (f₁.error
            s!"{f₁.handle.key.text} step {ip} ({done.name}) failed: {reason.message}") :=
          ⟨afterFirst.keeps, afterFirst.hosts⟩
        rcases ih (ip + 1) noted.keeps (noted.placed placed.2) with ⟨after, others⟩
        exact ⟨noted.trans after, .cons progress (noted.progress others)⟩

/-- Sweeping a script from a position keeps the stage. -/
theorem KeptBy.stepFrom (kept : p.KeptBy perform) (ip : Nat) {actions : List Action} {f : Frame}
    (keeps : p.Keeps f.stage) (placed : ∀ action ∈ actions, action.Placed p.fits f.scope) :
    p.After f (Script.stepFrom perform ip actions f).2.2 ∧
      p.ProgressAll f.scope actions (Script.stepFrom perform ip actions f).1.actions := by
  have fromHere : ∀ action ∈ actions.drop ip, action.Placed p.fits f.scope :=
    fun action member => placed action (List.mem_of_mem_drop member)
  have before : p.ProgressAll f.scope (actions.take ip) (actions.take ip) :=
    .refl fun action member => placed action (List.mem_of_mem_take member)
  rcases kept.sweep ip keeps fromHere with ⟨after, swept⟩
  have whole := before.append swept
  rw [List.take_append_drop] at whole
  exact ⟨after, whole⟩

/-- Starting a script keeps the stage. -/
theorem KeptBy.start (kept : p.KeptBy perform) {s : Script Action} {f : Frame}
    (keeps : p.Keeps f.stage) (placed : s.Placed p.fits f.scope) :
    p.After f (s.start perform f).2.2 ∧
      p.ProgressAll f.scope s.actions (s.start perform f).1.actions := by
  have released := After.release keeps placed
  rcases kept.stepFrom 0 released.keeps (released.placed placed.reset) with ⟨after, swept⟩
  have cleared : p.ProgressAll f.scope s.actions s.reset.actions := by
    rw [Script.reset_eq]
    exact .of_reset placed
  exact ⟨released.trans after, cleared.trans (released.progress swept)⟩

/-- Ending a run of a verb keeps the stage. -/
theorem settle_keeps {s : Script Action} (state : RunState) {f : Frame} (keeps : p.Keeps f.stage)
    (placed : s.Placed p.fits f.scope) :
    p.After f (f.settle s state).2.2 ∧
      p.ProgressAll f.scope s.actions (f.settle s state).1.actions := by
  unfold Frame.settle
  split
  · rcases cancel_keeps (f := { f with cancelRequested := false }.info
      s!">>> cancelling verb {f.handle.key.text}") keeps placed with ⟨after, progress⟩
    exact ⟨⟨after.keeps, after.hosts⟩, progress⟩
  · cases state with
    | finished => exact ⟨.of_scope_eq keeps rfl, .refl placed⟩
    | suspended => exact ⟨.refl keeps, .refl placed⟩

/-- A script goes on and then its run is ended. -/
theorem settle_after {s s₁ s' : Script Action} {state₁ state : RunState} {f f₁ f' : Frame}
    (goesOn : p.After f f₁ ∧ p.ProgressAll f.scope s.actions s₁.actions)
    (settled : f₁.settle s₁ state₁ = (s', state, f')) :
    p.After f f' ∧ p.ProgressAll f.scope s.actions s'.actions := by
  rcases goesOn with ⟨after, progress⟩
  have ended := settle_keeps state₁ after.keeps (after.placed progress.placed)
  rw [settled] at ended
  exact ⟨after.trans ended.1, progress.trans (after.progress ended.2)⟩

/-- Running a whole verb keeps the stage. -/
theorem KeptBy.run (kept : p.KeptBy perform) {s : Script Action} {f : Frame}
    (keeps : p.Keeps f.stage) (placed : s.Placed p.fits f.scope) :
    p.After f (f.run perform s).2.2 ∧
      p.ProgressAll f.scope s.actions (f.run perform s).1.actions := by
  rcases kept.start (f := f.info s!">>> running verb {f.handle.key.text}") keeps placed with
    ⟨after, progress⟩
  exact settle_after ⟨⟨after.keeps, after.hosts⟩, progress⟩ rfl

/-- Running a verb of the world keeps the stage. -/
theorem KeptBy.runHandle (kept : p.KeptBy perform) (keeps : p.Keeps s) (h : Handle) :
    p.Keeps (s.runHandle perform h).2 := by
  unfold Stage.runHandle
  apply keeps.withVerb
  intro script found
  rcases kept.run (f := Frame.enter h (s.lend h)) (keeps.lend h) (keeps.scripts h script found).1
    with ⟨after, progress⟩
  exact ⟨after.keeps, progress⟩

theorem KeptBy.runNamed (kept : p.KeptBy perform) (keeps : p.Keeps s) (owner : Owner)
    (id : String) (target : Option String) : p.Keeps (s.runNamed perform owner id target).2 := by
  unfold Stage.runNamed
  split
  · exact kept.runHandle keeps _
  · exact keeps

/-- Coming to a scene keeps the stage. -/
theorem Keeps.arrive (keeps : p.Keeps s) {id : String} (present : s.world.scenes.contains id) :
    p.Keeps (s.arrive id) := by
  have allowed : (Deed.goTo id).Allowed none s := present
  have gone : p.Keeps (((Deed.goTo id).apply s).info s!"current scene is now '{id}'") :=
    keeps.apply allowed trivial
  exact gone.emit rfl

/-- Going to a scene keeps the stage. -/
theorem KeptBy.goToScene (kept : p.KeptBy perform) (keeps : p.Keeps s) {id : String} {s' : Stage}
    (went : s.goToScene perform id = .ok s') : p.Keeps s' := by
  rw [Stage.goToScene_eq] at went
  split at went
  · next present =>
    cases went
    exact kept.runNamed (keeps.arrive present) (.scene id) "init" none
  · cases went

/-- What is done directly keeps the stage. -/
theorem After.acts {f f' : Frame} {action action' : Action} {outcome : Outcome}
    (keeps : p.Keeps f.stage) (placed : action.Placed p.fits f.scope)
    (acts : f.Acts action action' outcome f') :
    p.After f f' ∧ p.Progress f.scope action action' := by
  rcases acts with ⟨direct, reset_eq, _, deeds, rfl, allowed, befit⟩
  have noInner : action'.inner? = none := by
    cases action' <;> first | rfl | cases direct
  have proper : ∀ deed ∈ deeds, p.Proper deed := by
    intro deed member
    have asked := (befit deed member).asked
    have fits := placed.own
    cases deed with
    | install | goTo => cases asked
    | remove scene id =>
      obtain rfl : action = .removeActor id := asked
      exact ⟨f.scope, fits⟩
    | dress scene id visible interaction layer =>
      rcases asked with ⟨actor, rfl⟩
      exact ⟨f.scope, actor, fits⟩
    | emit event => exact asked
    | _ => trivial
  constructor
  · exact .of_scope_eq (keeps.applyAll (some f.handle) allowed proper) rfl
  · exact .of_leaf placed noInner reset_eq

/-- Performing an action keeps the stage, if that is so for the actions of the scripts it starts. -/
theorem keptBy_performWith {inner : Option Performer}
    (innerKept : ∀ perform ∈ inner, p.KeptBy perform) : p.KeptBy (Action.performWith inner) := by
  intro action f keeps placed
  cases action with
  | showDialog actor dialog =>
    constructor
    · apply After.attempt keeps
      intro outcome f' done
      rcases Frame.showDialog_eq_ok done with ⟨_, text, rfl⟩ |
        ⟨_, scene, id, text, shown, _, _, shows, rfl⟩
      · exact .of_scope_eq keeps rfl
      · exact .of_scope_eq ⟨p.shows shows keeps.world, keeps.scripts⟩ rfl
    · exact .refl placed
  | conditional condition script =>
    simp only [Action.performWith]
    split
    · exact ⟨.refl keeps, .refl placed⟩
    · exact ⟨.of_scope_eq keeps rfl, .refl placed⟩
    · cases inner with
      | none => exact ⟨.refl keeps, .refl placed⟩
      | some perform =>
        rcases (innerKept perform rfl).start (s := script) (f := f.info
          s!"└─ action: Conditional(true), entering {script.length} action(s)") keeps
          (placed.inside rfl) with ⟨after, started⟩
        exact ⟨⟨after.keeps, after.hosts⟩, .conditional placed started⟩
  | runVerb whose verb target bound script =>
    simp only [Action.performWith]
    split
    · exact ⟨.refl keeps, .refl placed⟩
    · next f₁ none_ =>
      rcases Frame.inlineVerb_eq_ok none_ with ⟨text, rfl⟩
      exact ⟨.of_scope_eq keeps rfl, .refl placed⟩
    · next owner actions f₁ some_ =>
      rcases Frame.inlineVerb_eq_ok some_ with ⟨text, rfl⟩
      rcases Frame.inlineVerb_eq_some some_ with ⟨h, definition, _, named, _, found, rfl⟩
      cases inner with
      | none => exact ⟨.of_scope_eq keeps rfl, .refl placed⟩
      | some perform =>
        have written : (Script.ofActions definition.reset.actions).Placed p.fits owner := by
          rw [← Stage.owner_of_resolve? named]
          exact (keeps.scripts h definition found).1.reset
        rcases (innerKept perform rfl).start (f := (f.info text).enterScope (some owner)) keeps
          written with ⟨after, started⟩
        exact ⟨.of_scope_eq after.keeps rfl, .runVerb placed started.placed⟩
  | cancelVerb whose verb target =>
    constructor
    · apply After.attempt keeps
      intro outcome f' done
      rcases Frame.cancelNamed_eq_ok done with
        ⟨_, text, ⟨requested, rfl⟩ | ⟨h, _, _, stage, rfl, rfl | ⟨warning, rfl⟩⟩⟩
      · exact .of_scope_eq keeps rfl
      · exact .of_scope_eq (Keeps.cancelVerb (s := (f.info text).stage) keeps h) rfl
      · exact .of_scope_eq (Keeps.cancelVerb (s := (f.info text).stage) keeps h) rfl
    · exact .refl placed
  | addVerb whose key script =>
    constructor
    · apply After.attempt keeps
      intro outcome f' done
      rcases Frame.addVerb_eq_ok done with ⟨_, owner, text, named, notOwn, present, rfl⟩
      have allowed : Deed.AllAllowed (some f.handle) f.stage
          [.note .info text, .install ⟨owner, key⟩ script.reset] :=
        ⟨trivial, ⟨⟨f.handle, rfl, notOwn⟩, present, script, rfl⟩, trivial⟩
      have files : p.Files ⟨owner, key⟩ script.reset := by
        rcases p.installs keeps.world placed.own named present with ⟨written, filed⟩
        constructor
        · exact written
        · rwa [Script.reset_reset]
      have proper : p.Proper (.install ⟨owner, key⟩ script.reset) := files
      exact .of_scope_eq (keeps.applyAll (some f.handle) allowed (by simp [proper])) rfl
    · exact .refl placed
  | changeScene scene =>
    cases inner with
    | none => exact ⟨.of_scope_eq keeps rfl, .refl placed⟩
    | some perform =>
      constructor
      · have noted : p.Keeps (f.info s!"└─ action: ChangeScene({scene})").stage := keeps
        have goes : p.After (f.info s!"└─ action: ChangeScene({scene})")
            ((f.info s!"└─ action: ChangeScene({scene})").attempt
              (((f.info s!"└─ action: ChangeScene({scene})").stage.goToScene perform scene).map
                fun stage => (.proceed, { f.info s!"└─ action: ChangeScene({scene})" with
                  stage }))).2 := by
          apply After.attempt noted
          intro outcome f' done
          rcases Frame.onStage_eq_ok done with ⟨_, stage, went, rfl⟩
          exact .of_scope_eq ((innerKept perform rfl).goToScene noted went) rfl
        exact ⟨goes.keeps, goes.hosts⟩
      · exact .refl placed
  | _ => exact After.acts keeps placed (Action.performWith_acts inner rfl rfl)

/-- Performing an action keeps the stage at every depth. -/
theorem keptBy_perform (depth : Nat) : p.KeptBy (Action.perform depth) := by
  induction depth with
  | zero => exact keptBy_performWith (by simp)
  | succ depth ih =>
    apply keptBy_performWith
    rintro _ ⟨⟩
    exact ih

end Placement

end Stagecraft
