import Stagecraft.Play.Operations

/-!
# Cursors

A script that nobody drives has either not been started, or is parked on one of its actions, or is
at its end.  Every way of driving a script leaves it so, at every level of nesting, and tells its
caller which of the last two it is.
-/

namespace Stagecraft

/-! ## Below the action at the cursor -/

namespace Action

/-- Actions hold scripts that hold actions: what is true of every action without a script inside,
and of every action around a script of whose actions it is true, is true of all. -/
@[elab_as_elim]
theorem nestedInduction {motive : Action → Prop}
    (leaf : ∀ action : Action, action.inner? = none → motive action)
    (conditional : ∀ condition script, (∀ action ∈ script.actions, motive action) →
      motive (.conditional condition script))
    (runVerb : ∀ whose verb target bound script, (∀ action ∈ script.actions, motive action) →
      motive (.runVerb whose verb target bound script)) (action : Action) : motive action :=
  match action with
  | .conditional condition ⟨actions, ip, suspended⟩ =>
    conditional condition ⟨actions, ip, suspended⟩ (all actions)
  | .runVerb whose verb target bound ⟨actions, ip, suspended⟩ =>
    runVerb whose verb target bound ⟨actions, ip, suspended⟩ (all actions)
  | .setState .. | .setProperty .. | .setActorAttr .. | .position .. | .goto ..
  | .playAnimation .. | .playSound .. | .say .. | .wait .. | .showDialog .. | .cancelVerb ..
  | .addVerb .. | .changeScene .. | .setPlayer .. | .removeActor .. => leaf _ rfl
where
  all : ∀ actions : List Action, ∀ action ∈ actions, motive action
    | [], _, member => nomatch member
    | head :: rest, action, member =>
      match List.mem_cons.mp member with
      | .inl same => same ▸ nestedInduction leaf conditional runVerb head
      | .inr later => all rest action later

theorem corruptionAt?_eq (ip : Nat) (actions : List Action) :
    Action.corruptionAt? ip actions = actions[ip]?.bind Action.corruption? := by
  induction actions generalizing ip with
  | nil => simp [Action.corruptionAt?]
  | cons head rest ih => cases ip <;> simp [Action.corruptionAt?, ih]

theorem leafAt?_eq (owner : Owner) (ip : Nat) (actions : List Action) :
    Action.leafAt? owner ip actions = actions[ip]?.bind (Action.leaf? owner) := by
  induction actions generalizing ip with
  | nil => simp [Action.leafAt?]
  | cons head rest ih => cases ip <;> simp [Action.leafAt?, ih]

theorem tickAt_eq (perform : Performer) (delta : Single) (ip : Nat) (actions : List Action)
    (f : Frame) :
    Action.tickAt perform delta ip actions f = actions[ip]?.map fun action =>
      (actions.set ip (action.tick perform delta f).1, (action.tick perform delta f).2) := by
  induction actions generalizing ip with
  | nil => simp [Action.tickAt]
  | cons head rest ih => cases ip <;> simp [Action.tickAt, ih, Function.comp_def]

theorem resumeAt_eq (perform : Performer) (ip : Nat) (actions : List Action) (f : Frame) :
    Action.resumeAt perform ip actions f = actions[ip]?.map fun action =>
      (action.resume perform f).map fun answer => (actions.set ip answer.1, answer.2) := by
  induction actions generalizing ip with
  | nil => simp [Action.resumeAt]
  | cons head rest ih =>
    cases ip with
    | zero => rfl
    | succ ip =>
      simp only [Action.resumeAt, ih, List.getElem?_cons_succ, Option.map_map]
      cases rest[ip]? with
      | none => rfl
      | some action => cases h : action.resume perform f <;> simp [h, Except.map]

/-- Cancelling from a position leaves the actions before it alone. -/
theorem cancelFrom_eq (ip : Nat) (actions : List Action) (f : Frame) :
    Action.cancelFrom ip actions f =
      (actions.take ip ++ (Action.cancelFrom 0 (actions.drop ip) f).1,
        (Action.cancelFrom 0 (actions.drop ip) f).2) := by
  induction ip generalizing actions with
  | zero => simp
  | succ ip ih =>
    cases actions with
    | nil => simp [Action.cancelFrom]
    | cons head rest => simp [Action.cancelFrom, ih]

theorem length_cancelFrom (ip : Nat) (actions : List Action) (f : Frame) :
    (Action.cancelFrom ip actions f).1.length = actions.length := by
  induction actions generalizing ip f with
  | nil => simp [Action.cancelFrom]
  | cons head rest ih => cases ip <;> simp [Action.cancelFrom, ih]

end Action

/-! ## Situations -/

/-- The situations in which a script can be that nobody drives. -/
inductive Situation where
  | notStarted
  | parked
  | finished
deriving DecidableEq

namespace Script

/-- What a situation says about cursor and suspension. -/
def IsIn {α : Type} (s : Script α) : Situation → Prop
  | .notStarted => s.ip = none ∧ s.suspended = false
  | .parked => (∃ ip < s.length, s.ip = some ip) ∧ s.suspended = true
  | .finished => s.ip = some s.length ∧ s.suspended = false

/-- No two situations go together. -/
theorem IsIn.unique {α : Type} {s : Script α} {a b : Situation} (isInA : s.IsIn a)
    (isInB : s.IsIn b) : a = b := by
  cases a <;> cases b <;> simp_all [IsIn]

/-- A script between two actions: on one of them, but not parked there. -/
def IsBetween {α : Type} (s : Script α) : Prop := s.isRunning = true ∧ s.isParked = false

instance {α : Type} (s : Script α) : Decidable s.IsBetween :=
  inferInstanceAs (Decidable (_ ∧ _))

/-- A script between two actions has its cursor on an action and is not suspended. -/
theorem IsBetween.exists_ip {α : Type} {s : Script α} (between : s.IsBetween) :
    ∃ ip, s.ip = some ip ∧ ip < s.length ∧ s.suspended = false := by
  obtain ⟨running, notParked⟩ := between
  cases atIp : s.ip with
  | none => simp [isRunning, atIp] at running
  | some ip =>
    have inside : ip < s.length := by simpa [isRunning, atIp] using running
    refine ⟨ip, rfl, inside, ?_⟩
    simpa [isParked, parkedAt?, atIp, Option.filter, inside] using notParked

/-- A script between two actions is taken up with the one at its cursor. -/
theorem IsBetween.reenter_eq {s : Script Action} (between : s.IsBetween) (perform : Performer)
    (f : Frame) : ∃ ip, s.ip = some ip ∧ ip < s.length ∧
      s.reenter perform f = stepFrom perform ip s.actions f := by
  rcases between.exists_ip with ⟨ip, atIp, inside, notSuspended⟩
  refine ⟨ip, atIp, inside, ?_⟩
  simp [reenter, atIp, inside, notSuspended]

/-- Only a script between two actions is taken up again. -/
theorem reenter_of_not_isBetween (perform : Performer) {s : Script Action} (f : Frame)
    (notBetween : ¬ s.IsBetween) : s.reenter perform f = (s, s.runState, f) := by
  unfold reenter
  cases atIp : s.ip with
  | none => rfl
  | some ip =>
    have outside : ¬ (ip < s.length ∧ s.suspended = false) := by
      rintro ⟨inside, notSuspended⟩
      exact notBetween ⟨by simp [isRunning, atIp, inside],
        by simp [isParked, parkedAt?, atIp, notSuspended]⟩
    simp [outside]

/-- A sound script is in one of the situations unless it is between two actions. -/
theorem exists_isIn {s : Script Action} (sound : s.corruption? = none)
    (notBetween : ¬ s.IsBetween) : ∃ situation, s.IsIn situation := by
  obtain ⟨actions, ip, suspended⟩ := s
  cases ip with
  | none =>
    cases suspended with
    | false => exact ⟨.notStarted, rfl, rfl⟩
    | true => simp [Script.corruption?] at sound
  | some ip =>
    unfold Script.corruption? at sound
    rcases Nat.lt_trichotomy ip actions.length with inside | atEnd | outside
    · cases suspended with
      | false =>
        exact absurd ⟨by simp [isRunning, length, inside], by simp [isParked, parkedAt?]⟩ notBetween
      | true => exact ⟨.parked, ⟨ip, inside, rfl⟩, rfl⟩
    · cases suspended with
      | false => exact ⟨.finished, by simp [length, atEnd], rfl⟩
      | true => simp [atEnd] at sound
    · simp [outside] at sound

/-- A parked script is sound if the action at its cursor is. -/
theorem corruption?_parked {actions : List Action} {ip : Nat} (inside : ip < actions.length) :
    Script.corruption? ⟨actions, some ip, true⟩ = actions[ip].corruption? := by
  unfold Script.corruption?
  have notPast : ¬ actions.length < ip := by omega
  have notAtEnd : ip ≠ actions.length := by omega
  simp [notPast, notAtEnd, Action.corruptionAt?_eq, List.getElem?_eq_getElem inside]

/-- A sound suspended script is on one of its actions, and that action is sound. -/
theorem sound_parked_iff {actions : List Action} {ip : Nat} :
    Script.corruption? ⟨actions, some ip, true⟩ = none ↔
      ∃ action, actions[ip]? = some action ∧ action.corruption? = none := by
  by_cases inside : ip < actions.length
  · simp [corruption?_parked inside, List.getElem?_eq_getElem inside]
  · have outside : actions[ip]? = none := List.getElem?_eq_none (by omega)
    unfold Script.corruption?
    rcases Nat.lt_or_ge actions.length ip with past | notPast
    · simp [past, outside]
    · simp [show ip = actions.length by omega]

/-- A sound suspended script has a cursor. -/
theorem exists_ip_of_suspended {s : Script Action} (sound : s.corruption? = none)
    (suspended : s.suspended = true) :
    ∃ ip action, s = ⟨s.actions, some ip, true⟩ ∧ s.actions[ip]? = some action ∧
      action.corruption? = none := by
  obtain ⟨actions, ip, _⟩ := s
  obtain rfl : _ = true := suspended
  cases ip with
  | none => simp [Script.corruption?] at sound
  | some ip =>
    obtain ⟨action, here, actionSound⟩ := sound_parked_iff.mp sound
    exact ⟨ip, action, rfl, here, actionSound⟩

/-! ## What a run state says -/

/-- How a driven script is when a run state is reported of it. -/
def Reports (s : Script Action) : RunState → Prop
  | .suspended => s.suspended = true ∧ s.corruption? = none
  | .finished => s.ip = some s.length ∧ s.suspended = false

/-- A script of which something is reported is sound. -/
theorem Reports.sound {s : Script Action} {state : RunState} (reports : s.Reports state) :
    s.corruption? = none := by
  obtain ⟨actions, ip, suspended⟩ := s
  cases state with
  | suspended => exact reports.2
  | finished =>
    obtain ⟨atEnd, notSuspended⟩ := reports
    simp only [length] at atEnd notSuspended
    subst atEnd notSuspended
    unfold Script.corruption?
    simp

/-- A script of which something is reported is not between two actions. -/
theorem Reports.not_isBetween {s : Script Action} {state : RunState}
    (reports : s.Reports state) : ¬ s.IsBetween := by
  obtain ⟨actions, ip, suspended⟩ := s
  rintro ⟨running, notParked⟩
  cases state with
  | suspended =>
    obtain ⟨rfl, _⟩ := reports
    cases ip <;> simp_all [isRunning, isParked, parkedAt?]
  | finished =>
    have atEnd : ip = some actions.length := reports.1
    simp [isRunning, atEnd, length] at running

/-- A script is suspended exactly if that is what is reported. -/
theorem Reports.suspended_iff {s : Script Action} {state : RunState}
    (reports : s.Reports state) : state = .suspended ↔ s.suspended = true := by
  cases state with
  | suspended => simp [reports.1]
  | finished => simp [reports.2]

/-- A script is at its end exactly if that is what is reported. -/
theorem Reports.finished_iff {s : Script Action} {state : RunState}
    (reports : s.Reports state) : state = .finished ↔ s.ip = some s.length := by
  cases state with
  | finished => simp [reports.1]
  | suspended =>
    obtain ⟨ip, action, same, here, _⟩ := exists_ip_of_suspended reports.2 reports.1
    obtain ⟨inside, _⟩ := List.getElem?_eq_some_iff.mp here
    rw [same]
    simp only [length, Option.some.injEq, reduceCtorEq, false_iff]
    omega

/-- A script that has not been started is sound. -/
theorem ofActions_sound (actions : List Action) :
    (Script.ofActions actions).corruption? = none := by
  unfold ofActions Script.corruption?
  rfl

theorem ofActions_not_isBetween {α : Type} (actions : List α) :
    ¬ (Script.ofActions actions).IsBetween := by
  simp [IsBetween, ofActions, isRunning]

theorem reset_eq (s : Script Action) : s.reset = .ofActions (Action.resetAll s.actions) := by
  obtain ⟨actions, ip, suspended⟩ := s
  simp [Script.reset]

/-! ## Equations at the cursor -/

variable {actions : List Action} {ip : Nat} {action : Action}

/-- Time passes for a parked script as it does for the action at its cursor. -/
theorem tick_parked (perform : Performer) (delta : Single) (f : Frame)
    (here : actions[ip]? = some action) :
    Script.tick perform delta ⟨actions, some ip, true⟩ f =
      match action.tick perform delta f with
      | (action, .ok false, f) => (⟨actions.set ip action, some ip, true⟩, .suspended, f)
      | (action, .ok true, f) => Script.advance perform ip (actions.set ip action) f
      | (action, .error reason, f) =>
        Script.advance perform ip (actions.set ip action) (f.error
          s!"{f.handle.key.text} step {ip} failed while in progress: {reason.message}") := by
  simp only [Script.tick, Action.tickAt_eq, here, Option.map_some]
  rcases action.tick perform delta f with ⟨_, (_ | _ | _), _⟩ <;> rfl

/-- Nothing happens to a script that is not suspended when time passes. -/
theorem tick_of_not_suspended (perform : Performer) (delta : Single) {s : Script Action}
    (f : Frame) (notSuspended : s.suspended = false) :
    s.tick perform delta f = (s, s.runState, f) := by
  obtain ⟨actions, ip, suspended⟩ := s
  subst notSuspended
  cases ip <;> rfl

/-- A parked script is resumed as the action at its cursor is. -/
theorem resume_parked (perform : Performer) (f : Frame) (here : actions[ip]? = some action) :
    Script.resume perform ⟨actions, some ip, true⟩ f =
      match action.resume perform f with
      | .error reason => .error reason
      | .ok (action, .suspended, f) => .ok (⟨actions.set ip action, some ip, true⟩, .suspended, f)
      | .ok (action, .finished, f) => .ok (Script.advance perform ip (actions.set ip action) f) := by
  simp only [Script.resume, Action.resumeAt_eq, here, Option.map_some]
  rcases action.resume perform f with _ | ⟨_, (_ | _), _⟩ <;> rfl

/-- Nothing that happens outside makes a script go on: it is not parked on any of its actions. -/
structure Still (s : Script Action) : Prop where
  tick : ∀ perform delta f, s.tick perform delta f = (s, s.runState, f)
  resume : ∀ perform f, s.resume perform f = .error (.notSuspended f.handle.key s.ip)
  leaf : ∀ owner, s.leaf? owner = none

/-- A script is parked on one of its actions, or it stands still. -/
theorem parked_or_still (s : Script Action) :
    (∃ actions ip action, s = ⟨actions, some ip, true⟩ ∧ actions[ip]? = some action) ∨
      s.Still := by
  rcases s with ⟨actions, _ | ip, suspended⟩
  · exact .inr ⟨fun _ _ _ => rfl, fun _ _ => rfl, fun _ => rfl⟩
  · cases suspended with
    | false => exact .inr ⟨fun _ _ _ => rfl, fun _ _ => rfl, fun _ => rfl⟩
    | true =>
      cases here : actions[ip]? with
      | some action => exact .inl ⟨actions, ip, action, rfl, here⟩
      | none =>
        right
        constructor
        · intro perform delta f
          simp only [Script.tick, Action.tickAt_eq, here, Option.map_none]
          rfl
        · intro perform f
          simp only [Script.resume, Action.resumeAt_eq, here, Option.map_none]
        · intro owner
          simp only [Script.leaf?, Action.leafAt?_eq, here, Option.bind_none]

/-- Only a script that is parked on an action can be resumed. -/
theorem exists_of_resume_eq_ok {perform : Performer} {s : Script Action} {f : Frame}
    {answer : Script Action × RunState × Frame} (resumed : s.resume perform f = .ok answer) :
    ∃ ip action, s = ⟨s.actions, some ip, true⟩ ∧ s.actions[ip]? = some action := by
  rcases s.parked_or_still with ⟨actions, ip, action, rfl, here⟩ | still
  · exact ⟨ip, action, rfl, here⟩
  · rw [still.resume] at resumed
    cases resumed

end Script

/-! ## Actions without progress -/

namespace Action

theorem resetAll_eq_map (actions : List Action) :
    Action.resetAll actions = actions.map Action.reset := by
  induction actions with
  | nil => rfl
  | cons head rest ih => simp [Action.resetAll, ih]

/-- An action without progress has none to lose. -/
theorem reset_reset (action : Action) : action.reset.reset = action.reset := by
  have inScript : ∀ script : Script Action,
      (∀ action ∈ script.actions, action.reset.reset = action.reset) →
        script.reset.reset = script.reset := by
    intro script below
    simp only [Script.reset_eq, Script.ofActions, resetAll_eq_map, List.map_map,
      Script.mk.injEq, and_true]
    exact List.map_congr_left below
  induction action using Action.nestedInduction with
  | leaf action noInner =>
    cases action with
    | conditional condition script => cases noInner
    | runVerb whose verb target bound script => cases noInner
    | _ => rfl
  | conditional condition script ih => simp only [Action.reset, inScript script ih]
  | runVerb => rfl

theorem resetAll_resetAll (actions : List Action) :
    Action.resetAll (Action.resetAll actions) = Action.resetAll actions := by
  simp only [resetAll_eq_map, List.map_map]
  exact List.map_congr_left fun action _ => reset_reset action

end Action

namespace Script

/-- A script without progress has none to lose. -/
theorem reset_reset (s : Script Action) : s.reset.reset = s.reset := by
  simp only [reset_eq, ofActions, Action.resetAll_resetAll]

/-- Running a script that has not been started and whose actions have no progress is sweeping it. -/
theorem start_ofActions (perform : Performer) {actions : List Action} (f : Frame)
    (fresh : Action.resetAll actions = actions) :
    (Script.ofActions actions).start perform f = stepFrom perform 0 actions f := by
  unfold start
  rw [Script.reset_eq]
  simp only [Script.ofActions, fresh]
  rfl

end Script

end Stagecraft
