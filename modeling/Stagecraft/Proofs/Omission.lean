import Stagecraft.Proofs.Deaf

/-!
# Leaving actions out

A script that is past an action goes on as it would without that action.  The cursor of the script
without it is at the same one of the other actions, and what is done is the same but for the
journal, in which positions are written.
-/

namespace Stagecraft

/-- Whether a script is another one without the action at a position, with the cursors of both past
that. -/
def Script.Omits (k : Nat) (whole part : Script Action) : Prop :=
  ∃ actions ip suspended, k ≤ ip ∧ k < actions.length ∧
    whole = ⟨actions, some (ip + 1), suspended⟩ ∧ part = ⟨actions.eraseIdx k, some ip, suspended⟩

/-- Whether two scripts are left in the same way but for the action at a position, which the second
one omits, and for the journal. -/
inductive Script.LeftAlike (k : Nat) : Except VerbError (Script Action × RunState × Frame) →
    Except VerbError (Script Action × RunState × Frame) → Prop
  | refused {reason reason'} : LeftAlike k (.error reason) (.error reason')
  | left {whole part state f f'} (omits : whole.Omits k part) (like : f.Like f') :
      LeftAlike k (.ok (whole, state, f)) (.ok (part, state, f'))

private theorem drop_eraseIdx {α : Type} {k ip : Nat} (below : k ≤ ip) (l : List α) :
    (l.eraseIdx k).drop ip = l.drop (ip + 1) := by
  apply List.ext_getElem?
  intro j
  rw [List.getElem?_drop, List.getElem?_drop, List.getElem?_eraseIdx_of_ge (by omega)]
  congr 1
  omega

private theorem take_eraseIdx {α : Type} {k ip : Nat} (below : k ≤ ip) (l : List α) :
    (l.eraseIdx k).take ip = (l.take (ip + 1)).eraseIdx k := by
  induction l generalizing k ip with
  | nil => simp
  | cons head rest ih =>
    cases k with
    | zero => rfl
    | succ k =>
      cases ip with
      | zero => omega
      | succ ip =>
        simp only [List.eraseIdx_cons_succ, List.take_succ_cons, ih (Nat.le_of_succ_le_succ below)]

private theorem set_eraseIdx {α : Type} {k ip : Nat} (below : k ≤ ip) (l : List α) (a : α) :
    (l.eraseIdx k).set ip a = (l.set (ip + 1) a).eraseIdx k := by
  induction l generalizing k ip with
  | nil => rfl
  | cons head rest ih =>
    cases k with
    | zero => rfl
    | succ k =>
      cases ip with
      | zero => omega
      | succ ip => simp only [List.set_cons_succ, List.eraseIdx_cons_succ,
          ih (Nat.le_of_succ_le_succ below)]

/-- Cancelling actions from a position on depends on none before. -/
theorem Action.cancelFrom_eraseIdx {k ip : Nat} (below : k ≤ ip) (actions : List Action)
    (f : Frame) : Action.cancelFrom ip (actions.eraseIdx k) f =
      ((Action.cancelFrom (ip + 1) actions f).1.eraseIdx k,
        (Action.cancelFrom (ip + 1) actions f).2) := by
  induction actions generalizing k ip with
  | nil => simp only [List.eraseIdx_nil, Action.cancelFrom]
  | cons action rest ih =>
    cases k with
    | zero => rfl
    | succ k =>
      cases ip with
      | zero => omega
      | succ ip =>
        have below := Nat.le_of_succ_le_succ below
        simp only [List.eraseIdx_cons_succ, Action.cancelFrom, ih below]

namespace Script.Omits

variable {k : Nat} {whole part : Script Action} {f f' : Frame}

/-- The action at the cursor may change. -/
theorem set {actions : List Action} {ip : Nat} {suspended : Bool} (below : k ≤ ip)
    (inside : k < actions.length) (action : Action) :
    Omits k ⟨actions.set (ip + 1) action, some (ip + 1), suspended⟩
      ⟨(actions.eraseIdx k).set ip action, some ip, suspended⟩ := by
  refine ⟨actions.set (ip + 1) action, ip, suspended, below, ?_, rfl, ?_⟩
  · rwa [List.length_set]
  · rw [set_eraseIdx below]

/-- A script that is cancelled is left as it is without an action. -/
theorem cancelVerb (omits : whole.Omits k part) (like : f.Like f') (state : RunState) :
    LeftAlike k (.ok ((f.cancelVerb whole).1, state, (f.cancelVerb whole).2))
      (.ok ((f'.cancelVerb part).1, state, (f'.cancelVerb part).2)) := by
  rcases like with ⟨journal, rfl⟩
  rcases f.cancelVerb_under part journal with ⟨journal', cancelled⟩
  rw [cancelled]
  rcases omits with ⟨actions, ip, suspended, below, inside, rfl, rfl⟩
  simp only [Frame.cancelVerb, Script.cancel, Action.cancelFrom_eraseIdx below]
  generalize f.info s!">>> cancelling verb {f.handle.key.text}" = g
  constructor
  · refine ⟨(Action.cancelFrom (ip + 1) actions g).1, actions.length - 1, false, by omega,
      ?_, ?_, ?_⟩
    · rwa [Action.length_cancelFrom]
    · rw [Nat.sub_add_cancel (by omega)]
    · rw [List.length_eraseIdx_of_lt inside]
  · exact ⟨journal', rfl⟩

/-- A run ends in the same way without an action that it is past. -/
theorem settle (omits : whole.Omits k part) (like : f.Like f') (state : RunState) :
    LeftAlike k (.ok (f.settle whole state)) (.ok (f'.settle part state)) := by
  rcases f with ⟨h, scope, requested, stage⟩
  rcases like with ⟨journal, rfl⟩
  cases requested with
  | false =>
    cases state with
    | finished => exact .left omits ⟨_, rfl⟩
    | suspended => exact .left omits ⟨journal, rfl⟩
  | true => exact omits.cancelVerb (f := ⟨h, scope, false, stage⟩) ⟨journal, rfl⟩ .finished

end Script.Omits

namespace Script.LeftAlike

variable {k : Nat} {first second : Except VerbError (Script Action × RunState × Frame)}

theorem under {part : Script Action × RunState × Frame} (alike : LeftAlike k first (.ok part))
    (journal : List Note) :
    LeftAlike k first (.ok (part.1, part.2.1, part.2.2.under journal)) := by
  cases alike with
  | left omits like =>
    rcases like with ⟨_, rfl⟩
    exact .left omits ⟨journal, rfl⟩

/-- Runs that end alike leave their verbs alike. -/
theorem settle (alike : LeftAlike k first second) :
    LeftAlike k (first.map fun (s, state, f) => f.settle s state)
      (second.map fun (s, state, f) => f.settle s state) := by
  cases alike with
  | refused => exact .refused
  | left omits like => exact omits.settle like _

theorem of_ok {whole part : Script Action × RunState × Frame}
    (alike : LeftAlike k (.ok whole) (.ok part)) :
    part.2.1 = whole.2.1 ∧ whole.2.2.stage.Like part.2.2.stage := by
  cases alike with
  | left omits like =>
    rcases like with ⟨journal, rfl⟩
    exact ⟨rfl, journal, rfl⟩

end Script.LeftAlike

namespace Performer.Deaf

variable {perform : Performer} {k ip : Nat} {actions : List Action} {f f' : Frame}
  {whole part : Script Action}

/-- A sweep that begins past an action leaves the script as it would without that. -/
theorem stepFrom_omits (deaf : perform.Deaf) (below : k ≤ ip) (inside : k < actions.length)
    (like : f.Like f') :
    Script.LeftAlike k (.ok (Script.stepFrom perform (ip + 1) actions f))
      (.ok (Script.stepFrom perform ip (actions.eraseIdx k) f')) := by
  rcases like with ⟨journal, rfl⟩
  rcases deaf.sweep (actions.drop (ip + 1)) (ip + 1) ip f journal with
    ⟨swept, steps, state, f', journal', first, second⟩
  have passed : k < (actions.take (ip + 1)).length := by
    rw [List.length_take]
    omega
  simp only [Script.stepFrom, drop_eraseIdx below, first, second]
  constructor
  · refine ⟨actions.take (ip + 1) ++ swept, ip + steps, state == .suspended, by omega, ?_, ?_, ?_⟩
    · rw [List.length_append]
      omega
    · rw [Nat.add_right_comm]
    · rw [take_eraseIdx below, List.eraseIdx_append_of_lt_length passed]
  · exact ⟨journal', rfl⟩

/-- A script that goes on past the action at its cursor does so as it would without an earlier
one. -/
theorem advance_omits (deaf : perform.Deaf) (below : k ≤ ip) (inside : k < actions.length)
    (action : Action) (like : f.Like f') :
    Script.LeftAlike k (.ok (Script.advance perform (ip + 1) (actions.set (ip + 1) action) f))
      (.ok (Script.advance perform ip ((actions.eraseIdx k).set ip action) f')) := by
  rw [set_eraseIdx below]
  exact deaf.stepFrom_omits (by omega) (by rwa [List.length_set]) like

theorem resume_omits (deaf : perform.Deaf) (omits : whole.Omits k part) (like : f.Like f') :
    Script.LeftAlike k (whole.resume perform f) (part.resume perform f') := by
  rcases omits with ⟨actions, ip, suspended, below, inside, rfl, rfl⟩
  rcases like with ⟨journal, rfl⟩
  cases suspended with
  | false => exact .refused
  | true =>
    have sameAction : (actions.eraseIdx k)[ip]? = actions[ip + 1]? :=
      List.getElem?_eraseIdx_of_ge below
    cases here : actions[ip + 1]? with
    | none =>
      simp only [Script.resume, Action.resumeAt_eq, here, sameAction]
      exact .refused
    | some action =>
      rcases deaf.resumeAction action f journal with ⟨journal', same⟩
      rw [Script.resume_parked _ _ here, Script.resume_parked _ _ (sameAction.trans here), same]
      rcases action.resume perform f with reason | ⟨action', _ | _, f₁⟩
      · exact .refused
      · exact .left (.set below inside action') ⟨journal', rfl⟩
      · exact deaf.advance_omits below inside action' ⟨journal', rfl⟩

theorem tick_omits (deaf : perform.Deaf) (delta : Single) (omits : whole.Omits k part)
    (like : f.Like f') :
    Script.LeftAlike k (.ok (whole.tick perform delta f)) (.ok (part.tick perform delta f')) := by
  rcases omits with ⟨actions, ip, suspended, below, inside, rfl, rfl⟩
  rcases like with ⟨journal, rfl⟩
  have still : Script.Omits k ⟨actions, some (ip + 1), suspended⟩
      ⟨actions.eraseIdx k, some ip, suspended⟩ := ⟨actions, ip, suspended, below, inside, rfl, rfl⟩
  cases suspended with
  | false => exact .left still ⟨journal, rfl⟩
  | true =>
    have sameAction : (actions.eraseIdx k)[ip]? = actions[ip + 1]? :=
      List.getElem?_eraseIdx_of_ge below
    cases here : actions[ip + 1]? with
    | none =>
      simp only [Script.tick, Action.tickAt_eq, here, sameAction, Option.map_none]
      exact .left still ⟨journal, rfl⟩
    | some action =>
      rcases deaf.tickAction delta action f journal with ⟨journal', same⟩
      rw [Script.tick_parked _ _ _ here, Script.tick_parked _ _ _ (sameAction.trans here), same]
      rcases action.tick perform delta f with ⟨action', reason | (_ | _), f₁⟩
      · exact deaf.advance_omits below inside action' ⟨_, rfl⟩
      · exact .left (.set below inside action') ⟨journal', rfl⟩
      · exact deaf.advance_omits below inside action' ⟨journal', rfl⟩

theorem reenter_omits (deaf : perform.Deaf) (omits : whole.Omits k part) (like : f.Like f') :
    Script.LeftAlike k (.ok (whole.reenter perform f)) (.ok (part.reenter perform f')) := by
  have still := omits
  rcases omits with ⟨actions, ip, suspended, below, inside, rfl, rfl⟩
  have sameCursor : ip < (actions.eraseIdx k).length ↔ ip + 1 < actions.length := by
    rw [List.length_eraseIdx_of_lt inside]
    omega
  by_cases between : ip + 1 < actions.length ∧ suspended = false
  · simp only [Script.reenter, Script.length, sameCursor, between, and_self, if_true]
    exact deaf.stepFrom_omits below inside like
  · simp only [Script.reenter, Script.length, sameCursor, between, if_false]
    exact .left still like

/-- However a script is driven that is past an action, but for being run anew, it is left as it
would be without that. -/
theorem drive_omits (deaf : perform.Deaf) (driving : Driving) (goesOn : driving ≠ .run)
    (omits : whole.Omits k part) (like : f.Like f') :
    Script.LeftAlike k (driving.drive perform whole f) (driving.drive perform part f') := by
  cases driving with
  | run => exact absurd rfl goesOn
  | resume => exact (deaf.resume_omits omits like).settle
  | tick delta => exact (deaf.tick_omits delta omits like).settle
  | reenter => exact (deaf.reenter_omits omits like).settle
  | cancel => exact omits.cancelVerb like .finished

end Performer.Deaf

end Stagecraft
