import Stagecraft.Proofs.Journal
import Stagecraft.Proofs.Upkeep
import Stagecraft.Proofs.Waiting

/-!
# Ending verbs

A verb that is cancelled goes to its end, whatever its cursors were.  On the way through its actions
it closes its dialog if one of them may have opened it, which comes to closing it once, and it
touches nothing else.  A verb at its end has nothing left to give up.
-/

namespace Stagecraft

/-! ## Closing the dialog of a verb -/

/-- The stage on which the dialog of a verb is closed, if it is open. -/
def Stage.dismiss (s : Stage) (h : Handle) : Stage :=
  match s.world.openDialog with
  | some opened =>
    if opened.handle = h then
      ((s.mapWorld fun w => { w with openDialog := none }).info
        s!"└─ action: closing dialog '{opened.dialog}' of '{opened.actor}'").emit
          (.dialogClosed opened.actor opened.dialog)
    else s
  | none => s

namespace Stage

theorem dismiss_of_own {s : Stage} {opened : OpenDialog}
    (isOpen : s.world.openDialog = some opened) :
    s.dismiss opened.handle =
      ((s.mapWorld fun w => { w with openDialog := none }).info
        s!"└─ action: closing dialog '{opened.dialog}' of '{opened.actor}'").emit
          (.dialogClosed opened.actor opened.dialog) := by
  simp only [dismiss, isOpen, if_true]

theorem dismiss_of_not_own {s : Stage} {h : Handle}
    (notOwn : ∀ opened, s.world.openDialog = some opened → opened.handle ≠ h) :
    s.dismiss h = s := by
  unfold dismiss
  split
  · next opened isOpen => rw [if_neg (notOwn opened isOpen)]
  · rfl

/-- A dialog that has been closed is not closed again. -/
theorem dismiss_dismiss (s : Stage) (h : Handle) : (s.dismiss h).dismiss h = s.dismiss h := by
  refine dismiss_of_not_own fun opened stillOpen own => ?_
  subst own
  cases isOpen : s.world.openDialog with
  | none =>
    rw [dismiss_of_not_own (by simp [isOpen]), isOpen] at stillOpen
    cases stillOpen
  | some other =>
    by_cases same : other.handle = opened.handle
    · rw [← same, dismiss_of_own isOpen] at stillOpen
      cases stillOpen
    · rw [dismiss_of_not_own (by simpa [isOpen] using same), isOpen] at stillOpen
      cases stillOpen
      exact same rfl

theorem executing_dismiss (s : Stage) (h : Handle) :
    (s.dismiss h).executing = s.executing := by
  unfold dismiss
  split
  · split <;> rfl
  · rfl

/-- Closing a dialog leaves the verbs alone. -/
theorem script?_dismiss (s : Stage) (h : Handle) :
    (s.dismiss h).world.script? = s.world.script? := by
  unfold dismiss
  split
  · split <;> rfl
  · rfl

end Stage

namespace Frame

theorem releaseDialog_eq (f : Frame) :
    f.releaseDialog = { f with stage := f.stage.dismiss f.handle } := by
  unfold releaseDialog Stage.dismiss
  cases f.stage.world.openDialog with
  | none => rfl
  | some opened =>
    simp only
    split <;> rfl

theorem releaseDialog_releaseDialog (f : Frame) :
    f.releaseDialog.releaseDialog = f.releaseDialog := by
  simp only [releaseDialog_eq, Stage.dismiss_dismiss]

/-- What is given up comes to nothing, or to closing the dialog of the verb. -/
def GivesOnly (f f' : Frame) : Prop := f' = f ∨ f' = f.releaseDialog

theorem GivesOnly.trans {f f' f'' : Frame} (first : f.GivesOnly f') (second : f'.GivesOnly f'') :
    f.GivesOnly f'' := by
  rcases first with rfl | rfl
  · exact second
  · rcases second with rfl | rfl
    · exact .inr rfl
    · exact .inr (releaseDialog_releaseDialog f)

theorem GivesOnly.inScope {f f' : Frame} {bound : Option Owner}
    (inner : (f.enterScope bound).GivesOnly f') : f.GivesOnly (f.leaveScope f') := by
  rcases inner with rfl | rfl
  · exact .inl rfl
  · refine .inr ?_
    rw [releaseDialog_eq, releaseDialog_eq]
    rfl

end Frame

private theorem Action.cancelFrom_givesOnly {actions : List Action}
    (below : ∀ action ∈ actions, ∀ f : Frame, f.GivesOnly (action.cancel f).2) (ip : Nat)
    (f : Frame) : f.GivesOnly (Action.cancelFrom ip actions f).2 := by
  induction actions generalizing ip f with
  | nil =>
    unfold Action.cancelFrom
    exact .inl rfl
  | cons head rest ih =>
    rw [List.forall_mem_cons] at below
    cases ip with
    | zero => exact (below.1 f).trans (ih below.2 0 _)
    | succ ip => exact ih below.2 ip f

private theorem Script.cancel_givesOnly_of {s : Script Action}
    (below : ∀ action ∈ s.actions, ∀ f : Frame, f.GivesOnly (action.cancel f).2) (f : Frame) :
    f.GivesOnly (s.cancel f).2 := by
  obtain ⟨actions, ip, suspended⟩ := s
  cases ip with
  | none => exact .inl rfl
  | some ip => exact Action.cancelFrom_givesOnly below ip f

theorem Action.cancel_givesOnly (action : Action) (f : Frame) :
    f.GivesOnly (action.cancel f).2 := by
  induction action using Action.nestedInduction generalizing f with
  | leaf action noInner =>
    cases action with
    | showDialog actor dialog => exact .inr rfl
    | conditional condition script => cases noInner
    | runVerb whose verb target bound script => cases noInner
    | _ => exact .inl rfl
  | conditional condition script ih => exact Script.cancel_givesOnly_of ih f
  | runVerb whose verb target bound script ih => exact (Script.cancel_givesOnly_of ih _).inScope

/-- However a script is nested and whatever its cursors are, cancelling it closes the dialog of its
verb or does nothing. -/
theorem Script.cancel_givesOnly (s : Script Action) (f : Frame) : f.GivesOnly (s.cancel f).2 :=
  Script.cancel_givesOnly_of (fun action _ => action.cancel_givesOnly) f

/-- A script at its end has nothing to give up. -/
theorem Script.IsIn.cancel_eq {s : Script Action} (atEnd : s.IsIn .finished) (f : Frame) :
    s.cancel f = (s, f) := by
  obtain ⟨actions, ip, suspended⟩ := s
  obtain rfl : ip = some actions.length := atEnd.1
  obtain rfl : suspended = false := atEnd.2
  simp only [Script.cancel]
  rw [Action.cancelFrom_eq]
  simp [Action.cancelFrom]

/-! ## Cancelling -/

namespace Stage

variable {s : Stage} {h : Handle} {script : Script Action}

theorem dismiss_lend (s : Stage) (h g : Handle) : (s.lend h).dismiss g = (s.dismiss g).lend h := by
  unfold dismiss
  rw [openDialog_lend]
  cases s.world.openDialog with
  | none => rfl
  | some opened =>
    simp only
    split
    · rcases h with ⟨_ | _ | _, key⟩ <;> rfl
    · rfl

/-- A verb that is cancelled is put back at its end, after its dialog may have been closed. -/
theorem cancelVerb_of_found (idle : h ∉ s.executing) (found : s.world.script? h = some script) :
    ∃ script' t, script'.IsIn .finished ∧ script'.reset = script.reset ∧
      (t = s.info s!">>> cancelling verb {h.key.text}" ∨
        t = (s.info s!">>> cancelling verb {h.key.text}").dismiss h) ∧
      s.cancelVerb h = (true, (Deed.install h script').apply t) := by
  let noted := s.info s!">>> cancelling verb {h.key.text}"
  rcases cancelled : (Frame.enter h (s.lend h)).cancelVerb script with ⟨script', f'⟩
  have driven : Driving.cancel.drive (Action.perform 0) script (.enter h (s.lend h)) =
      .ok (script', .finished, f') := by
    rw [Driving.drive, cancelled]
  have sameActions : script'.reset = script.reset := Driving.reset_drive driven
  obtain ⟨t, isLent, isEither, foundThere⟩ : ∃ t, f'.stage = t.lend h ∧
      (t = noted ∨ t = noted.dismiss h) ∧ t.world.script? h = some script := by
    have gives := script.cancel_givesOnly
      ((Frame.enter h (s.lend h)).info s!">>> cancelling verb {h.key.text}")
    have givenUp : script.cancel ((Frame.enter h (s.lend h)).info
        s!">>> cancelling verb {h.key.text}") = (script', f') := cancelled
    rw [givenUp] at gives
    rcases gives with rfl | rfl
    · exact ⟨noted, rfl, .inl rfl, found⟩
    · refine ⟨noted.dismiss h, ?_, .inr rfl, ?_⟩
      · rw [Frame.releaseDialog_eq, ← dismiss_lend]
        rfl
      · rw [script?_dismiss]
        exact found
  refine ⟨script', t, (Script.cancel_reports cancelled), sameActions, isEither, ?_⟩
  have lent : f'.stage.executing = h :: s.executing := by
    rw [isLent]
    rcases isEither with rfl | rfl
    · rfl
    · exact congrArg (h :: ·) (executing_dismiss noted h)
  unfold cancelVerb
  rw [withVerb_eq idle found (by simp only [cancelled]; rfl) lent, isLent,
    closing_lend_eq foundThere]
  rfl

/-- A verb that is cancelled goes to its end, and nothing else is changed than that its dialog may be
closed. -/
theorem cancelVerb_like (idle : h ∉ s.executing) (found : s.world.script? h = some script) :
    ∃ script', (s.cancelVerb h).2.world.script? h = some script' ∧ script'.IsIn .finished ∧
      script'.reset = script.reset ∧
      ((Deed.applyAll [.install h script'] s).Like (s.cancelVerb h).2 ∨
        ∃ opened, s.world.openDialog = some opened ∧ opened.handle = h ∧
          (Deed.applyAll [.closeDialog, .emit (.dialogClosed opened.actor opened.dialog),
            .install h script'] s).Like (s.cancelVerb h).2) := by
  obtain ⟨script', t, atEnd, sameActions, isEither, cancels⟩ := cancelVerb_of_found idle found
  rw [cancels]
  have foundThere : t.world.script? h = some script := by
    rcases isEither with rfl | rfl
    · exact found
    · rw [script?_dismiss]
      exact found
  have present := World.isSome_verbs?_of_script? (by simp [foundThere] : (t.world.script? h).isSome)
  refine ⟨script', ?_, atEnd, sameActions, ?_⟩
  · exact (World.script?_insert present script' h).trans (if_pos rfl)
  · let noted := s.info s!">>> cancelling verb {h.key.text}"
    by_cases own : ∃ opened, s.world.openDialog = some opened ∧ opened.handle = h
    · obtain ⟨opened, isOpen, rfl⟩ := own
      rcases isEither with rfl | rfl
      · exact .inl ⟨_, rfl⟩
      · refine .inr ⟨opened, isOpen, rfl, ?_⟩
        have dismissed := dismiss_of_own (s := noted) isOpen
        rw [dismissed]
        exact ⟨_, rfl⟩
    · have kept : noted.dismiss h = noted :=
        dismiss_of_not_own fun opened isOpen same => own ⟨opened, isOpen, same⟩
      obtain rfl : t = noted := isEither.elim id fun dismissed => dismissed.trans kept
      exact .inl ⟨_, rfl⟩

/-- A verb at its end is left as it is when it is cancelled. -/
theorem cancelVerb_of_finished (idle : h ∉ s.executing) (found : s.world.script? h = some script)
    (atEnd : script.IsIn .finished) :
    s.cancelVerb h = (true, s.info s!">>> cancelling verb {h.key.text}") := by
  have done : (Frame.enter h (s.lend h)).cancelVerb script =
      (script, (Frame.enter h (s.lend h)).info s!">>> cancelling verb {h.key.text}") :=
    atEnd.cancel_eq _
  have isLent : ((Frame.enter h (s.lend h)).info s!">>> cancelling verb {h.key.text}").stage =
      (s.info s!">>> cancelling verb {h.key.text}").lend h := rfl
  have comesBack := closing_lend (s := s.info s!">>> cancelling verb {h.key.text}") found
  unfold cancelVerb
  rw [withVerb_eq idle found (by simp only [done]; rfl) rfl, isLent, comesBack]
  rfl

/-- A verb that is not in its table is not cancelled. -/
theorem cancelVerb_of_missing (idle : h ∉ s.executing) (missing : s.world.script? h = none) :
    s.cancelVerb h = (false, s) := by
  simp only [cancelVerb, withVerb, if_neg idle, missing]
  rfl

end Stage

end Stagecraft
