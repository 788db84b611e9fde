import Stagecraft.Proofs.Choices
import Stagecraft.Proofs.Listing
import Stagecraft.Proofs.Player
import Stagecraft.Save.Load

/-!
# Sessions

In a session a front end plays a game.  It makes moves, walks the player's actor on, and takes the
events that have been told; and the game may be saved when all of them have been taken, and be taken
up again.  Whatever it does, no verb is left running, the actors stand under their own ids, and the
last thing told about a dialog is what can be chosen in the open one.
-/

namespace Stagecraft

/-- What a front end has been told so far, and the stage that it goes on with. -/
inductive Stage.Session : List Event → Stage → Prop
  /-- A game begins. -/
  | begins {s : Stage} (opening : s.Opening) : Session [] s
  /-- A move is made. -/
  | moves {told : List Event} {s : Stage} (before : Session told s) (m : Move) (depth : Nat) :
      Session told (s.move m depth)
  /-- The player's actor is walked to another place. -/
  | walks {told : List Event} {s : Stage} {player : Actor} (before : Session told s)
      (present : s.world.playerActor? = some player) (place : Point) :
      Session told (s.mapWorld (·.modifyPlayer (·.moveTo place)))
  /-- The events that have been told are taken. -/
  | takes {told : List Event} {s : Stage} (before : Session told s) :
      Session (told ++ s.outbox) s.drain.2
  /-- The journal is written elsewhere. -/
  | notes {told : List Event} {s : Stage} (before : Session told s) (journal : List Note) :
      Session told { s with journal }
  /-- The game has been saved when there were no more events to take, and is taken up again. -/
  | resumes {told : List Event} {path text : String} {s s' : Stage} (before : Session told s)
      (taken : s.outbox = []) (parsed : World.parse? text = some s.world)
      (loaded : loadText path text = .ok s') (settings : Settings) :
      Session told { s' with settings }

/-! ## The dialog that is announced -/

/-- Whether what can be chosen in the open dialog is what has been told last about dialogs.  If the
game has been taken up with an open dialog, nothing need have been told about dialogs at all. -/
def World.Announces (stored : Option OpenDialog) (w : World) (told : List Event) : Prop :=
  w.ShownIn told ∨ (w.openDialog = stored ∧ ∀ event ∈ told, event.isAboutDialog = false)

/-- When no dialog is open there is nothing to tell. -/
theorem World.Announces.of_closed {stored : Option OpenDialog} {w : World} {told : List Event}
    (closed : w.openDialog = none) : w.Announces stored told := by
  refine .inl fun opened isOpen => ?_
  cases closed.symm.trans isOpen

/-- What can be chosen stays announced while dialogs are kept and none is opened or closed. -/
theorem World.Announces.of_keepsOf {stored : Option OpenDialog} {w w' : World}
    {told more : List Event} (announced : w.Announces stored told)
    (calm : ∀ event ∈ more, event.isAboutDialog = false) (same : w'.openDialog = w.openDialog)
    (keeps : w.KeepsOf Actor.dialogs w') : w'.Announces stored (told ++ more) := by
  rcases announced with isShown | ⟨unchanged, quiet⟩
  · exact .inl (isShown.of_keepsOf calm same keeps)
  · refine .inr ⟨same.trans unchanged, ?_⟩
    rw [List.forall_mem_append]
    exact ⟨quiet, calm⟩

/-- What can be chosen stays announced, whatever happens; some events have been taken before. -/
def Placement.announcing (stored : Option OpenDialog) (earlier : List Event) : Placement where
  fits _ _ := True
  filed _ _ := True
  holds outbox _ w := w.Announces stored (earlier ++ outbox)
  installs _ _ _ _ :=
    ⟨Script.Throughout.placed_iff.mpr fun _ _ => .of_always fun _ => trivial, trivial⟩
  deed {driver s deed} allowed licensed announced := by
    rw [deed.outbox_apply, ← List.append_assoc]
    cases moves : deed.movesDialog with
    | false =>
      have noChoice : deed.isChoice = false := by
        cases deed with
        | choose => cases moves
        | _ => rfl
      apply announced.of_keepsOf _ (Deed.openDialog_apply moves s) (Deed.keepsOf_dialogs noChoice s)
      cases deed with
      | emit event =>
        intro other member
        cases List.mem_singleton.mp member
        exact licensed
      | _ => simp
    | true =>
      refine .of_closed ?_
      cases deed with
      | openDialog => cases allowed
      | closeDialog | choose => rfl
      | _ => cases moves
  verbs {outbox _ w} owner change announced := by
    rw [← List.append_nil (earlier ++ outbox)]
    apply announced.of_keepsOf (by simp)
    · cases owner <;> rfl
    · exact .modifyVerbs (fun _ _ => rfl) w owner change
  shows {outbox _ w _ scene id dialog shown} shows _ := by
    refine .inl ?_
    rintro opened ⟨⟩
    refine ⟨earlier ++ outbox, _, [], (List.append_assoc ..).symm, by simp, fun a found => ?_⟩
    have inWorld : w.actor? scene id = some a := found
    have isShown := shows.found
    rw [inWorld, Option.bind_some] at isShown
    exact ⟨shown, isShown, rfl⟩
  closes closed _ := .of_closed closed

/-- A game that is taken up is the one that was stored, with its verbs restored. -/
theorem restore_of_loadText {path text : String} {w : World} {s : Stage}
    (parsed : World.parse? text = some w) (loaded : loadText path text = .ok s) :
    (Stage.ofWorld w).restore = .ok s := by
  unfold loadText at loaded
  rw [parsed] at loaded
  cases restored : (Stage.ofWorld w).restore with
  | error reason =>
    simp only [restored] at loaded
    cases loaded
  | ok t =>
    simp only [restored] at loaded
    cases loaded
    rfl

namespace Placement

variable {stored : Option OpenDialog} {told : List Event} {s : Stage}

/-- A stage is kept if what can be chosen is announced. -/
theorem keeps_announcing_iff :
    (announcing stored told).Keeps s ↔ s.world.Announces stored (told ++ s.outbox) :=
  ⟨fun keeps => keeps.world, fun announced => ⟨announced, fun _ _ _ =>
    ⟨Script.Throughout.placed_iff.mpr fun _ _ => .of_always fun _ => trivial, trivial⟩⟩⟩

/-- A game that is taken up again announces what it did when it was stored. -/
theorem announces_of_loadText {path text : String} {w : World} {s : Stage}
    (parsed : World.parse? text = some w) (loaded : loadText path text = .ok s)
    (announced : w.Announces stored told) : s.world.Announces stored (told ++ s.outbox) := by
  have keeps : (announcing stored told).Keeps (Stage.ofWorld w) :=
    keeps_announcing_iff.mpr (by simpa [Stage.ofWorld] using announced)
  exact keeps_announcing_iff.mp (keeps.restore (restore_of_loadText parsed loaded))

end Placement

/-! ## What holds in a session -/

namespace Stage

variable {told : List Event} {s : Stage}

/-- Walking the player's actor puts it at another place. -/
theorem exists_place_of_playerActor? {player : Actor} (present : s.world.playerActor? = some player)
    (place : Point) : ∃ scene id, (Deed.place scene id place).Allowed none s ∧
      s.mapWorld (·.modifyPlayer (·.moveTo place)) = (Deed.place scene id place).apply s := by
  obtain ⟨id, scene, isPlayer, isCurrent, found⟩ := World.playerActor?_eq_some_iff.mp present
  have allowed : (Deed.place scene id place).Allowed none s :=
    Option.isSome_iff_exists.mpr ⟨player, found⟩
  refine ⟨scene, id, allowed, ?_⟩
  simp only [mapWorld, World.modifyPlayer, isPlayer, isCurrent, Deed.apply]

/-- Between what a front end does no verb is running, actors stand under their own ids, and what can
be chosen in the open dialog is announced. -/
structure Rests (told : List Event) (s : Stage) : Prop where
  idle : s.executing = []
  filed : s.world.Filed
  announced : ∃ stored, s.world.Announces stored (told ++ s.outbox)

theorem Rests.move (rests : s.Rests told) (m : Move) (depth : Nat) :
    (s.move m depth).Rests told := by
  obtain ⟨deeds, course⟩ := s.move_course m depth
  obtain ⟨stored, announced⟩ := rests.announced
  have keeps := Placement.keeps_announcing_iff.mpr announced
  exact {
    idle := course.executing_eq.trans rests.idle
    filed := course.filed rests.filed
    announced := ⟨stored, Placement.keeps_announcing_iff.mp (keeps.move m depth)⟩ }

/-- A game that is taken up is at rest, as soon as its actors stand under their own ids. -/
theorem rests_of_loadText {path text : String} {w : World} (parsed : World.parse? text = some w)
    (loaded : loadText path text = .ok s) (filed : w.Filed)
    (announced : ∃ stored, w.Announces stored told) (settings : Settings) :
    Rests told { s with settings } := by
  obtain ⟨stored, announced⟩ := announced
  have announces := Placement.announces_of_loadText parsed loaded announced
  obtain ⟨deeds, course⟩ := restore_course none (restore_of_loadText parsed loaded)
  exact ⟨course.executing_eq, course.filed filed, stored, announces⟩

theorem Opening.rests (opening : s.Opening) : s.Rests [] := by
  cases opening with
  | built settings built =>
    exact ⟨rfl, (Definition.consistent_build built).filed, none,
      .of_closed (Definition.openDialog_build built)⟩
  | @loaded path text w s settings parsed keyed taken =>
    exact rests_of_loadText parsed taken keyed.filed ⟨w.openDialog, .inr ⟨rfl, by simp⟩⟩ settings

/-- In a session a stage is always at rest. -/
theorem Session.rests (session : Session told s) : s.Rests told := by
  induction session with
  | begins opening => exact opening.rests
  | moves _ m depth rests => exact rests.move m depth
  | @walks told s player _ present place rests =>
    obtain ⟨stored, announced⟩ := rests.announced
    obtain ⟨scene, id, allowed, same⟩ := exists_place_of_playerActor? present place
    have proper : (Placement.announcing stored told).Proper (.place scene id place) := trivial
    have keeps := (Placement.keeps_announcing_iff.mpr announced).apply allowed proper
    rw [same]
    exact ⟨rests.idle, rests.filed.apply _, stored, Placement.keeps_announcing_iff.mp keeps⟩
  | @takes told s _ rests =>
    refine ⟨rests.idle, rests.filed, ?_⟩
    simpa [drain] using rests.announced
  | notes _ journal rests => exact ⟨rests.idle, rests.filed, rests.announced⟩
  | @resumes told path text s s' _ taken parsed loaded settings rests =>
    have announced := rests.announced
    rw [taken, List.append_nil] at announced
    exact rests_of_loadText parsed loaded rests.filed announced settings

end Stage

end Stagecraft
