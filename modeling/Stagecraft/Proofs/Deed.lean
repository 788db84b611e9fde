import Stagecraft.Play.Operations
import Stagecraft.Proofs.Lookup

/-!
# Deeds

Whatever is done on a stage comes down to a few single changes, here called deeds: notes and events,
changes of owners, dialogs that open and close, verbs that are installed, and verbs that leave their
table to be driven and come back.  What an action has done is told as the list of its deeds.
-/

namespace Stagecraft

/-- A way of driving a verb. -/
inductive Driving where
  | run
  | resume
  | tick (delta : Single)
  | reenter
  | cancel

/-- A single change of a stage. -/
inductive Deed where
  | note (level : Level) (text : String)
  | emit (event : Event)
  | setState (owner : Owner) (state : Option String)
  | setProperty (owner : Owner) (name : String) (value : Option String)
  | dress (scene actor : String) (visible interaction : Option Bool) (layer : Option String)
  | place (scene actor : String) (pos : Point)
  | animate (scene actor animation : String)
  | playSound (scene actor sound : String)
  | openDialog (opened : OpenDialog)
  | closeDialog
  | install (h : Handle) (script : Script Action)
  | remove (scene actor : String)
  | goTo (scene : String)
  | setPlayer (actor : Option String)
  /-- Time passes. -/
  | pass (delta : Single)
  /-- An actor notices that the player has come or gone. -/
  | notice (scene actor : String)
  /-- The player chooses an option of the open dialog, which closes it. -/
  | choose (scene actor dialog : String) (index : Nat)
  /-- A verb leaves its table to be driven. -/
  | take (h : Handle) (driving : Driving)
  /-- The verb that was driven last comes back into its table. -/
  | putBack (h : Handle) (script : Script Action)
  /-- The verb that was driven last is given up for a new definition under its key. -/
  | supersede (h : Handle)
  /-- The verb that was driven last is given up, as its owner is gone. -/
  | drop (h : Handle)

/-- A scene in which an actor is shown in another way; what is left out stays as it is. -/
def Scene.dress (s : Scene) (id : String) (visible interaction : Option Bool)
    (layer : Option String) : Scene :=
  let moved := (layer.bind (s.moveToLayer? id ·)).getD s
  { moved with
    actors := moved.actors.modify id fun a =>
      { a with
        visible := visible.getD a.visible
        interaction := interaction.getD a.interaction } }

/-- A scene in which an actor has compared the player's place with its region. -/
def Scene.noticed (s : Scene) (id : String) (player : Option String) : Scene :=
  ((s.notice id player).map (·.2)).getD s

/-- A scene without an actor. -/
def Scene.without (s : Scene) (id : String) : Scene :=
  ((s.removeActor? id).map (·.2)).getD s

/-- An actor of whose dialog an option has been chosen. -/
def Actor.chosen (a : Actor) (dialog : String) (index : Nat) : Actor :=
  ((a.chooseOption? dialog index).map (·.2)).getD a

namespace World

/-- A world with another player, if that actor is in the current scene or nobody is to be it. -/
def handOver (w : World) (actor : Option String) : World :=
  { w.modifyPlayer fun a => { a with interaction := true } with player := actor }.modifyPlayer
    fun a => { a with interaction := false }

end World

namespace Stage

/-- The stage on which a verb is out of its table to be driven. -/
def lend (s : Stage) (h : Handle) : Stage :=
  { s with
    world := s.world.modifyVerbs h.owner (·.erase h.key)
    executing := h :: s.executing }

/-- The stage on which the verb that was driven last is driven no more. -/
def release (s : Stage) : Stage := { s with executing := s.executing.tail }

/-- What becomes of a verb that has been driven. -/
def closing (s : Stage) (h : Handle) (script : Script Action) : Deed :=
  match s.world.verbs? h.owner with
  | some verbs => if verbs.contains h.key then .supersede h else .putBack h script
  | none => .drop h

end Stage

namespace Deed

/-- Do a deed. -/
def apply : Deed → Stage → Stage
  | .note level text, s => s.note level text
  | .emit event, s => s.emit event
  | .setState owner state, s => s.mapWorld (·.setState owner state)
  | .setProperty owner name value, s => s.mapWorld (·.setProperty owner name value)
  | .dress scene actor visible interaction layer, s =>
    s.mapWorld (·.modifyScene scene (·.dress actor visible interaction layer))
  | .place scene actor pos, s => s.mapWorld (·.modifyActor scene actor (·.moveTo pos))
  | .animate scene actor animation, s =>
    s.mapWorld (·.modifyActor scene actor fun a => { a with animation := some animation })
  | .playSound scene actor sound, s =>
    s.mapWorld (·.modifyActor scene actor fun a => { a with playingSound := some sound })
  | .openDialog opened, s => s.mapWorld fun w => { w with openDialog := some opened }
  | .closeDialog, s => s.mapWorld fun w => { w with openDialog := none }
  | .install h script, s => s.mapWorld (·.modifyVerbs h.owner (·.insert h.key script))
  | .remove scene actor, s => s.mapWorld (·.modifyScene scene (·.without actor))
  | .goTo scene, s => s.mapWorld fun w => { w with currentScene := some scene }
  | .setPlayer actor, s => s.mapWorld (·.handOver actor)
  | .pass delta, s => s.mapWorld fun w => { w with elapsed := w.elapsed + delta.toDouble }
  | .notice scene actor, s =>
    s.mapWorld fun w => w.modifyScene scene (·.noticed actor w.player)
  | .choose scene actor dialog index, s =>
    s.mapWorld fun w =>
      { w with openDialog := none }.modifyActor scene actor (·.chosen dialog index)
  | .take h _, s => s.lend h
  | .putBack h script, s =>
    s.release.mapWorld (·.modifyVerbs h.owner (·.insert h.key script))
  | .supersede _, s => s.release
  | .drop h, s => s.release.warn s!"owner of verb {h.text} is gone; verb dropped"

/-- The scene in which a deed changes something, if the deed names one. -/
def sceneId? : Deed → Option String
  | .setState owner _ | .setProperty owner .. => owner.sceneId?
  | .dress scene .. | .place scene .. | .animate scene .. | .playSound scene ..
  | .remove scene _ | .notice scene _ | .choose scene .. => some scene
  | .install h _ | .take h _ | .putBack h _ => h.owner.sceneId?
  | .note .. | .emit _ | .openDialog _ | .closeDialog | .goTo _ | .setPlayer _ | .pass _
  | .supersede _ | .drop _ => none

/-- Do deeds one after the other. -/
def applyAll (deeds : List Deed) (s : Stage) : Stage := deeds.foldl (fun s deed => deed.apply s) s

@[simp] theorem applyAll_nil (s : Stage) : applyAll [] s = s := rfl

@[simp] theorem applyAll_cons (deed : Deed) (rest : List Deed) (s : Stage) :
    applyAll (deed :: rest) s = applyAll rest (deed.apply s) := rfl

@[simp] theorem applyAll_append (first second : List Deed) (s : Stage) :
    applyAll (first ++ second) s = applyAll second (applyAll first s) := by
  simp [applyAll]

/-- Whether a deed is one that may be done by itself: by the front end, or by a verb that is driven.
Opening a dialog and driving a verb are told apart. -/
def Allowed (driver : Option Handle) (s : Stage) : Deed → Prop
  | .note .. | .emit .. => True
  | .setState owner _ => (s.world.state? owner).isSome
  | .setProperty owner _ _ => (s.world.properties? owner).isSome
  | .dress scene actor .. | .place scene actor _ | .animate scene actor _
  | .playSound scene actor _ => (s.world.actor? scene actor).isSome
  | .closeDialog => ∃ h opened, driver = some h ∧ s.world.openDialog = some opened ∧
      opened.handle = h
  | .install h script => (∃ other, driver = some other ∧ h.owner ≠ other.owner) ∧
      (s.world.verbs? h.owner).isSome ∧ ∃ written : Script Action, script = written.reset
  | .remove scene actor => driver.isSome ∧ (s.world.actor? scene actor).isSome
  | .goTo scene => (s.world.scene? scene).isSome
  | .setPlayer actor => ∀ id, actor = some id → (s.world.current?.bind (·.actor? id)).isSome
  | .pass _ => driver = none
  | .notice scene actor => driver = none ∧ s.world.currentScene = some scene ∧
      ((s.world.scene? scene).bind (·.notice actor s.world.player)).isSome
  | .choose scene actor dialog index => driver = none ∧
      (∃ opened, s.world.openDialog = some opened ∧ opened.scene = scene ∧
        opened.actor = actor ∧ opened.dialog = dialog) ∧
      ((s.world.actor? scene actor).bind (·.chooseOption? dialog index)).isSome
  | .openDialog _ | .take .. | .putBack .. | .supersede _ | .drop _ => False

/-- Whether deeds may be done by themselves one after the other. -/
def AllAllowed (driver : Option Handle) : Stage → List Deed → Prop
  | _, [] => True
  | s, deed :: rest => deed.Allowed driver s ∧ AllAllowed driver (deed.apply s) rest

end Deed

/-- The frame after deeds. -/
def Frame.after (f : Frame) (deeds : List Deed) : Frame :=
  { f with stage := Deed.applyAll deeds f.stage }

end Stagecraft
