import Stagecraft.Proofs.Arrivals
import Stagecraft.Proofs.Saving
import Stagecraft.Proofs.Waiting

/-!
# Open dialogs and the actions that show them

What is shown in an open dialog is told twice: by the world, and by the action on which the verb of
the dialog is parked.  Loading a saved game asks only for a verb that waits for a choice in some
dialog.  As long as the world is one that has been played, that dialog is the open one.
-/

namespace Stagecraft

variable {driver : Option Handle} {s s' : Stage} {deed : Deed} {deeds : List Deed} {leaf : Leaf}
  {h : Handle} {opened : OpenDialog} {w : World}

/-! ## Which dialog is shown -/

/-- Whether an actor that may be left out is an actor of a scene where actions run for an owner.  An
owner without a scene of its own means actors of the current one. -/
def Owner.Means (owner : Owner) (actor : Option String) (scene id : String) : Prop :=
  ∀ (h : Handle) (s : Stage), (owner.sceneId? = none → s.world.currentScene = some scene) →
    (Frame.mk h owner false s).actorRef actor = .ok (scene, id)

/-- Who is meant in a frame is told by the owner for whom its actions run. -/
theorem Frame.means_of_actorRef {f : Frame} {actor : Option String} {scene id : String}
    (named : f.actorRef actor = .ok (scene, id)) : f.scope.Means actor scene id := by
  intro h s sameScene
  have inScene := sceneId_of_actorRef named
  cases actor with
  | none =>
    unfold actorRef at named ⊢
    cases isOwner : f.scope with
    | actor home name => simpa [isOwner] using named
    | scene home => simp [isOwner] at named
    | world => simp [isOwner] at named
  | some name =>
    have same : (Frame.mk h f.scope false s).sceneId = .ok scene := by
      unfold sceneId at inScene ⊢
      cases home : f.scope.sceneId? with
      | none => simp only [sameScene home]
      | some other => simpa [home] using inScene
    simp only [actorRef, inScene, Except.map, Except.ok.injEq, Prod.mk.injEq, true_and] at named
    simp only [actorRef, same, Except.map, named]

/-- Whether the verb of an open dialog is parked on the action that shows it: that of this dialog
and of its actor, as it is meant where the verb is parked. -/
def OpenDialog.ShownIn (opened : OpenDialog) (w : World) : Prop :=
  ∃ actor owner, w.leaf? opened.handle = some (.showDialog actor opened.dialog, owner) ∧
    owner.Means actor opened.scene opened.actor

/-- Whether the action on which something is parked, if it shows a dialog, shows an open one. -/
def OpenDialog.Fits (opened : OpenDialog) (leaf : Leaf) : Prop :=
  ∀ actor dialog owner, leaf = some (.showDialog actor dialog, owner) →
    dialog = opened.dialog ∧ owner.Means actor opened.scene opened.actor

/-- What is parked on nothing shows nothing else. -/
theorem OpenDialog.fits_none (opened : OpenDialog) : opened.Fits none := nofun

/-- A verb that has just been parked in the dialog that it has opened shows it. -/
theorem Stage.Shows.fits (shows : s.Shows h leaf) (isOpen : s.world.openDialog = some opened) :
    opened.Fits leaf := by
  intro actor dialog owner parked
  obtain ⟨scene, id, isThis, named⟩ := shows actor dialog owner parked
  obtain rfl : opened = ⟨h, scene, id, dialog⟩ := Option.some.inj (isOpen.symm.trans isThis)
  exact ⟨rfl, Frame.means_of_actorRef named⟩

/-! ## Along courses -/

/-- Whether the verb of the open dialog, if it is parked on an action that shows a dialog, shows the
open one.  Verbs that are driven are not parked. -/
structure Stage.Matched (s : Stage) : Prop where
  unparked : ∀ h ∈ s.executing, s.Only h fun script => script.leaf? h.owner = none
  fits : ∀ opened, s.world.openDialog = some opened →
    s.Only opened.handle fun script => opened.Fits (script.leaf? opened.handle.owner)

/-- A verb that is driven comes back parked in the dialog that is open then, or as it was, with
nothing done. -/
theorem Driving.shows_or_unchanged {driving : Driving} {depth : Nat}
    {script script' : Script Action} {state : RunState} {f f' : Frame}
    (steady : f.cancelRequested = false)
    (driven : driving.drive (Action.perform depth) script f = .ok (script', state, f')) :
    f'.stage.Shows f.handle (script'.leaf? f.scope) ∨ script' = script ∧ f' = f := by
  by_cases minds : driving.Minds script
  · obtain ⟨_, leaves, _⟩ :=
      Driving.drive_runs (.inr (Action.perform_runs depth)) minds steady driven
    exact .inl leaves.1.shows
  · rw [Driving.drive_of_not_minds _ minds steady] at driven
    cases driven
    exact .inr ⟨rfl, rfl⟩

namespace Stage.Matched

/-- When no verb is driven and no dialog is open there is nothing to match. -/
theorem ofClosed (idle : s.executing = []) (closed : s.world.openDialog = none) : s.Matched where
  unparked := by simp [idle]
  fits := by simp [closed]

theorem apply (matched : s.Matched) (allowed : deed.Allowed driver s) :
    (deed.apply s).Matched where
  unparked h driven := by
    rw [allowed.executing_eq] at driven
    exact (matched.unparked h driven).apply (fun written => written.leaf?_reset h.owner) allowed
  fits opened isOpen := by
    cases moves : deed.movesDialog with
    | false =>
      rw [Deed.openDialog_apply moves] at isOpen
      refine (matched.fits opened isOpen).apply (fun written => ?_) allowed
      rw [written.leaf?_reset]
      exact opened.fits_none
    | true =>
      cases deed with
      | openDialog other => cases allowed
      | closeDialog => cases isOpen
      | choose scene actor dialog index => cases isOpen
      | _ => cases moves

theorem lend (matched : s.Matched) (h : Handle) : (s.lend h).Matched where
  unparked k driven := by
    by_cases same : k = h
    · subst same
      exact .lend_self s k
    · have before : k ∈ s.executing := (List.mem_cons.mp driven).resolve_left same
      exact (matched.unparked k before).lend h
  fits opened isOpen := by
    rw [Stage.openDialog_lend] at isOpen
    exact (matched.fits opened isOpen).lend h

/-- A verb that comes back parked in the open dialog shows it. -/
theorem closing {script : Script Action} {others : List Handle} (matched : s.Matched)
    (driven : s.executing = h :: others) (once : h ∉ others)
    (shows : s.Shows h (script.leaf? h.owner)) :
    ((s.closing h script).apply s).Matched where
  unparked k still := by
    rw [Stage.executing_closing, driven, List.tail_cons] at still
    have other : k ≠ h := fun same => once (same ▸ still)
    have before : k ∈ s.executing := driven ▸ List.mem_cons_of_mem h still
    exact (matched.unparked k before).closing fun same => absurd same other
  fits opened isOpen := by
    rw [Stage.openDialog_closing] at isOpen
    refine (matched.fits opened isOpen).closing ?_
    rintro rfl
    exact shows.fits isOpen

end Stage.Matched

/-- The open dialog stays the one in which its verb is parked, whatever is done. -/
theorem Stage.Course.matched (course : Course driver s deeds s' leaf)
    (own : ∀ h, driver = some h → h ∈ s.executing) (matched : s.Matched) : s'.Matched := by
  induction course with
  | ended => exact matched
  | parked => exact matched
  | @shown h s scene id actor dialog owner text event free =>
    -- The verb that opens the dialog is driven, and so not parked yet.
    refine ⟨fun k driven => (matched.unparked k driven).congr rfl, ?_⟩
    rintro _ ⟨⟩ script found
    have unparked := matched.unparked h (own h rfl) script found
    simp only [unparked]
    exact OpenDialog.fits_none _
  | deed allowed _ ih =>
    refine ih ?_ (matched.apply allowed)
    rwa [allowed.executing_eq]
  | @drive driver s g script driving depth script' state f' inner more s' leaf idle found driven
      course closes rest ihInner ih =>
    have lent : f'.stage.executing = g :: s.executing := course.executing_eq
    refine ih ?_ ?_
    · rwa [Stage.executing_closing, lent]
    · rcases Driving.shows_or_unchanged rfl driven with shows | ⟨rfl, rfl⟩
      · have inside : f'.stage.Matched :=
          ihInner (fun h same => by cases same; exact List.mem_cons_self ..) (matched.lend g)
        exact inside.closing lent idle shows
      · have back : (((s.lend g).closing g script').apply (s.lend g)) = s :=
          Stage.closing_lend found
        exact (congrArg Stage.Matched back).mpr matched

/-! ## Worlds that have been played -/

/-- The worlds of a game between two moves.  The game began with the world of a definition, and may
have been saved and taken up again any number of times. -/
inductive World.Played : World → Prop
  | built {d : Definition} {w : World} (settings : Settings) (moves : List (Move × Nat))
      (built : d.build = .ok w) : Played ((Stage.ofWorld w settings).play moves).world
  | loaded {path text : String} {w : World} {s : Stage} (settings : Settings)
      (moves : List (Move × Nat)) (played : Played w) (parsed : World.parse? text = some w)
      (taken : loadText path text = .ok s) : Played (Stage.play { s with settings } moves).world

/-- Loading a text whose world has no verb between two actions tells what is wrong with that world,
or takes it up as it is. -/
theorem loadText_of_settled {path text : String} (parsed : World.parse? text = some w)
    (settled : ∀ h script, w.script? h = some script → ¬ script.IsBetween) :
    loadText path text =
      w.verbError?.elim (.ok (Stage.ofWorld w)) fun reason => .error (.restoring path reason) := by
  unfold loadText
  rw [parsed]
  cases right : w.verbError? with
  | none =>
    exact congrArg (Except.mapError (LoadError.restoring path))
      (Stage.restore_eq (s := Stage.ofWorld w) right settled _)
  | some reason =>
    simp only [Stage.restore, Stage.ofWorld, right]
    rfl

namespace World

/-- Every verb of a world between two moves is sound and at rest, and the open dialog is the one in
which its verb is parked, if that is parked in one at all. -/
theorem Played.rest (played : w.Played) :
    ((Stage.ofWorld w).SoundBut fun _ => False) ∧ (Stage.ofWorld w).Matched := by
  have goesOn : ∀ {s : Stage} (moves : List (Move × Nat)), s.executing = [] →
      (s.SoundBut fun _ => False) → s.Matched →
        ((Stage.ofWorld (s.play moves).world).SoundBut fun _ => False) ∧
          (Stage.ofWorld (s.play moves).world).Matched := by
    intro s moves idle sound matched
    obtain ⟨_, course⟩ := s.play_course moves
    have after := course.matched nofun matched
    exact ⟨course.soundBut sound, ⟨nofun, after.fits⟩⟩
  induction played with
  | built settings moves built =>
    exact goesOn moves rfl ((Definition.build_fresh built).soundBut settings)
      (.ofClosed rfl (Definition.openDialog_build built))
  | @loaded path text w s settings moves played parsed taken ih =>
    have settled : ∀ h script, w.script? h = some script → ¬ script.IsBetween :=
      fun h script found => (ih.1 h script found).2
    rw [loadText_of_settled parsed settled] at taken
    cases right : w.verbError? with
    | some reason =>
      rw [right] at taken
      cases taken
    | none =>
      rw [right] at taken
      cases taken
      exact goesOn moves rfl ih.1 ⟨nofun, ih.2.fits⟩

/-- What is wrong with the verbs of a world is that one of them is corrupt. -/
theorem exists_of_verbError? {reason : VerbError} (wrong : w.verbError? = some reason) :
    ∃ verb fault, reason = .corrupt verb fault := by
  rcases Option.or_eq_some_iff.mp wrong with inVerb | ⟨_, inDialog⟩
  · obtain ⟨h, _, isWrong⟩ := List.exists_of_findSome?_eq_some inVerb
    obtain ⟨script, _, corrupt⟩ := Option.bind_eq_some_iff.mp isWrong
    obtain ⟨fault, _, rfl⟩ := Option.map_eq_some_iff.mp corrupt
    exact ⟨_, fault, rfl⟩
  · obtain ⟨opened, _, notAwaited⟩ := Option.bind_eq_some_iff.mp inDialog
    split at notAwaited
    · cases notAwaited
    · cases notAwaited
      exact ⟨_, _, rfl⟩

/-- In a world with whose verbs nothing is wrong the verb of the open dialog waits for a choice. -/
theorem awaitsChoice_of_verbError? (isOpen : w.openDialog = some opened)
    (right : w.verbError? = none) : awaitsChoice (w.leaf? opened.handle) = true := by
  have inDialog := (Option.or_eq_none_iff.mp right).2
  rw [isOpen, Option.bind_some] at inDialog
  split at inDialog
  · next parked => rw [parked]; rfl
  · cases inDialog

/-- In a world between two moves the verb of the open dialog waits for a choice exactly if the dialog
is the one that it shows, and then nothing is wrong with the verbs. -/
theorem Played.verbError?_eq_none_iff (played : w.Played) (isOpen : w.openDialog = some opened) :
    w.verbError? = none ↔ opened.ShownIn w := by
  obtain ⟨sound, matched⟩ := played.rest
  refine (sound.verbError?_eq_none_iff (s := Stage.ofWorld w) isOpen).trans ⟨?_, ?_⟩
  · rintro ⟨script, found, awaits⟩
    have fits := matched.fits opened isOpen script found
    unfold awaitsChoice at awaits
    split at awaits
    · next actor dialog owner parked =>
      obtain ⟨rfl, means⟩ := fits actor dialog owner parked
      exact ⟨actor, owner, Option.bind_eq_some_iff.mpr ⟨script, found, parked⟩, means⟩
    · cases awaits
  · rintro ⟨actor, owner, parked, _⟩
    obtain ⟨script, found, isLeaf⟩ := Option.bind_eq_some_iff.mp parked
    exact ⟨script, found, by rw [isLeaf]; rfl⟩

/-- A text whose world has no verb between two actions is taken up as that world, or refused because
a verb is corrupt.  It is taken up only if the verb of the open dialog waits for a choice; and if the
world is that of a game between two moves, exactly if the open dialog is the one that the verb
shows. -/
theorem loadText_shown (path : String) {text : String} (parsed : World.parse? text = some w)
    (settled : ∀ h script, w.script? h = some script → ¬ script.IsBetween)
    (isOpen : w.openDialog = some opened) :
    (loadText path text = .ok (Stage.ofWorld w) ∨
      ∃ verb fault, loadText path text = .error (.restoring path (.corrupt verb fault))) ∧
    (loadText path text = .ok (Stage.ofWorld w) → awaitsChoice (w.leaf? opened.handle) = true) ∧
    (w.Played → (loadText path text = .ok (Stage.ofWorld w) ↔ opened.ShownIn w)) := by
  have loaded : loadText path text = .ok (Stage.ofWorld w) ↔ w.verbError? = none := by
    rw [loadText_of_settled parsed settled]
    cases w.verbError? <;> simp
  refine ⟨?_, ?_, ?_⟩
  · cases right : w.verbError? with
    | none => exact .inl (loaded.mpr right)
    | some reason =>
      obtain ⟨verb, fault, rfl⟩ := exists_of_verbError? right
      exact .inr ⟨verb, fault, by rw [loadText_of_settled parsed settled, right]; rfl⟩
  · exact fun taken => awaitsChoice_of_verbError? isOpen (loaded.mp taken)
  · exact fun played => loaded.trans (played.verbError?_eq_none_iff isOpen)

/-- A game that is saved while the clerk's offer is open is loaded with that offer open. -/
theorem hall_shown :
    let talking := ((Stage.ofWorld .hall).play [(.interact "clerk" "talk" none, 2)]).world
    let offer : OpenDialog := ⟨⟨.actor "hall" "clerk", "talk", none, none⟩, "hall", "clerk", "offer"⟩
    talking.Played ∧ talking.openDialog = some offer ∧ offer.ShownIn talking ∧
      loadText "offered" talking.toTree.render = .ok (Stage.ofWorld talking) := by
  intro talking offer
  have played : talking.Played := .built .standard _ World.hall_built
  have isOpen : talking.openDialog = some offer := by decide +kernel
  have parsed : World.parse? talking.toTree.render = some talking :=
    World.parse?_render (by decide +kernel) (by decide +kernel)
  obtain ⟨_, _, exactly⟩ := loadText_shown "offered" parsed
    (fun h script found => (played.rest.1 h script found).2) isOpen
  have right : talking.verbError? = none := by decide +kernel
  have shown : offer.ShownIn talking := (played.verbError?_eq_none_iff isOpen).mp right
  exact ⟨played, isOpen, shown, (exactly played).mpr shown⟩

end World

end Stagecraft
