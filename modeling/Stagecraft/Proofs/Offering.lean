import Stagecraft.Proofs.Belongings
import Stagecraft.Proofs.Upkeep
import Stagecraft.Proofs.Waiting

/-!
# What an open dialog offers

A dialog is opened only if it has an option to choose, and options are used up only by choices,
which close it.  So an open dialog offers an option as long as the actor whose dialog it is is
there.
-/

namespace Stagecraft

/-- Whether an actor has an option to choose in a dialog depends on its dialogs alone. -/
theorem Actor.isSome_chooseOption?_congr {a b : Actor} (same : a.dialogs = b.dialogs) (id : String)
    (index : Nat) : (a.chooseOption? id index).isSome = (b.chooseOption? id index).isSome := by
  unfold Actor.chooseOption?
  rw [same, Option.isSome_map, Option.isSome_map]

/-- Whether the open dialog has an option to choose, if its actor is there. -/
def World.Offers (w : World) : Prop :=
  ∀ opened, w.openDialog = some opened → ∀ actor,
    w.actor? opened.scene opened.actor = some actor →
      (actor.chooseOption? opened.dialog 0).isSome

/-- An open dialog goes on offering what it offers while the dialogs of actors are kept. -/
theorem World.Offers.of_keepsOf {w w' : World} (offers : w.Offers)
    (same : w'.openDialog = w.openDialog) (keeps : w.KeepsOf Actor.dialogs w') : w'.Offers := by
  intro opened isOpen actor' found
  rcases keeps opened.scene opened.actor actor' found with ⟨actor, isFound, sameDialogs⟩
  rw [Actor.isSome_chooseOption?_congr sameDialogs]
  exact offers opened (same ▸ isOpen) actor isFound

/-- That the open dialog has an option to choose is kept by every change. -/
def Upkeep.offering : Upkeep where
  __ := nothing
  holds := World.Offers
  deed {driver s deed} allowed offers := by
    cases moves : deed.movesDialog with
    | false =>
      have noChoice : deed.isChoice = false := by
        cases deed with
        | choose => cases moves
        | _ => rfl
      exact offers.of_keepsOf (Deed.openDialog_apply moves s) (Deed.keepsOf_dialogs noChoice s)
    | true =>
      cases deed with
      | openDialog => cases allowed
      | closeDialog => rintro opened ⟨⟩
      | choose => rintro opened ⟨⟩
      | _ => cases moves
  verbs owner change offers := by
    apply offers.of_keepsOf
    · cases owner <;> rfl
    · exact .modifyVerbs (fun _ _ => rfl) _ owner change
  shows {w h scene id dialog} choosable _ := by
    rintro opened ⟨⟩ actor found
    have inWorld : w.actor? scene id = some actor := found
    rwa [inWorld] at choosable

end Stagecraft
