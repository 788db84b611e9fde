import Stagecraft.Verb.Table

/-!
# Actors

Actors are the characters, props and places of a scene.  An actor has a region for pointing at it
and for noticing the player, a table of verbs, and the dialogs and sounds its verbs use.
-/

namespace Stagecraft

/-- A line the player can choose in a dialog. -/
structure DialogOption where
  text : String
  verb : Option String
  once : Bool
  chosen : Bool
deriving DecidableEq, Inhabited

/-- Whether the option is offered: one for a single use is gone after it has been chosen. -/
def DialogOption.isVisible (o : DialogOption) : Bool := !(o.once && o.chosen)

/-- A conversation with an actor. -/
structure Dialog where
  id : String
  options : List DialogOption
deriving DecidableEq, Inhabited

namespace Dialog

/-- The options that are offered, in order. -/
def visibleOptions (d : Dialog) : List DialogOption := d.options.filter (·.isVisible)

/-- Mark the option at an index among the visible ones as chosen, and give it back. -/
def chooseAmong : Nat → List DialogOption → Option (DialogOption × List DialogOption)
  | _, [] => none
  | index, option :: rest =>
    if option.isVisible then
      match index with
      | 0 =>
        let chosen := { option with chosen := true }
        some (chosen, chosen :: rest)
      | below + 1 => (chooseAmong below rest).map fun (chosen, more) => (chosen, option :: more)
    else (chooseAmong index rest).map fun (chosen, more) => (chosen, option :: more)

/-- Choose an option by its index among the visible ones, counted from zero. -/
def choose? (d : Dialog) (index : Nat) : Option (DialogOption × Dialog) :=
  (chooseAmong index d.options).map fun (chosen, options) => (chosen, { d with options })

/-- Choose an option of the first dialog with the given id. -/
def chooseIn (id : String) (index : Nat) : List Dialog → Option (DialogOption × List Dialog)
  | [] => none
  | dialog :: rest =>
    if dialog.id = id then
      (dialog.choose? index).map fun (chosen, dialog) => (chosen, dialog :: rest)
    else (chooseIn id index rest).map fun (chosen, rest) => (chosen, dialog :: rest)

end Dialog

/-- A sound an actor can make. -/
structure Sound where
  id : String
  file : String
  looping : Bool
  volume : Single
deriving Inhabited

/-- How the player has moved with respect to a region. -/
inductive Crossing where
  | enter
  | exit
deriving DecidableEq, Inhabited

namespace Crossing

/-- The id of the verb that a crossing runs. -/
def verbId : Crossing → String
  | enter => "enter"
  | exit => "exit"

/-- The name of a crossing in messages. -/
def name : Crossing → String
  | enter => "Enter"
  | exit => "Exit"

end Crossing

/-- A character, prop or place of a scene. -/
structure Actor where
  id : String
  desc : String
  scene : Option String
  state : Option String
  verbs : VerbTable
  region : Polygon
  layer : String
  zIndex : Single
  visible : Bool
  interaction : Bool
  properties : Table String String
  dialogs : List Dialog
  sounds : List Sound
  playingSound : Option String
  animation : Option String
  playerInside : Bool
deriving Inhabited

namespace Actor

/-- Where the actor is. -/
def position (a : Actor) : Point := a.region.position

/-- The actor at another place. -/
def moveTo (a : Actor) (place : Point) : Actor :=
  { a with region := { a.region with position := place } }

/-- Whether the actor is shown and answers to the player. -/
def isInteractive (a : Actor) : Bool := a.visible && a.interaction

/-- The dialog with the given id; the first of several counts. -/
def dialog? (a : Actor) (id : String) : Option Dialog := a.dialogs.find? (·.id == id)

/-- The sound with the given id; the first of several counts. -/
def sound? (a : Actor) (id : String) : Option Sound := a.sounds.find? (·.id == id)

/-- Choose an option of a dialog by its index among the visible ones, counted from zero. -/
def chooseOption? (a : Actor) (dialog : String) (index : Nat) : Option (DialogOption × Actor) :=
  (Dialog.chooseIn dialog index a.dialogs).map fun (chosen, dialogs) => (chosen, { a with dialogs })

/-- Compare the player's place with the region.  The first time the player is found on the other
side the crossing is noted and told; an invisible actor notices nothing. -/
def notice (a : Actor) (player : Point) : Option (Crossing × Actor) :=
  if a.visible then
    match a.playerInside, a.region.contains player with
    | false, true => some (.enter, { a with playerInside := true })
    | true, false => some (.exit, { a with playerInside := false })
    | _, _ => none
  else none

end Actor

end Stagecraft
