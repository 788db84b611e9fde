import Stagecraft.Play.Fault
import Stagecraft.World.Basic

/-!
# The stage

A stage is a world that is being played: the world, the settings for time and movement, the events
that a front end has not yet taken, the verbs that are running at this moment, and the journal of
what has been done.
-/

namespace Stagecraft

/-- The settings for time and movement. -/
structure Settings where
  walkSpeed : Single
  speechBaseSeconds : Single
  speechSecondsPerChar : Single
deriving Inhabited

namespace Settings

/-- The settings that hold if nothing else is said. -/
def standard : Settings := ⟨120, 1, ⟨0x3d75c28f⟩⟩

/-- How long a line of speech is shown. -/
def speechSeconds (s : Settings) (text : String) : Single :=
  s.speechBaseSeconds + .ofNat text.length * s.speechSecondsPerChar

end Settings

/-- What the runtime asks of its front end. -/
inductive Event where
  | sceneChanged (scene : String)
  | speech (actor text : String)
  | sound (actor sound file : String) (looping : Bool) (volume : Single)
  | animation (actor animation : String)
  | walk (actor : String) (goal : Point)
  | dialogOpened (actor dialog : String) (options : List String)
  | dialogClosed (actor dialog : String)
deriving Inhabited

/-- How much a note in the journal matters. -/
inductive Level where
  | error
  | warning
  | info
deriving DecidableEq, Inhabited

/-- One line of the journal. -/
structure Note where
  level : Level
  text : String
deriving DecidableEq, Inhabited

/-- A world that is being played. -/
structure Stage where
  world : World
  settings : Settings
  outbox : List Event
  executing : List Handle
  journal : List Note
deriving Inhabited

namespace Stage

/-- The stage on which a world is played from here on. -/
def ofWorld (world : World) (settings : Settings := .standard) : Stage :=
  ⟨world, settings, [], [], []⟩

/-- Add a line to the journal. -/
def note (s : Stage) (level : Level) (text : String) : Stage :=
  { s with journal := s.journal ++ [⟨level, text⟩] }

/-- Add a line to the journal about what is done. -/
def info (s : Stage) (text : String) : Stage := s.note .info text

/-- Add a line to the journal about something unexpected. -/
def warn (s : Stage) (text : String) : Stage := s.note .warning text

/-- Add a line to the journal about a failure. -/
def error (s : Stage) (text : String) : Stage := s.note .error text

/-- Tell the front end about something. -/
def emit (s : Stage) (event : Event) : Stage := { s with outbox := s.outbox ++ [event] }

/-- Change the world on the stage. -/
def mapWorld (s : Stage) (change : World → World) : Stage := { s with world := change s.world }

/-- Take the events that the front end has not yet seen. -/
def drain (s : Stage) : List Event × Stage := (s.outbox, { s with outbox := [] })

/-- Find the verb that `id` names on an owner in its present state.  Verbs of the owner that are
running count as present, so a busy verb is never replaced by a less specific one. -/
def resolve? (s : Stage) (owner : Owner) (id : String) (target : Option String) :
    Option Handle :=
  match s.world.state? owner, s.world.verbs? owner with
  | some state, some verbs =>
    let lent := (s.executing.filter (·.owner = owner)).map (·.key)
    (verbs.resolve? id state target lent).map (⟨owner, ·⟩)
  | _, _ => none

/-- Hand a verb's script to `body` while the verb is out of its table, and put the script that
comes back into the table.  The verb is dropped if its owner is gone, and a new definition that its
key has got in the meantime stays.  Nothing is done for a verb that is not in its table, which is
also so while it is running. -/
def withVerb {α : Type} (s : Stage) (handle : Handle)
    (body : Script Action → Stage → Script Action × α × Stage) : Option α × Stage :=
  if handle ∈ s.executing then
    (none, s.warn s!"verb {handle.text} is already executing")
  else
    match s.world.script? handle with
    | none => (none, s)
    | some script =>
      let lent :=
        { s with
          world := s.world.modifyVerbs handle.owner (·.erase handle.key)
          executing := handle :: s.executing }
      let (script, answer, after) := body script lent
      let after := { after with executing := s.executing }
      match after.world.verbs? handle.owner with
      | some _ =>
        (some answer,
          after.mapWorld (·.modifyVerbs handle.owner (·.restore handle.key script)))
      | none => (some answer, after.warn s!"owner of verb {handle.text} is gone; verb dropped")

/-- A depth of running that no verb exceeds as long as verbs do not run each other in a circle:
each handle runs at most once at a time, runs a chain of different verbs inside it, and each of
these goes down through conditions no deeper than there are actions. -/
def depthBound (s : Stage) : Nat :=
  (s.world.ownerCount * s.world.weight + 1) * (s.world.weight + 1) * (s.world.weight + 1)

end Stage

end Stagecraft
