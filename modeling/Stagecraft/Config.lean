import Stagecraft.Play.Stage
import Stagecraft.Storage.Basic
import Stagecraft.Toml.Document

/-!
# Configuration

Every setting has a standard value, so a file only has to name what is to be different.  A file that
is missing or cannot be read leaves everything at its standard value, and so does a number that is
out of range for its setting alone.
-/

namespace Stagecraft

/-- The settings of the console. -/
structure ConsoleSettings where
  /-- The seconds of game time in a frame. -/
  frameStep : Single
  /-- The most frames that one command advances. -/
  maxWaitFrames : Nat
deriving Inhabited

/-- The settings of the program. -/
structure Config where
  /-- The file with the definition of the world, in the data folder. -/
  worldFile : String
  /-- The folder that holds the folders of saved games. -/
  saveRoot : String
  console : ConsoleSettings
  runtime : Settings
deriving Inhabited

/-- The standard settings of the console. -/
def ConsoleSettings.standard : ConsoleSettings := ⟨⟨0x3dcccccd⟩, 10000⟩

namespace Config

/-- The standard settings. -/
def standard : Config := ⟨"world.ron", "saved_games", .standard, .standard⟩

/-- The name of the settings file. -/
def fileName : String := "tableau.toml"

/-! ## Reading -/

open Toml (Value)

/-- A setting that is a text. -/
def readText : Value → Option String
  | .text s => some s
  | _ => none

/-- A setting that is a number; a whole number will do. -/
def readNumber : Value → Option Single
  | .float x => some x.toSingle
  | .integer n => some (.ofInt n)
  | _ => none

/-- The counts that a setting can hold are below this one. -/
def countBound : Nat := 0x100000000

/-- A setting that is a count. -/
def readCount : Value → Option Nat
  | .integer n => if 0 ≤ n ∧ n < countBound then some n.toNat else none
  | _ => none

/-- A setting that has a standard value if it is not given. -/
def readOr {α : Type} (read : Value → Option α) (standard : α) : Option Value → Option α
  | none => some standard
  | some v => read v

/-- The settings of a section, in the order of the given names.  A section is a table or an array of
its settings in order; a date sets nothing. -/
def readSection (names : List String) : Value → Option (List (Option Value))
  | .table entries => some (names.map fun name => entries.lookup name)
  | .array items => some ((List.range names.length).map fun i => items[i]?)
  | .moment => some (names.map fun _ => none)
  | _ => none

/-- The section for the console. -/
def readConsole (v : Value) : Option ConsoleSettings := do
  let standard := ConsoleSettings.standard
  match ← readSection ["frame_step", "max_wait_frames"] v with
  | [frameStep, maxWaitFrames] =>
    return ⟨← readOr readNumber standard.frameStep frameStep,
      ← readOr readCount standard.maxWaitFrames maxWaitFrames⟩
  | _ => none

/-- The section for time and movement. -/
def readRuntime (v : Value) : Option Settings := do
  let standard := Settings.standard
  match ← readSection ["walk_speed", "speech_base_seconds", "speech_seconds_per_char"] v with
  | [walkSpeed, base, perChar] =>
    return ⟨← readOr readNumber standard.walkSpeed walkSpeed,
      ← readOr readNumber standard.speechBaseSeconds base,
      ← readOr readNumber standard.speechSecondsPerChar perChar⟩
  | _ => none

/-- The settings in the entries of a settings file.  Unknown names are ignored. -/
def ofEntries? (entries : List (String × Value)) : Option Config := do
  return ⟨← readOr readText standard.worldFile (entries.lookup "world_file"),
    ← readOr readText standard.saveRoot (entries.lookup "save_dir"),
    ← readOr readConsole standard.console (entries.lookup "console"),
    ← readOr readRuntime standard.runtime (entries.lookup "runtime")⟩

/-- The settings of a file, before their ranges are checked. -/
def parse? (text : String) : Option Config := (Toml.parse? text).bind ofEntries?

/-! ## Ranges -/

/-- A number that was out of range, and the one that is used for it. -/
structure Correction where
  key : String
  value : Single
  standard : Single
deriving Inhabited

/-- The wording of a correction. -/
def Correction.message (c : Correction) : String :=
  s!"config value {c.key} = {showSingle c.value} is out of range; using {showSingle c.standard}"

/-- Whether a number can be a speed or a step. -/
def isPositive (x : Single) : Bool := x.isFinite && 0 < x

/-- Whether a number can be a time. -/
def isNotNegative (x : Single) : Bool := x.isFinite && 0 ≤ x

/-- A number or its standard value, with a correction if it is out of range. -/
def correct (key : String) (value standard : Single) (isValid : Single → Bool) :
    Single × List Correction :=
  if isValid value then (value, []) else (standard, [⟨key, value, standard⟩])

/-- The settings with every number in its range. -/
def corrected (c : Config) : Config × List Correction :=
  let runtime := standard.runtime
  let (walkSpeed, a) :=
    correct "runtime.walk_speed" c.runtime.walkSpeed runtime.walkSpeed isPositive
  let (base, b) :=
    correct "runtime.speech_base_seconds" c.runtime.speechBaseSeconds runtime.speechBaseSeconds
      isNotNegative
  let (perChar, d) :=
    correct "runtime.speech_seconds_per_char" c.runtime.speechSecondsPerChar
      runtime.speechSecondsPerChar isNotNegative
  let (frameStep, e) :=
    correct "console.frame_step" c.console.frameStep standard.console.frameStep isPositive
  ({ c with
      runtime := ⟨walkSpeed, base, perChar⟩
      console := { c.console with frameStep } }, a ++ b ++ d ++ e)

/-! ## Loading -/

/-- How a settings file was taken. -/
inductive Outcome where
  | missing
  | failed
  | loaded (corrections : List Correction)
deriving Inhabited

variable {m : Type → Type} [Monad m] [Storage m]

/-- Load the settings of a file. -/
def load (path : String) : m (Config × Outcome) := do
  match ← Storage.kind? path with
  | none => return (standard, .missing)
  | some _ =>
    match ← Storage.readText path with
    | .error _ => return (standard, .failed)
    | .ok text =>
      match parse? text with
      | none => return (standard, .failed)
      | some c =>
        let (c, corrections) := c.corrected
        return (c, .loaded corrections)

end Config

end Stagecraft
