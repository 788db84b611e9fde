import Stagecraft.Console.Turn
import Stagecraft.Proofs.Inspection
import Stagecraft.Proofs.Session

/-!
# Turns of the console

The console is a front end: a turn makes moves, walks the player's actor or takes up a saved game,
and ends by taking the events that have been told and printing them.  So from prompt to prompt it
stays in a session, and has printed what it has been told.
-/

namespace Stagecraft.Console

open Stage

variable {c : Console} {told : List Event} {s s' : Stage} {lines : List String}

/-! ## Walking and waiting -/

theorem session_walkFrames (step frame : Single) (scene : Option String) (goal : Point)
    (frames : Nat) (session : Session told s) :
    Session told (walkFrames step frame scene goal frames s) := by
  induction frames generalizing s with
  | zero => exact session
  | succ frames ih =>
    unfold walkFrames
    split
    · split
      · exact session
      · next player present =>
        split
        · exact session
        · exact ih ((session.walks present _).moves (.update frame) _)
    · exact session

theorem session_passFrames (frame : Single) (frames : Nat) (left : Single)
    (session : Session told s) : Session told (passFrames frame frames left s) := by
  induction frames generalizing s left with
  | zero => exact session
  | succ frames ih =>
    unfold passFrames
    split
    · exact ih _ (session.moves (.update _) _)
    · exact session

/-! ## Replies -/

theorem session_walk (goal : Point) (session : Session told s) :
    Session told (c.walk goal s).2 := by
  unfold walk
  split
  · exact session
  · exact session_walkFrames _ _ _ _ _ session

theorem session_perform (verb actor : String) (target : Option String)
    (session : Session told s) : Session told (c.perform verb actor target s).2 :=
  session.moves (.interact actor verb target) s.depthBound

theorem session_click (place : Point) (verb : String) (session : Session told s) :
    Session told (c.click place verb s).2 := by
  unfold click
  split
  · exact session
  · next actor _ => exact session_perform (c := c) verb actor.id none session

theorem session_choose (index : Nat) (session : Session told s) :
    Session told (c.choose index s).2 := by
  have moved := session.moves (.chooseOption index) s.depthBound
  unfold choose
  simp only [move] at moved
  split
  all_goals
    next chosen =>
    rw [chosen] at moved
    exact moved

theorem session_cancel (index : Nat) (session : Session told s) :
    Session told (c.cancel index s).2 := by
  unfold cancel
  split
  · exact session
  · next h _ => exact session.moves (.cancelVerb h) s.depthBound

theorem session_goTo (scene : String) (session : Session told s) :
    Session told (c.goTo scene s).2 := by
  have moved := session.moves (.enterScene scene) s.depthBound
  unfold goTo
  simp only [move] at moved
  split
  all_goals
    next entered =>
    rw [entered] at moved
    exact moved

/-! ## Turns -/

/-- Whether the lines of a turn end with the events printed that have been told in it, in a session
that goes on at the next prompt. -/
def EndsIn (c : Console) (told : List Event) (lines : List String) (s' : Stage) : Prop :=
  s'.outbox = [] ∧ ∃ said events, lines = said ++ events.map (Report.event c.colours) ∧
    Session (told ++ events) s'

theorem endsIn_finish {reply : Reply} (session : Session told reply.2)
    (ended : c.finish reply = ⟨lines, .prompt s'⟩) : c.EndsIn told lines s' := by
  cases ended
  exact ⟨rfl, reply.1, reply.2.outbox, rfl, session.takes⟩

variable {disk disk' : Disk} {command : Command}

/-- A command that does not load a saved game goes on with the session. -/
theorem endsIn_turn (session : Session told s)
    (turned : c.turn (m := StateM Disk) s command disk = (⟨lines, .prompt s'⟩, disk'))
    (other : ∀ slot, command ≠ .load slot) : c.EndsIn told lines s' := by
  have ended : ∀ (reply : Reply) (after : Disk), Session told reply.2 →
      (c.finish reply, after) = (⟨lines, .prompt s'⟩, disk') → c.EndsIn told lines s' :=
    fun reply after goesOn same => endsIn_finish goesOn (congrArg Prod.fst same)
  cases command with
  | look | verbs actor | running | help | unknown => exact ended _ disk session turned
  | perform verb actor target =>
    exact ended _ disk (session_perform verb actor target session) turned
  | click place verb => exact ended _ disk (session_click place verb session) turned
  | walk goal => exact ended _ disk (session_walk goal session) turned
  | tick seconds => exact ended _ disk (session.moves (.update _) _) turned
  | pass seconds => exact ended _ disk (session_passFrames _ _ _ session) turned
  | choose index => exact ended _ disk (session_choose index session) turned
  | animationDone actor =>
    exact ended _ disk (session.moves (.animationFinished actor) _) turned
  | cancel index => exact ended _ disk (session_cancel index session) turned
  | goTo scene => exact ended _ disk (session_goTo scene session) turned
  | save slot =>
    simp only [turn, Save.stepped] at turned
    generalize Save.save (m := StateM Disk) s.world (c.saveFolder s) slot disk = saved at turned
    obtain ⟨reason | path, after⟩ := saved
    · cases turned
    · exact ended _ after (session.notes _) turned
  | load slot => exact absurd rfl (other slot)
  | saves =>
    simp only [turn, Save.stepped] at turned
    exact ended (_, s) _ session turned
  | quit => cases turned

/-! ## Loading -/

/-- Looking for a saved game leaves the disk as it is. -/
theorem find?_snd (disk : Disk) (folder slot : String) :
    (Save.find? (m := StateM Disk) folder slot disk).2 = disk := by
  have asked : Storage.kind? (m := StateM Disk) (Save.pathOf folder slot) disk =
      (disk.kind? (Save.pathOf folder slot), disk) := rfl
  have still : (Save.slots (m := StateM Disk) folder disk).2 = disk := by rw [Save.slots_eq]
  unfold Save.find?
  rw [Save.stepped, asked]
  rcases disk.kind? (Save.pathOf folder slot) with _ | _ | _ | _
  · exact still
  · rfl
  · exact still
  · exact still

/-- Loading goes on with the game, or with one that is read from the disk. -/
theorem load_cases (c : Console) (s : Stage) (disk : Disk) (slot : String) :
    (c.load (m := StateM Disk) slot s disk).1.2 = s ∨
      ∃ path text loaded, disk.readText path = .ok text ∧ loadText path text = .ok loaded ∧
        (c.load (m := StateM Disk) slot s disk).1.2 = { loaded with settings := s.settings } := by
  have unchanged := find?_snd disk (c.saveFolder s) slot
  unfold load
  rw [Save.stepped]
  generalize Save.find? (m := StateM Disk) (c.saveFolder s) slot disk = found at unchanged
  obtain ⟨reason | _ | path, after⟩ := found
  · exact .inl rfl
  · exact .inl rfl
  · obtain rfl : after = disk := unchanged
    simp only [Save.stepped]
    have taken := Save.load_fst path after
    generalize Save.load (m := StateM Disk) path after = answer at taken
    obtain ⟨reason | loaded, after'⟩ := answer
    · exact .inl rfl
    · refine .inr ⟨path, ?_⟩
      cases read : after.readText path with
      | error reason =>
        simp only [read] at taken
        cases taken
      | ok text =>
        simp only [read] at taken
        exact ⟨text, loaded, rfl, taken.symm, rfl⟩

/-- Whether the games on a disk can be gone on with: each was saved in a session, when there were no
more events to take, or at least its scenes and actors stand under their own ids. -/
def HoldsGames (disk : Disk) : Prop :=
  ∀ path text w, disk.readText path = .ok text → World.parse? text = some w →
    w.Keyed ∨ ∃ told t, Session told t ∧ t.outbox = [] ∧ t.world = w

/-- A turn in which a game is loaded goes on with a session, which may be another one. -/
theorem endsIn_load {slot : String} (session : Session told s) (games : HoldsGames disk)
    (turned : c.turn (m := StateM Disk) s (.load slot) disk = (⟨lines, .prompt s'⟩, disk')) :
    ∃ before, c.EndsIn before lines s' := by
  obtain ⟨before, goesOn⟩ : ∃ before,
      Session before (c.load (m := StateM Disk) slot s disk).1.2 := by
    rcases load_cases c s disk slot with
      same | ⟨path, text, loaded, read, taken, same⟩
    · rw [same]
      exact ⟨told, session⟩
    · rw [same]
      cases parsed : World.parse? text with
      | none =>
        simp only [loadText, parsed] at taken
        cases taken
      | some w =>
        rcases games path text w read parsed with keyed | ⟨before, t, saved, noMore, rfl⟩
        · exact ⟨[], .begins (.loaded s.settings parsed keyed taken)⟩
        · exact ⟨before, saved.resumes noMore parsed taken s.settings⟩
  simp only [turn, Save.stepped] at turned
  exact ⟨before, endsIn_finish goesOn (congrArg Prod.fst turned)⟩

/-! ## Runs -/

/-- How the console gets from one prompt to another by lines of input; games that are loaded on the
way can be gone on with. -/
inductive Runs (c : Console) : Stage → Disk → List String → Stage → Disk → Prop
  | stays (s : Stage) (disk : Disk) : Runs c s disk [] s disk
  | turns {s t s' : Stage} {disk after disk' : Disk} {line : String} {rest lines : List String}
      (games : ∀ slot, Command.parse line = .load slot → HoldsGames disk)
      (turned : c.turn (m := StateM Disk) { s with journal := [] } (Command.parse line) disk =
        (⟨lines, .prompt t⟩, after))
      (further : Runs c t after rest s' disk') : Runs c s disk (line :: rest) s' disk'

/-- At every prompt of a run the console is in a session, with nothing left to be told. -/
theorem Runs.session {input : List String} (runs : c.Runs s disk input s' disk')
    (session : Session told s) (taken : s.outbox = []) :
    s'.outbox = [] ∧ ∃ before, Session before s' := by
  induction runs generalizing told with
  | stays => exact ⟨taken, told, session⟩
  | @turns s t s' disk after disk' line rest lines games turned further ih =>
    have ready := session.notes []
    generalize Command.parse line = command at games turned
    obtain ⟨before, quiet, said, events, -, goesOn⟩ : ∃ before, c.EndsIn before lines t := by
      by_cases loads : ∃ slot, command = .load slot
      · obtain ⟨slot, rfl⟩ := loads
        exact endsIn_load ready (games slot rfl) turned
      · exact ⟨told, endsIn_turn ready turned fun slot same => loads ⟨slot, same⟩⟩
    exact ih goesOn quiet

end Stagecraft.Console
