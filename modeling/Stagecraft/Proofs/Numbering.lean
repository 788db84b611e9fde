import Stagecraft.Console.Turn
import Stagecraft.Proofs.Answering
import Stagecraft.Proofs.Ending
import Stagecraft.Proofs.Enumeration
import Stagecraft.Proofs.Ordinals
import Stagecraft.Proofs.Session

/-!
# What numbers name

The console shows the parked verbs and the options of a dialog under numbers, and a number that is
typed names what is shown under it: that verb is cancelled and that option is picked.  The list of
the verbs is made anew for every command, so it matters that a verb that is cancelled drops out of
it and nothing else moves.  An open dialog has no list of its own: its options are those that were
shown when it was opened, and a choice goes through the dialog of its actor.  That they agree is
what a session keeps.  If the actor is gone, no number names an option.
-/

namespace Stagecraft

/-! ## Numbered lines -/

namespace Report

/-- In a row of numbered lines each item has the number that it has in the list. -/
theorem getElem?_numbered {α : Type} (line : Nat → α → String) (number : Nat) (items : List α)
    (i : Nat) : (numbered line number items)[i]? = items[i]?.map (line (number + i)) := by
  induction items generalizing number i with
  | nil => rfl
  | cons item rest ih =>
    cases i with
    | zero => rfl
    | succ i =>
      have later : number + 1 + i = number + (i + 1) := by omega
      simp only [numbered, List.getElem?_cons_succ, ih, later]

/-- Counted from one, the item of a number stands one place before it. -/
theorem getElem?_numbered_one {α : Type} (line : Nat → α → String) {items : List α} {n : Nat}
    (positive : 0 < n) : (numbered line 1 items)[n - 1]? = items[n - 1]?.map (line n) := by
  rw [getElem?_numbered, Nat.add_sub_cancel' positive]

/-- A verb is listed under the number that it has among the parked verbs. -/
theorem getElem?_running (colours : Bool) {w : World} {n : Nat} {h : Handle} (positive : 0 < n)
    (listed : w.parkedHandles[n - 1]? = some h) :
    (running colours w)[n - 1]? = some (parkedVerb colours w n h) := by
  have filled : w.parkedHandles.isEmpty = false := by
    rw [List.isEmpty_eq_false_iff_exists_mem]
    exact ⟨h, List.mem_of_getElem? listed⟩
  simp only [running, filled, Bool.false_eq_true, if_false]
  rw [getElem?_numbered_one _ positive, listed, Option.map_some]

/-- Whether an event is shown with an option under a number: as a dialog that is opened, by a
heading and a row of numbered options in which it has that number. -/
def ShowsUnder (colours : Bool) (told : Event) (n : Nat) (text : String) : Prop :=
  ∃ actor dialog options heading, told = .dialogOpened actor dialog options ∧
    event colours told =
      String.join (heading :: numbered (dialogOption colours) 1 options) ∧
    (numbered (dialogOption colours) 1 options)[n - 1]? = some (dialogOption colours n text)

end Report

/-! ## Lists of verbs -/

namespace Table

variable {κ ν : Type} [Ord κ]

/-- Changing values leaves the keys. -/
@[simp] theorem keys_modify (t : Table κ ν) (key : κ) (change : ν → ν) :
    (t.modify key change).keys = t.keys := by
  simp only [keys, modify, List.map_map]
  refine List.map_congr_left fun entry _ => ?_
  simp only [Function.comp]
  split <;> rfl

/-- Giving a key another value leaves the keys. -/
theorem keys_insert [Std.TransOrd κ] [Std.LawfulEqOrd κ] {t : Table κ ν} {key : κ} {old : ν}
    (found : t.get? key = some old) (value : ν) : (t.insert key value).keys = t.keys := by
  obtain ⟨entries, ascending⟩ := t
  have member := (get?_eq_some_iff ⟨entries, ascending⟩ key old).mp found
  clear found
  simp only [keys, insert] at member ⊢
  induction entries with
  | nil => cases member
  | cons head rest ih =>
    obtain ⟨k, v⟩ := head
    obtain ⟨above, tail⟩ := List.pairwise_cons.mp ascending
    unfold place
    rcases List.mem_cons.mp member with same | later
    · cases same
      simp [Std.ReflCmp.compare_self]
    · have below : compare k key = .lt := above _ later
      have greater : compare key k = .gt := Std.OrientedCmp.gt_of_lt below
      simp [greater, ih tail later]

end Table

/-- The verbs of a scene that stands under an id, and then those of its actors. -/
def Scene.handlesUnder (id : String) (s : Scene) : List Handle :=
  World.handlesOf (.scene id) s.verbs ++
    s.actors.values.flatMap fun actor => World.handlesOf (.actor id actor.id) actor.verbs

namespace World

variable {w w' : World} {h : Handle}

theorem sceneHandles_eq (id : String) :
    w.sceneHandles id = ((w.scene? id).map (·.handlesUnder id)).getD [] := by
  unfold sceneHandles
  cases w.scene? id <;> rfl

theorem handles_modifyScene {id : String} {change : Scene → Scene}
    (keeps : ∀ scene, w.scene? id = some scene →
      (change scene).handlesUnder id = scene.handlesUnder id) :
    (w.modifyScene id change).handles = w.handles := by
  have sameScenes : (w.modifyScene id change).sceneHandles = w.sceneHandles := by
    funext other
    rw [sceneHandles_eq, sceneHandles_eq, scene?_modifyScene]
    by_cases same : other = id
    · subst same
      rw [if_pos rfl]
      cases present : w.scene? other with
      | none => rfl
      | some scene => simp [keeps scene present]
    · rw [if_neg same]
  unfold handles
  rw [sameScenes]
  simp only [modifyScene, Table.keys_modify]

/-- The verbs are listed as before if no table gets other keys. -/
theorem handles_modifyVerbs {owner : Owner} {change : VerbTable → VerbTable}
    (keeps : ∀ verbs, w.verbs? owner = some verbs → (change verbs).keys = verbs.keys) :
    (w.modifyVerbs owner change).handles = w.handles := by
  cases owner with
  | world =>
    have sameKeys := keeps w.verbs rfl
    simp only [handles, handlesOf, modifyVerbs, sameKeys]
    rfl
  | scene id =>
    refine handles_modifyScene fun scene present => ?_
    have sameKeys := keeps scene.verbs (by simp [verbs?, present])
    simp only [Scene.handlesUnder, handlesOf, sameKeys]
  | actor home id =>
    refine handles_modifyScene fun scene present => ?_
    simp only [Scene.handlesUnder, Roster.values, Roster.modify, List.map_map, List.flatMap_map]
    refine congrArg _ (List.flatMap_congr fun entry member => ?_)
    simp only [Function.comp]
    split
    · next named =>
      have inRoster := (Roster.get?_eq_some_iff scene.actors entry.1 entry.2).mpr member
      have sameKeys := keeps entry.2.verbs (by
        simp [verbs?, actor?, present, Scene.actor?, named, inRoster])
      simp only [handlesOf, sameKeys]
    · rfl

/-- When a verb is no longer parked it drops out of the list of parked verbs. -/
theorem parkedHandles_of_ended (sameHandles : w'.handles = w.handles)
    (sameScene : w'.currentScene = w.currentScene)
    (others : ∀ other, other ≠ h → w'.script? other = w.script? other)
    (ended : w'.isParked h = false) :
    w'.parkedHandles = w.parkedHandles.filter (· != h) := by
  rw [parkedHandles_eq_filter, parkedHandles_eq_filter, sameHandles, List.filter_filter]
  refine List.filter_congr fun other _ => ?_
  by_cases same : other = h
  · simp [same, ended]
  · have sameVerb : w'.isParked other = w.isParked other := by
      simp only [isParked, others other same]
    have sameTime : w'.GivesTime other ↔ w.GivesTime other := by
      simp only [GivesTime, sameScene]
    simp [same, sameVerb, sameTime]

end World

/-! ## Cancelling -/

namespace Stage

variable {s : Stage} {h : Handle}

/-- Closing a dialog changes nothing else in the world. -/
theorem exists_openDialog_dismiss (s : Stage) (h : Handle) :
    ∃ openDialog, (s.dismiss h).world = { s.world with openDialog } := by
  unfold dismiss
  split
  · split
    · exact ⟨none, rfl⟩
    · exact ⟨s.world.openDialog, rfl⟩
  · exact ⟨s.world.openDialog, rfl⟩

/-- What becomes of a verb that is cancelled and of the others. -/
structure Ends (s s' : Stage) (h : Handle) : Prop where
  /-- The verb is at its end. -/
  ended : ∃ script, s'.world.script? h = some script ∧ script.IsIn .finished
  /-- No other verb is touched. -/
  others : ∀ other, other ≠ h → s'.world.script? other = s.world.script? other
  /-- The verb drops out of the list of parked verbs. -/
  rest : s'.world.parkedHandles = s.world.parkedHandles.filter (· != h)

/-- A verb for which one at its end is put into the table drops out, and nothing else moves. -/
theorem ends_install {script script' : Script Action} (found : s.world.script? h = some script)
    (atEnd : script'.IsIn .finished) : s.Ends ((Deed.install h script').apply s) h := by
  have present := World.isSome_verbs?_of_script? (by simp [found] : (s.world.script? h).isSome)
  have installed : ∀ other, ((Deed.install h script').apply s).world.script? other =
      if other = h then some script' else s.world.script? other :=
    World.script?_insert present script'
  have isThere := (installed h).trans (if_pos rfl)
  have others : ∀ other, other ≠ h →
      ((Deed.install h script').apply s).world.script? other = s.world.script? other :=
    fun other apart => (installed other).trans (if_neg apart)
  -- The key is in the table already, so the list of all verbs stays as it is.
  have sameHandles : ((Deed.install h script').apply s).world.handles = s.world.handles := by
    refine World.handles_modifyVerbs fun verbs isTable => ?_
    obtain ⟨_, again, inTable⟩ := (s.world.script?_eq_some_iff h script).mp found
    obtain rfl := Option.some.inj (isTable.symm.trans again)
    exact Table.keys_insert inTable script'
  have sameScene : ((Deed.install h script').apply s).world.currentScene =
      s.world.currentScene := World.currentScene_modifyVerbs ..
  have noLonger : ((Deed.install h script').apply s).world.isParked h = false := by
    simp [World.isParked, isThere, Script.isParked, Script.parkedAt?, atEnd.2]
  exact {
    ended := ⟨script', isThere, atEnd⟩
    others
    rest := World.parkedHandles_of_ended sameHandles sameScene others noLonger }

/-- A verb that is there is cancelled without a change of any other one. -/
theorem ends_cancelVerb {script : Script Action} (idle : s.executing = [])
    (found : s.world.script? h = some script) :
    (s.cancelVerb h).1 = true ∧ s.Ends (s.cancelVerb h).2 h := by
  have notExecuting : h ∉ s.executing := by simp [idle]
  obtain ⟨script', t, atEnd, _, isEither, cancels⟩ := cancelVerb_of_found notExecuting found
  obtain ⟨openDialog, sameWorld⟩ : ∃ openDialog, t.world = { s.world with openDialog } := by
    rcases isEither with rfl | rfl
    · exact ⟨s.world.openDialog, rfl⟩
    · exact exists_openDialog_dismiss _ h
  have sameScripts : t.world.script? = s.world.script? := by
    rw [sameWorld]
    rfl
  have sameList : t.world.parkedHandles = s.world.parkedHandles := by
    rw [sameWorld]
    rfl
  have ends : t.Ends ((Deed.install h script').apply t) h :=
    ends_install (by rw [sameScripts, found]) atEnd
  rw [cancels]
  exact ⟨rfl, ends.ended, sameScripts ▸ ends.others, sameList ▸ ends.rest⟩

/-- What picking an option of the open dialog comes to, which stands at a position in it: it is
marked as chosen and the dialog is closed, its verb is run, and the verb of the dialog goes on. -/
def answered (s : Stage) (opened : OpenDialog) (actor : Actor) (position : Nat)
    (picked : DialogOption) : Except VerbError RunState × Stage :=
  let option := { picked with chosen := true }
  ((s.chosen opened option (actor.marked opened.dialog position)).afterOption opened option
    s.depthBound).resumeVerb opened.handle s.depthBound

end Stage

/-! ## Dialogs that have been announced -/

/-- What is told when a dialog is opened. -/
def OpenDialog.event (opened : OpenDialog) (dialog : Dialog) : Event :=
  .dialogOpened opened.actor opened.dialog (dialog.visibleOptions.map (·.text))

/-- What has been told last about dialogs. -/
def lastAboutDialog? (told : List Event) : Option Event :=
  (told.filter (·.isAboutDialog)).getLast?

/-- Events that are not about dialogs do not count. -/
theorem lastAboutDialog?_append (before : List Event) {after : List Event}
    (quiet : ∀ event ∈ after, event.isAboutDialog = false) :
    lastAboutDialog? (before ++ after) = lastAboutDialog? before := by
  have nothing : after.filter (·.isAboutDialog) = [] := by
    rw [List.filter_eq_nil_iff]
    simpa using quiet
  rw [lastAboutDialog?, List.filter_append, nothing, List.append_nil, lastAboutDialog?]

theorem lastAboutDialog?_concat (before : List Event) {event : Event}
    (isAbout : event.isAboutDialog = true) : lastAboutDialog? (before ++ [event]) = some event := by
  rw [lastAboutDialog?, List.filter_append, List.filter_cons_of_pos isAbout, List.filter_nil,
    List.getLast?_concat]

/-- If something has been told about dialogs, it is what can be chosen in the open one. -/
theorem World.Announces.lastAboutDialog? {stored : Option OpenDialog} {w : World}
    {told : List Event} {opened : OpenDialog} {a : Actor} {event : Event}
    (announced : w.Announces stored told) (isOpen : w.openDialog = some opened)
    (found : w.actor? opened.scene opened.actor = some a)
    (last : lastAboutDialog? told = some event) :
    ∃ dialog, a.dialog? opened.dialog = some dialog ∧ event = opened.event dialog := by
  rcases announced with isShown | ⟨_, quiet⟩
  · obtain ⟨before, options, after, rfl, quiet, offers⟩ := isShown opened isOpen
    obtain ⟨dialog, isDialog, rfl⟩ := offers a found
    rw [List.append_cons, lastAboutDialog?_append _ quiet, lastAboutDialog?_concat _ rfl] at last
    exact ⟨dialog, isDialog, (Option.some.inj last).symm⟩
  · have nothing := lastAboutDialog?_append [] quiet
    rw [List.nil_append, last] at nothing
    cases nothing

/-! ## Turns -/

namespace Console

variable (m : Type → Type) [Monad m] [Storage m]

/-- Whether a line is refused: an error is printed, and it goes on as before. -/
def Declines (c : Console) (s : Stage) (line : String) : Prop :=
  ∃ reason, c.turn (m := m) s (Command.parse line) =
    pure ⟨[Style.error.paint c.colours reason], .prompt s⟩

/-- A verb that is listed under a number is cancelled by it. -/
structure Cancels (c : Console) (s : Stage) (n : Nat) (h : Handle) : Prop where
  /-- The verb is listed under the number. -/
  listed : (Report.running c.colours s.world)[n - 1]? =
    some (Report.parkedVerb c.colours s.world n h)
  /-- The number means its index. -/
  parsed : Command.parse s!"cancel {n}" = .cancel (n - 1)
  /-- The verb is cancelled. -/
  turned : c.turn (m := m) s (Command.parse s!"cancel {n}") =
    pure (c.finish
      ([s!"Cancelled {Style.verb.paint c.colours h.text}."], (s.cancelVerb h).2))
  /-- It is at its end, and no other one is touched. -/
  ends : s.Ends (s.cancelVerb h).2 h
  /-- The list is the same without it. -/
  rest : (s.cancelVerb h).2.world.parkedHandles = s.world.parkedHandles.eraseIdx (n - 1)

/-- An option that is shown under a number is picked by it. -/
structure Picks (c : Console) (s : Stage) (n : Nat) (opened : OpenDialog) (actor : Actor)
    (dialog : Dialog) (picked : DialogOption) : Prop where
  /-- The option is shown under the number. -/
  shown : Report.ShowsUnder c.colours (opened.event dialog) n picked.text
  /-- The number means its index. -/
  parsed : Command.parse s!"choose {n}" = .choose (n - 1)
  /-- The option is picked, wherever it stands among those that are not visible. -/
  turned : ∃ position said, dialog.options[position]? = some picked ∧
    ((dialog.options.take position).filter (·.isVisible)).length = n - 1 ∧
    c.turn (m := m) s (Command.parse s!"choose {n}") =
      pure (c.finish (said, (s.answered opened actor position picked).2))

/-- What a number comes to while a dialog is open and its actor is there. -/
structure Answers (c : Console) (told : List Event) (s : Stage) (n : Nat) (opened : OpenDialog)
    (actor : Actor) : Prop where
  /-- What has been told last about dialogs, if anything has, is what the dialog shows. -/
  announced : ∀ event, lastAboutDialog? told = some event →
    ∃ dialog, actor.dialog? opened.dialog = some dialog ∧ event = opened.event dialog
  /-- The number of an option picks it. -/
  picks : ∀ dialog picked, actor.dialog? opened.dialog = some dialog →
    dialog.visibleOptions[n - 1]? = some picked → c.Picks m s n opened actor dialog picked
  /-- A number is refused under which no option is shown. -/
  tooFew : (∀ dialog, actor.dialog? opened.dialog = some dialog →
    dialog.visibleOptions.length < n) → c.Declines m s s!"choose {n}"

/-- What a number names. -/
structure Names (c : Console) (told : List Event) (s : Stage) (n : Nat) : Prop where
  /-- The number of a verb in the list cancels it. -/
  cancels : ∀ h, s.world.parkedHandles[n - 1]? = some h → c.Cancels m s n h
  /-- A number is refused under which no verb is listed. -/
  tooFew : s.world.parkedHandles.length < n → c.Declines m s s!"cancel {n}"
  /-- The number of an option answers the open dialog. -/
  answers : ∀ opened actor, s.world.openDialog = some opened →
    s.world.actor? opened.scene opened.actor = some actor → c.Answers m told s n opened actor
  /-- Every number is refused while no dialog is open or the actor of the open one is gone. -/
  gone : (∀ opened, s.world.openDialog = some opened →
    s.world.actor? opened.scene opened.actor = none) → c.Declines m s s!"choose {n}"

variable {m}
variable {c : Console} {told : List Event} {s : Stage} {n : Nat}

/-- A turn that tells nothing ends with what is printed. -/
theorem finish_of_taken (taken : s.outbox = []) (lines : List String) :
    c.finish (lines, s) = ⟨lines, .prompt s⟩ := by
  have same : s.drain = ([], s) := by
    unfold Stage.drain
    rw [taken]
    cases s
    cases taken
    rfl
  simp only [finish, same, List.map_nil, List.append_nil]

/-- A number of a verb in the list cancels it. -/
theorem cancels {h : Handle} (idle : s.executing = []) (filed : s.world.Filed)
    (positive : 0 < n) (small : n < Command.ordinalBound)
    (listed : s.world.parkedHandles[n - 1]? = some h) : c.Cancels m s n h := by
  have parsed := Command.parse_cancel positive small
  have isParked : s.world.isParked h = true :=
    (List.mem_filter.mp (List.mem_of_getElem? listed)).2
  obtain ⟨script, found⟩ : ∃ script, s.world.script? h = some script := by
    cases found : s.world.script? h with
    | none => simp [World.isParked, found] at isParked
    | some script => exact ⟨script, rfl⟩
  obtain ⟨wasFound, ends⟩ := Stage.ends_cancelVerb idle found
  refine ⟨Report.getElem?_running _ positive listed, parsed, ?_, ends, ?_⟩
  · rw [parsed]
    simp only [turn, cancel, listed, wasFound, if_true]
  · -- No verb is listed twice, so leaving out the verb is leaving out its place.
    obtain ⟨inside, rfl⟩ := List.getElem?_eq_some_iff.mp listed
    have once := filed.nodup_parkedHandles
    rw [ends.rest, ← once.erase_getElem _ inside, once.erase_eq_filter]

/-- Without so many verbs in the list a number is refused. -/
theorem declines_cancel (taken : s.outbox = []) (positive : 0 < n)
    (small : n < Command.ordinalBound) (tooFew : s.world.parkedHandles.length < n) :
    c.Declines m s s!"cancel {n}" := by
  have nothing : s.world.parkedHandles[n - 1]? = none := by
    rw [List.getElem?_eq_none_iff]
    omega
  refine ⟨s!"No running verb number {n - 1 + 1}.", ?_⟩
  rw [Command.parse_cancel positive small]
  simp only [turn, cancel, nothing, finish_of_taken taken]

/-- Without such an option in the open dialog a number is refused. -/
theorem declines_choose (taken : s.outbox = []) (positive : 0 < n)
    (small : n < Command.ordinalBound)
    (nothing : ∀ opened, s.world.openDialog = some opened →
      (s.world.actor? opened.scene opened.actor).bind
        (·.chooseOption? opened.dialog (n - 1)) = none) : c.Declines m s s!"choose {n}" := by
  obtain ⟨reason, refused⟩ : ∃ reason, s.chooseOption (n - 1) = (.error reason, s) := by
    cases isOpen : s.world.openDialog with
    | none => exact ⟨.noOpenDialog, by simp only [Stage.chooseOption, isOpen]⟩
    | some opened =>
      refine ⟨.noOption opened.dialog (n - 1 + 1), ?_⟩
      simp only [Stage.chooseOption, isOpen, nothing opened isOpen]
  refine ⟨reason.message, ?_⟩
  rw [Command.parse_choose positive small]
  simp only [turn, choose, refused, finish_of_taken taken]

/-- The number of an option picks it. -/
theorem picks {opened : OpenDialog} {actor : Actor} {dialog : Dialog} {picked : DialogOption}
    (positive : 0 < n) (small : n < Command.ordinalBound)
    (isOpen : s.world.openDialog = some opened)
    (found : s.world.actor? opened.scene opened.actor = some actor)
    (isDialog : actor.dialog? opened.dialog = some dialog)
    (visible : dialog.visibleOptions[n - 1]? = some picked) :
    c.Picks m s n opened actor dialog picked := by
  have parsed := Command.parse_choose positive small
  obtain ⟨position, here, count, chooses⟩ :=
    Stage.chooseOption_of_visible isOpen found isDialog visible s.depthBound
  have answers : s.chooseOption (n - 1) =
      ((s.answered opened actor position picked).1.mapError .verb,
        (s.answered opened actor position picked).2) := chooses
  refine ⟨⟨_, _, _, _, rfl, rfl, ?_⟩, parsed, position, ?_⟩
  · rw [Report.getElem?_numbered_one _ positive, List.getElem?_map, visible]
    rfl
  · rw [parsed]
    simp only [turn, choose, answers]
    cases (s.answered opened actor position picked).1 with
    | ok state => exact ⟨_, here, count, rfl⟩
    | error reason => exact ⟨_, here, count, rfl⟩

/-- In a session every number names what is shown under it: a verb in the list, and an option of the
open dialog while its actor is there.  A line in which the word is no such number does nothing. -/
theorem names_numbered (session : Stage.Session told s) (taken : s.outbox = []) :
    (∀ n, 0 < n → n < Command.ordinalBound → c.Names m told s n) ∧
    ∀ line verb word, Text.words line = [verb, word] → verb ∈ ["cancel", "choose", "say"] →
      Command.GivesNoIndex word →
        Command.parse line = .unknown ∧ c.Declines m s line := by
  have rests := session.rests
  obtain ⟨stored, announced⟩ := rests.announced
  rw [taken, List.append_nil] at announced
  constructor
  · intro n positive small
    exact {
      cancels := fun h => cancels rests.idle rests.filed positive small
      tooFew := declines_cancel taken positive small
      answers := fun opened actor isOpen found => {
        announced := fun event => announced.lastAboutDialog? isOpen found
        picks := fun dialog picked => picks positive small isOpen found
        tooFew := fun tooFew => by
          refine declines_choose taken positive small fun other isOther => ?_
          obtain rfl := Option.some.inj (isOpen.symm.trans isOther)
          rw [found, Option.bind_some, ← Option.not_isSome_iff_eq_none,
            Actor.isSome_chooseOption?_iff]
          rintro ⟨dialog, isDialog, more⟩
          have few := tooFew dialog isDialog
          omega }
      gone := fun gone => declines_choose taken positive small fun opened isOpen => by
        rw [gone opened isOpen, Option.bind_none] }
  · intro line verb word typed numbered useless
    have unknown := Command.parse_eq_unknown typed numbered useless
    refine ⟨unknown, "Didn\x27t quite catch that. Try \x27help\x27.", ?_⟩
    rw [unknown]
    simp only [turn, finish_of_taken taken]

/-- At the stall the trader is asked: the verb is listed under one, the wares are shown under one
and two, and so these numbers name them; zero names nothing. -/
theorem stall_named :
    let plain : Console := ⟨default, "saves", false⟩
    let asked := (Stage.ofWorld .stall).move (.interact "trader" "ask" none) 2
    Stage.Session asked.outbox asked.drain.2 ∧
      asked.outbox.map (Report.event false) =
        ["trader is waiting for an answer:\n  1. A map\n  2. Nothing"] ∧
      asked.drain.2.world.parkedHandles = [⟨.actor "stall" "trader", "ask", none, none⟩] ∧
      plain.Cancels (StateM Disk) asked.drain.2 1 ⟨.actor "stall" "trader", "ask", none, none⟩ ∧
      plain.Names (StateM Disk) asked.outbox asked.drain.2 2 ∧
      Text.words "choose 0" = ["choose", "0"] ∧
      plain.Declines (StateM Disk) asked.drain.2 "choose 0" := by
  intro plain asked
  have built : Definition.stall.build = .ok .stall := rfl
  have session : Stage.Session asked.outbox asked.drain.2 :=
    ((Stage.Session.begins (.built .standard built)).moves (.interact "trader" "ask" none) 2).takes
  have parked : asked.drain.2.world.parkedHandles =
      [⟨.actor "stall" "trader", "ask", none, none⟩] := by decide +kernel
  have typed : Text.words "choose 0" = ["choose", "0"] := by decide +kernel
  obtain ⟨named, useless⟩ := names_numbered (m := StateM Disk) (c := plain) session rfl
  refine ⟨session, by decide +kernel, parked, ?_, named 2 (by decide) (by decide), typed, ?_⟩
  · exact (named 1 (by decide) (by decide)).cancels _ (by rw [parked]; rfl)
  · exact (useless _ _ _ typed (by decide) (.inr (.inl (Command.writes_toString 0)))).2

/-- In the office the clerk is dismissed after an option has been shown under one; choosing that is
refused. -/
theorem office_unanswered :
    let plain : Console := ⟨default, "saves", false⟩
    let dismissed := (Stage.ofWorld .office).play [(.runVerb (.scene "office") "ask" none, 1),
      (.runVerb (.scene "office") "dismiss" none, 1)]
    let s := dismissed.drain.2
    Stage.Session dismissed.outbox s ∧ s.outbox = [] ∧
      s.world.openDialog =
        some ⟨⟨.scene "office", "ask", none, none⟩, "office", "clerk", "offer"⟩ ∧
      dismissed.outbox = [.dialogOpened "clerk" "offer" ["Agree"]] ∧
      dismissed.outbox.map (Report.event false) =
        ["clerk is waiting for an answer:\n  1. Agree"] ∧
      Command.parse "choose 1" = .choose 0 ∧
      plain.turn (m := StateM Disk) s (Command.parse "choose 1") =
        pure ⟨["dialog 'offer' has no option 1"], .prompt s⟩ := by
  intro plain dismissed s
  have built : Definition.office.build = .ok .office := rfl
  have session : Stage.Session dismissed.outbox s :=
    (((Stage.Session.begins (.built .standard built)).moves
      (.runVerb (.scene "office") "ask" none) 1).moves
        (.runVerb (.scene "office") "dismiss" none) 1).takes
  have isOpen : s.world.openDialog =
      some ⟨⟨.scene "office", "ask", none, none⟩, "office", "clerk", "offer"⟩ := by
    decide +kernel
  have gone : s.world.actor? "office" "clerk" = none := by
    rw [← Option.isNone_iff_eq_none]
    decide +kernel
  have parsed : Command.parse "choose 1" = .choose 0 :=
    Command.parse_choose (n := 1) (by decide) (by decide)
  have refused : s.chooseOption 0 = (.error (.noOption "offer" 1), s) := by
    simp only [Stage.chooseOption, isOpen, gone, Option.bind_none]
  refine ⟨session, rfl, isOpen, rfl, by decide +kernel, parsed, ?_⟩
  have plainly : Style.error.paint plain.colours (Fault.noOption "offer" 1).message =
      "dialog 'offer' has no option 1" := by decide +kernel
  rw [parsed]
  simp only [turn, choose, refused, finish_of_taken (s := s) rfl, plainly]

end Console

end Stagecraft
