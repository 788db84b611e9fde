import Stagecraft.Proofs.Offering
import Stagecraft.Proofs.Opening

/-!
# Choices

An open dialog goes on offering exactly what the front end has been told: the options of a dialog
change only by choices, and a choice closes the dialog.  So the player chooses what is on the
screen.  Options that have been chosen stay so, and one for a single use is chosen at most once in a
game.
-/

namespace Stagecraft

/-! ## Picking an option -/

namespace Dialog

/-- Where in a list the option stands that has an index among the visible ones. -/
def position? : Nat → List DialogOption → Option Nat
  | _, [] => none
  | index, option :: rest =>
    if option.isVisible then
      match index with
      | 0 => some 0
      | below + 1 => (position? below rest).map (· + 1)
    else (position? index rest).map (· + 1)

variable {index position : Nat} {options : List DialogOption}

/-- The option at a position has the index that is the number of visible ones before it. -/
theorem position?_eq_some_iff :
    position? index options = some position ↔
      ∃ picked, options[position]? = some picked ∧ picked.isVisible = true ∧
        ((options.take position).filter (·.isVisible)).length = index := by
  induction options generalizing index position with
  | nil => simp [position?]
  | cons option rest ih =>
    unfold position?
    by_cases visible : option.isVisible = true
    · rw [if_pos visible]
      cases index with
      | zero =>
        cases position with
        | zero => simp [visible]
        | succ position => simp [visible]
      | succ below =>
        cases position with
        | zero => simp
        | succ position => simp [ih, visible]
    · rw [if_neg visible]
      cases position with
      | zero => simp [visible]
      | succ position => simp [ih, visible]

/-- The visible option with an index stands at the position for it. -/
theorem getElem?_filter_isVisible (index : Nat) (options : List DialogOption) :
    (options.filter (·.isVisible))[index]? = (position? index options).bind (options[·]?) := by
  induction options generalizing index with
  | nil => simp [position?]
  | cons option rest ih =>
    unfold position?
    by_cases visible : option.isVisible = true
    · rw [if_pos visible, List.filter_cons_of_pos visible]
      cases index with
      | zero => rfl
      | succ below =>
        rw [List.getElem?_cons_succ, Option.bind_map]
        exact ih below
    · rw [if_neg visible, List.filter_cons_of_neg visible, Option.bind_map]
      exact ih index

/-- Choosing marks the option at the position for an index, and no other. -/
theorem chooseAmong_eq (index : Nat) (options : List DialogOption) :
    chooseAmong index options = (position? index options).bind fun position =>
      options[position]?.map fun picked =>
        ({ picked with chosen := true }, options.set position { picked with chosen := true }) := by
  induction options generalizing index with
  | nil => rfl
  | cons option rest ih =>
    unfold chooseAmong position?
    by_cases visible : option.isVisible = true
    · cases index with
      | zero => simp [visible]
      | succ below =>
        simp [visible, ih, Option.map_bind, Option.bind_map, Function.comp_def]
    · simp [visible, ih, Option.map_bind, Option.bind_map, Function.comp_def]

/-- A dialog in which the option at a position is marked as chosen. -/
def markAt (position : Nat) (d : Dialog) : Dialog :=
  { d with options := d.options.modify position fun option => { option with chosen := true } }

/-- Dialogs in the first of which with an id the option at a position is marked as chosen. -/
def markIn (id : String) (position : Nat) : List Dialog → List Dialog
  | [] => []
  | dialog :: rest =>
    if dialog.id = id then dialog.markAt position :: rest else dialog :: markIn id position rest

/-- Choosing an option of a dialog marks it, and changes nothing else. -/
theorem chooseIn_eq (id : String) (index : Nat) (dialogs : List Dialog) :
    chooseIn id index dialogs = (dialogs.find? (·.id == id)).bind fun shown =>
      (position? index shown.options).bind fun position =>
        shown.options[position]?.map fun picked =>
          ({ picked with chosen := true }, markIn id position dialogs) := by
  induction dialogs with
  | nil => rfl
  | cons dialog rest ih =>
    unfold chooseIn
    by_cases same : dialog.id = id
    · subst same
      have marks : ∀ position picked, dialog.options[position]? = some picked →
          { dialog with options := dialog.options.set position { picked with chosen := true } } =
            dialog.markAt position := by
        intro position picked here
        simp [markAt, List.modify_eq_set_getElem?, here]
      rw [if_pos rfl, List.find?_cons_of_pos (by simp)]
      simp only [choose?, chooseAmong_eq, Option.map_bind, Option.bind_some, Function.comp_def,
        Option.map_map]
      congr 1
      funext position
      cases here : dialog.options[position]? with
      | none => rfl
      | some picked => simp [markIn, marks position picked here]
    · rw [if_neg same, List.find?_cons_of_neg (by simpa using same), ih]
      simp [markIn, same, Option.map_bind, Function.comp_def]

/-- Marking an option is seen at the first dialog with its id. -/
theorem find?_markIn (id other : String) (position : Nat) (dialogs : List Dialog) :
    (markIn id position dialogs).find? (·.id == other) =
      if other = id then (dialogs.find? (·.id == other)).map (·.markAt position)
      else dialogs.find? (·.id == other) := by
  induction dialogs with
  | nil => simp [markIn]
  | cons dialog rest ih =>
    unfold markIn
    by_cases same : dialog.id = id
    · rw [if_pos same]
      by_cases named : dialog.id = other
      · have named' : (dialog.markAt position).id = other := named
        simp [named', named, same.symm.trans named]
      · have named' : (dialog.markAt position).id ≠ other := named
        have apart : other ≠ id := fun isId => named (same.trans isId.symm)
        simp [named', named, apart]
    · rw [if_neg same]
      by_cases named : dialog.id = other
      · have apart : other ≠ id := fun isId => same (named.trans isId)
        simp [named, apart]
      · simp [named, ih]

end Dialog

namespace Actor

/-- An actor with a dialog in which the option at a position is marked as chosen. -/
def marked (a : Actor) (dialog : String) (position : Nat) : Actor :=
  { a with dialogs := Dialog.markIn dialog position a.dialogs }

/-- Choosing an option of an actor picks the visible one with the index and marks it. -/
theorem chooseOption?_eq_some_iff {a a' : Actor} {dialog : String} {index : Nat}
    {option : DialogOption} :
    a.chooseOption? dialog index = some (option, a') ↔
      ∃ shown position picked, a.dialog? dialog = some shown ∧
        Dialog.position? index shown.options = some position ∧
        shown.options[position]? = some picked ∧ option = { picked with chosen := true } ∧
        a' = a.marked dialog position := by
  unfold chooseOption?
  rw [Dialog.chooseIn_eq]
  simp only [dialog?, marked, Option.map_eq_some_iff, Option.bind_eq_some_iff, Prod.exists,
    Prod.mk.injEq]
  constructor
  · rintro ⟨_, _, ⟨shown, found, position, isPosition, picked, here, rfl, rfl⟩, rfl, rfl⟩
    exact ⟨shown, position, picked, found, isPosition, here, rfl, rfl⟩
  · rintro ⟨shown, position, picked, found, isPosition, here, rfl, rfl⟩
    exact ⟨_, _, ⟨shown, found, position, isPosition, picked, here, rfl, rfl⟩, rfl, rfl⟩

/-- Marking an option is seen in its dialog alone. -/
theorem dialog?_marked (a : Actor) (dialog : String) (position : Nat) (id : String) :
    (a.marked dialog position).dialog? id =
      if id = dialog then (a.dialog? id).map (·.markAt position) else a.dialog? id :=
  Dialog.find?_markIn ..

/-- An option that has been chosen stays so when one is marked. -/
theorem exists_chosen_marked {a : Actor} {id dialog : String} {place position : Nat}
    {shown : Dialog} {option : DialogOption} (found : a.dialog? id = some shown)
    (here : shown.options[place]? = some option) (chosen : option.chosen = true) :
    ∃ shown' option', (a.marked dialog position).dialog? id = some shown' ∧
      shown'.options[place]? = some option' ∧ option'.chosen = true ∧
        option'.once = option.once := by
  rw [dialog?_marked, found]
  split
  · refine ⟨shown.markAt position,
      if place = position then { option with chosen := true } else option, rfl, ?_⟩
    simp only [Dialog.markAt, List.getElem?_modify, here, @eq_comm _ position]
    by_cases same : place = position <;> simp [same, chosen]
  · exact ⟨shown, option, rfl, here, chosen, rfl⟩

end Actor

/-- The option at the position for an index is chosen by that, and is marked. -/
theorem World.chooseOption?_of_position {w : World} {scene id dialog : String}
    {index position : Nat} {a : Actor} {shown : Dialog} {picked : DialogOption}
    (found : w.actor? scene id = some a)
    (isShown : a.dialog? dialog = some shown)
    (isPosition : Dialog.position? index shown.options = some position)
    (here : shown.options[position]? = some picked) :
    (w.actor? scene id).bind (·.chooseOption? dialog index) =
      some ({ picked with chosen := true }, a.marked dialog position) := by
  rw [found, Option.bind_some, Actor.chooseOption?_eq_some_iff]
  exact ⟨shown, position, picked, isShown, isPosition, here, rfl, rfl⟩

/-! ## What is on the screen -/

/-- Whether the front end has last been told about dialogs what can be chosen in the open one, if
its actor is still there. -/
def World.ShownIn (w : World) (outbox : List Event) : Prop :=
  ∀ opened, w.openDialog = some opened → ∃ before options after,
    outbox = before ++ .dialogOpened opened.actor opened.dialog options :: after ∧
      (∀ event ∈ after, event.isAboutDialog = false) ∧
      ∀ a, w.actor? opened.scene opened.actor = some a → ∃ shown,
        a.dialog? opened.dialog = some shown ∧ shown.visibleOptions.map (·.text) = options

/-- What is on the screen stays right while dialogs are kept and none is opened or closed. -/
theorem World.ShownIn.of_keepsOf {w w' : World} {outbox more : List Event}
    (isShown : w.ShownIn outbox) (calm : ∀ event ∈ more, event.isAboutDialog = false)
    (same : w'.openDialog = w.openDialog)
    (keeps : w.KeepsOf Actor.dialogs w') : w'.ShownIn (outbox ++ more) := by
  intro opened isOpen
  rcases isShown opened (same ▸ isOpen) with ⟨before, options, after, rfl, quiet, offers⟩
  refine ⟨before, options, after ++ more, by simp, ?_, fun a' found => ?_⟩
  · rw [List.forall_mem_append]
    exact ⟨quiet, calm⟩
  · rcases keeps opened.scene opened.actor a' found with ⟨a, isThere, sameDialogs⟩
    rcases offers a isThere with ⟨shown, isDialog, texts⟩
    refine ⟨shown, ?_, texts⟩
    rwa [Actor.dialog?, sameDialogs]

/-- Only telling the front end something tells it something. -/
theorem Deed.outbox_apply (deed : Deed) (s : Stage) :
    (deed.apply s).outbox = s.outbox ++ match deed with
      | .emit event => [event]
      | _ => [] := by
  cases deed with
  | emit event => rfl
  | _ => exact (List.append_nil _).symm

/-- What is on the screen is right whatever happens. -/
def Placement.showing : Placement where
  fits _ _ := True
  filed _ _ := True
  holds outbox _ w := w.ShownIn outbox
  installs _ _ _ _ :=
    ⟨Script.Throughout.placed_iff.mpr fun _ _ => .of_always fun _ => trivial, trivial⟩
  deed {driver s deed} allowed licensed isShown := by
    rw [deed.outbox_apply]
    cases moves : deed.movesDialog with
    | false =>
      have noChoice : deed.isChoice = false := by
        cases deed with
        | choose => cases moves
        | _ => rfl
      apply isShown.of_keepsOf _ (Deed.openDialog_apply moves s) (Deed.keepsOf_dialogs noChoice s)
      cases deed with
      | emit event =>
        intro other member
        cases List.mem_singleton.mp member
        exact licensed
      | _ => simp
    | true =>
      cases deed with
      | openDialog => cases allowed
      | closeDialog => rintro opened ⟨⟩
      | choose => rintro opened ⟨⟩
      | _ => cases moves
  verbs {outbox _ w} owner change isShown := by
    rw [← List.append_nil outbox]
    apply isShown.of_keepsOf (by simp)
    · cases owner <;> rfl
    · exact .modifyVerbs (fun _ _ => rfl) w owner change
  shows {outbox _ w _ scene id dialog shown} shows _ := by
    rintro opened ⟨⟩
    refine ⟨outbox, _, [], rfl, by simp, fun a found => ?_⟩
    have inWorld : w.actor? scene id = some a := found
    have isShown := shows.found
    rw [inWorld, Option.bind_some] at isShown
    exact ⟨shown, isShown, rfl⟩
  closes closed _ := by
    intro opened isOpen
    cases closed.symm.trans isOpen

/-- In a game that is played from a built world what is on the screen is right. -/
theorem Definition.shownIn_play {d : Definition} {w : World} (built : d.build = .ok w)
    (settings : Settings) (moves : List (Move × Nat)) :
    let s := (Stage.ofWorld w settings).play moves
    s.world.ShownIn s.outbox := by
  have keeps : Placement.showing.Keeps (Stage.ofWorld w settings) := by
    constructor
    · intro opened isOpen
      cases (openDialog_build built).symm.trans isOpen
    · intro h script _
      exact ⟨Script.Throughout.placed_iff.mpr fun _ _ => .of_always fun _ => trivial, trivial⟩
  exact (keeps.play moves).world

/-! ## Answers -/

namespace Stage

variable {s : Stage} {index depth : Nat}

/-- Whether a choice comes to nothing: no dialog is open, or the actor whose dialog it is is gone,
or there are not so many options to choose from. -/
def Refuses (s : Stage) (index : Nat) : Prop :=
  s.world.openDialog = none ∨ ∃ opened, s.world.openDialog = some opened ∧
    (s.world.actor? opened.scene opened.actor = none ∨
      ∃ a shown, s.world.actor? opened.scene opened.actor = some a ∧
        a.dialog? opened.dialog = some shown ∧ shown.visibleOptions.length ≤ index)

/-- Whether an option is chosen, but the verb that waits for that cannot go on. -/
def Strands (s : Stage) (index depth : Nat) : Prop :=
  ∃ opened option actor, s.world.openDialog = some opened ∧
    (s.world.actor? opened.scene opened.actor).bind (·.chooseOption? opened.dialog index) =
      some (option, actor) ∧
    ∃ reason, (((s.chosen opened option actor).afterOption opened option depth).resumeVerb
      opened.handle depth).1 = .error reason

/-- A choice that comes to nothing is refused, and leaves the stage as it was. -/
theorem Refuses.chooseOption (refuses : s.Refuses index) (depth : Nat) :
    ∃ reason, s.chooseOption index depth = (.error reason, s) := by
  rcases refuses with closed | ⟨opened, isOpen, nothing⟩
  · simp only [Stage.chooseOption, closed]
    exact ⟨_, rfl⟩
  · have noChoice : (s.world.actor? opened.scene opened.actor).bind
        (·.chooseOption? opened.dialog index) = none := by
      rcases nothing with gone | ⟨a, shown, found, isShown, few⟩
      · rw [gone, Option.bind_none]
      · rw [found, Option.bind_some, ← Option.not_isSome_iff_eq_none,
          Actor.isSome_chooseOption?_iff]
        rintro ⟨again, isAgain, more⟩
        cases isShown.symm.trans isAgain
        omega
    simp only [Stage.chooseOption, isOpen, noChoice]
    exact ⟨_, rfl⟩

/-- A choice fails exactly if it comes to nothing or strands the verb that waits for it. -/
theorem fails_chooseOption_iff (isShown : s.world.ShownIn s.outbox) :
    (∃ reason, (s.chooseOption index depth).1 = .error reason) ↔
      s.Refuses index ∨ s.Strands index depth := by
  constructor
  · rintro ⟨reason, fails⟩
    cases isOpen : s.world.openDialog with
    | none => exact .inl (.inl isOpen)
    | some opened =>
      cases found : s.world.actor? opened.scene opened.actor with
      | none => exact .inl (.inr ⟨opened, isOpen, .inl found⟩)
      | some a =>
        rcases isShown opened isOpen with ⟨_, _, _, _, _, offers⟩
        rcases offers a found with ⟨shown, isDialog, _⟩
        by_cases few : shown.visibleOptions.length ≤ index
        · exact .inl (.inr ⟨opened, isOpen, .inr ⟨a, shown, found, isDialog, few⟩⟩)
        · have choosable := (a.isSome_chooseOption?_iff opened.dialog index).mpr
            ⟨shown, isDialog, by omega⟩
          rcases Option.isSome_iff_exists.mp choosable with ⟨⟨option, actor⟩, chooses⟩
          have inWorld : (s.world.actor? opened.scene opened.actor).bind
              (·.chooseOption? opened.dialog index) = some (option, actor) := by
            rw [found, Option.bind_some, chooses]
          rw [chooseOption_eq isOpen inWorld] at fails
          refine .inr ⟨opened, option, actor, isOpen, inWorld, ?_⟩
          simp only at fails
          cases resumed : (((s.chosen opened option actor).afterOption opened option
              depth).resumeVerb opened.handle depth).1 with
          | error reason => exact ⟨reason, rfl⟩
          | ok state =>
            rw [resumed] at fails
            cases fails
  · rintro (refuses | ⟨opened, option, actor, isOpen, chooses, reason, fails⟩)
    · rcases refuses.chooseOption depth with ⟨reason, same⟩
      exact ⟨reason, by rw [same]⟩
    · refine ⟨.verb reason, ?_⟩
      rw [chooseOption_eq isOpen chooses]
      simp only [fails]
      rfl

/-- Of the visible options the one with the index is picked and marked. -/
theorem chooseOption_of_visible {opened : OpenDialog} {a : Actor} {shown : Dialog}
    {picked : DialogOption} (isOpen : s.world.openDialog = some opened)
    (found : s.world.actor? opened.scene opened.actor = some a)
    (isShown : a.dialog? opened.dialog = some shown)
    (visible : shown.visibleOptions[index]? = some picked) (depth : Nat) :
    ∃ position, shown.options[position]? = some picked ∧
      ((shown.options.take position).filter (·.isVisible)).length = index ∧
      let option := { picked with chosen := true }
      let resumed := ((s.chosen opened option (a.marked opened.dialog position)).afterOption opened
        option depth).resumeVerb opened.handle depth
      s.chooseOption index depth = (resumed.1.mapError .verb, resumed.2) := by
  rw [Dialog.visibleOptions, Dialog.getElem?_filter_isVisible] at visible
  rcases Option.bind_eq_some_iff.mp visible with ⟨position, isPosition, here⟩
  rcases Dialog.position?_eq_some_iff.mp isPosition with ⟨_, _, _, count⟩
  have chooses := World.chooseOption?_of_position found isShown isPosition here
  exact ⟨position, here, count, chooseOption_eq isOpen chooses depth⟩

end Stage

/-! ## Options for a single use -/

/-- An option that has been picked: whose dialog it is of, where it stands in that, and whether it
is for a single use. -/
structure Pick where
  scene : String
  actor : String
  dialog : String
  position : Nat
  once : Bool
deriving DecidableEq

/-- The option that is picked by an index. -/
def World.pick? (w : World) (index : Nat) : Option Pick :=
  w.openDialog.bind fun opened => (w.actor? opened.scene opened.actor).bind fun a =>
    (a.dialog? opened.dialog).bind fun shown =>
      (Dialog.position? index shown.options).bind fun position =>
        shown.options[position]?.map fun picked =>
          ⟨opened.scene, opened.actor, opened.dialog, position, picked.once⟩

/-- Whether an option that has been picked is marked as chosen, if its actor is still there. -/
def World.Spent (w : World) (pick : Pick) : Prop :=
  ∀ a, w.actor? pick.scene pick.actor = some a → ∃ shown option,
    a.dialog? pick.dialog = some shown ∧ shown.options[pick.position]? = some option ∧
      option.chosen = true ∧ option.once = pick.once

namespace World

variable {w : World} {pick : Pick} {index : Nat}

/-- What is picked is an option that is visible. -/
theorem exists_of_pick? (picks : w.pick? index = some pick) :
    ∃ opened a shown picked, w.openDialog = some opened ∧ opened.scene = pick.scene ∧
      opened.actor = pick.actor ∧ opened.dialog = pick.dialog ∧
      w.actor? pick.scene pick.actor = some a ∧ a.dialog? pick.dialog = some shown ∧
      Dialog.position? index shown.options = some pick.position ∧
      shown.options[pick.position]? = some picked ∧ picked.isVisible = true ∧
      picked.once = pick.once := by
  rcases Option.bind_eq_some_iff.mp picks with ⟨opened, isOpen, picks⟩
  rcases Option.bind_eq_some_iff.mp picks with ⟨a, found, picks⟩
  rcases Option.bind_eq_some_iff.mp picks with ⟨shown, isShown, picks⟩
  rcases Option.bind_eq_some_iff.mp picks with ⟨position, isPosition, picks⟩
  rcases Option.map_eq_some_iff.mp picks with ⟨picked, here, rfl⟩
  rcases Dialog.position?_eq_some_iff.mp isPosition with ⟨_, isThere, visible, _⟩
  cases here.symm.trans isThere
  exact ⟨opened, a, shown, picked, isOpen, rfl, rfl, rfl, found, isShown, isPosition, here, visible,
    rfl⟩

/-- The visible option with an index is what is picked by it. -/
theorem pick?_of_visible {opened : OpenDialog} {a : Actor} {shown : Dialog} {position : Nat}
    {picked : DialogOption} (isOpen : w.openDialog = some opened)
    (found : w.actor? opened.scene opened.actor = some a)
    (isShown : a.dialog? opened.dialog = some shown)
    (here : shown.options[position]? = some picked) (visible : picked.isVisible = true) :
    w.pick? ((shown.options.take position).filter (·.isVisible)).length =
      some ⟨opened.scene, opened.actor, opened.dialog, position, picked.once⟩ := by
  have isPosition := Dialog.position?_eq_some_iff.mpr ⟨picked, here, visible, rfl⟩
  simp only [pick?, isOpen, found, isShown, isPosition, here, Option.bind_some, Option.map_some]

/-- An option for a single use that has been picked is not picked again. -/
theorem Spent.not_picked (spent : w.Spent pick) (once : pick.once = true) :
    w.pick? index ≠ some pick := by
  intro picks
  rcases exists_of_pick? picks with
    ⟨_, a, shown, picked, _, _, _, _, found, isShown, _, here, visible, sameOnce⟩
  rcases spent a found with ⟨_, option, isDialog, isThere, chosen, _⟩
  cases isShown.symm.trans isDialog
  cases here.symm.trans isThere
  rw [DialogOption.isVisible, sameOnce, once, chosen] at visible
  cases visible

end World

/-- An option that has been picked stays marked, whatever is done. -/
theorem World.Spent.apply {s : Stage} {pick : Pick} (spent : s.world.Spent pick) (deed : Deed) :
    (deed.apply s).world.Spent pick := by
  intro a' found
  rcases (deed.actor?_apply_eq_some_iff s).mp found with ⟨_, a, isThere, rfl⟩
  rcases spent a isThere with ⟨shown, option, isDialog, here, chosen, sameOnce⟩
  by_cases choice : ∃ dialog index, deed = .choose pick.scene pick.actor dialog index
  · rcases choice with ⟨dialog, index, rfl⟩
    simp only [Deed.onActor, and_self, if_true, Actor.chosen]
    cases chooses : a.chooseOption? dialog index with
    | none => exact ⟨shown, option, isDialog, here, chosen, sameOnce⟩
    | some choice =>
      rcases Actor.chooseOption?_eq_some_iff.mp chooses with ⟨_, position, _, _, _, _, _, marked⟩
      simp only [Option.map_some, Option.getD_some, marked]
      rcases Actor.exists_chosen_marked isDialog here chosen with
        ⟨shown', option', isDialog', here', chosen', again⟩
      exact ⟨shown', option', isDialog', here', chosen', again.trans sameOnce⟩
  · have same : (deed.onActor s.world pick.scene pick.actor a).dialogs = a.dialogs := by
      cases deed with
      | choose home id dialog index =>
        have elsewhere : ¬ (home = pick.scene ∧ id = pick.actor) := by
          rintro ⟨rfl, rfl⟩
          exact choice ⟨dialog, index, rfl⟩
        simp only [Deed.onActor, if_neg elsewhere]
      | _ => exact (Deed.LeavesAlone.onActor _ s.world pick.scene pick.actor a).dialogs rfl
    refine ⟨shown, option, ?_, here, chosen, sameOnce⟩
    rwa [Actor.dialog?, same]

/-- An option that has been picked stays marked in the course of a game. -/
theorem Stage.Course.spent {driver : Option Handle} {s s' : Stage} {deeds : List Deed} {leaf : Leaf}
    (course : Course driver s deeds s' leaf) {pick : Pick} (spent : s.world.Spent pick) :
    s'.world.Spent pick := by
  rw [course.eq_applyAll]
  clear course
  induction deeds generalizing s with
  | nil => exact spent
  | cons deed rest ih => exact ih (spent.apply deed)

namespace Stage

/-- The option that is picked in a move. -/
def pick? (s : Stage) : Move → Option Pick
  | .chooseOption index => s.world.pick? index
  | _ => none

/-- The options that are picked in a run of moves. -/
def picks : Stage → List (Move × Nat) → List Pick
  | _, [] => []
  | s, m :: rest => (s.pick? m.1).toList ++ picks (s.move m.1 m.2) rest

variable {s : Stage} {pick : Pick}

/-- An option that has been picked stays marked in a move. -/
theorem spent_move (spent : s.world.Spent pick) (m : Move) (depth : Nat) :
    (s.move m depth).world.Spent pick := by
  rcases s.move_course m depth with ⟨_, course⟩
  exact course.spent spent

/-- No move picks an option for a single use that has been picked. -/
theorem pick?_ne_of_spent (spent : s.world.Spent pick) (once : pick.once = true) (m : Move) :
    s.pick? m ≠ some pick := by
  cases m with
  | chooseOption index => exact spent.not_picked once
  | _ => rintro ⟨⟩

/-- An option that is chosen is marked before anything else happens. -/
theorem spent_chosen {opened : OpenDialog} {index position : Nat} {a : Actor} {shown : Dialog}
    {picked : DialogOption} (found : s.world.actor? opened.scene opened.actor = some a)
    (isShown : a.dialog? opened.dialog = some shown)
    (isPosition : Dialog.position? index shown.options = some position)
    (here : shown.options[position]? = some picked) :
    (s.chosen opened { picked with chosen := true } (a.marked opened.dialog position)).world.Spent
      ⟨opened.scene, opened.actor, opened.dialog, position, picked.once⟩ := by
  have chooses := World.chooseOption?_of_position found isShown isPosition here
  intro a' isThere
  rw [(world_chosen chooses).2] at isThere
  rcases (Deed.actor?_apply_eq_some_iff _ s).mp isThere with ⟨_, before, wasThere, rfl⟩
  cases found.symm.trans wasThere
  rw [found, Option.bind_some] at chooses
  simp only [Deed.onActor, and_self, if_true, Actor.chosen, chooses, Option.map_some,
    Option.getD_some]
  refine ⟨shown.markAt position, { picked with chosen := true }, ?_, ?_, rfl, rfl⟩
  · rw [Actor.dialog?_marked, if_pos rfl, isShown, Option.map_some]
  · simp [Dialog.markAt, here]

/-- An option that is picked is marked after the move. -/
theorem spent_of_pick? {m : Move} (picks : s.pick? m = some pick) (depth : Nat) :
    (s.move m depth).world.Spent pick := by
  cases m with
  | chooseOption index =>
    rcases World.exists_of_pick? picks with
      ⟨opened, a, shown, picked, isOpen, sameScene, sameActor, sameDialog, found, isShown,
        isPosition, here, _, sameOnce⟩
    obtain ⟨scene, actor, dialog, position, once⟩ := pick
    subst sameScene sameActor sameDialog sameOnce
    have chooses := World.chooseOption?_of_position found isShown isPosition here
    have marks := spent_chosen found isShown isPosition here
    rw [move, chooseOption_eq isOpen chooses]
    rcases afterOption_course none (s.chosen opened _ _) opened { picked with chosen := true } depth
      with ⟨_, ran⟩
    rcases resumeVerb_course none depth _ opened.handle with ⟨_, resumed⟩
    exact resumed.spent (ran.spent marks)
  | _ => cases picks

/-- No option for a single use is picked twice. -/
theorem nodup_picks (moves : List (Move × Nat)) {earlier : List Pick}
    (spent : ∀ pick ∈ earlier, s.world.Spent pick)
    (distinct : (earlier.filter (·.once)).Nodup) :
    ((earlier ++ s.picks moves).filter (·.once)).Nodup := by
  induction moves generalizing s earlier with
  | nil => simpa [picks] using distinct
  | cons m rest ih =>
    simp only [picks, ← List.append_assoc]
    apply ih
    · intro pick member
      rcases List.mem_append.mp member with before | now
      · exact spent_move (spent pick before) m.1 m.2
      · exact spent_of_pick? (Option.mem_toList.mp now) m.2
    · cases picked : s.pick? m.1 with
      | none => simpa using distinct
      | some pick =>
        rw [Option.toList_some, List.filter_append]
        cases once : pick.once with
        | false => simpa [once] using distinct
        | true =>
          have fresh : pick ∉ earlier := fun before =>
            pick?_ne_of_spent (spent pick before) once m.1 picked
          rw [List.filter_singleton, once, cond_true, List.nodup_append]
          refine ⟨distinct, by simp, fun one before other now => ?_⟩
          cases List.mem_singleton.mp now
          rintro rfl
          exact fresh (List.mem_filter.mp before).1

/-- A choice that comes to nothing picks nothing. -/
theorem Refuses.pick?_eq_none {index : Nat} (refuses : s.Refuses index) :
    s.world.pick? index = none := by
  rw [Option.eq_none_iff_forall_not_mem]
  intro pick picks
  rcases World.exists_of_pick? picks with
    ⟨opened, a, shown, picked, isOpen, sameScene, sameActor, sameDialog, found, isShown, isPosition,
      here, _⟩
  rw [← sameScene, ← sameActor] at found
  rw [← sameDialog] at isShown
  rcases refuses with closed | ⟨other, isOther, gone | ⟨b, again, isThere, isAgain, few⟩⟩
  · cases closed.symm.trans isOpen
  · cases isOpen.symm.trans isOther
    cases gone.symm.trans found
  · cases isOpen.symm.trans isOther
    cases found.symm.trans isThere
    cases isShown.symm.trans isAgain
    have visible : shown.visibleOptions[index]? = some picked := by
      rw [Dialog.visibleOptions, Dialog.getElem?_filter_isVisible, isPosition, Option.bind_some,
        here]
    rw [List.getElem?_eq_none few] at visible
    cases visible

end Stage

/-! ## Games -/

/-- In a game that is played from a built world the visible options of the open dialog are those
that the front end was told when it was opened, if the actor is still there.  A choice fails exactly
if no dialog is open, the actor is gone, there are not so many options, or the verb that waits
cannot go on; but for the last case it leaves the stage as it was.  Otherwise the option that is
shown at that place is picked, and it alone is marked as chosen.  No option for a single use is
picked twice. -/
theorem Definition.chooses_play {d : Definition} {w : World} (built : d.build = .ok w)
    (settings : Settings) (moves : List (Move × Nat)) :
    let begun := Stage.ofWorld w settings
    let s := begun.play moves
    s.world.ShownIn s.outbox ∧
      (∀ index depth,
        ((∃ reason, (s.chooseOption index depth).1 = .error reason) ↔
          s.Refuses index ∨ s.Strands index depth) ∧
        (s.Refuses index → s.world.pick? index = none ∧ (s.chooseOption index depth).2 = s) ∧
        ∀ opened a shown picked, s.world.openDialog = some opened →
          s.world.actor? opened.scene opened.actor = some a →
            a.dialog? opened.dialog = some shown → shown.visibleOptions[index]? = some picked →
              ∃ position, shown.options[position]? = some picked ∧
                ((shown.options.take position).filter (·.isVisible)).length = index ∧
                s.world.pick? index =
                  some ⟨opened.scene, opened.actor, opened.dialog, position, picked.once⟩ ∧
                let option := { picked with chosen := true }
                let resumed :=
                  ((s.chosen opened option (a.marked opened.dialog position)).afterOption
                    opened option depth).resumeVerb opened.handle depth
                s.chooseOption index depth = (resumed.1.mapError .verb, resumed.2)) ∧
      ((begun.picks moves).filter (·.once)).Nodup := by
  intro begun s
  have isShown : s.world.ShownIn s.outbox := shownIn_play built settings moves
  refine ⟨isShown, fun index depth => ?_, ?_⟩
  · refine ⟨Stage.fails_chooseOption_iff isShown, fun refuses => ?_, ?_⟩
    · rcases refuses.chooseOption depth with ⟨reason, same⟩
      exact ⟨refuses.pick?_eq_none, by rw [same]⟩
    · intro opened a shown picked isOpen found isDialog visible
      rcases Stage.chooseOption_of_visible isOpen found isDialog visible depth with
        ⟨position, here, rfl, chooses⟩
      have isVisible : picked.isVisible = true :=
        (List.mem_filter.mp (List.mem_of_getElem? visible)).2
      have picks := World.pick?_of_visible isOpen found isDialog here isVisible
      exact ⟨position, here, rfl, picks, chooses⟩
  · exact Stage.nodup_picks moves (List.forall_mem_nil _) .nil

/-! ## A small game -/

/-- A game at a stall where a map can be bought, once. -/
def Definition.stall : Definition where
  game := ⟨"Stall", "stall", "1", "stall", none⟩
  scenes := [{
    id := "stall"
    state := none
    layers := [⟨"main", true, false⟩]
    actors := [{
      id := "trader"
      desc := ""
      layer := "main"
      pos := ⟨0, 0⟩
      corners := []
      zIndex := 0
      state := none
      visible := true
      interaction := true
      verbs := [⟨⟨"ask", none, none⟩, [.showDialog none "wares"]⟩]
      dialogs := [⟨"wares", [⟨"A map", none, true⟩, ⟨"Nothing", none, false⟩]⟩]
      sounds := []
      properties := ∅ }]
    verbs := []
    properties := ∅ }]
  verbs := []
  properties := ∅

/-- The world with which the game at the stall begins. -/
def World.stall : World := Definition.stall.build.toOption.getD .empty

/-- Who buys what is offered first gets the map, and the second time nothing. -/
theorem World.stall_chooses :
    let moves : List (Move × Nat) := [(.interact "trader" "ask" none, 2), (.chooseOption 0, 2),
      (.interact "trader" "ask" none, 2), (.chooseOption 0, 2)]
    Definition.stall.build = .ok .stall ∧
      (Stage.ofWorld .stall).picks moves =
        [⟨"stall", "trader", "wares", 0, true⟩, ⟨"stall", "trader", "wares", 1, false⟩] ∧
      (((Stage.ofWorld .stall).picks moves).filter (·.once)).Nodup ∧
      ((Stage.ofWorld .stall).play moves).world.ShownIn
        ((Stage.ofWorld .stall).play moves).outbox := by
  intro moves
  have built : Definition.stall.build = .ok .stall := rfl
  have chooses := Definition.chooses_play built .standard moves
  exact ⟨built, by decide +kernel, chooses.2.2, chooses.1⟩

end Stagecraft
