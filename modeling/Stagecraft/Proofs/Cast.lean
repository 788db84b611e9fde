import Stagecraft.Proofs.Deed

/-!
# The actors of a changed scene

A scene is changed by taking an actor out, by showing one in another way, or by letting one compare
the player's place with its region.  Which actors are there afterwards is told here, and what stays
as it was about them and about the scene.
-/

namespace Stagecraft

/-! ## Actors -/

/-- An actor that has compared the place of the player's actor with its region. -/
def Actor.noticed (a : Actor) (player : Option Actor) : Actor :=
  ((player.bind fun player => a.notice player.position).map (·.2)).getD a

/-- A visible actor notices the player when the hit test tells that the player is on the other side,
and changes in nothing but that. -/
theorem Actor.notice_eq_some_iff {a a' : Actor} {place : Point} {crossing : Crossing} :
    a.notice place = some (crossing, a') ↔
      a.visible = true ∧ a.region.contains place ≠ a.playerInside ∧
        crossing = (if a.playerInside then .exit else .enter) ∧
        a' = { a with playerInside := !a.playerInside } := by
  unfold Actor.notice
  cases a.visible <;> cases a.playerInside <;> cases a.region.contains place <;>
    simp [@eq_comm _ crossing, @eq_comm _ a']

/-- An actor that compares the player's place with its region changes in nothing but that. -/
theorem Actor.exists_noticed_eq (a : Actor) (player : Option Actor) :
    ∃ inside, a.noticed player = { a with playerInside := inside } := by
  unfold noticed
  cases crosses : player.bind fun player => a.notice player.position with
  | none => exact ⟨a.playerInside, rfl⟩
  | some crossed =>
    rcases Option.bind_eq_some_iff.mp crosses with ⟨playerActor, _, crosses⟩
    exact ⟨_, (notice_eq_some_iff.mp crosses).2.2.2⟩

/-- An actor of whose dialogs an option is chosen changes in nothing but its dialogs. -/
theorem Actor.exists_chosen_eq (a : Actor) (dialog : String) (index : Nat) :
    ∃ dialogs, a.chosen dialog index = { a with dialogs } := by
  unfold chosen
  cases chooses : a.chooseOption? dialog index with
  | none => exact ⟨a.dialogs, rfl⟩
  | some choice =>
    rcases Option.map_eq_some_iff.mp chooses with ⟨⟨_, dialogs⟩, _, rfl⟩
    exact ⟨dialogs, rfl⟩

/-! ## Scenes -/

namespace Scene

/-- What a change of one actor of a scene leaves alone about it stays as it was for all. -/
theorem map_actor?_of_change {α : Type} {part : Actor → α} {change : Actor → Actor}
    (keeps : ∀ a, part (change a) = part a) {s s' : Scene} {id : String}
    (changed : ∀ other, s'.actor? other =
      if other = id then (s.actor? other).map change else s.actor? other) (other : String) :
    (s'.actor? other).map part = (s.actor? other).map part := by
  rw [changed]
  split
  · rw [Option.map_map]
    exact congrArg (Option.map · _) (funext keeps)
  · rfl

variable (s : Scene) (id other : String)

/-- An actor that is taken out of a scene is not there, and the others are. -/
theorem actor?_without :
    (s.without id).actor? other = if other = id then none else s.actor? other := by
  unfold without removeActor?
  cases present : s.actor? id with
  | none =>
    simp only [Option.map_none, Option.getD_none]
    split
    · next same => rw [same, present]
    · rfl
  | some a => simp [actor?, Roster.get?_erase]

/-- An actor that is moved to another layer knows it. -/
theorem actor?_moveToLayer? {layer : String} {moved : Scene}
    (isMoved : s.moveToLayer? id layer = some moved) :
    moved.actor? other =
      if other = id then (s.actor? other).map fun a => { a with layer } else s.actor? other := by
  unfold moveToLayer? at isMoved
  split at isMoved
  · cases isMoved
    exact Roster.get?_modify s.actors id other _
  · cases isMoved

/-- An actor that is shown in another way is the same but for that. -/
theorem actor?_dress (visible interaction : Option Bool) (layer : Option String) :
    (s.dress id visible interaction layer).actor? other =
      if other = id then
        (s.actor? other).map fun a =>
          { a with
            visible := visible.getD a.visible
            interaction := interaction.getD a.interaction
            layer := layer.getD a.layer }
      else s.actor? other := by
  unfold dress
  simp only [actor?, Roster.get?_modify]
  by_cases same : other = id
  · subst same
    simp only [if_true]
    cases layer with
    | none => rfl
    | some layer =>
      cases there : s.moveToLayer? other layer with
      | some moved =>
        have found := s.actor?_moveToLayer? other other there
        simp only [actor?, if_true] at found
        simp only [Option.bind_some, there, Option.getD_some, found, Option.map_map]
        rfl
      | none =>
        have absent : s.actors.get? other = none := by
          unfold moveToLayer? Roster.contains at there
          simpa using there
        simp [there, absent]
  · simp only [same, if_false]
    cases layer with
    | none => rfl
    | some layer =>
      cases there : s.moveToLayer? id layer with
      | none => simp [there]
      | some moved =>
        have found := s.actor?_moveToLayer? id other there
        simp only [actor?, same, if_false] at found
        simp [there, found]

/-- The player's actor, as far as an actor of the scene can notice it: it is another one that is in
the scene. -/
def noticeable? (player : Option String) : Option Actor :=
  player.bind fun player => if player = id then none else s.actor? player

/-- What a scene makes of the player's place is what the actor makes of it that compares it. -/
theorem notice_eq (player : Option String) :
    s.notice id player =
      (s.actor? id).bind fun actor => (s.noticeable? id player).bind fun player =>
        (actor.notice player.position).map fun (crossing, actor) =>
          (crossing, { s with actors := s.actors.insert id actor }) := by
  cases player with
  | none => simp [notice, noticeable?]
  | some player =>
    by_cases same : player = id
    · simp [notice, noticeable?, same]
    · simp only [notice, noticeable?, same, if_false, Option.bind_some]
      cases s.actor? player with
      | none => simp
      | some playerActor => cases s.actor? id <;> rfl

/-- An actor that has compared the player's place with its region is the same but for that. -/
theorem actor?_noticed (player : Option String) :
    (s.noticed id player).actor? other =
      if other = id then (s.actor? other).map (·.noticed (s.noticeable? id player))
      else s.actor? other := by
  unfold noticed
  rw [notice_eq]
  cases found : s.actor? id with
  | none =>
    simp only [Option.bind_none, Option.map_none, Option.getD_none]
    split
    · next same => simp [same, found]
    · rfl
  | some actor =>
    cases noticeable : s.noticeable? id player with
    | none =>
      split
      · next same => simp [same, found, Actor.noticed]
      · simp
    | some player =>
      cases crosses : actor.notice player.position with
      | none =>
        split
        · next same => simp [same, found, crosses, Actor.noticed]
        · simp [crosses]
      | some crossed =>
        simp only [Option.bind_some, crosses, Option.map_some, Option.getD_some, actor?,
          Roster.get?_insert]
        split
        · next same =>
          subst same
          have inRoster : s.actors.get? other = some actor := found
          simp [inRoster, crosses, Actor.noticed]
        · rfl

/-- Taking an actor out of a scene changes nothing but its actors and its layers. -/
theorem exists_without_eq : ∃ actors layers, s.without id = { s with actors, layers } := by
  unfold without removeActor?
  cases s.actor? id <;> exact ⟨_, _, rfl⟩

/-- Moving an actor to another layer changes nothing but its actors and its layers. -/
theorem exists_moveToLayer?_eq {s moved : Scene} {id layer : String}
    (isMoved : s.moveToLayer? id layer = some moved) :
    ∃ actors layers, moved = { s with actors, layers } := by
  unfold moveToLayer? at isMoved
  split at isMoved
  · cases isMoved
    exact ⟨_, _, rfl⟩
  · cases isMoved

/-- Showing an actor in another way changes nothing but the actors and the layers of its scene. -/
theorem exists_dress_eq (visible interaction : Option Bool) (layer : Option String) :
    ∃ actors layers, s.dress id visible interaction layer = { s with actors, layers } := by
  unfold dress
  cases moved : layer.bind (s.moveToLayer? id ·) with
  | none => exact ⟨_, _, rfl⟩
  | some after =>
    rcases Option.bind_eq_some_iff.mp moved with ⟨layer, _, isMoved⟩
    rcases exists_moveToLayer?_eq isMoved with ⟨actors, layers, rfl⟩
    exact ⟨_, _, rfl⟩

/-- Comparing the player's place changes nothing but the actors of a scene. -/
theorem exists_noticed_eq (player : Option String) :
    ∃ actors, s.noticed id player = { s with actors } := by
  unfold noticed
  rw [notice_eq]
  cases s.actor? id with
  | none => exact ⟨_, rfl⟩
  | some actor =>
    cases s.noticeable? id player with
    | none => exact ⟨_, rfl⟩
    | some player =>
      simp only [Option.bind_some, Option.map_map]
      cases actor.notice player.position <;> exact ⟨_, rfl⟩

end Scene

end Stagecraft
