import Stagecraft.Proofs.Actors

/-!
# What belongs to actors

Playing changes much about an actor, but not which sounds and dialogs it has.  Which options of its
dialogs have been chosen changes only by choices, and whether it knows the player to be inside its
region only by its noticing the player.  Actors are lost only when they are removed.
-/

namespace Stagecraft

/-! ## What deeds leave alone -/

/-- Choosing an option takes no dialog away. -/
theorem Dialog.ids_chooseIn {dialog : String} {index : Nat} {dialogs changed : List Dialog}
    {option : DialogOption} (chooses : chooseIn dialog index dialogs = some (option, changed)) :
    changed.map (·.id) = dialogs.map (·.id) := by
  induction dialogs generalizing changed with
  | nil => cases chooses
  | cons head rest ih =>
    unfold chooseIn at chooses
    split at chooses
    · rcases Option.map_eq_some_iff.mp chooses with ⟨⟨_, dialog'⟩, chosen, same⟩
      cases same
      rcases Option.map_eq_some_iff.mp chosen with ⟨_, _, same⟩
      cases same
      rfl
    · rcases Option.map_eq_some_iff.mp chooses with ⟨⟨_, rest'⟩, chosen, same⟩
      cases same
      simp only [List.map_cons, ih chosen]

namespace Deed

/-- Whether an option is chosen. -/
def isChoice : Deed → Bool
  | .choose .. => true
  | _ => false

/-- Whether an actor notices the player. -/
def isNotice : Deed → Bool
  | .notice .. => true
  | _ => false

/-- What a deed leaves alone about an actor that it does not remove. -/
structure LeavesAlone (deed : Deed) (a a' : Actor) : Prop where
  sounds : a'.sounds = a.sounds
  dialogIds : a'.dialogs.map (·.id) = a.dialogs.map (·.id)
  dialogs : deed.isChoice = false → a'.dialogs = a.dialogs
  playerInside : deed.isNotice = false → a'.playerInside = a.playerInside

namespace LeavesAlone

variable {deed : Deed}

theorem refl (a : Actor) : deed.LeavesAlone a a := ⟨rfl, rfl, fun _ => rfl, fun _ => rfl⟩

/-- A deed that does something to some actors only leaves alone what it does to them. -/
theorem ite {here : Prop} [Decidable here] {a a' : Actor} (changed : deed.LeavesAlone a a') :
    deed.LeavesAlone a (if here then a' else a) := by
  split
  · exact changed
  · exact .refl a

theorem chosen (scene id : String) (a : Actor) (dialog : String) (index : Nat) :
    (Deed.choose scene id dialog index).LeavesAlone a (a.chosen dialog index) := by
  unfold Actor.chosen
  cases chooses : a.chooseOption? dialog index with
  | none => exact .refl a
  | some choice =>
    rcases Option.map_eq_some_iff.mp chooses with ⟨⟨option, dialogs⟩, among, rfl⟩
    exact ⟨rfl, Dialog.ids_chooseIn among, by simp [isChoice], fun _ => rfl⟩

theorem noticed (scene id : String) (a : Actor) (player : Option Actor) :
    (Deed.notice scene id).LeavesAlone a (a.noticed player) := by
  rcases a.exists_noticed_eq player with ⟨inside, same⟩
  rw [same]
  exact ⟨rfl, rfl, fun _ => rfl, by simp [isNotice]⟩

/-- What a deed makes of an actor leaves alone what belongs to it. -/
theorem onActor (deed : Deed) (w : World) (scene id : String) (a : Actor) :
    deed.LeavesAlone a (deed.onActor w scene id a) := by
  cases deed with
  | setState | setProperty | dress | place | animate | playSound | install | putBack | take =>
    exact .ite ⟨rfl, rfl, fun _ => rfl, fun _ => rfl⟩
  | choose home other dialog index => exact .ite (.chosen home other a dialog index)
  | notice home other => exact .ite (.noticed home other a _)
  | setPlayer player =>
    apply ite
    split
    · exact ⟨rfl, rfl, fun _ => rfl, fun _ => rfl⟩
    · exact .ite ⟨rfl, rfl, fun _ => rfl, fun _ => rfl⟩
  | _ => exact .refl a

end LeavesAlone

end Deed

/-! ## What worlds keep -/

/-- Whether every actor of a changed world was there before with the same of something. -/
def World.KeepsOf {α : Type} (part : Actor → α) (w w' : World) : Prop :=
  ∀ scene id a', w'.actor? scene id = some a' →
    ∃ a, w.actor? scene id = some a ∧ part a' = part a

/-- Whether every actor of a world stays with what belongs to it. -/
def World.StaysFurnished (w w' : World) : Prop :=
  ∀ scene id a, w.actor? scene id = some a → ∃ a', w'.actor? scene id = some a' ∧
    a'.sounds = a.sounds ∧ a'.dialogs.map (·.id) = a.dialogs.map (·.id)

namespace World

variable {α : Type} {part : Actor → α} {w w' w'' : World}

theorem KeepsOf.refl (w : World) : w.KeepsOf part w := fun _ _ a found => ⟨a, found, rfl⟩

theorem KeepsOf.trans (first : w.KeepsOf part w') (second : w'.KeepsOf part w'') :
    w.KeepsOf part w'' := by
  intro scene id a'' found
  rcases second scene id a'' found with ⟨a', found', same'⟩
  rcases first scene id a' found' with ⟨a, found, same⟩
  exact ⟨a, found, same'.trans same⟩

/-- What has nothing to do with verbs is kept when verbs change. -/
theorem KeepsOf.modifyVerbs (apart : ∀ a verbs, part { a with verbs } = part a) (w : World)
    (owner : Owner) (change : VerbTable → VerbTable) :
    w.KeepsOf part (w.modifyVerbs owner change) := by
  intro scene id a' found
  rw [actor?_modifyVerbs] at found
  rcases Option.map_eq_some_iff.mp found with ⟨a, isThere, rfl⟩
  refine ⟨a, isThere, ?_⟩
  split
  · exact apart a _
  · rfl

/-- Whatever becomes of the verbs of an owner, all actors stay with what belongs to them. -/
theorem StaysFurnished.modifyVerbs (w : World) (owner : Owner) (change : VerbTable → VerbTable) :
    w.StaysFurnished (w.modifyVerbs owner change) := by
  intro scene id a isThere
  rw [actor?_modifyVerbs, isThere]
  refine ⟨_, rfl, ?_, ?_⟩ <;> split <;> rfl

end World

namespace Deed

variable {deed : Deed}

/-- What a deed leaves alone about each actor is kept by it. -/
theorem keepsOf {α : Type} {part : Actor → α}
    (same : ∀ a a', deed.LeavesAlone a a' → part a' = part a) (s : Stage) :
    s.world.KeepsOf part (deed.apply s).world := by
  intro scene id a' found
  rcases (deed.actor?_apply_eq_some_iff s).mp found with ⟨_, a, isThere, rfl⟩
  exact ⟨a, isThere, same a _ (.onActor deed s.world scene id a)⟩

/-- The dialogs of actors are kept while no option is chosen. -/
theorem keepsOf_dialogs (noChoice : deed.isChoice = false) (s : Stage) :
    s.world.KeepsOf Actor.dialogs (deed.apply s).world :=
  keepsOf (fun _ _ leaves => leaves.dialogs noChoice) s

/-- Whether actors know the player to be inside is kept while none notices the player. -/
theorem keepsOf_playerInside (noNotice : deed.isNotice = false) (s : Stage) :
    s.world.KeepsOf Actor.playerInside (deed.apply s).world :=
  keepsOf (fun _ _ leaves => leaves.playerInside noNotice) s

/-- Actors stay with what belongs to them while none is removed. -/
theorem staysFurnished (removesNone : ∀ scene id, deed ≠ .remove scene id) (s : Stage) :
    s.world.StaysFurnished (deed.apply s).world := by
  intro scene id a isThere
  have leaves : deed.LeavesAlone a _ := .onActor deed s.world scene id a
  exact ⟨_, (deed.actor?_apply_eq_some_iff s).mpr ⟨removesNone scene id, a, isThere, rfl⟩,
    leaves.sounds, leaves.dialogIds⟩

end Deed

end Stagecraft
