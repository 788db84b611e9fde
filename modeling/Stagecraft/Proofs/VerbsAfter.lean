import Stagecraft.Proofs.Cast
import Stagecraft.Proofs.Course

/-!
# The verbs after a deed

Most deeds leave all tables of verbs alone.  The others change one table in one place: a verb is
installed, an actor goes with its verbs, or a verb leaves its table and comes back.
-/

namespace Stagecraft

/-! ## Changes that leave the verbs alone -/

namespace Scene

variable (s : Scene) (id : String)

theorem verbs_dress (visible interaction : Option Bool) (layer : Option String) :
    (s.dress id visible interaction layer).verbs = s.verbs ∧
      ∀ other, ((s.dress id visible interaction layer).actor? other).map (·.verbs) =
        (s.actor? other).map (·.verbs) := by
  constructor
  · rcases s.exists_dress_eq id visible interaction layer with ⟨actors, layers, same⟩
    rw [same]
  · refine map_actor?_of_change ?_ fun other => s.actor?_dress id other visible interaction layer
    exact fun _ => rfl

theorem verbs_noticed (player : Option String) :
    (s.noticed id player).verbs = s.verbs ∧
      ∀ other, ((s.noticed id player).actor? other).map (·.verbs) =
        (s.actor? other).map (·.verbs) := by
  constructor
  · rcases s.exists_noticed_eq id player with ⟨actors, same⟩
    rw [same]
  · refine map_actor?_of_change ?_ fun other => s.actor?_noticed id other player
    intro a
    rcases a.exists_noticed_eq (s.noticeable? id player) with ⟨inside, same⟩
    rw [same]

end Scene

theorem Actor.verbs_chosen (a : Actor) (dialog : String) (index : Nat) :
    (a.chosen dialog index).verbs = a.verbs := by
  rcases a.exists_chosen_eq dialog index with ⟨dialogs, same⟩
  rw [same]

namespace World

theorem verbs?_setState (w : World) (owner : Owner) (state : Option String) :
    (w.setState owner state).verbs? = w.verbs? := by
  cases owner with
  | world => rfl
  | scene scene => exact verbs?_modifyScene (fun _ _ => rfl) fun _ _ _ => rfl
  | actor scene id => exact verbs?_modifyActor fun _ _ => rfl

theorem verbs?_setProperty (w : World) (owner : Owner) (name : String) (value : Option String) :
    (w.setProperty owner name value).verbs? = w.verbs? := by
  cases owner with
  | world => rfl
  | scene scene => exact verbs?_modifyScene (fun _ _ => rfl) fun _ _ _ => rfl
  | actor scene id => exact verbs?_modifyActor fun _ _ => rfl

theorem verbs?_modifyPlayer (w : World) {change : Actor → Actor}
    (keeps : ∀ a, (change a).verbs = a.verbs) : (w.modifyPlayer change).verbs? = w.verbs? := by
  unfold modifyPlayer
  split
  · exact verbs?_modifyActor fun a _ => keeps a
  · rfl

theorem verbs?_handOver (w : World) (actor : Option String) :
    (w.handOver actor).verbs? = w.verbs? := by
  have left : (w.modifyPlayer fun a => { a with interaction := true }).verbs? = w.verbs? :=
    w.verbs?_modifyPlayer (by intro a; rfl)
  refine Eq.trans (verbs?_modifyPlayer _ ?_) left
  exact fun _ => rfl

/-- An actor that is taken out of its scene goes with its verbs. -/
theorem verbs?_without (w : World) (scene id : String) (owner : Owner) :
    (w.modifyScene scene (·.without id)).verbs? owner =
      if owner = .actor scene id then none else w.verbs? owner := by
  have own : ∀ s : Scene, (s.without id).verbs = s.verbs := by
    intro s
    rcases s.exists_without_eq id with ⟨actors, layers, same⟩
    rw [same]
  cases owner with
  | world => rfl
  | scene other =>
    simp only [verbs?, scene?_modifyScene, reduceCtorEq, if_false]
    split
    · cases w.scene? other <;> simp [own]
    · rfl
  | actor otherScene other =>
    simp only [verbs?, actor?, scene?_modifyScene, Owner.actor.injEq]
    by_cases sameScene : otherScene = scene
    · cases w.scene? otherScene with
      | none => simp
      | some s =>
        simp only [sameScene, if_true, true_and, Option.map_some, Option.bind_some,
          Scene.actor?_without]
        split <;> rfl
    · simp [sameScene]

end World

/-! ## Deeds -/

namespace Deed

/-- Whether a deed is one of those that change a table of verbs. -/
def movesVerbs : Deed → Bool
  | .install .. | .remove .. | .take .. | .putBack .. => true
  | _ => false

/-- A deed that does not change a table of verbs leaves them all as they are. -/
theorem verbs?_apply {deed : Deed} (still : deed.movesVerbs = false) (s : Stage) :
    (deed.apply s).world.verbs? = s.world.verbs? := by
  cases deed with
  | setState owner state => exact s.world.verbs?_setState owner state
  | setProperty owner name value => exact s.world.verbs?_setProperty owner name value
  | dress scene actor visible interaction layer =>
    exact World.verbs?_modifyScene (fun place _ => (place.verbs_dress actor _ _ _).1)
      fun place _ => (place.verbs_dress actor _ _ _).2
  | place scene actor pos => exact World.verbs?_modifyActor fun _ _ => rfl
  | animate scene actor animation => exact World.verbs?_modifyActor fun _ _ => rfl
  | playSound scene actor sound => exact World.verbs?_modifyActor fun _ _ => rfl
  | setPlayer actor => exact s.world.verbs?_handOver actor
  | notice scene actor =>
    exact World.verbs?_modifyScene (fun place _ => (place.verbs_noticed actor _).1)
      fun place _ => (place.verbs_noticed actor _).2
  | choose scene actor dialog index =>
    exact World.verbs?_modifyActor fun a _ => a.verbs_chosen dialog index
  | install | remove | take | putBack => cases still
  | _ => rfl

theorem script?_apply {deed : Deed} (still : deed.movesVerbs = false) (s : Stage) :
    (deed.apply s).world.script? = s.world.script? :=
  World.script?_congr (verbs?_apply still s)

/-- A verb that is there after a deed that may be done by itself was there before, or has been
installed as it was written. -/
theorem Allowed.script?_apply {driver : Option Handle} {s : Stage} {deed : Deed}
    (allowed : deed.Allowed driver s) {h : Handle} {script : Script Action}
    (found : (deed.apply s).world.script? h = some script) :
    s.world.script? h = some script ∨
      deed = .install h script ∧ ∃ written : Script Action, script = written.reset := by
  cases still : deed.movesVerbs with
  | false =>
    rw [Deed.script?_apply still] at found
    exact .inl found
  | true =>
    cases deed with
    | install g installed =>
      obtain ⟨_, present, written, isWritten⟩ := allowed
      simp only [apply, Stage.mapWorld, World.script?_insert present] at found
      split at found
      · next same =>
        cases found
        exact .inr ⟨by rw [same], written, isWritten⟩
      · exact .inl found
    | remove scene actor =>
      simp only [apply, Stage.mapWorld, World.script?, World.verbs?_without] at found
      split at found
      · cases found
      · exact .inl found
    | take | putBack => cases allowed
    | _ => cases still

/-- A deed that may be done by itself brings no owner into being. -/
theorem Allowed.isSome_verbs? {driver : Option Handle} {s : Stage} {deed : Deed}
    (allowed : deed.Allowed driver s) {owner : Owner}
    (present : ((deed.apply s).world.verbs? owner).isSome) : (s.world.verbs? owner).isSome := by
  cases still : deed.movesVerbs with
  | false => rwa [verbs?_apply still] at present
  | true =>
    cases deed with
    | install g script =>
      rwa [apply, Stage.mapWorld, World.isSome_verbs?_modifyVerbs] at present
    | remove scene actor =>
      simp only [apply, Stage.mapWorld, World.verbs?_without] at present
      split at present
      · cases present
      · exact present
    | take | putBack => cases allowed
    | _ => cases still

end Deed

namespace Stage

/-- A verb that is lent is not found, and all others are. -/
theorem script?_lend (s : Stage) (h other : Handle) :
    (s.lend h).world.script? other = if other = h then none else s.world.script? other :=
  s.world.script?_erase h other

/-- A verb that has been driven is found as it came back, or as it was defined in the meantime, as
long as its owner exists; no other verb is touched. -/
theorem script?_closing (s : Stage) (h : Handle) (script : Script Action) (other : Handle) :
    ((s.closing h script).apply s).world.script? other =
      if other = h then
        (s.world.verbs? h.owner).bind fun verbs => (verbs.get? h.key).or (some script)
      else s.world.script? other := by
  unfold closing
  cases present : s.world.verbs? h.owner with
  | none =>
    have unchanged : ((Deed.drop h).apply s).world = s.world := rfl
    simp only [unchanged, Option.bind_none]
    split
    · next same => simp [same, World.script?, present]
    · rfl
  | some verbs =>
    simp only [Option.bind_some]
    by_cases taken : verbs.contains h.key = true
    · obtain ⟨defined, isThere⟩ := Option.isSome_iff_exists.mp taken
      have unchanged : ((Deed.supersede h).apply s).world = s.world := rfl
      simp only [taken, if_true, unchanged, isThere, Option.some_or]
      split
      · next same => simp [same, World.script?, present, isThere]
      · rfl
    · have absent : verbs.get? h.key = none := by
        simpa [Table.contains] using taken
      have isPresent : (s.release.world.verbs? h.owner).isSome := by simp [release, present]
      simp only [taken, Bool.false_eq_true, if_false, Deed.apply, mapWorld,
        World.script?_insert isPresent, absent, Option.none_or]
      rfl

/-- A verb that has been driven is found as it was defined in the meantime, or else as it came back,
if its owner exists. -/
theorem script?_closing_self {s : Stage} {h : Handle} (script : Script Action)
    (present : (s.world.verbs? h.owner).isSome) :
    ((s.closing h script).apply s).world.script? h = (s.world.script? h).or (some script) := by
  rw [script?_closing, if_pos rfl]
  obtain ⟨verbs, found⟩ := Option.isSome_iff_exists.mp present
  simp only [World.script?, found, Option.bind_some]

/-- Closing brings no owner into being and takes none away. -/
@[simp] theorem isSome_verbs?_closing (s : Stage) (h : Handle) (script : Script Action)
    (owner : Owner) :
    (((s.closing h script).apply s).world.verbs? owner).isSome =
      (s.world.verbs? owner).isSome := by
  unfold closing
  split
  · split
    · rfl
    · exact World.isSome_verbs?_modifyVerbs _ _ _ _
  · rfl

end Stage

end Stagecraft
