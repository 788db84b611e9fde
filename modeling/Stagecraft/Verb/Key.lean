/-!
# Names of verbs and of their owners

A verb is found under its id, the state its owner has to be in and the thing it is used on; a state
or target that is left out stands for any.  Verbs belong to the world, to a scene or to an actor,
and a handle names one verb by its owner and its key.
-/

namespace Stagecraft

/-- The key of a verb among the verbs of its owner; `none` stands for any state or target. -/
structure Key where
  id : String
  state : Option String
  target : Option String
deriving DecidableEq, Inhabited

/-- Keys are ordered by id, then by state, then by target, and `none` comes before every text. -/
instance : Ord Key :=
  ⟨compareLex (compareOn Key.id) (compareLex (compareOn Key.state) (compareOn Key.target))⟩

instance : Std.TransOrd Key :=
  inferInstanceAs (Std.TransCmp
    (compareLex (compareOn Key.id) (compareLex (compareOn Key.state) (compareOn Key.target))))

instance : Std.LawfulEqOrd Key where
  eq_of_compare {a b} same := by
    change compareLex (compareOn Key.id)
      (compareLex (compareOn Key.state) (compareOn Key.target)) a b = .eq at same
    simp only [compareLex, compareOn, Ordering.then_eq_eq] at same
    obtain ⟨id, state, target⟩ := same
    cases a; cases b
    simp only [Key.mk.injEq]
    exact ⟨Std.LawfulEqCmp.eq_of_compare id, Std.LawfulEqCmp.eq_of_compare state,
      Std.LawfulEqCmp.eq_of_compare target⟩

namespace Key

/-- The text of a key, with a star for any. -/
def text (k : Key) : String :=
  let state := k.state.getD "*"
  let target := k.target.getD "*"
  s!"{k.id}[{state}/{target}]"

/-- The keys under which a verb is looked for, the most specific first: the owner's state before
any state, and under each the given target before any target. -/
def candidates (id : String) (state target : Option String) : List Key :=
  [⟨id, state, target⟩, ⟨id, state, none⟩, ⟨id, none, target⟩, ⟨id, none, none⟩]

end Key

/-- Whose verbs a verb is found among. -/
inductive Owner where
  | world
  | scene (scene : String)
  | actor (scene actor : String)
deriving DecidableEq, Inhabited

namespace Owner

/-- The actor, if the owner is one. -/
def actorId? : Owner → Option String
  | .actor _ id => some id
  | _ => none

/-- The scene the owner is or belongs to. -/
def sceneId? : Owner → Option String
  | .scene id => some id
  | .actor home _ => some home
  | .world => none

/-- The text of an owner. -/
def text : Owner → String
  | .world => "world"
  | .scene id => s!"scene '{id}'"
  | .actor home id => s!"actor '{id}' in '{home}'"

end Owner

/-- One verb of the world. -/
structure Handle where
  owner : Owner
  key : Key
deriving DecidableEq, Inhabited

/-- The text of a handle. -/
def Handle.text (h : Handle) : String := s!"{h.key.text} of {h.owner.text}"

/-- What an action or a condition is about, as seen from the verb that holds it. -/
inductive Target where
  | owner
  | actor (id : String)
  | scene
  | world
deriving DecidableEq, Inhabited

end Stagecraft
