import Stagecraft.Proofs.Lookup

/-!
# What is pointed at

Pointing at a scene looks through its visible layers from the topmost one down.  On a layer the
actors are sorted by their height and searched from above; the sort keeps the order of equals, so of
equally high actors the one that the layer lists last is met first.  The actor that is found is
described here without the sort: by the layer's own list and the order of the z-indices.
-/

namespace Stagecraft

/-! ## The total order of the numbers -/

namespace Single

/-- Whether the sign of a number is the negative one. -/
def IsNegative (x : Single) : Prop := 0x80000000 ≤ x.bits.toNat

/-- What a number encodes apart from its sign, exponent before fraction. -/
def magnitude (x : Single) : Nat := x.bits.toNat % 0x80000000

/-- The total order of all encoded numbers: a negative one is below one that is not; of two negative
ones the one of the greater magnitude is below, of two others the one of the smaller. -/
def TotalLe (x y : Single) : Prop :=
  x.IsNegative ∧ ¬ y.IsNegative ∨
  (x.IsNegative ∧ y.IsNegative) ∧ y.magnitude ≤ x.magnitude ∨
  (¬ x.IsNegative ∧ ¬ y.IsNegative) ∧ x.magnitude ≤ y.magnitude

theorem orderKey_le_iff (x y : Single) : x.orderKey ≤ y.orderKey ↔ x.TotalLe y := by
  have boundX : x.bits.toNat < 2 ^ 32 := x.bits.toNat_lt
  have boundY : y.bits.toNat < 2 ^ 32 := y.bits.toNat_lt
  simp only [orderKey, TotalLe, IsNegative, magnitude]
  split <;> split <;> omega

/-- Only a number itself has its place in the order. -/
theorem orderKey_inj {x y : Single} (same : x.orderKey = y.orderKey) : x = y := by
  have bits : x.bits.toNat = y.bits.toNat := by
    have boundX : x.bits.toNat < 2 ^ 32 := x.bits.toNat_lt
    have boundY : y.bits.toNat < 2 ^ 32 := y.bits.toNat_lt
    simp only [orderKey] at same
    split at same <;> split at same <;> omega
  cases x
  cases y
  simpa using UInt32.toNat_inj.mp bits

theorem orderKey_lt_iff (x y : Single) :
    x.orderKey < y.orderKey ↔ x.TotalLe y ∧ x ≠ y := by
  rw [← orderKey_le_iff]
  constructor
  · intro less
    refine ⟨by omega, ?_⟩
    rintro rfl
    omega
  · rintro ⟨atMost, different⟩
    have : x.orderKey ≠ y.orderKey := fun same => different (orderKey_inj same)
    omega

end Single

/-! ## The topmost in a list -/

section Topmost

variable {α : Type} (height : α → Int) (kind : α → Prop)

/-- Whether something is the topmost in a list of what is of a kind: nothing of the kind is higher,
and nothing of the kind that comes later is as high. -/
def TopOf (list : List α) (a : α) : Prop :=
  ∃ before after, list = before ++ a :: after ∧ kind a ∧
    (∀ b ∈ before, kind b → height b ≤ height a) ∧ ∀ b ∈ after, kind b → height b < height a

variable {height kind} in
/-- There are no two topmost ones. -/
theorem TopOf.unique {list : List α} {a b : α} (one : TopOf height kind list a)
    (other : TopOf height kind list b) : a = b := by
  obtain ⟨before, after, rfl, ofKind, atMost, below⟩ := one
  obtain ⟨before', after', same, ofKind', atMost', below'⟩ := other
  obtain ⟨between, rfl, rest⟩ | ⟨between, rfl, rest⟩ := List.append_eq_append_iff.mp same
  · rcases List.cons_eq_append_iff.mp rest with ⟨rfl, here⟩ | ⟨more, rfl, rfl⟩
    · exact (List.cons.inj here).1.symm
    · have := atMost' a (by simp) ofKind
      have := below b (by simp) ofKind'
      omega
  · rcases List.cons_eq_append_iff.mp rest with ⟨rfl, here⟩ | ⟨more, rfl, rfl⟩
    · exact (List.cons.inj here).1
    · have := atMost b (by simp) ofKind'
      have := below' a (by simp) ofKind
      omega

variable [DecidablePred kind]

private theorem pairwise_sorted (list : List α) :
    (list.mergeSort fun a b => height a ≤ height b).Pairwise fun a b => height a ≤ height b := by
  have sorted : (list.mergeSort fun a b => height a ≤ height b).Pairwise
      fun a b => decide (height a ≤ height b) :=
    List.pairwise_mergeSort (fun a b c => by simpa using Int.le_trans)
      (fun a b => by simpa using Int.le_total ..) list
  simpa using sorted

/-- Equally high things keep their order when a list is sorted. -/
theorem filter_mergeSort_of_height (list : List α) (keep : α → Bool) (level : Int)
    (atLevel : ∀ a, keep a → height a = level) :
    (list.mergeSort fun a b => height a ≤ height b).filter keep = list.filter keep := by
  have equals : (list.filter keep).Pairwise fun a b => decide (height a ≤ height b) := by
    refine List.pairwise_of_forall_mem_list fun a inA b inB => ?_
    have levelA := atLevel a (List.mem_filter.mp inA).2
    have levelB := atLevel b (List.mem_filter.mp inB).2
    simp [levelA, levelB]
  have inSorted : (list.filter keep).Sublist (list.mergeSort fun a b => height a ≤ height b) :=
    List.sublist_mergeSort (fun a b c => by simpa using Int.le_trans)
      (fun a b => by simpa using Int.le_total ..) equals List.filter_sublist
  have kept := inSorted.filter keep
  rw [List.filter_filter] at kept
  simp only [Bool.and_self] at kept
  refine (kept.eq_of_length ?_).symm
  exact ((List.mergeSort_perm list _).filter keep).length_eq.symm

omit [DecidablePred kind] in
/-- Nothing of a kind is higher than the last of that kind in the sorted list. -/
private theorem height_le_of_sorted {list lower upper : List α} {a : α}
    (sorted : (list.mergeSort fun a b => height a ≤ height b) = lower ++ a :: upper)
    (passed : ∀ b ∈ upper, ¬ kind b) : ∀ b ∈ list, kind b → height b ≤ height a := by
  intro b listed ofKind
  have inSorted : b ∈ list.mergeSort fun a b => height a ≤ height b :=
    List.mem_mergeSort.mpr listed
  rw [sorted] at inSorted
  rcases List.mem_append.mp inSorted with inLower | rest
  · have ascending := pairwise_sorted height list
    rw [sorted] at ascending
    exact (List.pairwise_append.mp ascending).2.2 b inLower a (List.mem_cons_self ..)
  · rcases List.mem_cons.mp rest with rfl | inUpper
    · exact Int.le_refl _
    · exact absurd ofKind (passed b inUpper)

/-- The last that is kept of a list is followed by nothing that is kept. -/
private theorem exists_append_of_filter {keep : α → Bool} {list front : List α} {a : α}
    (ends : list.filter keep = front ++ [a]) :
    ∃ before after, list = before ++ a :: after ∧ ∀ b ∈ after, ¬ keep b := by
  obtain ⟨first, rest, rfl, -, last⟩ := List.filter_eq_append_iff.mp ends
  obtain ⟨skipped, after, rfl, -, -, noMore⟩ := List.filter_eq_cons_iff.mp last
  exact ⟨first ++ skipped, after, by simp, List.filter_eq_nil_iff.mp noMore⟩

/-- The search from the top of the sorted list finds the topmost one. -/
theorem topOf_of_find? {list : List α} {a : α}
    (found : (list.mergeSort fun a b => height a ≤ height b).reverse.find? (kind ·) = some a) :
    TopOf height kind list a := by
  obtain ⟨ofKind, above, under, split, missed⟩ := List.find?_eq_some_iff_append.mp found
  have ofKind : kind a := by simpa using ofKind
  have passed : ∀ b ∈ above.reverse, ¬ kind b := by simpa using missed
  have sorted : (list.mergeSort fun a b => height a ≤ height b) =
      under.reverse ++ a :: above.reverse := by
    simpa using congrArg List.reverse split
  have atMost := height_le_of_sorted height kind sorted passed
  -- What is of the kind and as high as the found one stands in both lists in one order.
  let level (b : α) : Bool := decide (kind b ∧ height b = height a)
  have ends : list.filter level = under.reverse.filter level ++ [a] := by
    have none : above.reverse.filter level = [] :=
      List.filter_eq_nil_iff.mpr fun b higher => by simp [level, passed b higher]
    rw [← filter_mergeSort_of_height height list level (height a) (by simp [level]), sorted,
      List.filter_append, List.filter_cons_of_pos (by simpa [level] using ofKind), none]
  obtain ⟨before, after, rfl, noMore⟩ := exists_append_of_filter ends
  refine ⟨before, after, rfl, ofKind, ?_, ?_⟩
  · intro b earlier isKind
    exact atMost b (List.mem_append_left _ earlier) isKind
  · intro b later isKind
    have lower := atMost b (List.mem_append_right _ (List.mem_cons_of_mem _ later)) isKind
    have different : height b ≠ height a := by simpa [level, isKind] using noMore b later
    omega

/-- The search from the top of the sorted list finds the topmost one, whenever there is one. -/
theorem find?_reverse_mergeSort_eq_some_iff (list : List α) (a : α) :
    (list.mergeSort fun a b => height a ≤ height b).reverse.find? (kind ·) = some a ↔
      TopOf height kind list a := by
  constructor
  · exact topOf_of_find? height kind
  · intro top
    obtain ⟨before, after, rfl, ofKind, -⟩ := id top
    cases found : ((before ++ a :: after).mergeSort fun a b => height a ≤ height b).reverse.find?
        (kind ·) with
    | none =>
      have := List.find?_eq_none.mp found a (by simp)
      simp_all
    | some b => rw [(topOf_of_find? height kind found).unique top]

end Topmost

/-! ## The actor that is found -/

namespace Scene

/-- Whether an id stands for an actor of the scene that is shown, answers to the player and has the
place in its region. -/
structure Answers (s : Scene) (point : Point) (id : String) (actor : Actor) : Prop where
  present : s.actor? id = some actor
  visible : actor.visible = true
  interaction : actor.interaction = true
  hit : actor.region.contains point = true

/-- Whether a layer is shown and lists an actor that answers at a place. -/
def Hit (s : Scene) (point : Point) (layer : Layer) : Prop :=
  layer.visible = true ∧ ∃ id ∈ layer.actors, ∃ actor, s.Answers point id actor

/-- Whether an actor is the topmost one of a layer that answers at a place: of the others that
answer, those that the layer lists before it have no greater z-index, and those that the layer lists
after it have a smaller one. -/
def Topmost (s : Scene) (point : Point) (layer : Layer) (actor : Actor) : Prop :=
  ∃ before id after, layer.actors = before ++ id :: after ∧ s.Answers point id actor ∧
    (∀ otherId ∈ before, ∀ other, s.Answers point otherId other →
      other.zIndex.TotalLe actor.zIndex) ∧
    ∀ otherId ∈ after, ∀ other, s.Answers point otherId other →
      other.zIndex.TotalLe actor.zIndex ∧ other.zIndex ≠ actor.zIndex

theorem answers_iff (s : Scene) (point : Point) (id : String) (actor : Actor) :
    s.Answers point id actor ↔ s.actor? id = some actor ∧ answersAt point actor := by
  simp only [answersAt, Actor.isInteractive, Bool.and_eq_true]
  constructor
  · rintro ⟨present, visible, interaction, hit⟩
    exact ⟨present, ⟨visible, interaction⟩, hit⟩
  · rintro ⟨present, ⟨visible, interaction⟩, hit⟩
    exact ⟨present, visible, interaction, hit⟩

/-- Among the actors that a layer lists, the topmost one is that of the layer. -/
theorem topOf_iff_topmost (s : Scene) (point : Point) (layer : Layer) (actor : Actor) :
    TopOf (·.zIndex.orderKey) (answersAt point ·) (layer.actors.filterMap s.actor?) actor ↔
      s.Topmost point layer actor := by
  constructor
  · rintro ⟨below, above, split, answers, atMost, lower⟩
    obtain ⟨before, rest, listed, rfl, later⟩ := List.filterMap_eq_append_iff.mp split
    obtain ⟨absent, id, after, rfl, missing, present, rfl⟩ := List.filterMap_eq_cons_iff.mp later
    refine ⟨before ++ absent, id, after, by simp [listed],
      (s.answers_iff ..).mpr ⟨present, answers⟩, ?_, ?_⟩
    · intro otherId earlier other responds
      rcases List.mem_append.mp earlier with inBefore | inAbsent
      · rw [← Single.orderKey_le_iff]
        exact atMost other (List.mem_filterMap.mpr ⟨otherId, inBefore, responds.present⟩)
          ((s.answers_iff ..).mp responds).2
      · have := missing otherId inAbsent
        simp [responds.present] at this
    · intro otherId inAfter other responds
      rw [← Single.orderKey_lt_iff]
      exact lower other (List.mem_filterMap.mpr ⟨otherId, inAfter, responds.present⟩)
        ((s.answers_iff ..).mp responds).2
  · rintro ⟨before, id, after, listed, answers, atMost, lower⟩
    refine ⟨before.filterMap s.actor?, after.filterMap s.actor?, by simp [listed, answers.present],
      ((s.answers_iff ..).mp answers).2, ?_, ?_⟩
    · intro other inBefore responds
      obtain ⟨otherId, earlier, present⟩ := List.mem_filterMap.mp inBefore
      exact (Single.orderKey_le_iff ..).mpr
        (atMost otherId earlier other ((s.answers_iff ..).mpr ⟨present, responds⟩))
    · intro other inAfter responds
      obtain ⟨otherId, later, present⟩ := List.mem_filterMap.mp inAfter
      exact (Single.orderKey_lt_iff ..).mpr
        (lower otherId later other ((s.answers_iff ..).mpr ⟨present, responds⟩))

/-- On a layer the topmost actor that answers is found. -/
theorem find?_stack_eq_some_iff (s : Scene) (point : Point) (layer : Layer) (actor : Actor) :
    (s.stack layer).find? (answersAt point) = some actor ↔ s.Topmost point layer actor := by
  rw [← topOf_iff_topmost, ← find?_reverse_mergeSort_eq_some_iff]
  simp [stack]

/-- On a layer an actor is found unless none answers. -/
theorem isSome_find?_stack_iff (s : Scene) (point : Point) (layer : Layer) :
    ((s.stack layer).find? (answersAt point)).isSome ↔
      ∃ id ∈ layer.actors, ∃ actor, s.Answers point id actor := by
  simp only [List.find?_isSome, stack, List.mem_reverse, List.mem_mergeSort, List.mem_filterMap,
    answers_iff]
  constructor
  · rintro ⟨actor, ⟨id, listed, present⟩, answers⟩
    exact ⟨id, listed, actor, present, answers⟩
  · rintro ⟨id, listed, actor, present, answers⟩
    exact ⟨actor, ⟨id, listed, present⟩, answers⟩

/-- What one layer contributes to the search. -/
private def look (s : Scene) (point : Point) (layer : Layer) : Option Actor :=
  if layer.visible then (s.stack layer).find? (answersAt point) else none

private theorem actorAt?_eq_findSome? (s : Scene) (point : Point) :
    s.actorAt? point = s.layers.findSome? (s.look point) := by
  unfold actorAt?
  induction s.layers with
  | nil => rfl
  | cons layer rest ih =>
    cases shown : layer.visible
    · rw [List.filter_cons_of_neg (by simp [shown]), ih]
      simp [look, shown]
    · rw [List.filter_cons_of_pos shown]
      simp [List.findSome?_cons, ih, look, shown]

private theorem isSome_look_iff (s : Scene) (point : Point) (layer : Layer) :
    (s.look point layer).isSome ↔ s.Hit point layer := by
  unfold look Hit
  split
  · next shown => rw [isSome_find?_stack_iff, and_iff_right shown]
  · next hidden => simp [hidden]

/-- Pointing at a scene finds exactly the topmost actor that answers on the first of the visible
layers with one, and nobody exactly if no visible layer lists an actor that answers. -/
theorem actorAt?_eq_iff (s : Scene) (point : Point) :
    (∀ actor, s.actorAt? point = some actor ↔
      ∃ layer, FirstOf (s.Hit point) s.layers layer ∧ s.Topmost point layer actor) ∧
    (s.actorAt? point = none ↔
      ∀ layer ∈ s.layers, layer.visible = true → ∀ id ∈ layer.actors, ∀ actor,
        ¬ s.Answers point id actor) := by
  rw [actorAt?_eq_findSome?]
  constructor
  · intro actor
    rw [List.findSome?_eq_some_iff_firstOf]
    simp only [isSome_look_iff]
    refine exists_congr fun layer => and_congr_right fun first => ?_
    obtain ⟨before, after, -, ⟨shown, -⟩, -⟩ := first
    rw [← find?_stack_eq_some_iff, look, if_pos shown]
  · rw [List.findSome?_eq_none_iff]
    refine forall₂_congr fun layer _ => ?_
    rw [← Option.not_isSome_iff_eq_none, isSome_look_iff]
    simp [Hit]

end Scene

end Stagecraft
