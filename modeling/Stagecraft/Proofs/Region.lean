import Mathlib.Algebra.Ring.Parity
import Mathlib.Data.List.Rotate
import Stagecraft.Geometry

/-!
# Inside a region

A point is inside a region if an odd number of edges passes it on the right.  The count goes round
the corners, so that it does not matter at which of them it starts, and a corner that is given twice
in a row adds an edge that passes nothing.  None of this depends on how numbers are rounded: what is
shown here holds for any operations on numbers whatever.
-/

namespace Stagecraft

/-! ## Operations on numbers -/

/-- Operations on numbers, of which nothing is known but that they give the same result for the same
operands. -/
structure Arithmetic where
  add : Single → Single → Single
  sub : Single → Single → Single
  mul : Single → Single → Single
  div : Single → Single → Single
  less : Single → Single → Bool

namespace Arithmetic

/-- The operations with which regions are measured. -/
def standard : Arithmetic where
  add x y := x + y
  sub x y := x - y
  mul x y := x * y
  div x y := x / y
  less x y := decide (x < y)

/-- The corners of a region in scene coordinates. -/
def corners (ops : Arithmetic) (p : Polygon) : List Point :=
  p.vertices.map fun v => ⟨ops.add v.x p.position.x, ops.add v.y p.position.y⟩

/-- Whether one end of an edge is above a height and the other is not. -/
def straddles (ops : Arithmetic) (height : Single) (edge : Point × Point) : Bool :=
  ops.less height edge.1.y != ops.less height edge.2.y

/-- Where an edge is at a height. -/
def across (ops : Arithmetic) (height : Single) (edge : Point × Point) : Single :=
  ops.add
    (ops.div (ops.mul (ops.sub edge.2.x edge.1.x) (ops.sub height edge.1.y))
      (ops.sub edge.2.y edge.1.y))
    edge.1.x

/-- Whether an edge passes the height of a point on its right. -/
def passes (ops : Arithmetic) (point : Point) (edge : Point × Point) : Bool :=
  ops.straddles point.y edge && ops.less point.x (ops.across point.y edge)

/-- Walk along the corners, the last of them being `previous`, and turn `inside` over at each edge
that passes. -/
def walk (ops : Arithmetic) (point : Point) : Point → List Point → Bool → Bool
  | _, [], inside => inside
  | previous, corner :: rest, inside =>
    ops.walk point corner rest (inside != ops.passes point (corner, previous))

/-- Whether a point lies inside a region. -/
def contains (ops : Arithmetic) (p : Polygon) (point : Point) : Bool :=
  match ops.corners p with
  | a :: b :: c :: rest =>
    ops.walk point ((c :: rest).getLast (List.cons_ne_nil c rest)) (a :: b :: c :: rest) false
  | _ => false

end Arithmetic

namespace Polygon

theorem walk_eq_standard (point previous : Point) (corners : List Point) (inside : Bool) :
    walk point previous corners inside =
      Arithmetic.standard.walk point previous corners inside := by
  induction corners generalizing previous inside with
  | nil => rfl
  | cons corner rest ih => exact ih corner _

/-- Regions are measured with the standard operations. -/
theorem contains_eq_standard (p : Polygon) (point : Point) :
    p.contains point = Arithmetic.standard.contains p point := by
  have sameCorners : Arithmetic.standard.corners p = p.corners := rfl
  unfold contains Arithmetic.contains
  rw [sameCorners]
  match p.corners with
  | [] | [_] | [_, _] => rfl
  | _ :: _ :: _ :: _ => exact walk_eq_standard ..

end Polygon

/-! ## Edges -/

section Edges

variable {α : Type}

/-- The edges round a list of corners: each corner after the one before it, and the first after the
last. -/
def edges (corners : List α) : List (α × α) := (corners.rotate 1).zip corners

/-- The edges of corners that are counted from another one are the same edges. -/
theorem edges_rotate (corners : List α) (k : Nat) :
    edges (corners.rotate k) = (edges corners).rotate k := by
  have sameLength : (corners.rotate 1).length = corners.length := List.length_rotate ..
  have swapped : (corners.rotate k).rotate 1 = (corners.rotate 1).rotate k := by
    rw [List.rotate_rotate, List.rotate_rotate, Nat.add_comm]
  unfold edges
  rw [swapped]
  exact (List.zipWith_rotate_distrib Prod.mk (corners.rotate 1) corners k sameLength).symm

theorem countP_edges_rotate (kind : α × α → Bool) (corners : List α) (k : Nat) :
    (edges (corners.rotate k)).countP kind = (edges corners).countP kind := by
  rw [edges_rotate]
  exact (List.rotate_perm (edges corners) k).countP_eq kind

/-- A corner that is given twice in a row adds an edge from that corner to itself. -/
theorem edges_cons_cons_self (a : α) (rest : List α) :
    edges (a :: a :: rest) = (a, a) :: edges (a :: rest) := by
  simp [edges, List.rotate_cons_succ]

/-- Going along the corners after the last of them is going round the edges. -/
theorem countP_zip_eq_edges (kind : α × α → Bool) (front : List α) (last : α) :
    ((front ++ [last]).zip (last :: (front ++ [last]))).countP kind =
      (edges (front ++ [last])).countP kind := by
  have sameLength : (front ++ [last]).length = (last :: front).length := by simp
  have turned : (last :: front).rotate 1 = front ++ [last] := by simp [List.rotate_cons_succ]
  have around : (front ++ [last]).zip (last :: (front ++ [last])) = edges (last :: front) := by
    have cut : (front ++ [last] ++ []).zip ((last :: front) ++ [last]) =
        (front ++ [last]).zip (last :: front) ++ [] := List.zip_append sameLength
    rw [List.append_nil, List.append_nil] at cut
    rw [edges, turned, ← cut]
    rfl
  rw [around, ← turned, countP_edges_rotate]

/-- Both ends of an edge are corners. -/
theorem mem_of_mem_edges {corners : List α} {edge : α × α} (member : edge ∈ edges corners) :
    edge.1 ∈ corners ∧ edge.2 ∈ corners := by
  obtain ⟨first, second⟩ := List.of_mem_zip member
  exact ⟨List.mem_rotate.mp first, second⟩

end Edges

/-! ## The parity -/

namespace Arithmetic

variable {ops : Arithmetic} {point : Point}

/-- The walk turns `inside` over once for every edge that passes. -/
theorem walk_eq (previous : Point) (corners : List Point) (inside : Bool) :
    ops.walk point previous corners inside =
      (inside != decide (Odd ((corners.zip (previous :: corners)).countP (ops.passes point)))) := by
  induction corners generalizing previous inside with
  | nil => simp [walk]
  | cons corner rest ih =>
    rw [walk, ih, List.zip_cons_cons, List.countP_cons]
    cases ops.passes point (corner, previous) with
    | false => simp
    | true =>
      rw [if_pos rfl, Bool.bne_assoc]
      congr 1
      by_cases odd : Odd ((rest.zip (corner :: rest)).countP (ops.passes point)) <;>
        simp [Nat.odd_add_one, odd]

/-- A point is inside a region of at least three corners exactly if the number of the edges that
pass it is odd. -/
theorem contains_iff_odd {p : Polygon} (enough : 3 ≤ p.vertices.length) :
    ops.contains p point = true ↔ Odd ((edges (ops.corners p)).countP (ops.passes point)) := by
  have many : 3 ≤ (ops.corners p).length := by simpa [corners] using enough
  unfold contains
  match ops.corners p, many with
  | a :: b :: c :: rest, _ =>
    have whole : a :: b :: c :: rest =
        (a :: b :: (c :: rest).dropLast) ++ [(c :: rest).getLast (by simp)] := by
      rw [List.cons_append, List.cons_append, List.dropLast_append_getLast]
    simp only [walk_eq]
    generalize (c :: rest).getLast (by simp) = last at whole ⊢
    rw [whole, countP_zip_eq_edges]
    simp

/-- A point that has every corner above it, or none, is outside. -/
theorem contains_of_level {p : Polygon} {above : Bool}
    (level : ∀ corner ∈ ops.corners p, ops.less point.y corner.y = above) :
    ops.contains p point = false := by
  by_cases enough : 3 ≤ p.vertices.length
  · have passesNone : (edges (ops.corners p)).countP (ops.passes point) = 0 := by
      rw [List.countP_eq_zero]
      intro edge member
      obtain ⟨first, second⟩ := mem_of_mem_edges member
      simp [passes, straddles, level _ first, level _ second]
    rw [← Bool.not_eq_true, contains_iff_odd enough, passesNone]
    decide
  · have few : (ops.corners p).length < 3 := by simpa [corners] using enough
    unfold contains
    match ops.corners p, few with
    | [], _ | [_], _ | [_, _], _ => rfl

/-- Two regions of at least three corners hold the same points if the same number of their edges
passes. -/
theorem contains_congr {p q : Polygon} (enough : 3 ≤ p.vertices.length)
    (enough' : 3 ≤ q.vertices.length)
    (same : (edges (ops.corners q)).countP (ops.passes point) =
      (edges (ops.corners p)).countP (ops.passes point)) :
    ops.contains q point = ops.contains p point := by
  rw [Bool.eq_iff_iff, contains_iff_odd enough, contains_iff_odd enough', same]

/-- It does not matter from which corner a region is given. -/
theorem contains_rotate {p : Polygon} (enough : 3 ≤ p.vertices.length) (k : Nat) :
    ops.contains { p with vertices := p.vertices.rotate k } point = ops.contains p point := by
  refine contains_congr enough (by simpa using enough) ?_
  have turned : ops.corners { p with vertices := p.vertices.rotate k } =
      (ops.corners p).rotate k := by
    simp [corners, List.map_rotate]
  rw [turned, countP_edges_rotate]

/-- The edge from a corner to itself does not pass. -/
theorem passes_self (corner : Point) : ops.passes point (corner, corner) = false := by
  simp [passes, straddles]

/-- It does not matter whether a corner is given twice in a row. -/
theorem contains_repeat {position v : Point} (before : List Point) {after : List Point}
    (enough : 3 ≤ (before ++ v :: after).length) :
    ops.contains ⟨before ++ v :: v :: after, position⟩ point =
      ops.contains ⟨before ++ v :: after, position⟩ point := by
  have first : ∀ rest : List Point, 3 ≤ (v :: rest).length →
      ops.contains ⟨v :: v :: rest, position⟩ point =
        ops.contains ⟨v :: rest, position⟩ point := by
    intro rest enough
    refine contains_congr enough (Nat.le_succ_of_le enough) ?_
    simp only [corners, List.map_cons, edges_cons_cons_self]
    rw [List.countP_cons_of_neg (by simp [passes_self])]
  -- Counted from the corner that is given twice, this is so at the beginning of the list.
  have once : ops.contains ⟨(before ++ v :: after).rotate before.length, position⟩ point =
      ops.contains ⟨before ++ v :: after, position⟩ point :=
    contains_rotate (p := ⟨before ++ v :: after, position⟩) enough before.length
  have twice : ops.contains ⟨(before ++ v :: v :: after).rotate before.length, position⟩ point =
      ops.contains ⟨before ++ v :: v :: after, position⟩ point :=
    contains_rotate (p := ⟨before ++ v :: v :: after, position⟩)
      (by simp at enough ⊢; omega) before.length
  simp only [List.rotate_append_length_eq] at once twice
  rw [← once, ← twice]
  exact first (after ++ before) (by simp at enough ⊢; omega)

/-- It does not matter whether the first corner is given again at the end. -/
theorem contains_close {position v : Point} {rest : List Point} (enough : 3 ≤ (v :: rest).length) :
    ops.contains ⟨v :: rest ++ [v], position⟩ point =
      ops.contains ⟨v :: rest, position⟩ point := by
  have closed : ops.contains ⟨(v :: rest ++ [v]).rotate (v :: rest).length, position⟩ point =
      ops.contains ⟨v :: rest ++ [v], position⟩ point :=
    contains_rotate (p := ⟨v :: rest ++ [v], position⟩)
      (by simp at enough ⊢; omega) (v :: rest).length
  simp only [List.rotate_append_length_eq] at closed
  rw [← closed]
  exact contains_repeat [] enough

end Arithmetic

/-- Whatever the operations on numbers are, a point is inside a region of at least three corners
exactly if the number of the edges that pass it on its right is odd.  So it does not matter from
which corner the region is given, nor whether a corner is given twice in a row, and a point that has
every corner above it, or none, is outside. -/
theorem Polygon.contains_cyclic {p : Polygon} (enough : 3 ≤ p.vertices.length) (point : Point) :
    (∀ q : Polygon, q.contains point = Arithmetic.standard.contains q point) ∧
    ∀ ops : Arithmetic,
      (ops.contains p point = true ↔
        Odd ((edges (ops.corners p)).countP (ops.passes point))) ∧
      (∀ k, ops.contains { p with vertices := p.vertices.rotate k } point =
        ops.contains p point) ∧
      (∀ before v after, p.vertices = before ++ v :: after →
        ops.contains { p with vertices := before ++ v :: v :: after } point =
          ops.contains p point) ∧
      (∀ v rest, p.vertices = v :: rest →
        ops.contains { p with vertices := v :: rest ++ [v] } point = ops.contains p point) ∧
      ∀ above, (∀ corner ∈ ops.corners p, ops.less point.y corner.y = above) →
        ops.contains p point = false := by
  refine ⟨(contains_eq_standard · point), fun ops => ⟨Arithmetic.contains_iff_odd enough,
    Arithmetic.contains_rotate enough, ?_, ?_, fun above => Arithmetic.contains_of_level⟩⟩
  · obtain ⟨vertices, position⟩ := p
    rintro before v after rfl
    exact Arithmetic.contains_repeat before enough
  · obtain ⟨vertices, position⟩ := p
    rintro v rest rfl
    exact Arithmetic.contains_close enough

/-- A triangle holds the same points if it is given from its second corner, or with the first one
again at its end. -/
theorem Polygon.triangle_cyclic :
    let triangle : Polygon := ⟨[⟨0, 0⟩, ⟨4, 0⟩, ⟨0, 4⟩], .origin⟩
    3 ≤ triangle.vertices.length ∧ ∀ point,
      Polygon.contains ⟨[⟨4, 0⟩, ⟨0, 4⟩, ⟨0, 0⟩], .origin⟩ point = triangle.contains point ∧
      Polygon.contains ⟨[⟨0, 0⟩, ⟨4, 0⟩, ⟨0, 4⟩, ⟨0, 0⟩], .origin⟩ point =
        triangle.contains point := by
  intro triangle
  have enough : 3 ≤ triangle.vertices.length := by decide
  refine ⟨enough, fun point => ?_⟩
  obtain ⟨measured, all⟩ := Polygon.contains_cyclic enough point
  obtain ⟨-, rotates, -, closes, -⟩ := all .standard
  simp only [measured]
  exact ⟨rotates 1, closes ⟨0, 0⟩ [⟨4, 0⟩, ⟨0, 4⟩] rfl⟩

end Stagecraft
