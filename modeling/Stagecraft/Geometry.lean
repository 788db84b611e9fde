import Stagecraft.Number

/-!
# Points and regions of a scene

Scene coordinates are 32-bit numbers.  A region is a polygon given by vertices relative to its
position; a point is inside it by the even-odd rule.  A walker moves towards a goal by a bounded
step and never beyond it.
-/

namespace Stagecraft

/-- A place, or an offset, in scene coordinates. -/
structure Point where
  x : Single
  y : Single
deriving DecidableEq, Inhabited

namespace Point

/-- The origin of the coordinates. -/
def origin : Point := ⟨0, 0⟩

/-- Whether two points have the same coordinates. -/
def sameAs (p q : Point) : Bool := p.x.sameValue q.x && p.y.sameValue q.y

/-- The root of the sum of the squares of two values, taken in 64 bits and rounded once. -/
def rootOfSquares (x y : Float32) : Float32 :=
  (x.toFloat * x.toFloat + y.toFloat * y.toFloat).sqrt.toFloat32

/-- The length of the vector `(x, y)`.  It is infinite as soon as one coordinate is. -/
def norm (x y : Single) : Single :=
  if x.isInf || y.isInf then .infinity else .lift rootOfSquares x y

/-- The distance between two points. -/
def distance (p q : Point) : Single := norm (q.x - p.x) (q.y - p.y)

/-- Distances up to this one count as none. -/
def tolerance : Single := ⟨0x34000000⟩

/-- Move from `p` towards `goal` by at most `step`; within reach the result is the goal itself. -/
def stepToward (p goal : Point) (step : Single) : Point :=
  let distance := p.distance goal
  if distance ≤ step ∨ distance ≤ tolerance then goal
  else
    let share := step / distance
    ⟨p.x + (goal.x - p.x) * share, p.y + (goal.y - p.y) * share⟩

end Point

/-- A region with the given corners, relative to its position. -/
structure Polygon where
  vertices : List Point
  position : Point
deriving Inhabited

namespace Polygon

/-- A rectangle with two sides on the axes and its first corner at the position. -/
def rectangle (position : Point) (width height : Single) : Polygon :=
  ⟨[⟨0, 0⟩, ⟨width, 0⟩, ⟨width, height⟩, ⟨0, height⟩], position⟩

/-- The corners in scene coordinates. -/
def corners (p : Polygon) : List Point :=
  p.vertices.map fun v => ⟨v.x + p.position.x, v.y + p.position.y⟩

/-- Whether the edge from `b` to `a` passes the height of the point on its right. -/
def crosses (point a b : Point) : Bool :=
  decide (point.y < a.y) != decide (point.y < b.y) &&
    decide (point.x < (b.x - a.x) * (point.y - a.y) / (b.y - a.y) + a.x)

/-- Walk along the corners, the last of them being `previous`, and turn `inside` over at each edge
that crosses. -/
def walk (point : Point) : Point → List Point → Bool → Bool
  | _, [], inside => inside
  | previous, corner :: rest, inside =>
    walk point corner rest (inside != crosses point corner previous)

/-- Whether the point lies inside by the even-odd rule.  Fewer than three corners enclose
nothing. -/
def contains (p : Polygon) (point : Point) : Bool :=
  match p.corners with
  | a :: b :: c :: rest => walk point ((c :: rest).getLast (by simp)) (a :: b :: c :: rest) false
  | _ => false

end Polygon

end Stagecraft
