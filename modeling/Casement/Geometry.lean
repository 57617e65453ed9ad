namespace Casement

/-- The sum, held at the end of the range that it would leave. -/
def satAdd (a b : Int32) : Int32 := Int32.ofIntClamp (a.toInt + b.toInt)

/-- The difference, held at the end of the range that it would leave. -/
def satSub (a b : Int32) : Int32 := Int32.ofIntClamp (a.toInt - b.toInt)

structure Point where
  x : Int32
  y : Int32
  deriving DecidableEq, Repr, Inhabited

inductive Coordinate where
  | x
  | y
  deriving DecidableEq, Repr

/-- A rectangle by its edges; the right and bottom edges lie outside. -/
structure Rect where
  left : Int32
  top : Int32
  right : Int32
  bottom : Int32
  deriving DecidableEq, Repr, Inhabited

namespace Rect

def empty : Rect := ⟨0, 0, 0, 0⟩

def ofPosSize (x y width height : Int32) : Rect :=
  ⟨x, y, satAdd x width, satAdd y height⟩

def width (r : Rect) : Int32 := satSub r.right r.left

def height (r : Rect) : Int32 := satSub r.bottom r.top

def origin (r : Rect) : Point := ⟨r.left, r.top⟩

def contains (r : Rect) (p : Point) : Bool :=
  r.left ≤ p.x && p.x < r.right && r.top ≤ p.y && p.y < r.bottom

end Rect

/-- The point as seen from an origin. -/
def Point.relativeTo (p origin : Point) : Point :=
  ⟨satSub p.x origin.x, satSub p.y origin.y⟩

end Casement
