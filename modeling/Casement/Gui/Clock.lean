namespace Casement

/-- The time a frame is told has passed since the one before it: a sixtieth of a second for a first
frame, a measured positive time for any other. -/
inductive FrameTime where
  | sixtieth
  | measured
  deriving DecidableEq, Repr, Inhabited

/-- Counts the frames of a window. -/
structure FrameClock where
  count : Nat := 0
  deriving DecidableEq, Repr, Inhabited

namespace FrameClock

/-- The time of the next frame. -/
def next (c : FrameClock) : FrameTime := if c.count = 0 then .sixtieth else .measured

def tick (c : FrameClock) : FrameClock := ⟨c.count + 1⟩

end FrameClock

end Casement
