namespace Casement

inductive MouseButton where
  | left
  | right
  | middle
  deriving DecidableEq, Repr, Inhabited

namespace MouseButton

def name : MouseButton → String
  | .left => "Left"
  | .right => "Right"
  | .middle => "Middle"

def ofName? : String → Option MouseButton
  | "Left" => some .left
  | "Right" => some .right
  | "Middle" => some .middle
  | _ => none

end MouseButton

/-- A button that is held, and one that was pressed since the last reading. -/
structure ButtonState where
  down : Bool := false
  unread : Bool := false
  deriving DecidableEq, Repr, Inhabited

namespace ButtonState

def press (_ : ButtonState) : ButtonState := ⟨true, true⟩

/-- Releasing keeps the press unread, so that a click within one frame is still seen. -/
def release (s : ButtonState) : ButtonState := { s with down := false }

def seen (s : ButtonState) : Bool := s.down || s.unread

def read (s : ButtonState) : ButtonState := { s with unread := false }

def bits (s : ButtonState) : Nat := s.down.toNat + 2 * s.unread.toNat

end ButtonState

/-- The buttons of a window's mouse. -/
structure MouseButtons where
  left : ButtonState := {}
  right : ButtonState := {}
  middle : ButtonState := {}
  deriving DecidableEq, Repr, Inhabited

/-- Which buttons a frame sees as down. -/
structure ButtonsDown where
  left : Bool := false
  right : Bool := false
  middle : Bool := false
  deriving DecidableEq, Repr, Inhabited

/-- The two buttons a frame has room for beside the three that exist are never down. -/
def ButtonsDown.toList (d : ButtonsDown) : List Bool := [d.left, d.right, d.middle, false, false]

def ButtonsDown.get (d : ButtonsDown) : MouseButton → Bool
  | .left => d.left
  | .right => d.right
  | .middle => d.middle

namespace MouseButtons

def get (m : MouseButtons) : MouseButton → ButtonState
  | .left => m.left
  | .right => m.right
  | .middle => m.middle

def modify (m : MouseButtons) (f : ButtonState → ButtonState) : MouseButton → MouseButtons
  | .left => { m with left := f m.left }
  | .right => { m with right := f m.right }
  | .middle => { m with middle := f m.middle }

def press (m : MouseButtons) (button : MouseButton) : MouseButtons := m.modify .press button

def release (m : MouseButtons) (button : MouseButton) : MouseButtons := m.modify .release button

def anyDown (m : MouseButtons) : Bool := m.left.down || m.right.down || m.middle.down

/-- What a frame sees. -/
def seen (m : MouseButtons) : ButtonsDown := ⟨m.left.seen, m.right.seen, m.middle.seen⟩

/-- The buttons after a frame has seen them. -/
def read (m : MouseButtons) : MouseButtons := ⟨m.left.read, m.right.read, m.middle.read⟩

end MouseButtons

end Casement
