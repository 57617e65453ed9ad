import Casement.Gui.Clock
import Casement.Input.Buttons
import Casement.Input.Keys
import Casement.Input.Wheel

namespace Casement

/-- The modifier keys a frame sees as down. -/
structure Modifiers where
  ctrl : Bool := false
  shift : Bool := false
  alt : Bool := false
  super : Bool := false
  deriving DecidableEq, Repr, Inhabited

/-- The mouse position of a frame without a pointer. -/
def Vec2.offscreen : Vec2 := ⟨.lowest, .lowest⟩

/-- How many keys a GUI tells apart. -/
def keyCount : Nat := 512

/-- What goes between a GUI and the window it is shown in. -/
structure Io where
  displaySize : Vec2 := .zero
  displayScale : Vec2 := .one
  time : FrameTime := .sixtieth
  mousePos : Vec2 := .offscreen
  mouseDown : ButtonsDown := {}
  wheel : Wheel := {}
  modifiers : Modifiers := {}
  keysDown : List Bool := List.replicate keyCount false
  keyMap : KeyMap := []
  queue : List Char := []
  iniFile : Option String := some "imgui.ini"
  platformName : Option String := none
  drawsCursor : Bool := false
  wantsKeyboard : Bool := false
  deriving DecidableEq, Repr, Inhabited

namespace Io

def type (io : Io) (c : Char) : Io := { io with queue := io.queue ++ [c] }

def isKeyDown (io : Io) (key : Nat) : Bool := io.keysDown.getD key false

/-- Keys beyond the known ones are ignored. -/
def setKey (io : Io) (key : Nat) (down : Bool) : Io := { io with keysDown := io.keysDown.set key down }

/-- Changes the number of known keys; new keys are up. -/
def resizeKeys (io : Io) (count : Nat) : Io :=
  { io with
    keysDown := io.keysDown.take count ++ List.replicate (count - io.keysDown.length) false }

/-- What the renderer can do, as bits. -/
def flags (io : Io) : Nat := io.drawsCursor.toNat

end Io

end Casement
