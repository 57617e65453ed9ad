import Casement.Color
import Casement.Gui.Draw
import Casement.Gui.Io
import Casement.Gui.Style
import Casement.Host.Basic
import Casement.Input.Text

/-!
# Windows

What a window keeps, apart from the collaborators it calls: the state of its frame, the input that
waits for the next one, and its GUI.
-/

namespace Casement

/-- The GUI shown in a window. -/
structure Context where
  io : Io := {}
  style : GuiStyle := .dark
  inFrame : Bool := false
  deriving DecidableEq, Repr, Inhabited

namespace Context

/-- Leaves the frame with all input of it used up. -/
def finish (c : Context) : Context :=
  { c with inFrame := false, io := { c.io with wheel := {}, queue := [] } }

def begin (c : Context) (wantsKeyboard : Bool) : Context :=
  { c with inFrame := true, io := { c.io with wantsKeyboard } }

def drawData (c : Context) (texture : Option UInt64) : DrawData :=
  .quad c.io.displaySize c.io.displayScale (texture.getD 0)

def modifyIo (c : Context) (f : Io → Io) : Context := { c with io := f c.io }

end Context

/-- A window on a host, by the place of the host in its desk. The renderer's clock counts the
frames; `atlas` is the generation of the font atlas the window was opened with. -/
structure Window where
  host : Nat
  native : NativeHandle
  platform : Platform
  inFrame : Bool := false
  closeRequested : Bool := false
  keepAlive : Bool := true
  clearColor : Color
  buttons : MouseButtons := {}
  wheel : Wheel := {}
  notch : Single
  clock : FrameClock := {}
  context : Context := {}
  atlas : Nat
  deriving DecidableEq, Repr, Inhabited

namespace Window

def modifyIo (w : Window) (f : Io → Io) : Window := { w with context := w.context.modifyIo f }

/-- Sizes and time, before the renderer begins. -/
def readFrameInfo (host : Host) (scale : Single) (w : Window) : Window :=
  let rect := host.rect w.native
  { w with clock := w.clock.tick }.modifyIo fun io =>
    { io with
      displaySize := ⟨Single.ofInt rect.width.toInt, Single.ofInt rect.height.toInt⟩
      displayScale := ⟨scale, scale⟩
      time := w.clock.next }

/-- Whether the pointer is over the window or a view in it. -/
def isUnderPointer (host : Host) (w : Window) : Bool :=
  (host.viewAt? host.pointer).any fun view => view = w.native || host.isChild w.native view

/-- Whether the window follows the pointer wherever it goes: by capture, or, where releases reach a
window without it, by a button held down. -/
def isTracking (host : Host) (w : Window) : Bool :=
  match w.platform with
  | .macOs => w.buttons.anyDown
  | .windows | .linux => host.capture = some w.native

def pointerPos (host : Host) (w : Window) : Vec2 :=
  if w.isUnderPointer host || w.isTracking host then
    let p := host.toClient w.native host.pointer
    ⟨Single.ofInt p.x.toInt, Single.ofInt p.y.toInt⟩
  else .offscreen

def modifiers (host : Host) : Modifiers where
  ctrl := host.isKeyDown KeyCode.control
  shift := host.isKeyDown KeyCode.shift
  alt := host.isKeyDown KeyCode.alt
  super := host.isKeyDown KeyCode.super

/-- Mouse, modifier keys and wheel, after the renderer began. -/
def readInput (host : Host) (w : Window) : Window :=
  let seen := w.buttons.seen
  let w := { w with buttons := w.buttons.read }
  let pos := w.pointerPos host
  let turned := w.wheel
  { w with wheel := {} }.modifyIo fun io =>
    { io with
      mouseDown := seen
      mousePos := pos
      modifiers := modifiers host
      wheel := io.wheel.add turned }

def turnWheel (axis : WheelAxis) (delta : Int16) (w : Window) : Window :=
  { w with wheel := w.wheel.turn axis delta w.notch }

def keyInput (code : KeyCode) (down : Bool) (w : Window) : Window :=
  w.modifyIo (·.setKey code.toNat down)

def charInput (codepoint : UInt32) (w : Window) : Window :=
  match typed? codepoint with
  | some c => w.modifyIo (·.type c)
  | none => w

/-- Whether a press takes the mouse capture. -/
def usesCapture (w : Window) : Bool := w.platform ≠ .macOs

end Window

end Casement
