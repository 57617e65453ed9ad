import Casement.World.Basic

/-!
# Frames and input

The parts of a window's life that happen while it is borrowed. `k` is what collaborators do when
they are called; whatever they do comes before the call itself takes effect.
-/

namespace Casement.World

variable (k : Reentry)

/-- The GUI of a window begins its frame; a frame already begun is a fault. -/
def newFrame (o : ObjectId) (w : World) : Option Fault × World :=
  let h := (window w o).host
  let w := k h .newFrame (call h .newFrame w)
  if (window w o).context.inFrame then (some .frameBegunTwice, w)
  else
    let captures := (bundle w h).gui.capturesKeyboard
    (none, w.update o fun win => { win with context := win.context.begin captures })

/-- The GUI of a window turns its frame into draw data. -/
def renderFrame (o : ObjectId) (w : World) : DrawData × World :=
  let win := window w o
  let data := win.context.drawData (w.env.atlas.value.bind (·.texture))
  let w := (call win.host .render w).update o fun win => { win with context := win.context.finish }
  (data, modifyGui win.host (fun g => { g with frames := g.frames + 1, rendered := g.rendered + 1 }) w)

/-- The GUI of a window discards its frame. -/
def discardFrame (o : ObjectId) (w : World) : World :=
  let h := (window w o).host
  let w := (call h .endContextFrame w).update o fun win => { win with context := win.context.finish }
  modifyGui h (fun g => { g with frames := g.frames + 1 }) w

def beginFrame (o : ObjectId) (w : World) : Option Fault × World :=
  let h := (window w o).host
  let native := (window w o).native
  let b := bundle w h
  let w := w.update o fun win => { win with inFrame := true }.readFrameInfo b.host b.scale
  let w := k h .beginFrame (call h (.beginFrame native) w)
  let w := modifyStats h (fun s => { s with begun := s.begun + 1 }) w
  newFrame k o (w.update o fun win => win.readInput (host w h))

/-- Keeps the window alive and begins a frame unless one is open. -/
def enterFrame (o : ObjectId) (w : World) : Option Fault × World :=
  let w := w.update o fun win => { win with keepAlive := true }
  if (window w o).inFrame then (none, w) else beginFrame k o w

/-- Reports the errors the GUIs of the host recovered from, in order. -/
def recoverErrors (o : ObjectId) (w : World) : World :=
  let h := (window w o).host
  let native := (window w o).native
  let w := k h .recover (call h .recover w)
  let errors := (bundle w h).gui.pendingErrors
  let w := modifyGui h (fun g => { g with pendingErrors := [] }) w
  errors.foldl (fun w e =>
    note (.recovered native e) (modifyHost h (·.reportError e) (call h (.reportError e) w))) w

def presentFrame (o : ObjectId) (w : World) : World :=
  let win := window w o
  let (data, w) := renderFrame o w
  let w := k win.host .drawFrame (call win.host (.drawFrame win.native) w)
  modifyStats win.host (fun s =>
    { s with
      presented := s.presented + 1
      lastColor := some win.clearColor
      lastVertices := data.vertexCount
      lastWindow := some win.native }) w

/-- Ends an open frame, presenting it or not. -/
def endFrame (o : ObjectId) (render : Bool) (w : World) : World :=
  let win := window w o
  if win.inFrame then
    let w := recoverErrors k o w
    let w := if render then presentFrame k o w else discardFrame o w
    let w := k win.host .endFrame (call win.host (.endFrame win.native) w)
    let w := modifyStats win.host (fun s => { s with ended := s.ended + 1 }) w
    w.update o fun win => { win with inFrame := false }
  else note (.idleFrameEnd win.native) w

/-! ## Input -/

/-- A first press takes the capture if nobody has it. -/
def mouseDown (o : ObjectId) (button : MouseButton) (w : World) : World :=
  let win := window w o
  let w :=
    if win.usesCapture && !win.buttons.anyDown && (host w win.host).capture.isNone then
      modifyHost win.host (·.setCapture win.native) (call win.host (.setCapture win.native) w)
    else w
  w.update o fun win => { win with buttons := win.buttons.press button }

/-- The last release gives up a capture of the window. -/
def mouseUp (o : ObjectId) (button : MouseButton) (w : World) : World :=
  let w := w.update o fun win => { win with buttons := win.buttons.release button }
  let win := window w o
  if win.usesCapture && !win.buttons.anyDown && (host w win.host).capture = some win.native then
    modifyHost win.host .releaseCapture (call win.host .releaseCapture w)
  else w

def updateCursor (o : ObjectId) (w : World) : World :=
  let h := (window w o).host
  let cursor := (bundle w h).gui.cursor.native
  modifyHost h (fun s => { s with cursor }) (call h (.setCursor cursor) w)

/-- What becomes of a message: an answer, or the end of the window. -/
inductive Delivery where
  | answered (result : MessageResult)
  | destroys
  deriving DecidableEq, Repr

/-- A window's own way with a message. -/
def receive (o : ObjectId) (message : Message) (w : World) : Delivery × World :=
  match message with
  | .close => (.answered .handled, w.update o fun win => { win with closeRequested := true })
  | .destroy => (.destroys, w)
  | .mouseMove => (.answered .default, updateCursor o w)
  | .setCursor true => (.answered .handled, updateCursor o w)
  | .setCursor false => (.answered .default, w)
  | .mouseWheel axis delta => (.answered .default, w.update o (·.turnWheel axis delta))
  | .buttonDown button => (.answered .handled, mouseDown o button w)
  | .buttonUp button => (.answered .handled, mouseUp o button w)
  | .key code down => (.answered .default, w.update o (·.keyInput code down))
  | .char codepoint => (.answered .handled, w.update o (·.charInput codepoint))
  | .other .. => (.answered .default, w)

/-- The renderer sees a message first and may keep it. -/
def deliver (o : ObjectId) (message : Message) (w : World) : Delivery × World :=
  let h := (window w o).host
  let w := k h .handleMessage w
  if (bundle w h).consumed.contains message.kind then (.answered .handled, w)
  else receive o message w

end Casement.World
