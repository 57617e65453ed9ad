import Casement.Error
import Casement.Gui.Atlas
import Casement.Gui.Draw
import Casement.Gui.Io
import Casement.Script.Step
import Casement.SlotMap

namespace Casement

/-- What the GUIs of one host share: what they were told to do, and what they did. -/
structure GuiState where
  cursor : MouseCursor := .arrow
  pendingErrors : List String := []
  injected : List String := []
  capturesKeyboard : Bool := false
  frames : Nat := 0
  rendered : Nat := 0
  contexts : Nat := 0
  deriving DecidableEq, Repr, Inhabited

/-- An error to recover from at the end of the next frame. -/
def GuiState.inject (g : GuiState) (text : String) : GuiState :=
  { g with pendingErrors := g.pendingErrors ++ [text], injected := g.injected ++ [text] }

/-- What the renderers of one host did. -/
structure RenderStats where
  created : Nat := 0
  dropped : Nat := 0
  begun : Nat := 0
  presented : Nat := 0
  ended : Nat := 0
  lastColor : Option Color := none
  lastVertices : Nat := 0
  lastWindow : Option NativeHandle := none
  deriving DecidableEq, Repr, Inhabited

/-- What a host knows of a native window. -/
structure ViewInfo where
  isWindow : Bool
  visible : Bool
  title : String
  rect : Rect
  hasAccelerator : Bool
  deriving DecidableEq, Repr

/-- The answer to a step; one that does not end has none. -/
inductive Reply where
  | nothing
  | unknown
  | endless
  | inaccessible
  | flag (value : Bool)
  | number (value : Nat)
  | word (value : UInt32)
  | text (value : String)
  | texts (values : List String)
  | key (key : Option Key)
  | keys (keys : List Key)
  | handle (handle : Option NativeHandle)
  | handles (handles : List NativeHandle)
  | opened (slot : Nat) (window : NativeHandle) (key : Key)
  | adopted (slot : Nat) (window : Option NativeHandle) (found : Bool)
  | failed (cause : WindowError)
  | fault (cause : Fault)
  | messageResult (result : MessageResult)
  | accel (accel : Accel)
  | point (point : Point)
  | rect (rect : Rect)
  | color (color : Color)
  | viewInfo (info : ViewInfo)
  | guiState (state : GuiState)
  | lastFrame (stats : RenderStats)
  | io (io : Io)
  | keyMap (map : KeyMap)
  | atlas (atlas : Option FontAtlas)
  | edited (font : Option Nat)
  | draw (data : DrawData)
  | many (replies : List Reply)
  deriving Inhabited

/-- A call on a host, a renderer or a GUI. -/
inductive Call where
  | registerTimer (timer : TimerId)
  | unregisterTimer (timer : TimerId)
  | registerAccelerator (window : NativeHandle)
  | unregisterAccelerator (window : NativeHandle)
  | createWindow (window : Option NativeHandle)
  | destroyWindow (window : NativeHandle)
  | setCursor (cursor : Option NativeCursor)
  | setCapture (window : NativeHandle)
  | releaseCapture
  | reportError (text : String)
  | createBackend (window : NativeHandle)
  | beginFrame (window : NativeHandle)
  | drawFrame (window : NativeHandle)
  | endFrame (window : NativeHandle)
  | routeKey (window : NativeHandle)
  | dropBackend (window : NativeHandle)
  | createContext
  | setStyle (style : GuiStyle)
  | newFrame
  | recover
  | render
  | endContextFrame
  | dropContext
  deriving DecidableEq, Repr

def Call.text : Call → String
  | .registerTimer timer => s!"register_timer {timer.val}"
  | .unregisterTimer timer => s!"unregister_timer {timer.val}"
  | .registerAccelerator window => s!"register_accelerator {window.val}"
  | .unregisterAccelerator window => s!"unregister_accelerator {window.val}"
  | .createWindow (some window) => s!"create_window {window.val}"
  | .createWindow none => "create_window refused"
  | .destroyWindow window => s!"destroy_window {window.val}"
  | .setCursor (some cursor) => "set_cursor " ++ cursor.name
  | .setCursor none => "set_cursor hidden"
  | .setCapture window => s!"set_capture {window.val}"
  | .releaseCapture => "release_capture"
  | .reportError text => "report_error " ++ text
  | .createBackend window => s!"backend.create {window.val}"
  | .beginFrame window => s!"backend.begin_frame {window.val}"
  | .drawFrame window => s!"backend.draw_frame {window.val}"
  | .endFrame window => s!"backend.end_frame {window.val}"
  | .routeKey window => s!"backend.translate_accel {window.val}"
  | .dropBackend window => s!"backend.drop {window.val}"
  | .createContext => "gui.create"
  | .setStyle style => "gui.style " ++ style.name
  | .newFrame => "gui.new_frame"
  | .recover => "gui.recover"
  | .render => "gui.render"
  | .endContextFrame => "gui.end_frame"
  | .dropContext => "gui.drop"

/-- A call on a collaborator of a host, or a list of steps that ran at one. -/
inductive TraceEvent where
  | call (host : Nat) (call : Call)
  | hook (host : Nat) (point : HookPoint) (replies : List Reply)

end Casement
