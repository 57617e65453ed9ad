import Casement.Config.Basic
import Casement.Gui.Atlas
import Casement.Color
import Casement.Host.Basic
import Casement.Window.Message

/-!
# Scripts

A script is a list of steps on windows and hosts. Scripts also stand for what collaborators do
when they are called: a `hook` step leaves a list of steps with a host, to be run once at a point
where its renderer or GUI is called.
-/

namespace Casement

/-- The points at which a renderer or a GUI is called. -/
inductive HookPoint where
  | createBackend
  | beginFrame
  | drawFrame
  | endFrame
  | handleMessage
  | routeKey
  | drop
  | newFrame
  | recover
  | other (name : String)
  deriving DecidableEq, Repr, Inhabited

namespace HookPoint

def name : HookPoint → String
  | .createBackend => "create_backend"
  | .beginFrame => "begin_frame"
  | .drawFrame => "draw_frame"
  | .endFrame => "end_frame"
  | .handleMessage => "handle_message"
  | .routeKey => "translate_accel"
  | .drop => "drop"
  | .newFrame => "new_frame"
  | .recover => "recover"
  | .other name => name

/-- The points that are called. -/
def called : List HookPoint :=
  [.createBackend, .beginFrame, .drawFrame, .endFrame, .handleMessage, .routeKey, .drop,
    .newFrame, .recover]

def ofName (name : String) : HookPoint := (called.find? (·.name == name)).getD (.other name)

end HookPoint

/-- A native handle, or the one of a slot. -/
inductive Target where
  | handle (handle : NativeHandle)
  | slot (slot : Nat)
  deriving DecidableEq, Repr

/-- Steps on a host, its GUI or its renderers. -/
inductive HostStep where
  | runTimers
  | send (window : Target) (message : Message)
  | sendAccel (window : Target) (code : KeyCode) (down : Bool)
  | addChild (parent : Target) (rect : Rect)
  | createNative (title : String) (rect : Rect)
  | destroyNative (window : Target)
  | refuseWindows (on : Bool)
  | movePointer (pos : Point)
  | setKey (code : KeyCode) (down : Bool)
  | setTheme (color : ThemeColor) (value : UInt32)
  | themeColor (color : ThemeColor)
  | setCapture (window : Target)
  | releaseCapture
  | viewInfo (window : Target)
  | setTitle (window : Target) (title : String)
  | setRect (window : Target) (rect : Rect)
  | setVisible (window : Target) (on : Bool)
  | viewAt (pos : Point)
  | toClient (window : Target) (pos : Point)
  | isChild (parent child : Target)
  | errors
  | report (text : String)
  | setGuiCursor (cursor : MouseCursor)
  | injectError (text : String)
  | captureKeyboard (on : Bool)
  | guiState
  | lastFrame
  | failCreation (on : Bool)
  | consume (kinds : List MessageKind)
  | deferDestroy (on : Bool)
  | flushDestroy

/-- Steps on one window. -/
inductive WindowStep where
  | enterFrame
  | endFrame (render : Bool)
  | frame (render : Bool)
  | io
  | keyMap
  | isKeyDown (code : KeyCode)
  | native
  | requestClose
  | clearColor
  | setClearColor (color : Color)
  | title
  | setTitle (title : String)
  | rect
  | setRect (rect : Rect)
  | setVisible (on : Bool)
  | mouseDown (button : MouseButton)
  | mouseUp (button : MouseButton)
  | mouseWheel (axis : WheelAxis) (delta : Int16)
  | keyInput (code : KeyCode) (down : Bool)
  | charInput (codepoint : UInt32)
  | updateCursor
  | atlas
  | sameAtlas
  | keepAtlas
  | contextNewFrame
  | contextRender
  | contextEndFrame
  | contextStyle (style : GuiStyle)
  | resizeKeys (count : Nat)
  | wantKeyboard (on : Bool)
  | setWheel (wheel : Wheel)
  | unknown
  deriving DecidableEq

/-- The window a step is for: that of a slot, or the one borrowed by the step around it. -/
inductive Place where
  | slot (slot : Nat)
  | current
  deriving DecidableEq, Repr

inductive Step where
  | openWindow (host : Nat) (config : ContextConfig) (title : String) (x y width height : Int32)
  | adopt (host : Nat) (raw : UInt64)
  | close (slot : Nat)
  | unregister (slot : Nat)
  | contains (slot : Nat)
  | count
  | all
  | find (window : Target)
  | heartbeat
  | tick
  | dispatch (window : Target) (message : Message)
  | accel (registered target : Target) (code : KeyCode) (down : Bool)
  | holdAtlas
  | dropAtlas
  | currentAtlas
  | editAtlas (edit : FontAtlas.Edit)
  | holdWatchdog (host : Nat)
  | dropWatchdog
  | host (host : Nat) (step : HostStep)
  | window (place : Place) (step : WindowStep)
  | within (slot : Nat) (steps : List Step)
  | hook (host : Nat) (point : HookPoint) (steps : List Step)
  deriving Inhabited

mutual

/-- How many lists of steps a step leaves with hosts, its own steps counted in. -/
def Step.hooks : Step → Nat
  | .within _ steps => Step.hooksAll steps
  | .hook _ _ steps => Step.hooksAll steps + 1
  | _ => 0

def Step.hooksAll : List Step → Nat
  | [] => 0
  | s :: rest => s.hooks + Step.hooksAll rest

end

end Casement
