import Casement.Error
import Casement.Geometry
import Casement.Gui.Io
import Casement.Number.Layout
import Casement.SlotMap
import Casement.Window.Message

/-!
# The log

Records say what happened; level, target and text are read off them.
-/

namespace Casement

inductive Level where
  | error
  | warn
  | info
  | debug
  | trace
  deriving DecidableEq, Repr

namespace Level

def name : Level → String
  | .error => "ERROR"
  | .warn => "WARN"
  | .info => "INFO"
  | .debug => "DEBUG"
  | .trace => "TRACE"

/-- Levels by how much they let through. -/
def rank : Level → Nat
  | .error => 1
  | .warn => 2
  | .info => 3
  | .debug => 4
  | .trace => 5

end Level

/-- What the demo program tells of itself. -/
inductive DemoNote where
  | loading (path : String)
  | usingDefaults
  | openedAll (count : Nat) (platform : Platform)
  | frame (title : String) (tick : Nat) (io : Io)
  | ticked (tick alive : Nat)
  | summary (presented created alive : Nat)
  | failed (message : String)
  | crashed (cause : Crash)
  deriving DecidableEq, Repr

inductive LogRecord where
  | busyAccess (key : Key)
  | busyHeartbeat (key : Key)
  | watchdogStarted (timer : TimerId)
  | watchdogStopped (timer : TimerId)
  | atlasCreated
  | backendBound (window : NativeHandle)
  | backendFailed (title : String) (cause : BackendError)
  | opened (window : NativeHandle) (title : String) (x y width height : Int32)
  | idleFrameEnd (window : NativeHandle)
  | recovered (window : NativeHandle) (message : String)
  | dispatching (message : Message) (window : NativeHandle)
  | destroyedBusy (window : NativeHandle)
  | leftToHost (window : NativeHandle) (message : Message)
  | destroyed (window : NativeHandle)
  | retiring (window : NativeHandle)
  | demo (note : DemoNote)
  deriving DecidableEq, Repr

namespace DemoNote

/-- Coordinates keep their point and take an exponent outside `10 ^ -4 .. 10 ^ 16`. -/
def coordinate : Number.Layout := ⟨true, some (-4, 16), "NaN"⟩

/-- Notches are written positionally, whole ones without a point. -/
def notches : Number.Layout := ⟨false, none, "NaN"⟩

def single (l : Number.Layout) (x : Single) : String := Number.Format.single.write l x.word.toNat

def listText (items : List String) : String := "[" ++ ", ".intercalate items ++ "]"

def charText (c : Char) : String :=
  let body := match c with
    | '\'' => "\\'"
    | '\\' => "\\\\"
    | c => c.toString
  "'" ++ body ++ "'"

def level : DemoNote → Level
  | .frame .. => .debug
  | .failed _ | .crashed _ => .error
  | _ => .info

def text : DemoNote → String
  | .loading path => "Loading demo configuration from " ++ path
  | .usingDefaults => "No configuration given, using defaults"
  | .openedAll count platform => s!"Opened {count} windows on a {platform.name} host"
  | .frame title tick io =>
    let mouse := listText [listText [single coordinate io.mousePos.x, single coordinate io.mousePos.y]]
    let down := listText (io.mouseDown.toList.map Message.boolText)
    let wheel := single notches io.wheel.vertical
    let typed := listText (io.queue.map charText)
    s!"{title} tick {tick}: mouse {mouse} down {down} wheel {wheel} text {typed}"
  | .ticked tick alive => s!"Tick {tick}: {alive} windows alive"
  | .summary presented created alive =>
    s!"Presented {presented} frames across {created} backends, {alive} windows left"
  | .failed message => message
  | .crashed cause => cause.message

end DemoNote

namespace LogRecord

def level : LogRecord → Level
  | .backendFailed .. | .recovered .. => .warn
  | .opened .. | .destroyed _ => .info
  | .idleFrameEnd _ | .dispatching .. => .trace
  | .demo note => note.level
  | _ => .debug

def target : LogRecord → String
  | .busyAccess _ | .busyHeartbeat _ => "imgui_host::resource"
  | .watchdogStarted _ | .watchdogStopped _ => "imgui_host::watchdog"
  | .atlasCreated => "imgui_host::gui::font_atlas"
  | .backendBound _ => "imgui_host::headless::backend"
  | .demo _ => "imgui_host_demo"
  | _ => "imgui_host::window"

def keyText (k : Key) : String := "ResourceKey(" ++ k.text ++ ")"

def text : LogRecord → String
  | .busyAccess key => "Resource " ++ keyText key ++ " is busy, skipping access"
  | .busyHeartbeat key => "Resource " ++ keyText key ++ " is busy, skipping heartbeat"
  | .watchdogStarted timer => "Watchdog started (timer " ++ timer.text ++ ")"
  | .watchdogStopped timer => "Watchdog stopped (timer " ++ timer.text ++ ")"
  | .atlasCreated => "Creating shared font atlas"
  | .backendBound window => "Headless backend bound to " ++ window.text
  | .backendFailed title cause => s!"Backend creation failed for \"{title}\": {cause.message}"
  | .opened window title x y width height =>
    s!"Opened window {window.text} \"{title}\" ({width.toInt}x{height.toInt} at {x.toInt},{y.toInt})"
  | .idleFrameEnd window => "end_frame on idle window " ++ window.text
  | .recovered window message => s!"Window {window.text} recovered from frame error: {message}"
  | .dispatching message window => s!"Dispatching {message.text} to window {window.text}"
  | .destroyedBusy window =>
    s!"Window {window.text} destroyed while busy, dropping it once released"
  | .leftToHost window message =>
    s!"Window {window.text} is busy, deferring {message.text} to the host"
  | .destroyed window => "Destroyed window " ++ window.text
  | .retiring window => "Retiring window " ++ window.text
  | .demo note => note.text

/-- The crash that the record reports. -/
def crash? : LogRecord → Option Crash
  | .demo (.crashed cause) => some cause
  | _ => none

/-- The record as one entry of the log. -/
def line (r : LogRecord) : String := s!"{r.level.name} {r.target} {r.text}"

end LogRecord

end Casement
