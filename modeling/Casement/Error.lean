import Casement.Geometry
import Casement.Host.Handle
import Casement.Platform

namespace Casement

/-- Why a renderer could not be made. -/
structure BackendError where
  window : NativeHandle
  platform : Platform
  deriving DecidableEq, Repr

def BackendError.message (e : BackendError) : String :=
  s!"Backend initialization failed: no renderer for window {e.window.text} on {e.platform.name}"

/-- Why a window could not be opened. -/
inductive WindowError where
  | backend (cause : BackendError)
  deriving DecidableEq, Repr

def WindowError.message : WindowError → String
  | .backend cause => "Backend error: " ++ cause.message

/-- Broken promises that end the operation they occur in. -/
inductive Fault where
  | noNativeWindow
  | frameBegunTwice
  deriving DecidableEq, Repr

def Fault.message : Fault → String
  | .noNativeWindow => "native window creation failed"
  | .frameBegunTwice => "new_frame called twice"

/-- What ends a whole program: a broken promise, or a coordinate beyond the range of its type. -/
inductive Crash where
  | fault (cause : Fault)
  | outOfRange (coordinate : Coordinate)
  deriving DecidableEq, Repr

def Crash.message : Crash → String
  | .fault cause => cause.message
  | .outOfRange _ => "attempt to add with overflow"

end Casement
