import Casement.Script.Run

/-!
# Sessions

A session runs a script from an empty world and reports, step by step, the answer, what was called
and logged, and how the world looks afterwards.
-/

namespace Casement

structure HostSetup where
  platform : Platform := .fallback
  scale : Single := .one
  deriving DecidableEq, Repr

/-- A world without windows. -/
def World.empty (hosts : List HostSetup) : World where
  env := { bundles := hosts.map fun s => { host := { platform := s.platform }, scale := s.scale } }

structure HostView where
  timers : Nat
  windows : Nat
  capture : Option NativeHandle
  cursor : Option NativeCursor
  errors : Nat
  stats : List Nat
  gui : List Nat
  deriving DecidableEq, Repr

/-- What shows of a slot's window: whether it exists, is in a frame, was asked to close, and
whether its native window exists, listens for accelerators and is visible. -/
structure SlotView where
  isOpen : Bool
  inFrame : Bool
  closeRequested : Bool
  isNative : Bool
  hasAccelerator : Bool
  visible : Bool
  deriving DecidableEq, Repr

structure WorldView where
  count : Nat
  watchdog : Bool
  fonts : Option Nat
  hosts : List HostView
  windows : List SlotView
  deriving DecidableEq, Repr

namespace World

def hostView (b : Bundle) : HostView where
  timers := b.host.timers.length
  windows := b.host.windowCount
  capture := b.host.capture
  cursor := b.host.cursor
  errors := b.host.errors.length
  stats := [b.stats.created, b.stats.dropped, b.stats.begun, b.stats.presented, b.stats.ended]
  gui := [b.gui.contexts, b.gui.frames, b.gui.rendered]

def slotView (w : World) (s : WindowSlot) : SlotView :=
  let win := (Registry.find? w (some ()) s.key).map (window w)
  let host := host w s.host
  { isOpen := win.isSome
    inFrame := win.any (·.inFrame)
    closeRequested := win.any (·.closeRequested)
    isNative := host.isWindow s.native
    hasAccelerator := host.hasAccelerator s.native
    visible := host.isVisible s.native }

def view (w : World) : WorldView where
  count := w.count ()
  watchdog := w.env.watchdog.isAlive
  fonts := w.env.atlas.value.map (·.fonts.length)
  hosts := w.env.bundles.map hostView
  windows := w.env.slots.map (slotView w)

end World

/-- One step of a session; the view is left out where it has not changed. -/
structure StepReport where
  reply : Reply
  trace : List TraceEvent
  log : List LogRecord
  view : Option WorldView

namespace Session

/-- Runs a step at the top of a script with `n` levels of hooks. -/
def step (n : Nat) (previous : Option WorldView) (w : World) (s : Step) : StepReport × World :=
  let (reply, after) := World.runStep (World.scripted n) none s w
  let view := World.view after
  ({ reply
     trace := after.env.trace.drop w.env.trace.length
     log := after.env.log.drop w.env.log.length
     view := if previous = some view then none else some view }, after)

def runFrom (n : Nat) : Option WorldView → World → List Step → List StepReport × World
  | _, w, [] => ([], w)
  | previous, w, s :: rest =>
    let (report, w) := step n previous w s
    let (reports, w) := runFrom n (some (World.view w)) w rest
    (report :: reports, w)

/-- Runs a script. Each list of steps left with a host runs once, so lists run within one another
at most as often as the script has such lists. -/
def run (hosts : List HostSetup) (steps : List Step) : List StepReport × World :=
  runFrom (Step.hooksAll steps) none (World.empty hosts) steps

end Session

end Casement
