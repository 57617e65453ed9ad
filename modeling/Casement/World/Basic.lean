import Casement.Log
import Casement.Registry.Basic
import Casement.Script.Reply
import Casement.Window.Basic
import Casement.World.Shared

/-!
# The world of windows

The registry of windows together with everything else that windows share: the hosts with their
collaborators, the index of windows by native handle, the font atlas, the watchdog, and a record
of what was called and logged and of how the atlas was edited.
-/

namespace Casement

/-- A host with the GUI and the renderer its windows get, and what a script told these to do. -/
structure Bundle where
  host : Host := {}
  gui : GuiState := {}
  stats : RenderStats := {}
  scale : Single := .one
  failsCreation : Bool := false
  hooks : List (HookPoint × List Step) := []
  consumed : List MessageKind := []
  defers : Bool := false
  deferred : List NativeHandle := []
  deriving Inhabited

/-- The timer that gives windows their heartbeats. -/
structure Watchdog where
  host : Nat
  timer : TimerId
  deriving DecidableEq, Repr

/-- A window a script knows by its place. -/
structure WindowSlot where
  host : Nat
  native : NativeHandle
  key : Key
  deriving DecidableEq, Repr

structure Desk where
  bundles : List Bundle := []
  index : List (NativeHandle × Key) := []
  atlas : Shared FontAtlas := {}
  watchdog : Shared Watchdog := {}
  trace : List TraceEvent := []
  log : List LogRecord := []
  edits : List FontAtlas.Edit := []
  slots : List WindowSlot := []
  keptAtlases : Nat := 0
  keptWatchdogs : Nat := 0

abbrev World := Registry Unit Window Desk

/-- What happens when a collaborator of a host is called. -/
abbrev Reentry := Nat → HookPoint → World → World

namespace World

def bundle (w : World) (h : Nat) : Bundle := w.env.bundles.getD h {}

def host (w : World) (h : Nat) : Host := (bundle w h).host

def window (w : World) (o : ObjectId) : Window := (w.value? o).getD default

def modifyBundle (h : Nat) (f : Bundle → Bundle) (w : World) : World :=
  w.modifyEnv fun d => { d with bundles := d.bundles.modify h f }

def modifyHost (h : Nat) (f : Host → Host) (w : World) : World :=
  modifyBundle h (fun b => { b with host := f b.host }) w

def modifyGui (h : Nat) (f : GuiState → GuiState) (w : World) : World :=
  modifyBundle h (fun b => { b with gui := f b.gui }) w

def modifyStats (h : Nat) (f : RenderStats → RenderStats) (w : World) : World :=
  modifyBundle h (fun b => { b with stats := f b.stats }) w

def note (r : LogRecord) (w : World) : World := w.modifyEnv fun d => { d with log := d.log ++ [r] }

def traced (e : TraceEvent) (w : World) : World :=
  w.modifyEnv fun d => { d with trace := d.trace ++ [e] }

def call (h : Nat) (c : Call) (w : World) : World := traced (.call h c) w

def busy (access : Access) (key : Key) (d : Desk) : Desk :=
  { d with log := d.log ++ [match access with | .use => .busyAccess key | .heartbeat => .busyHeartbeat key] }

/-! ## The font atlas and the watchdog -/

def acquireAtlas (w : World) : World :=
  if w.env.atlas.isAlive then w.modifyEnv fun d => { d with atlas := d.atlas.retain }
  else (note .atlasCreated w).modifyEnv fun d => { d with atlas := d.atlas.start {} }

def releaseAtlas (w : World) : World := w.modifyEnv fun d => { d with atlas := d.atlas.release }

/-- The watchdog is started on the host that first asks for it. -/
def acquireWatchdog (h : Nat) (w : World) : World :=
  if w.env.watchdog.isAlive then w.modifyEnv fun d => { d with watchdog := d.watchdog.retain }
  else
    let timer := (host w h).freshTimer
    let w := note (.watchdogStarted timer) (call h (.registerTimer timer) (modifyHost h .addTimer w))
    w.modifyEnv fun d => { d with watchdog := d.watchdog.start ⟨h, timer⟩ }

/-- The watchdog stops with its last owner. -/
def releaseWatchdog (w : World) : World :=
  let before := w.env.watchdog
  let w := w.modifyEnv fun d => { d with watchdog := d.watchdog.release }
  match before.value with
  | some dog =>
    if before.isLast then
      note (.watchdogStopped dog.timer)
        (modifyHost dog.host (·.removeTimer dog.timer) (call dog.host (.unregisterTimer dog.timer) w))
    else w
  | none => w

/-! ## The index of windows -/

def isOpen (w : World) (key : Key) : Bool := w.contains () key

/-- The window of a native handle, if it is still registered. -/
def find? (w : World) (native : NativeHandle) : Option Key :=
  (w.env.index.lookup native).filter (isOpen w)

def indexInsert (native : NativeHandle) (key : Key) (w : World) : World :=
  w.modifyEnv fun d => { d with index := (native, key) :: d.index.filter (·.1 ≠ native) }

def indexErase (native : NativeHandle) (w : World) : World :=
  w.modifyEnv fun d => { d with index := d.index.filter (·.1 ≠ native) }

end World

end Casement
