import Casement.World.Frame

/-!
# Opening, destroying and retiring windows
-/

namespace Casement.World

variable (k : Reentry)

/-! ## The end of a window -/

/-- The GUI of a window goes, and with it its hold on the atlas. -/
def dropContext (h : Nat) (w : World) : World := releaseAtlas (call h .dropContext w)

/-- A window nobody owns: it leaves the accelerators, discards an open frame and releases its own
capture; then its renderer, its GUI, its hold on the atlas and its hold on the watchdog go. -/
def dropWindow (o : ObjectId) (w : World) : World :=
  let h := (window w o).host
  let native := (window w o).native
  let w := modifyHost h (·.removeAccelerator native) (call h (.unregisterAccelerator native) w)
  let w := if (window w o).inFrame then endFrame k o false w else w
  let w :=
    if (host w h).capture = some native then modifyHost h .releaseCapture (call h .releaseCapture w)
    else w
  let w := k h .drop (call h (.dropBackend native) w)
  let w := modifyStats h (fun s => { s with dropped := s.dropped + 1 }) w
  releaseWatchdog (releaseAtlas (dropContext h w))

def disposal : Disposal Unit Window Desk where
  drop := dropWindow k
  busy := busy

/-- Runs a body on a window while it is borrowed. -/
def withWindow {β : Type} (key : Key) (body : ObjectId → World → β × World) (w : World) :
    Option β × World :=
  w.access (disposal k) () key body

/-- Takes a window out of the index and the registry. -/
def destroy (native : NativeHandle) (w : World) : World :=
  match w.env.index.lookup native with
  | none => w
  | some key =>
    let (found, w) := (indexErase native w).unregister (disposal k) () key
    if found then note (.destroyed native) w else w

/-- Hands a message to the window of a native handle. A window in use leaves it to the host; its
destruction is carried out all the same. -/
def dispatch (native : NativeHandle) (message : Message) (w : World) : MessageResult × World :=
  match find? w native with
  | none => (.default, w)
  | some key =>
    let w := note (.dispatching message native) w
    match withWindow k key (fun o w => deliver k o message w) w with
    | (some (.answered result), w) => (result, w)
    | (some .destroys, w) => (.handled, destroy k native w)
    | (none, w) =>
      if message = .destroy then (.handled, destroy k native (note (.destroyedBusy native) w))
      else (.default, note (.leftToHost native message) w)

/-- A host destroys one of its native windows, telling its window first. -/
def destroyNative (h : Nat) (native : NativeHandle) (w : World) : World :=
  if (host w h).isWindow native then
    modifyHost h (·.removeView native) (dispatch k native .destroy w).2
  else w

/-- A window asks its host to destroy a native window; a host that defers only queues it. -/
def requestDestroy (h : Nat) (native : NativeHandle) (w : World) : World :=
  let w := call h (.destroyWindow native) w
  if (bundle w h).defers then modifyBundle h (fun b => { b with deferred := b.deferred ++ [native] }) w
  else destroyNative k h native w

/-- Closes a window through its host; one that is gone or in use cannot be closed. -/
def closeWindow (key : Key) (w : World) : Bool × World :=
  match withWindow k key (fun o w => (((window w o).host, (window w o).native), w)) w with
  | (some (h, native), w) => (true, requestDestroy k h native w)
  | (none, w) => (false, w)

/-! ## Heartbeats -/

/-- Presents an open frame. A window that was asked to close, or that nobody entered since the last
heartbeat, is retired. -/
def beat (o : ObjectId) (w : World) : Bool × World :=
  let win := window w o
  let (retires, w) : Bool × World :=
    if win.closeRequested then (true, w.update o fun win => { win with closeRequested := false })
    else if win.inFrame then (false, endFrame k o true w)
    else (!win.keepAlive, w)
  let w := w.update o fun win => { win with keepAlive := false }
  (retires, if retires then note (.retiring win.native) w else w)

def retire (o : ObjectId) (w : World) : World :=
  requestDestroy k (window w o).host (window w o).native w

def conduct : Conduct Unit Window Desk where
  toDisposal := disposal k
  beat := beat k
  retire := retire k

/-- A heartbeat for every window. -/
def heartbeat (w : World) : World := w.pass (conduct k) none

/-- Every timer of a host is the watchdog's, and gives every window a heartbeat. -/
def runTimers (h : Nat) (w : World) : World :=
  (host w h).timers.foldl (fun w _ => heartbeat k w) w

/-! ## Opening -/

/-- What came of opening a window. -/
inductive Opening where
  | opened (window : NativeHandle) (key : Key)
  | failed (cause : WindowError)
  | fault (cause : Fault)
  deriving DecidableEq, Repr

/-- The GUI of a new window. -/
def newContext (config : ContextConfig) (platform : Platform) : Context where
  style := config.style
  io :=
    { ({} : Io) with
      iniFile := none
      drawsCursor := true
      platformName := some config.platformName
      keyMap := platform.keyMap }

/-- Gives up what a window that is not to be had already holds. -/
def abandon (w : World) : World := releaseWatchdog (releaseAtlas w)

def openWindow (h : Nat) (config : ContextConfig) (title : String) (x y width height : Int32)
    (w : World) : Opening × World :=
  let platform := (host w h).platform
  let w := acquireAtlas (acquireAtlas (acquireWatchdog h w))
  let w := modifyGui h (fun g => { g with contexts := g.contexts + 1 }) (call h .createContext w)
  let w := call h (.setStyle config.style) w
  let clearColor := Color.ofTheme (host w h).background platform
  if (host w h).refusesWindows then
    (.fault .noNativeWindow, abandon (dropContext h (call h (.createWindow none) w)))
  else
    let native := (host w h).freshHandle
    let w := modifyHost h (·.addWindow title (.ofPosSize x y width height)) w
    let w := call h (.createWindow (some native)) w
    let w := k h .createBackend (call h (.createBackend native) w)
    if (bundle w h).failsCreation then
      let cause : BackendError := ⟨native, platform⟩
      let w := dropContext h (note (.backendFailed title cause) w)
      (.failed (.backend cause), abandon (requestDestroy k h native w))
    else
      let w := modifyStats h (fun s => { s with created := s.created + 1 }) w
      let w := note (.backendBound native) w
      let (key, w) := w.register () {
        host := h
        native
        platform
        clearColor
        notch := config.wheelDelta.getD platform.wheelNotch
        context := newContext config platform
        atlas := w.env.atlas.generation }
      let w := indexInsert native key w
      let w := modifyHost h (·.addAccelerator native) (call h (.registerAccelerator native) w)
      (.opened native key, note (.opened native title x y width height) w)

/-! ## Accelerators -/

/-- A key offered to the window of a registered handle; only keys for it or a view in it count. -/
def routeKey (registered : NativeHandle) (message : KeyMessage) (w : World) : Accel × World :=
  match find? w registered with
  | none => (.notOurs, w)
  | some key =>
    let (answer, w) := withWindow k key (fun o w =>
      let win := window w o
      if message.target ≠ win.native && !(host w win.host).isChild win.native message.target then
        (Accel.notOurs, w)
      else
        let w := k win.host .routeKey (call win.host (.routeKey win.native) w)
        (if (window w o).context.io.wantsKeyboard then .eat else .passToHost, w)) w
    (answer.getD .notOurs, w)

/-- Offers a key to the listening windows of a host until one takes it. -/
def offerAccel (message : KeyMessage) : List NativeHandle → World → Accel × World
  | [], w => (.notOurs, w)
  | registered :: rest, w =>
    match routeKey k registered message w with
    | (.notOurs, w) => offerAccel message rest w
    | taken => taken

def sendAccel (h : Nat) (message : KeyMessage) (w : World) : Accel × World :=
  offerAccel k message (host w h).accelerators w

end Casement.World
