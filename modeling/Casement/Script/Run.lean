import Casement.World.Lifecycle

/-!
# Running scripts
-/

namespace Casement

namespace World

variable (k : Reentry)

def slot? (w : World) (n : Nat) : Option WindowSlot := w.env.slots[n]?

/-- The handle a step means; an unknown slot has none. -/
def resolve (w : World) : Target → NativeHandle
  | .handle handle => handle
  | .slot n => ((slot? w n).map (·.native)).getD ⟨0⟩

def addSlot (s : WindowSlot) (w : World) : World := w.modifyEnv fun d => { d with slots := d.slots ++ [s] }

def keepAtlas (w : World) : World := w.modifyEnv fun d => { d with keptAtlases := d.keptAtlases + 1 }

/-- A step on a host that exists. -/
def runHostStep (h : Nat) (step : HostStep) (w : World) : Reply × World :=
  let s := host w h
  match step with
  | .runTimers => (.nothing, runTimers k h w)
  | .send window message =>
    let (result, w) := dispatch k (resolve w window) message w
    (.messageResult result, w)
  | .sendAccel window code down =>
    let (answer, w) := sendAccel k h ⟨resolve w window, code, down⟩ w
    (.accel answer, w)
  | .addChild parent rect =>
    (.handle (some s.freshHandle), modifyHost h (·.addChild (resolve w parent) rect) w)
  | .createNative title rect =>
    if s.refusesWindows then (.handle none, w)
    else (.handle (some s.freshHandle), modifyHost h (·.addWindow title rect) w)
  | .destroyNative window => (.nothing, destroyNative k h (resolve w window) w)
  | .refuseWindows on => (.nothing, modifyHost h ({ · with refusesWindows := on }) w)
  | .movePointer pos => (.point pos, modifyHost h ({ · with pointer := pos }) w)
  | .setKey code down => (.flag down, modifyHost h (·.setKey code down) w)
  | .setTheme color value => (.nothing, modifyHost h (·.setThemeColor value color) w)
  | .themeColor color => (.word (s.themeColor color), w)
  | .setCapture window => (.nothing, modifyHost h (·.setCapture (resolve w window)) w)
  | .releaseCapture => (.nothing, modifyHost h .releaseCapture w)
  | .viewInfo window =>
    let v := resolve w window
    (.viewInfo ⟨s.isWindow v, s.isVisible v, s.title v, s.rect v, s.hasAccelerator v⟩, w)
  | .setTitle window title => (.nothing, modifyHost h (·.setTitle (resolve w window) title) w)
  | .setRect window rect => (.nothing, modifyHost h (·.setRect (resolve w window) rect) w)
  | .setVisible window on => (.nothing, modifyHost h (·.setVisible (resolve w window) on) w)
  | .viewAt pos => (.handle (s.viewAt? pos), w)
  | .toClient window pos => (.point (s.toClient (resolve w window) pos), w)
  | .isChild parent child =>
    (((s.liesIn? (resolve w parent) (resolve w child)).map .flag).getD .endless, w)
  | .errors => (.texts s.errors, w)
  | .report text => (.nothing, modifyHost h (·.reportError text) w)
  | .setGuiCursor cursor => (.nothing, modifyGui h ({ · with cursor }) w)
  | .injectError text => (.nothing, modifyGui h (·.inject text) w)
  | .captureKeyboard on => (.nothing, modifyGui h ({ · with capturesKeyboard := on }) w)
  | .guiState => (.guiState (bundle w h).gui, w)
  | .lastFrame => (.lastFrame (bundle w h).stats, w)
  | .failCreation on => (.nothing, modifyBundle h ({ · with failsCreation := on }) w)
  | .consume kinds => (.nothing, modifyBundle h ({ · with consumed := kinds }) w)
  | .deferDestroy on => (.nothing, modifyBundle h ({ · with defers := on }) w)
  | .flushDestroy =>
    let queued := (bundle w h).deferred
    let w := modifyBundle h ({ · with deferred := [] }) w
    (.handles queued, queued.foldl (fun w native => destroyNative k h native w) w)

/-- Answers a fault, or else what a step was after. -/
def faultOr (fault : Option Fault) (reply : Reply) : Reply :=
  match fault with
  | some cause => .fault cause
  | none => reply

/-- A step on a borrowed window. -/
def runWindowStep (o : ObjectId) (step : WindowStep) (w : World) : Reply × World :=
  let win := window w o
  let s := host w win.host
  match step with
  | .enterFrame =>
    let (fault, w) := enterFrame k o w
    (faultOr fault .nothing, w)
  | .endFrame render => (.nothing, endFrame k o render w)
  | .frame render =>
    match enterFrame k o w with
    | (some cause, w) => (.fault cause, w)
    | (none, w) => (.io (window w o).context.io, endFrame k o render w)
  | .io => (.io win.context.io, w)
  | .keyMap => (.keyMap win.context.io.keyMap, w)
  | .isKeyDown code => (.flag (win.context.io.isKeyDown code.toNat), w)
  | .native => (.handle (some win.native), w)
  | .requestClose => (.nothing, w.update o fun win => { win with closeRequested := true })
  | .clearColor => (.color win.clearColor, w)
  | .setClearColor color => (.nothing, w.update o fun win => { win with clearColor := color })
  | .title => (.text (s.title win.native), w)
  | .setTitle title => (.nothing, modifyHost win.host (·.setTitle win.native title) w)
  | .rect => (.rect (s.rect win.native), w)
  | .setRect rect => (.nothing, modifyHost win.host (·.setRect win.native rect) w)
  | .setVisible on => (.nothing, modifyHost win.host (·.setVisible win.native on) w)
  | .mouseDown button => (.nothing, mouseDown o button w)
  | .mouseUp button => (.nothing, mouseUp o button w)
  | .mouseWheel axis delta => (.nothing, w.update o (·.turnWheel axis delta))
  | .keyInput code down => (.nothing, w.update o (·.keyInput code down))
  | .charInput codepoint => (.nothing, w.update o (·.charInput codepoint))
  | .updateCursor => (.nothing, updateCursor o w)
  | .atlas => (.atlas w.env.atlas.value, w)
  | .sameAtlas => (.flag (w.env.atlas.isAlive && w.env.atlas.generation = win.atlas), w)
  | .keepAtlas => (.nothing, keepAtlas (w.modifyEnv fun d => { d with atlas := d.atlas.retain }))
  | .contextNewFrame =>
    let (fault, w) := newFrame k o w
    (faultOr fault .nothing, w)
  | .contextRender =>
    let (data, w) := renderFrame o w
    (.draw data, w)
  | .contextEndFrame => (.nothing, discardFrame o w)
  | .contextStyle style =>
    (.nothing, (call win.host (.setStyle style) w).update o fun win =>
      { win with context := { win.context with style } })
  | .resizeKeys count => (.nothing, w.update o (·.modifyIo (·.resizeKeys count)))
  | .wantKeyboard on => (.nothing, w.update o (·.modifyIo ({ · with wantsKeyboard := on })))
  | .setWheel wheel => (.nothing, w.update o (·.modifyIo ({ · with wheel })))
  | .unknown => (.unknown, w)

def hasHost (w : World) (h : Nat) : Bool := h < w.env.bundles.length

mutual

/-- Runs a step; `current` is the window borrowed by the step directly around it. -/
def runStep (current : Option ObjectId) : Step → World → Reply × World
  | .openWindow h config title x y width height, w =>
    if hasHost w h then
      match openWindow k h config title x y width height w with
      | (.opened native key, w) =>
        (.opened w.env.slots.length native key, addSlot ⟨h, native, key⟩ w)
      | (.failed cause, w) => (.failed cause, w)
      | (.fault cause, w) => (.fault cause, w)
    else (.unknown, w)
  | .adopt h raw, w =>
    if hasHost w h then
      let key := Key.ofRaw raw
      let (native, w) := withWindow k key (fun o w => ((window w o).native, w)) w
      (.adopted w.env.slots.length native (isOpen w key), addSlot ⟨h, native.getD ⟨0⟩, key⟩ w)
    else (.unknown, w)
  | .close n, w =>
    match slot? w n with
    | none => (.unknown, w)
    | some s =>
      let (closed, w) := closeWindow k s.key w
      (.flag closed, w)
  | .unregister n, w =>
    match slot? w n with
    | none => (.unknown, w)
    | some s =>
      let (found, w) := w.unregister (disposal k) () s.key
      (.flag found, w)
  | .contains n, w =>
    match slot? w n with
    | none => (.unknown, w)
    | some s => (.flag (isOpen w s.key), w)
  | .count, w => (.number (w.count ()), w)
  | .all, w => (.keys (w.keys (some ())), w)
  | .find window, w => (.key (find? w (resolve w window)), w)
  | .heartbeat, w => (.nothing, heartbeat k w)
  | .tick, w => (.nothing, heartbeat k w)
  | .dispatch window message, w =>
    let (result, w) := dispatch k (resolve w window) message w
    (.messageResult result, w)
  | .accel registered target code down, w =>
    let (answer, w) := routeKey k (resolve w registered) ⟨resolve w target, code, down⟩ w
    (.accel answer, w)
  | .holdAtlas, w => (.nothing, keepAtlas (acquireAtlas w))
  | .dropAtlas, w =>
    if w.env.keptAtlases = 0 then (.flag false, w)
    else (.flag true, (releaseAtlas w).modifyEnv fun d => { d with keptAtlases := d.keptAtlases - 1 })
  | .currentAtlas, w => (.atlas w.env.atlas.value, w)
  | .editAtlas edit, w =>
    match w.env.atlas.value with
    | none => (.inaccessible, w)
    | some a =>
      let (font, a) := a.edit edit
      (.edited font, w.modifyEnv fun d =>
        { d with atlas := { d.atlas with value := some a }, edits := d.edits ++ [edit] })
  | .holdWatchdog h, w =>
    if hasHost w h then
      (.nothing, (acquireWatchdog h w).modifyEnv fun d => { d with keptWatchdogs := d.keptWatchdogs + 1 })
    else (.unknown, w)
  | .dropWatchdog, w =>
    if w.env.keptWatchdogs = 0 then (.flag false, w)
    else
      (.flag true,
        (releaseWatchdog w).modifyEnv fun d => { d with keptWatchdogs := d.keptWatchdogs - 1 })
  | .host h step, w => if hasHost w h then runHostStep k h step w else (.unknown, w)
  | .window .current step, w =>
    match current with
    | none => (.unknown, w)
    | some o => runWindowStep k o step w
  | .window (.slot n) step, w =>
    match slot? w n with
    | none => (.unknown, w)
    | some s =>
      let (reply, w) := withWindow k s.key (fun o w => runWindowStep k o step w) w
      (reply.getD .inaccessible, w)
  | .within n steps, w =>
    match slot? w n with
    | none => (.unknown, w)
    | some s =>
      let (replies, w) := withWindow k s.key (fun o w => runSteps (some o) steps w) w
      ((replies.map .many).getD .nothing, w)
  | .hook h point steps, w =>
    if hasHost w h then
      (.nothing, modifyBundle h (fun b => { b with hooks := b.hooks ++ [(point, steps)] }) w)
    else (.unknown, w)

def runSteps (current : Option ObjectId) : List Step → World → List Reply × World
  | [], w => ([], w)
  | s :: rest, w =>
    let (reply, w) := runStep current s w
    let (replies, w) := runSteps current rest w
    (reply :: replies, w)

end

/-- The first list left for a point, and the lists that stay. -/
def takeHook (point : HookPoint) : List (HookPoint × List Step) →
    Option (List Step × List (HookPoint × List Step))
  | [] => none
  | (p, steps) :: rest =>
    if p = point then some (steps, rest)
    else (takeHook point rest).map fun (found, others) => (found, (p, steps) :: others)

/-- Collaborators that run the lists left with their host, one list a call, at most `n` within one
another. -/
def scripted : Nat → Reentry
  | 0, _, _, w => w
  | n + 1, h, point, w =>
    match takeHook point (bundle w h).hooks with
    | none => w
    | some (steps, rest) =>
      let w := modifyBundle h (fun b => { b with hooks := rest }) w
      let (replies, w) := runSteps (scripted n) none steps w
      traced (.hook h point replies) w

end World

end Casement
