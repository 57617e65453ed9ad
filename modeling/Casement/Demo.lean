import Casement.Config.File
import Casement.World.Lifecycle

/-!
# The demo

Opens the windows of a configuration on one host, replays a little input over the first of them,
shows frames for as many ticks as each window asks for, and lets the watchdog present frames and
retire windows that stopped showing any.
-/

namespace Casement.Demo

/-- How a run ends. -/
inductive Ending where
  | done
  | refused (message : String)
  | crashed (cause : Crash)
  deriving DecidableEq, Repr

def Ending.code : Ending → Nat
  | .done => 0
  | .refused _ => 1
  | .crashed _ => 101

/-- A window the demo opened. -/
structure Shown where
  key : Key
  title : String
  frames : UInt32
  deriving DecidableEq, Repr

/-- Collaborators that do nothing of their own. -/
def quiet : Reentry := fun _ _ w => w

def note (n : DemoNote) (w : World) : World := World.note (.demo n) w

/-- A world with one host. -/
def start (platform : Platform) : World where
  env := { bundles := [{ host := { platform } }] }

/-- Opens windows in order, up to the first that cannot be had. -/
def openAll (context : ContextConfig) : List WindowConfig → World → Except Ending (List Shown) × World
  | [], w => (.ok [], w)
  | c :: rest, w =>
    match World.openWindow quiet 0 context c.title c.x c.y c.width c.height w with
    | (.opened _ key, w) =>
      match openAll context rest w with
      | (.ok shown, w) => (.ok (⟨key, c.title, c.frames⟩ :: shown), w)
      | (.error e, w) => (.error e, w)
    | (.failed cause, w) => (.error (.refused ("Window error: " ++ cause.message)), w)
    | (.fault cause, w) => (.error (.crashed (.fault cause)), w)

def send (native : NativeHandle) (message : Message) (w : World) : World :=
  (World.dispatch quiet native message w).2

/-- The point a little inside a rectangle, if there is such a point. -/
def inside (r : Rect) : Except Crash Point :=
  if r.left.toInt + 20 ≤ Int32.maxValue.toInt then
    if r.top.toInt + 20 ≤ Int32.maxValue.toInt then .ok ⟨r.left + 20, r.top + 20⟩
    else .error (.outOfRange .y)
  else .error (.outOfRange .x)

/-- The input of a tick: a click shorter than a frame, a turn of the wheel, text, nothing more. -/
def input (native : NativeHandle) (tick : Nat) (w : World) : World :=
  match tick with
  | 0 => send native (.buttonUp .left) (send native (.buttonDown .left) w)
  | 1 => send native (.mouseWheel .vertical (-120)) w
  | 2 =>
    "Hi!".toList.foldl (fun w c => send native (.char c.val) w)
      (World.modifyHost 0 (·.setKey .shift true) w)
  | _ => World.modifyHost 0 (·.setKey .shift false) w

/-- Replays the input of a tick over a window, if it is still there; the pointer has to be put there
first. -/
def replay (first : Shown) (tick : Nat) (w : World) : Except Crash World :=
  match World.withWindow quiet first.key (fun o w => ((World.window w o).native, w)) w with
  | (none, w) => .ok w
  | (some native, w) =>
    (inside ((World.host w 0).rect native)).map fun p =>
      input native tick (World.modifyHost 0 ({ · with pointer := p }) w)

def replayFirst (shown : List Shown) (tick : Nat) (w : World) : Except Crash World :=
  match shown.head? with
  | some first => replay first tick w
  | none => .ok w

/-- Enters a window and reads the input its frame sees. -/
def enter (o : ObjectId) (w : World) : (Option Fault × Io) × World :=
  let (fault, w) := World.enterFrame quiet o w
  ((fault, (World.window w o).context.io), w)

/-- Shows a frame of a window, if it is still there. -/
def showFrame (tick : Nat) (w : World) (s : Shown) : Except Crash World :=
  match World.withWindow quiet s.key enter w with
  | (some (none, io), w) => .ok (note (.frame s.title tick io) w)
  | (some (some cause, _), _) => .error (.fault cause)
  | (none, w) => .ok w

/-- One tick of the watchdog with all that comes before it. -/
def tick (shown : List Shown) (t : Nat) (w : World) : Except Crash World :=
  let framed := (replayFirst shown t w).bind ((shown.filter (t < ·.frames.toNat)).foldlM (showFrame t))
  framed.map fun w =>
    let w := World.runTimers quiet 0 w
    note (.ticked t (w.count ())) w

/-- The ticks from `t` on, with the crash that ended them early. -/
def ticks (shown : List Shown) : (left t : Nat) → World → Option Crash × World
  | 0, _, w => (none, w)
  | left + 1, t, w =>
    match tick shown t w with
    | .ok w => ticks shown left (t + 1) w
    | .error cause => (some cause, w)

def closeAll (shown : List Shown) (w : World) : World :=
  shown.foldl (fun w s => (World.closeWindow quiet s.key w).2) w

/-- Drops what is left of the windows. -/
def dropAll (w : World) : World :=
  (w.keys none).foldl (fun w key => (w.unregister (World.disposal quiet) () key).2) w

/-- Breaks off: a crash is reported before the windows go. -/
def abort (e : Ending) (w : World) : Ending × World :=
  match e with
  | .crashed cause => (e, dropAll (note (.crashed cause) w))
  | _ => (e, dropAll w)

def perform (c : DemoConfig) (w : World) : Ending × World :=
  match openAll c.context c.windows w with
  | (.error e, w) => abort e w
  | (.ok shown, w) =>
    let w := note (.openedAll shown.length c.platform) w
    match ticks shown c.ticks.toNat 0 w with
    | (some cause, w) => abort (.crashed cause) w
    | (none, w) =>
      let stats := (World.bundle w 0).stats
      let w := note (.summary stats.presented stats.created (w.count ())) w
      (.done, closeAll shown w)

/-- What a run comes to: how it ends and what it logs. -/
structure Outcome where
  ending : Ending
  log : List LogRecord
  deriving DecidableEq, Repr

/-- Runs the demo on a configuration file, or without one on the defaults. -/
def run (path : Option String) (read : String → Except ConfigError DemoConfig) : Outcome :=
  let (opening, config) : DemoNote × Except ConfigError DemoConfig := match path with
    | some path => (.loading path, read path)
    | none => (.usingDefaults, .ok {})
  match config with
  | .error e =>
    let message := "Configuration error: " ++ e.message
    ⟨.refused message, [.demo opening, .demo (.failed message)]⟩
  | .ok c =>
    match perform c (start c.platform) with
    | (.refused message, w) =>
      ⟨.refused message, .demo opening :: w.env.log ++ [.demo (.failed message)]⟩
    | (ending, w) => ⟨ending, .demo opening :: w.env.log⟩

/-! ## Printing the log -/

/-- The least severe level to let through; none is let through without one. -/
abbrev Filter := Option Level

namespace Filter

def default : Filter := some .info

def ofName? : String → Option Filter
  | "off" => some none
  | "error" => some (some .error)
  | "warn" => some (some .warn)
  | "info" => some (some .info)
  | "debug" => some (some .debug)
  | "trace" => some (some .trace)
  | _ => none

/-- The report of a crash is let through always. -/
def admits (f : Filter) (r : LogRecord) : Bool := r.crash?.isSome || f.any fun l => r.level.rank ≤ l.rank

end Filter

/-- The lines of a text after the first are indented. -/
def indentLines (text : String) : String :=
  String.ofList (text.toList.flatMap fun c => if c = '\n' then "\n    ".toList else [c])

/-- A record as it is printed, without its time. How a crash is reported is not the program's choice:
`notice` says it. -/
def printed (notice : Crash → String) (r : LogRecord) : String :=
  match r.crash? with
  | some cause => notice cause
  | none => s!"{r.level.name} {r.target} " ++ indentLines r.text

/-- A record as the command line prints it: its level, filled up to five places, and its target in
brackets. -/
def bracketed (notice : Crash → String) (r : LogRecord) : String :=
  match r.crash? with
  | some cause => notice cause
  | none =>
    let fill := String.ofList (List.replicate (5 - r.level.name.length) ' ')
    s!"[{r.level.name}{fill} {r.target}] " ++ indentLines r.text

namespace Outcome

def lines (o : Outcome) (notice : Crash → String) (f : Filter) : List String :=
  (o.log.filter f.admits).map (printed notice)

def bracketedLines (o : Outcome) (notice : Crash → String) (f : Filter) : List String :=
  (o.log.filter f.admits).map (bracketed notice)

end Outcome

end Casement.Demo
