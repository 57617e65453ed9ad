import Casement.Log
import Casement.Probe.Step
import Casement.Registry.Basic

namespace Casement

structure Probe where
  name : String
  beats : Nat := 0
  retireAfter : Option Nat
  onBeat : List Probe.Step
  onRetire : List Probe.Step
  onDrop : List Probe.Step
  deriving Inhabited

namespace Probe

/-- The surroundings of probes: what names stand for, and what has happened. -/
structure Bench where
  names : List (String × Kind × Key) := []
  events : List Event := []
  log : List LogRecord := []

abbrev Lab := Registry Kind Probe Bench

/-- How a list of steps of a probe is run. -/
abbrev Reentry := List Step → Lab → Lab

namespace Lab

def probe (l : Lab) (o : ObjectId) : Probe := (l.value? o).getD default

def push (l : Lab) (e : Event) : Lab := l.modifyEnv fun b => { b with events := b.events ++ [e] }

def lookup? (l : Lab) (name : String) : Option (Kind × Key) := l.env.names.lookup name

def bind (l : Lab) (name : String) (kind : Kind) (key : Key) : Lab :=
  l.modifyEnv fun b => { b with names := (name, kind, key) :: b.names.filter (·.1 ≠ name) }

def busy (access : Access) (key : Key) (b : Bench) : Bench :=
  { b with log := b.log ++ [match access with | .use => .busyAccess key | .heartbeat => .busyHeartbeat key] }

end Lab

def beat (k : Reentry) (o : ObjectId) (l : Lab) : Bool × Lab :=
  let l := l.update o fun p => { p with beats := p.beats + 1 }
  let p := Lab.probe l o
  let retires := p.retireAfter.any (· ≤ p.beats)
  (retires, k p.onBeat (Lab.push l (.beat p.name p.beats retires)))

def retire (k : Reentry) (o : ObjectId) (l : Lab) : Lab :=
  let p := l.probe o
  k p.onRetire (l.push (.retired p.name))

def drop (k : Reentry) (o : ObjectId) (l : Lab) : Lab :=
  let p := l.probe o
  k p.onDrop (l.push (.dropped p.name))

def conduct (k : Reentry) : Conduct Kind Probe Bench where
  drop := drop k
  busy := Lab.busy
  beat := beat k
  retire := retire k

/-- The text of a handle, of any kind. -/
def handleText (key : Key) : String := "ResourceHandle(" ++ LogRecord.keyText key ++ ")"

def distinctKeys (l : Lab) (kind : Kind) : Nat :=
  ((l.env.names.filter (·.2.1 = kind)).map (·.2.2)).eraseDups.length

mutual

def Step.run (k : Reentry) : Step → Lab → Reply × Lab
  | .register name kind retireAfter onBeat onRetire onDrop, l =>
    let (key, l) := l.register kind { name, retireAfter, onBeat, onRetire, onDrop }
    (.key key, Lab.bind l name kind key)
  | .forge name kind source, l =>
    let key := match source with
      | .raw word => Key.ofRaw word
      | .name other => ((Lab.lookup? l other).map (·.2)).getD (Key.ofRaw 0)
    (.key key, Lab.bind l name kind key)
  | .unregister name, l =>
    match Lab.lookup? l name with
    | none => (.unknown, l)
    | some (kind, key) =>
      let (found, l) := l.unregister (conduct k).toDisposal kind key
      (.flag found, l)
  | .contains name, l =>
    match Lab.lookup? l name with
    | none => (.unknown, l)
    | some (kind, key) => (.flag (l.contains kind key), l)
  | .within name steps, l =>
    match Lab.lookup? l name with
    | none => (.unknown, l)
    | some (kind, key) =>
      let (reply, l) := l.access (conduct k).toDisposal kind key
        fun o l =>
          let (replies, l) := Step.runAll k steps l
          let p := Lab.probe l o
          (Reply.used p.name p.beats replies, l)
      (reply.getD .nothing, l)
  | .describe name, l =>
    match Lab.lookup? l name with
    | none => (.unknown, l)
    | some (_, key) => (.described (handleText key) (LogRecord.keyText key), l)
  | .equal name other, l => (.flag (Lab.lookup? l name = Lab.lookup? l other), l)
  | .distinct, l => (.pair (distinctKeys l .a) (distinctKeys l .b), l)
  | .count, l => (.pair (l.count .a) (l.count .b), l)
  | .keys kind, l => (.keys (l.keys (some kind)), l)
  | .heartbeat kind, l => (.nothing, l.pass (conduct k) kind)
  | .unknown _, l => (.unknown, l)

def Step.runAll (k : Reentry) : List Step → Lab → List Reply × Lab
  | [], l => ([], l)
  | s :: rest, l =>
    let (reply, l) := s.run k l
    let (replies, l) := Step.runAll k rest l
    (reply :: replies, l)

end

/-- Runs the steps of a probe, each followed by a record of its reply. -/
def runRecorded (k : Reentry) (steps : List Step) (l : Lab) : Lab :=
  steps.foldl (fun l s => let (reply, l) := s.run k l; Lab.push l (.ran s.word reply)) l

/-- Lists of steps run within one another at most `n` deep. -/
def nested : Nat → Reentry
  | _, [], l => l
  | 0, _ :: _, l => Lab.push l .tooDeep
  | n + 1, s :: rest, l => runRecorded (nested n) (s :: rest) l

/-- How deep lists of steps may run within one another. -/
def depth : Nat := 4

/-- What a step answered, and what happened during it. -/
structure Report where
  reply : Reply
  events : List Event
  log : List LogRecord

def runReported (l : Lab) (s : Step) : Report × Lab :=
  let (reply, after) := s.run (nested depth) l
  ({ reply
     events := after.env.events.drop l.env.events.length
     log := after.env.log.drop l.env.log.length }, after)

/-- Runs a script on an empty registry. -/
def runScript (steps : List Step) : List Report × Lab :=
  steps.foldl (fun (reports, l) s => let (report, l) := runReported l s; (reports ++ [report], l))
    ([], { env := {} })

end Probe

end Casement
