import Casement.SlotMap

/-!
# Scripted resources

Probes are resources of two kinds that do what they are told: they run steps at a heartbeat, when
they are retired and when they are dropped.
-/

namespace Casement.Probe

inductive Kind where
  | a
  | b
  deriving DecidableEq, Repr, Inhabited

/-- Where the key of a forged handle comes from. -/
inductive KeySource where
  | raw (word : UInt64)
  | name (name : String)
  deriving DecidableEq, Repr

inductive Step where
  | register (name : String) (kind : Kind) (retireAfter : Option Nat)
      (onBeat onRetire onDrop : List Step)
  | forge (name : String) (kind : Kind) (source : KeySource)
  | unregister (name : String)
  | contains (name : String)
  | within (name : String) (steps : List Step)
  | describe (name : String)
  | equal (name other : String)
  | distinct
  | count
  | keys (kind : Kind)
  | heartbeat (kind : Option Kind)
  | unknown (word : String)
  deriving Inhabited

/-- The word a step is called by. -/
def Step.word : Step → String
  | .register .. => "register"
  | .forge .. => "forge"
  | .unregister _ => "unregister"
  | .contains _ => "exists"
  | .within .. => "with"
  | .describe _ => "debug"
  | .equal .. => "equal"
  | .distinct => "distinct"
  | .count => "count"
  | .keys _ => "handles"
  | .heartbeat _ => "heartbeat"
  | .unknown word => word

inductive Reply where
  | nothing
  | unknown
  | flag (value : Bool)
  | key (key : Key)
  | keys (keys : List Key)
  | pair (a b : Nat)
  | described (handle key : String)
  | used (name : String) (beats : Nat) (replies : List Reply)
  deriving Inhabited

inductive Event where
  | beat (name : String) (beats : Nat) (retires : Bool)
  | retired (name : String)
  | dropped (name : String)
  | tooDeep
  | ran (word : String) (reply : Reply)

end Casement.Probe
