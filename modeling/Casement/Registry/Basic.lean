import Casement.SlotMap

/-!
# The registry

Resources of several kinds are registered under versioned keys. The registry owns what it holds;
a call that works on a resource owns it too until it returns, so that a resource unregistered in
the meantime goes only when the last owner lets go. At most one call at a time has a resource
borrowed.

What resources do is not known here: `Disposal` and `Conduct` say it, as changes of the whole
registry, because whatever a resource does may come back and use the registry.
-/

namespace Casement

/-- Resources are numbered in the order of their registration. -/
abbrev ObjectId := Nat

structure Entry (κ : Type) where
  kind : κ
  object : ObjectId
  deriving DecidableEq, Repr

structure Cell (α : Type) where
  value : α
  owners : Nat
  borrowed : Bool
  deriving DecidableEq, Repr

/-- Resources `α` of kinds `κ` in surroundings `ε`. Cells stay when their resource has gone. -/
structure Registry (κ α ε : Type) where
  entries : SlotMap (Entry κ) := {}
  cells : List (Cell α) := []
  dropped : List ObjectId := []
  env : ε

/-- What a call wanted of a resource that was in use. -/
inductive Access where
  | use
  | heartbeat
  deriving DecidableEq, Repr

/-- How resources go, and what is done when one is found in use. -/
structure Disposal (κ α ε : Type) where
  drop : ObjectId → Registry κ α ε → Registry κ α ε
  busy : Access → Key → ε → ε

/-- How resources live: a heartbeat tells whether the resource is to be retired. -/
structure Conduct (κ α ε : Type) extends Disposal κ α ε where
  beat : ObjectId → Registry κ α ε → Bool × Registry κ α ε
  retire : ObjectId → Registry κ α ε → Registry κ α ε

namespace Registry

variable {κ α ε β : Type} [DecidableEq κ]

def modifyEnv (r : Registry κ α ε) (f : ε → ε) : Registry κ α ε := { r with env := f r.env }

def modifyCell (r : Registry κ α ε) (o : ObjectId) (f : Cell α → Cell α) : Registry κ α ε :=
  { r with cells := r.cells.modify o f }

def value? (r : Registry κ α ε) (o : ObjectId) : Option α := r.cells[o]?.map (·.value)

def update (r : Registry κ α ε) (o : ObjectId) (f : α → α) : Registry κ α ε :=
  r.modifyCell o fun c => { c with value := f c.value }

def isBorrowed (r : Registry κ α ε) (o : ObjectId) : Bool := (r.cells[o]?.map (·.borrowed)).getD false

def setBorrowed (r : Registry κ α ε) (o : ObjectId) (borrowed : Bool) : Registry κ α ε :=
  r.modifyCell o fun c => { c with borrowed }

def retain (r : Registry κ α ε) (o : ObjectId) : Registry κ α ε :=
  r.modifyCell o fun c => { c with owners := c.owners + 1 }

/-- Gives up an ownership; a resource that nobody owns any longer is dropped. -/
def release (d : Disposal κ α ε) (o : ObjectId) (r : Registry κ α ε) : Registry κ α ε :=
  let r := r.modifyCell o fun c => { c with owners := c.owners - 1 }
  if r.cells[o]?.any (·.owners = 0) then d.drop o { r with dropped := o :: r.dropped } else r

def register (r : Registry κ α ε) (kind : κ) (value : α) : Key × Registry κ α ε :=
  (r.entries.nextKey,
    { r with
      entries := r.entries.insert ⟨kind, r.cells.length⟩
      cells := r.cells ++ [⟨value, 1, false⟩] })

/-- Whether an entry is of the kind asked for, any kind being right when none is. -/
def matchesKind (kind : Option κ) (e : Entry κ) : Bool := kind.all (· = e.kind)

/-- The resource under a key, if it is of the kind asked for. -/
def find? (r : Registry κ α ε) (kind : Option κ) (key : Key) : Option ObjectId :=
  ((r.entries.get? key).filter (matchesKind kind)).map (·.object)

def contains (r : Registry κ α ε) (kind : κ) (key : Key) : Bool := (r.find? (some kind) key).isSome

/-- The keys of the resources of a kind, by index. -/
def keys (r : Registry κ α ε) (kind : Option κ) : List Key :=
  (r.entries.toList.filter fun (_, e) => matchesKind kind e).map (·.1)

def count (r : Registry κ α ε) (kind : κ) : Nat :=
  (r.entries.toList.filter fun (_, e) => matchesKind (some kind) e).length

/-- Tells whether there was such a resource. -/
def unregister (d : Disposal κ α ε) (kind : κ) (key : Key) (r : Registry κ α ε) :
    Bool × Registry κ α ε :=
  match r.find? (some kind) key with
  | some o => (true, release d o { r with entries := r.entries.erase key })
  | none => (false, r)

/-- Runs a body on a resource while it is borrowed. A stale key, a key of another kind and a
resource in use give nothing. -/
def access (d : Disposal κ α ε) (kind : κ) (key : Key)
    (body : ObjectId → Registry κ α ε → β × Registry κ α ε) (r : Registry κ α ε) :
    Option β × Registry κ α ε :=
  match r.find? (some kind) key with
  | none => (none, r)
  | some o =>
    if r.isBorrowed o then (none, r.modifyEnv (d.busy .use key))
    else
      let (b, r) := body o ((r.retain o).setBorrowed o true)
      (some b, release d o (r.setBorrowed o false))

/-- One resource's part in a pass: its heartbeat while it is borrowed, its retirement afterwards. -/
def turn (c : Conduct κ α ε) (kind : Option κ) (r : Registry κ α ε) (key : Key) :
    Registry κ α ε :=
  match r.find? kind key with
  | none => r
  | some o =>
    if r.isBorrowed o then r.modifyEnv (c.busy .heartbeat key)
    else
      let (retires, r) := c.beat o ((r.retain o).setBorrowed o true)
      let r := r.setBorrowed o false
      release c.toDisposal o (if retires then c.retire o r else r)

/-- Gives the resources of a kind that are registered now one turn each. -/
def pass (c : Conduct κ α ε) (kind : Option κ) (r : Registry κ α ε) : Registry κ α ε :=
  (r.keys kind).foldl (turn c kind) r

end Registry

end Casement
