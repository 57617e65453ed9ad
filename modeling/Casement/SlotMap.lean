/-!
# Tables with versioned keys

A key names a slot and the version it was handed out at. Erasing a value or filling a slot again
raises the slot's version, so a key that outlived its value finds nothing. Freed slots are filled
again, the last freed first.
-/

namespace Casement

structure Key where
  index : Nat
  version : Nat
  deriving DecidableEq, Repr, Inhabited

namespace Key

/-- A key as one word. -/
def raw (k : Key) : UInt64 := UInt64.ofNat (k.version * UInt32.size + k.index)

/-- Reads any word as a key; versions of keys are odd. -/
def ofRaw (raw : UInt64) : Key :=
  let version := raw.toNat / UInt32.size
  ⟨raw.toNat % UInt32.size, version + (version + 1) % 2⟩

/-- The highest index stands for no slot. -/
def text (k : Key) : String :=
  if k.index = UInt32.size - 1 then "null" else s!"{k.index}v{k.version}"

end Key

/-- A slot is filled exactly at odd versions. -/
structure SlotMap.Slot (α : Type) where
  version : Nat
  value : Option α
  deriving DecidableEq, Repr

/-- Slot `i` of the table is the element `i - 1` of `slots`: index zero is not used. -/
structure SlotMap (α : Type) where
  slots : List (SlotMap.Slot α) := []
  free : List Nat := []
  deriving DecidableEq, Repr, Inhabited

namespace SlotMap

variable {α : Type}

def slot? (m : SlotMap α) (index : Nat) : Option (Slot α) :=
  if index = 0 then none else m.slots[index - 1]?

def get? (m : SlotMap α) (k : Key) : Option α :=
  match m.slot? k.index with
  | some s => if s.version = k.version then s.value else none
  | none => none

/-- The key the next value gets. -/
def nextKey (m : SlotMap α) : Key :=
  match m.free with
  | index :: _ => ⟨index, ((m.slot? index).map (·.version + 1)).getD 1⟩
  | [] => ⟨m.slots.length + 1, 1⟩

def insert (m : SlotMap α) (value : α) : SlotMap α :=
  match m.free with
  | index :: rest => ⟨m.slots.set (index - 1) ⟨m.nextKey.version, some value⟩, rest⟩
  | [] => { m with slots := m.slots ++ [⟨1, some value⟩] }

/-- Leaves the table as it is where the key finds nothing. -/
def erase (m : SlotMap α) (k : Key) : SlotMap α :=
  match m.get? k with
  | some _ => ⟨m.slots.set (k.index - 1) ⟨k.version + 1, none⟩, k.index :: m.free⟩
  | none => m

/-- The filled slots from `index` on. -/
def listFrom (index : Nat) : List (Slot α) → List (Key × α)
  | [] => []
  | ⟨version, some value⟩ :: rest => (⟨index, version⟩, value) :: listFrom (index + 1) rest
  | ⟨_, none⟩ :: rest => listFrom (index + 1) rest

/-- The keys with their values, by index. -/
def toList (m : SlotMap α) : List (Key × α) := listFrom 1 m.slots

end SlotMap

end Casement
