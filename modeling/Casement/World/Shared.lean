namespace Casement

/-- A value that lives while somebody owns it. Values that follow one another are told apart by
their generation. -/
structure Shared (α : Type) where
  value : Option α := none
  owners : Nat := 0
  generation : Nat := 0
  deriving DecidableEq, Repr, Inhabited

namespace Shared

variable {α : Type}

def isAlive (s : Shared α) : Bool := s.value.isSome

/-- Another owner for a value that lives. -/
def retain (s : Shared α) : Shared α := { s with owners := s.owners + 1 }

/-- A new value with one owner. -/
def start (s : Shared α) (value : α) : Shared α := ⟨some value, 1, s.generation + 1⟩

/-- One owner less; the last one takes the value along. -/
def release (s : Shared α) : Shared α :=
  if s.owners ≤ 1 then { s with value := none, owners := 0 } else { s with owners := s.owners - 1 }

/-- Whether the value goes with the next owner. -/
def isLast (s : Shared α) : Bool := s.owners ≤ 1

end Shared

end Casement
