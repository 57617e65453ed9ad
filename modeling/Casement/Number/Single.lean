import Casement.Number.Binary

namespace Casement

open Number

/-- A single-precision number, kept as its word: words that are no number keep their payload. -/
structure Single where
  word : UInt32
  deriving DecidableEq, Repr, Inhabited

namespace Single

def ofFloat (x : Float32) : Single := ⟨x.toBits⟩

def toFloat (x : Single) : Float32 := Float32.ofBits x.word

def ofInt (n : Int) : Single := ofFloat (Float32.ofInt n)

def zero : Single := ⟨0⟩

def one : Single := ⟨0x3f800000⟩

/-- The largest finite magnitude, negated. -/
def lowest : Single := ⟨0xff7fffff⟩

instance : Add Single := ⟨fun a b => ofFloat (a.toFloat + b.toFloat)⟩

instance : Mul Single := ⟨fun a b => ofFloat (a.toFloat * b.toFloat)⟩

instance : Div Single := ⟨fun a b => ofFloat (a.toFloat / b.toFloat)⟩

def lt (a b : Single) : Bool := a.toFloat < b.toFloat

def datum (x : Single) : Datum := Format.single.decode x.word.toNat

def isNan (x : Single) : Bool :=
  match x.datum with
  | .nan _ => true
  | _ => false

/-- Restricts a number to an interval; what is no number stays so. -/
def clamp (lo hi x : Single) : Single :=
  if x.lt lo then lo else if hi.lt x then hi else x

/-- The nearest natural number, a half going up; anything negative or not a number gives zero. -/
def roundToNat (x : Single) : Nat :=
  match x.datum with
  | .finite false units => (2 * units + Nat.pow 2 Format.single.scale) / (2 * Nat.pow 2 Format.single.scale)
  | _ => 0

end Single

/-- A pair of single-precision numbers. -/
structure Vec2 where
  x : Single
  y : Single
  deriving DecidableEq, Repr, Inhabited

def Vec2.zero : Vec2 := ⟨.zero, .zero⟩

def Vec2.one : Vec2 := ⟨.one, .one⟩

end Casement
