import Casement.Number.Shortest

/-!
# Writing numbers

A number is written with the fewest digits that read back as the same word; a `Layout` says where
the point goes.
-/

namespace Casement.Number

/-- The decisions a way of writing numbers makes. -/
structure Layout where
  /-- Whole numbers written positionally end in a point and a zero. -/
  wholePoint : Bool
  /-- Numbers from the first power of ten up to the second are written positionally, others with an
  exponent; none means that all are written positionally. -/
  positional : Option (Int × Int)
  /-- What is written for no number. -/
  nan : String
  deriving DecidableEq, Repr

namespace Decimal

/-- The power of ten of the first digit. -/
def magnitude (d : Decimal) : Int := d.exponent + (Nat.toDigits 10 d.digits).length - 1

def zeros (n : Nat) : List Char := List.replicate n '0'

/-- The digits with the point at its place. -/
def positionalText (wholePoint : Bool) (d : Decimal) : List Char :=
  let ds := Nat.toDigits 10 d.digits
  if 0 ≤ d.exponent then
    ds ++ zeros d.exponent.toNat ++ (if wholePoint then ['.', '0'] else [])
  else
    let places := (-d.exponent).toNat
    if places < ds.length then ds.take (ds.length - places) ++ '.' :: ds.drop (ds.length - places)
    else '0' :: '.' :: zeros (places - ds.length) ++ ds

/-- One digit before the point, and the power of ten. -/
def scientificText (d : Decimal) : List Char :=
  let tail := match Nat.toDigits 10 d.digits with
    | [] => []
    | [c] => [c]
    | c :: cs => c :: '.' :: cs
  tail ++ 'e' :: (toString d.magnitude).toList

def text (l : Layout) (d : Decimal) : List Char :=
  match l.positional with
  | none => d.positionalText l.wholePoint
  | some (lo, hi) =>
    if lo ≤ d.magnitude ∧ d.magnitude < hi then d.positionalText l.wholePoint
    else d.scientificText

end Decimal

/-- The text of a word. -/
def Format.write (f : Format) (l : Layout) (word : Nat) : String :=
  let sign (negative : Bool) : List Char := if negative then ['-'] else []
  match f.decode word with
  | .nan _ => l.nan
  | .infinite negative => String.ofList (sign negative ++ "inf".toList)
  | .finite negative 0 =>
    String.ofList (sign negative ++ '0' :: if l.wholePoint then ['.', '0'] else [])
  | .finite negative (_ + 1) =>
    String.ofList (sign negative ++ (f.shortest (word % f.signBit)).text l)

end Casement.Number
