import Casement.Number.Binary

/-!
# Reading numbers
-/

namespace Casement.Number

/-- The value of a digit, letters of either case counting on from nine. -/
def digit? (base : Nat) (c : Char) : Option Nat :=
  let value :=
    if '0' ≤ c ∧ c ≤ '9' then c.toNat - '0'.toNat
    else if 'a' ≤ c ∧ c ≤ 'z' then c.toNat - 'a'.toNat + 10
    else if 'A' ≤ c ∧ c ≤ 'Z' then c.toNat - 'A'.toNat + 10
    else base
  if value < base then some value else none

def isDigit (base : Nat) (c : Char) : Bool := (digit? base c).isSome

/-- The number that digits stand for; characters that are none count as zero. -/
def ofDigits (base : Nat) (cs : List Char) : Nat :=
  cs.foldl (fun n c => base * n + (digit? base c).getD 0) 0

/-- The number of a text that holds digits and nothing else. -/
def readNat? (base : Nat) (cs : List Char) : Option Nat :=
  if !cs.isEmpty && cs.all (isDigit base) then some (ofDigits base cs) else none

/-- A number as it is written: `± digits · 10 ^ exponent`. -/
structure Scientific where
  negative : Bool
  digits : Nat
  exponent : Int
  deriving DecidableEq, Repr

def Scientific.round (f : Format) (s : Scientific) : Nat := f.ofDecimal s.negative s.digits s.exponent

/-- Splits off a sign; without one the number is positive. -/
def splitSign : List Char → Bool × List Char
  | '-' :: cs => (true, cs)
  | '+' :: cs => (false, cs)
  | cs => (false, cs)

def readInt? (cs : List Char) : Option Int :=
  let (negative, cs) := splitSign cs
  (readNat? 10 cs).map fun n => if negative then -(n : Int) else n

/-- Splits a text at the first character with a property, which goes. -/
def splitAt? (p : Char → Bool) (cs : List Char) : List Char × Option (List Char) :=
  match cs.dropWhile (!p ·) with
  | [] => (cs, none)
  | _ :: rest => (cs.takeWhile (!p ·), some rest)

def isExponentMark (c : Char) : Bool := c = 'e' || c = 'E'

/-- Reads a sign, digits with at most one point among or beside them, and an exponent. -/
def readScientific? (cs : List Char) : Option Scientific :=
  let (negative, cs) := splitSign cs
  let (mantissa, power) := splitAt? isExponentMark cs
  let (whole, fraction) := splitAt? (· = '.') mantissa
  let places := fraction.getD []
  match readNat? 10 (whole ++ places), power.elim (some 0) readInt? with
  | some digits, some power => some ⟨negative, digits, power - places.length⟩
  | _, _ => none

end Casement.Number
