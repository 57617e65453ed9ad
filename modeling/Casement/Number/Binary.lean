/-!
# Binary floating-point words

A finite number of a format is a whole multiple of the format's smallest positive number, so
magnitudes are natural numbers counted in that unit. `Format.nearest` rounds an exact ratio to
the nearest word, a tie going to the even one.
-/

namespace Casement.Number

/-- The quotient rounded to the nearest natural number, a half going to the even neighbour. -/
def roundDiv (num den : Nat) : Nat :=
  let q := num / den
  let r := num % den
  if 2 * r < den then q else if den < 2 * r then q + 1 else q + q % 2

/-- A binary format, by the widths of its fraction and exponent fields. -/
structure Format where
  fraction : Nat
  exponent : Nat
  deriving DecidableEq, Repr

namespace Format

def single : Format := ⟨23, 8⟩

def double : Format := ⟨52, 11⟩

/-- The smallest positive number is `2 ^ -scale`. -/
def scale (f : Format) : Nat := Nat.pow 2 (f.exponent - 1) + f.fraction - 2

/-- The word of positive infinity, above the words of all finite magnitudes. -/
def infinity (f : Format) : Nat := (Nat.pow 2 f.exponent - 1) * Nat.pow 2 f.fraction

def signBit (f : Format) : Nat := Nat.pow 2 (f.fraction + f.exponent)

/-- The word of the magnitude nearest to `num / den` units. -/
def nearest (f : Format) (num den : Nat) : Nat :=
  let s := (num / den).log2 - f.fraction
  min (s * Nat.pow 2 f.fraction + roundDiv num (den * Nat.pow 2 s)) f.infinity

/-- The units in a word without its sign; meant for words below infinity. -/
def units (f : Format) (word : Nat) : Nat :=
  let e := word / Nat.pow 2 f.fraction
  if e = 0 then word else (Nat.pow 2 f.fraction + word % Nat.pow 2 f.fraction) * Nat.pow 2 (e - 1)

end Format

/-- What a word stands for: a count of units, an infinity, or no number. -/
inductive Datum where
  | finite (negative : Bool) (units : Nat)
  | infinite (negative : Bool)
  | nan (negative : Bool)
  deriving DecidableEq, Repr

namespace Format

def decode (f : Format) (word : Nat) : Datum :=
  let negative := word / f.signBit % 2 = 1
  let rest := word % f.signBit
  if rest < f.infinity then .finite negative (f.units rest)
  else if rest = f.infinity then .infinite negative
  else .nan negative

/-- The word of a sign and the magnitude nearest to `num / den` units. -/
def encode (f : Format) (negative : Bool) (num den : Nat) : Nat :=
  (if negative then f.signBit else 0) + f.nearest num den

/-- The quiet word that is no number. -/
def quietNan (f : Format) (negative : Bool) : Nat :=
  (if negative then f.signBit else 0) + f.infinity + Nat.pow 2 (f.fraction - 1)

/-- Reads a word of one format as the nearest word of another. -/
def convert (source target : Format) (word : Nat) : Nat :=
  match source.decode word with
  | .finite negative units => target.encode negative (units * Nat.pow 2 target.scale) (Nat.pow 2 source.scale)
  | .infinite negative => (if negative then target.signBit else 0) + target.infinity
  | .nan negative => target.quietNan negative

/-- Decimals with a first digit beyond this power of ten are read as infinite or as zero. -/
def decimalReach : Int := 400

/-- The word nearest to `± digits · 10 ^ exponent`. -/
def ofDecimal (f : Format) (negative : Bool) (digits : Nat) (exponent : Int) : Nat :=
  let sign := if negative then f.signBit else 0
  let reach := exponent + (Nat.toDigits 10 digits).length
  if digits = 0 || reach < -decimalReach then sign
  else if decimalReach < reach then sign + f.infinity
  else if 0 ≤ exponent then f.encode negative (digits * Nat.pow 10 exponent.toNat * Nat.pow 2 f.scale) 1
  else f.encode negative (digits * Nat.pow 2 f.scale) (Nat.pow 10 (-exponent).toNat)

end Format

end Casement.Number
