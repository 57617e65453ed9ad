import Casement.Number.Binary

/-!
# Shortest decimals

The fewest digits that read back as the same magnitude, and of those the digits nearest to it.
The magnitude is given in units of its format, the interval of reals that round to it by the
midpoints to its two neighbours.
-/

namespace Casement.Number

/-- A positive decimal `digits · 10 ^ exponent`. -/
structure Decimal where
  digits : Nat
  exponent : Int
  deriving DecidableEq, Repr

/-- The reals that round to a magnitude: from `lower / 4` to `upper / 4` units, ends counted when
`closed` holds, around `middle / 4`. -/
structure Basin where
  lower : Nat
  middle : Nat
  upper : Nat
  closed : Bool

namespace Format

/-- The basin of a positive finite word. The lower neighbour of a power of two is half as far away
as the upper one, except at the foot of the scale. -/
def basin (f : Format) (word : Nat) : Basin :=
  let units := f.units word
  let e := word / Nat.pow 2 f.fraction
  let ulp := Nat.pow 2 (e - 1)
  let below := if 1 < e ∧ word % Nat.pow 2 f.fraction = 0 then ulp else 2 * ulp
  ⟨4 * units - below, 4 * units, 4 * units + 2 * ulp, word % 2 = 0⟩

end Format

namespace Basin

/-- Whether `num / den` units lie in the basin. -/
def holds (b : Basin) (num den : Nat) : Bool :=
  if b.closed then b.lower * den ≤ 4 * num && 4 * num ≤ b.upper * den
  else b.lower * den < 4 * num && 4 * num < b.upper * den

/-- The multiple of `num / den` units in the basin that is nearest to its middle, if one is. Of the
two neighbours of the middle the lower wins a tie. -/
def nearest? (b : Basin) (num den : Nat) : Option Nat :=
  let lo := b.middle * den / (4 * num)
  let hi := lo + 1
  let loIn := b.holds (lo * num) den && lo != 0
  let hiIn := b.holds (hi * num) den
  if loIn && hiIn then
    if b.middle * den - 4 * lo * num ≤ 4 * hi * num - b.middle * den then some lo else some hi
  else if loIn then some lo else if hiIn then some hi else none

end Basin

namespace Format

/-- The grid of multiples of `10 ^ exponent`, in units of the format. -/
def grid (f : Format) (exponent : Int) : Nat × Nat :=
  if 0 ≤ exponent then (Nat.pow 10 exponent.toNat * Nat.pow 2 f.scale, 1)
  else (Nat.pow 2 f.scale, Nat.pow 10 (-exponent).toNat)

/-- Tries ever finer grids, the coarsest first. -/
def search (f : Format) (b : Basin) : Nat → Int → Option Decimal
  | 0, _ => none
  | n + 1, exponent =>
    let (num, den) := f.grid exponent
    match b.nearest? num den with
    | some digits => some ⟨digits, exponent⟩
    | none => f.search b n (exponent - 1)

/-- A power of ten above every finite magnitude of the format. -/
def ceiling (f : Format) : Nat := Nat.pow 2 (f.exponent - 1) / 3 + 2

/-- How many grids lie between the ceiling and the finest one that can be needed. -/
def depth (f : Format) : Nat := f.ceiling + f.scale + 1

/-- The shortest decimal of a positive finite word. -/
def shortest (f : Format) (word : Nat) : Decimal :=
  (f.search (f.basin word) f.depth f.ceiling).getD ⟨0, 0⟩

end Format

end Casement.Number
