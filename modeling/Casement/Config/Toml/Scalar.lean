import Casement.Config.Toml.Value
import Casement.Number.Read

/-!
# Numbers, truth values and times

What stands unquoted where a value is expected, as one word.
-/

namespace Casement.Toml

open Number

/-- Digits with single underscores between them, read without the underscores. -/
def groupedDigits? (base : Nat) : List Char → Option (List Char)
  | [] => none
  | [c] => if isDigit base c then some [c] else none
  | c :: '_' :: rest => if isDigit base c then (groupedDigits? base rest).map (c :: ·) else none
  | c :: rest => if isDigit base c then (groupedDigits? base rest).map (c :: ·) else none

/-- Decimal digits that do not begin with a zero, unless it is the only digit. -/
def wholeDigits? (cs : List Char) : Option (List Char) :=
  match groupedDigits? 10 cs with
  | some ('0' :: _ :: _) => none
  | digits => digits

def inRange (n : Int) : Bool := Int64.minValue.toInt ≤ n && n ≤ Int64.maxValue.toInt

def integer? (word : List Char) : Option Int :=
  let magnitude (base : Nat) (cs : List Char) : Option Int :=
    (groupedDigits? base cs).map fun ds => (ofDigits base ds : Int)
  let value := match word with
    | '0' :: 'x' :: cs => magnitude 16 cs
    | '0' :: 'o' :: cs => magnitude 8 cs
    | '0' :: 'b' :: cs => magnitude 2 cs
    | _ =>
      let (negative, cs) := splitSign word
      (wholeDigits? cs).map fun ds => if negative then -(ofDigits 10 ds : Int) else ofDigits 10 ds
  value.filter inRange

/-- The exponent of a number: a sign and digits, zeros in front allowed. -/
def exponent? (cs : List Char) : Option Int :=
  let (negative, cs) := splitSign cs
  (groupedDigits? 10 cs).map fun ds => if negative then -(ofDigits 10 ds : Int) else ofDigits 10 ds

/-- A number with a fraction, an exponent or both. -/
def scientific? (word : List Char) : Option Scientific :=
  let (negative, cs) := splitSign word
  let (mantissa, power) := splitAt? isExponentMark cs
  let (whole, fraction) := splitAt? (· = '.') mantissa
  if power.isNone && fraction.isNone then none
  else
    match wholeDigits? whole, fraction.elim (some []) (groupedDigits? 10), power.elim (some 0) exponent? with
    | some whole, some places, some power =>
      some ⟨negative, ofDigits 10 (whole ++ places), power - places.length⟩
    | _, _, _ => none

/-- A positive number too large for the format is refused. -/
def float? (word : List Char) : Option Nat :=
  let (negative, cs) := splitSign word
  if cs = ['i', 'n', 'f'] then
    some ((if negative then Format.double.signBit else 0) + Format.double.infinity)
  else if cs = ['n', 'a', 'n'] then some (Format.double.quietNan negative)
  else ((scientific? word).map (·.round .double)).filter (· ≠ Format.double.infinity)

/-! ## Points in time -/

def pair? (lo hi : Nat) (a b : Char) : Option Nat := (readNat? 10 [a, b]).filter fun n => lo ≤ n && n ≤ hi

def daysIn (year month : Nat) : Nat :=
  if month = 2 then
    if year % 4 = 0 ∧ (year % 100 ≠ 0 ∨ year % 400 = 0) then 29 else 28
  else if month = 4 ∨ month = 6 ∨ month = 9 ∨ month = 11 then 30
  else 31

def isDate : List Char → Bool
  | [y₁, y₂, y₃, y₄, '-', m₁, m₂, '-', d₁, d₂] =>
    match readNat? 10 [y₁, y₂, y₃, y₄], pair? 1 12 m₁ m₂, pair? 1 31 d₁ d₂ with
    | some year, some month, some day => day ≤ daysIn year month
    | _, _, _ => false
  | _ => false

/-- Hours and minutes between a day's ends. -/
def isClock (h₁ h₂ m₁ m₂ : Char) : Bool := (pair? 0 23 h₁ h₂).isSome && (pair? 0 59 m₁ m₂).isSome

def isOffset : List Char → Bool
  | [] | ['Z'] | ['z'] => true
  | [sign, h₁, h₂, ':', m₁, m₂] => (sign = '+' || sign = '-') && isClock h₁ h₂ m₁ m₂
  | _ => false

/-- A time of day and what may follow it. -/
def isTime (tail : List Char → Bool) : List Char → Bool
  | h₁ :: h₂ :: ':' :: m₁ :: m₂ :: ':' :: s₁ :: s₂ :: rest =>
    isClock h₁ h₂ m₁ m₂ && (pair? 0 60 s₁ s₂).isSome &&
      match rest with
      | '.' :: rest => !(rest.takeWhile (isDigit 10)).isEmpty && tail (rest.dropWhile (isDigit 10))
      | rest => tail rest
  | _ => false

def isMoment (word : List Char) : Bool :=
  isTime List.isEmpty word ||
    match word.drop 10 with
    | [] => isDate word
    | mark :: time =>
      isDate (word.take 10) && (mark = 'T' || mark = 't' || mark = ' ') && isTime isOffset time

/-! ## Words -/

def isWordChar (c : Char) : Bool :=
  c.isAlphanum || c = '_' || c = '+' || c = '-' || c = '.' || c = ':'

/-- Splits off a word. A date and a time of day with a blank between them are one word. -/
def splitWord (cs : List Char) : List Char × List Char :=
  let word := cs.takeWhile isWordChar
  match cs.dropWhile isWordChar with
  | ' ' :: a :: b :: ':' :: rest =>
    if isDate word && isDigit 10 a && isDigit 10 b then
      let rest := a :: b :: ':' :: rest
      (word ++ ' ' :: rest.takeWhile isWordChar, rest.dropWhile isWordChar)
    else (word, ' ' :: a :: b :: ':' :: rest)
  | rest => (word, rest)

def scalar? (word : List Char) : Option Value :=
  if word = ['t', 'r', 'u', 'e'] then some (.boolean true)
  else if word = ['f', 'a', 'l', 's', 'e'] then some (.boolean false)
  else if isMoment word then some .time
  else
    match integer? word, float? word with
    | some n, _ => some (.integer n)
    | none, some word => some (.float word)
    | none, none => none

end Casement.Toml
