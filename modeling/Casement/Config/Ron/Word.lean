import Casement.Number.Read

/-!
# Space, names and numbers
-/

namespace Casement.Ron

open Number

/-! ## Space between words -/

def isSpace (c : Char) : Bool := c = ' ' || c = '\t' || c = '\n' || c = '\r'

/-- Skips to the end of a comment; comments stand within comments, here `n` around this one. -/
def skipBlock? : Nat → List Char → Option (List Char)
  | _, [] => none
  | n, '/' :: '*' :: rest => skipBlock? (n + 1) rest
  | 0, '*' :: '/' :: rest => some rest
  | n + 1, '*' :: '/' :: rest => skipBlock? n rest
  | n, _ :: rest => skipBlock? n rest

def skipSpace? : Nat → List Char → Option (List Char)
  | 0, cs => some cs
  | n + 1, cs =>
    match cs.dropWhile isSpace with
    | '/' :: '/' :: rest => skipSpace? n (rest.dropWhile (· ≠ '\n'))
    | '/' :: '*' :: rest => (skipBlock? 0 rest).bind (skipSpace? n)
    | '/' :: _ => none
    | cs => some cs

/-- Skips blanks, line breaks and comments. -/
def space? (cs : List Char) : Option (List Char) := skipSpace? (cs.length + 1) cs

/-! ## Names -/

def isNameStart (c : Char) : Bool := c.isAlpha || c = '_'

def isNameChar (c : Char) : Bool := c.isAlphanum || c = '_'

/-- Names behind a raw mark may also hold points and signs. -/
def isRawChar (c : Char) : Bool := isNameChar c || c = '.' || c = '+' || c = '-'

/-- Splits off a name. A plain name is not followed by a character that only raw names have, and
what begins as raw text does is no name. -/
def name? (cs : List Char) : Option (String × List Char) :=
  let plain : Option (String × List Char) :=
    let rest := cs.dropWhile isNameChar
    if rest.head?.any isRawChar then none
    else some (String.ofList (cs.takeWhile isNameChar), rest)
  match cs with
  | ['r'] => none
  | 'r' :: '"' :: _ => none
  | 'r' :: '#' :: rest =>
    let name := rest.takeWhile isRawChar
    if name.isEmpty then none else some (String.ofList name, rest.drop name.length)
  | c :: _ => if isNameStart c then plain else none
  | [] => none

/-- Takes given characters away. -/
def take? (word : String) (cs : List Char) : Option (List Char) :=
  let n := word.toList.length
  if cs.take n = word.toList then some (cs.drop n) else none

/-- Takes a given word away, if it stands here as a whole. -/
def word? (word : String) (cs : List Char) : Option (List Char) :=
  (take? word cs).filter fun rest => !rest.head?.any isNameChar

/-- Takes away the first of several words that stands here as a whole, and tells which. -/
def oneOf? : List String → List Char → Option (String × List Char)
  | [], _ => none
  | word :: words, cs =>
    match word? word cs with
    | some rest => some (word, rest)
    | none => oneOf? words cs

/-! ## Numbers -/

def isDigitChar (c : Char) : Bool := isDigit 16 c || c = '_'

def isFloatChar (c : Char) : Bool :=
  c.isDigit || c = 'e' || c = 'E' || c = '.' || c = '+' || c = '-' || c = '_'

/-- Digits with underscores among them, though not in front; the base is told by the first two
characters. -/
def magnitude? (cs : List Char) : Option Nat :=
  let (base, digits) : Nat × List Char := match cs with
    | '0' :: 'x' :: ds => (16, ds)
    | '0' :: 'b' :: ds => (2, ds)
    | '0' :: 'o' :: ds => (8, ds)
    | ds => (10, ds)
  if digits.head? = some '_' then none else
    readNat? base (digits.filter (· ≠ '_'))

def integer? (word : List Char) : Option Int :=
  let (negative, cs) := splitSign word
  (magnitude? cs).map fun n => if negative then -(n : Int) else n

/-- Infinities and what is no number have names; a sign may stand before them. -/
def specials : List String := ["inf", "+inf", "-inf", "NaN", "+NaN", "-NaN"]

/-- The word of a number in a format. -/
def float? (f : Format) (word : List Char) : Option Nat :=
  if specials.contains (String.ofList word) then
    let (negative, cs) := splitSign word
    some (if cs = ['N', 'a', 'N'] then f.quietNan negative
      else (if negative then f.signBit else 0) + f.infinity)
  else (readScientific? word).map (·.round f)

/-- Splits off the word of a number that may have a fraction. -/
def floatWord? (cs : List Char) : Option (List Char × List Char) :=
  match oneOf? specials cs with
  | some (word, rest) => some (word.toList, rest)
  | none =>
    let word := cs.takeWhile isFloatChar
    if (float? .double word).isSome then some (word, cs.drop word.length) else none

/-- Splits off the word of a whole number without a sign. -/
def naturalWord? (cs : List Char) : Option (List Char × List Char) :=
  let mark := match cs with
    | '0' :: 'x' :: _ | '0' :: 'b' :: _ | '0' :: 'o' :: _ => 2
    | _ => 0
  let word := cs.take mark ++ (cs.drop mark).takeWhile isDigitChar
  if (magnitude? word).isSome then some (word, cs.drop word.length) else none

/-- Splits off the word of a whole number. -/
def integerWord? (cs : List Char) : Option (List Char × List Char) :=
  match cs with
  | '+' :: rest => (naturalWord? rest).map fun (word, rest) => ('+' :: word, rest)
  | '-' :: rest => (naturalWord? rest).map fun (word, rest) => ('-' :: word, rest)
  | _ => naturalWord? cs

/-- Whole numbers have 64 bits, those without a sign all of them for the magnitude. -/
def isLong (word : List Char) : Bool :=
  match word, integer? word with
  | '+' :: _, some n | '-' :: _, some n => Int64.minValue.toInt ≤ n && n ≤ Int64.maxValue.toInt
  | _, some n => n < UInt64.size
  | _, none => false

/-- Splits off the word of any number: a whole number unless more of it reads as one with a
fraction; what is too long for a whole number is read the other way. -/
def numberWord? (cs : List Char) : Option (List Char × List Char) :=
  let (_, body) := splitSign cs
  if (body.takeWhile isDigitChar).length < (body.takeWhile isFloatChar).length then floatWord? cs
  else
    match integerWord? cs with
    | some (word, rest) => if isLong word then some (word, rest) else floatWord? cs
    | none => floatWord? cs

end Casement.Ron
