import Casement.Input.Text
import Casement.Number.Read

/-!
# Quoted text
-/

namespace Casement.Ron

open Number

def scalarOfHex? (cs : List Char) : Option Char :=
  (readNat? 16 cs).bind fun n => scalar? (UInt32.ofNat n)

/-- Reads what follows a backslash. -/
def escape? : List Char → Option (Char × List Char)
  | '\'' :: rest => some ('\'', rest)
  | '"' :: rest => some ('"', rest)
  | '\\' :: rest => some ('\\', rest)
  | 'n' :: rest => some ('\n', rest)
  | 'r' :: rest => some ('\r', rest)
  | 't' :: rest => some ('\t', rest)
  | '0' :: rest => some ('\x00', rest)
  | 'x' :: a :: b :: rest => (scalarOfHex? [a, b]).map fun c => (c, rest)
  | 'u' :: '\x7b' :: rest =>
    let digits := rest.takeWhile (· ≠ '\x7d')
    match rest.drop digits.length with
    | '\x7d' :: rest =>
      if digits.length ≤ 6 then (scalarOfHex? digits).map fun c => (c, rest) else none
    | _ => none
  | _ => none

/-- Reads up to the closing mark. -/
def text? : Nat → List Char → Option (List Char × List Char)
  | 0, _ => none
  | n + 1, cs =>
    match cs with
    | [] => none
    | '"' :: rest => some ([], rest)
    | '\\' :: rest =>
      (escape? rest).bind fun (c, rest) => (text? n rest).map fun (text, rest) => (c :: text, rest)
    | c :: rest => (text? n rest).map fun (text, rest) => (c :: text, rest)

/-- Reads up to a closing mark with `n` number signs behind it. -/
def rawText? (n : Nat) : List Char → Option (List Char × List Char)
  | [] => none
  | c :: rest =>
    if c = '"' && rest.take n = List.replicate n '#' then some ([], rest.drop n)
    else (rawText? n rest).map fun (text, rest) => (c :: text, rest)

/-- Reads quoted text, with escapes or raw. -/
def string? : List Char → Option (String × List Char)
  | '"' :: rest => (text? (rest.length + 1) rest).map fun (text, rest) => (String.ofList text, rest)
  | 'r' :: rest =>
    let marks := rest.takeWhile (· = '#')
    match rest.drop marks.length with
    | '"' :: rest => (rawText? marks.length rest).map fun (text, rest) => (String.ofList text, rest)
    | _ => none
  | _ => none

/-- Reads a single character between apostrophes. -/
def char? : List Char → Option (Char × List Char)
  | '\'' :: '\\' :: rest =>
    match escape? rest with
    | some (c, '\'' :: rest) => some (c, rest)
    | _ => none
  | '\'' :: c :: '\'' :: rest => if c = '\'' then none else some (c, rest)
  | _ => none

end Casement.Ron
