import Casement.Input.Text
import Casement.Number.Read

/-!
# Quoted text

Basic strings know escapes, literal strings do not; both come on one line or, between three
quotation marks, on several.
-/

namespace Casement.Toml

open Number

/-- Characters that may stand in quoted text: all but controls, the tabulator allowed. -/
def isTextChar (c : Char) : Bool := c = '\t' || (' ' ≤ c && c ≠ '\x7f')

/-- The character a fixed number of hexadecimal digits stands for. -/
def escaped? (cs : List Char) : Option Char :=
  (readNat? 16 cs).bind fun n => if n < UInt32.size then Casement.scalar? (UInt32.ofNat n) else none

/-- The character a letter stands for behind a backslash. -/
def simpleEscape? : Char → Option Char
  | 'b' => some '\x08'
  | 't' => some '\t'
  | 'n' => some '\n'
  | 'f' => some '\x0c'
  | 'r' => some '\r'
  | '"' => some '"'
  | '\\' => some '\\'
  | _ => none

/-- Puts a character in front of a text that was read. -/
def push (c : Char) : Option (List Char × List Char) → Option (List Char × List Char)
  | some (text, rest) => some (c :: text, rest)
  | none => none

def pushChar? (c : Option Char) (read : Option (List Char × List Char)) :
    Option (List Char × List Char) :=
  c.bind fun c => push c read

/-- Reads up to the closing mark of a basic string. -/
def basic? : List Char → Option (List Char × List Char)
  | [] => none
  | '"' :: rest => some ([], rest)
  | '\\' :: 'u' :: a :: b :: c :: d :: rest => pushChar? (escaped? [a, b, c, d]) (basic? rest)
  | '\\' :: 'U' :: a :: b :: c :: d :: e :: f :: g :: h :: rest =>
    pushChar? (escaped? [a, b, c, d, e, f, g, h]) (basic? rest)
  | '\\' :: c :: rest => pushChar? (simpleEscape? c) (basic? rest)
  | c :: rest => if isTextChar c then push c (basic? rest) else none

/-- Reads up to the closing mark of a literal string. -/
def literal? : List Char → Option (List Char × List Char)
  | [] => none
  | '\'' :: rest => some ([], rest)
  | c :: rest => if isTextChar c then push c (literal? rest) else none

/-- Where the reading of a string on several lines stands: in its text, behind a backslash that
ends a line, or in the blank space that such a backslash takes away. -/
inductive Fold where
  | text
  | lineEnd
  | blank
  deriving DecidableEq

/-- Reads up to the closing marks of a basic string on several lines; up to two more quotation
marks before them belong to the text. -/
def multiBasic? : Fold → List Char → Option (List Char × List Char)
  | _, [] => none
  | .lineEnd, c :: rest =>
    if c = ' ' || c = '\t' then multiBasic? .lineEnd rest
    else if c = '\n' then multiBasic? .blank rest
    else if c = '\r' then
      match rest with
      | '\n' :: rest => multiBasic? .blank rest
      | _ => none
    else none
  | .blank, ' ' :: rest => multiBasic? .blank rest
  | .blank, '\t' :: rest => multiBasic? .blank rest
  | .blank, '\n' :: rest => multiBasic? .blank rest
  | .blank, '\r' :: '\n' :: rest => multiBasic? .blank rest
  | _, '"' :: '"' :: '"' :: '"' :: '"' :: rest => some (['"', '"'], rest)
  | _, '"' :: '"' :: '"' :: '"' :: rest => some (['"'], rest)
  | _, '"' :: '"' :: '"' :: rest => some ([], rest)
  | _, '\\' :: 'u' :: a :: b :: c :: d :: rest =>
    pushChar? (escaped? [a, b, c, d]) (multiBasic? .text rest)
  | _, '\\' :: 'U' :: a :: b :: c :: d :: e :: f :: g :: h :: rest =>
    pushChar? (escaped? [a, b, c, d, e, f, g, h]) (multiBasic? .text rest)
  | _, '\\' :: ' ' :: rest => multiBasic? .lineEnd rest
  | _, '\\' :: '\t' :: rest => multiBasic? .lineEnd rest
  | _, '\\' :: '\n' :: rest => multiBasic? .blank rest
  | _, '\\' :: '\r' :: '\n' :: rest => multiBasic? .blank rest
  | _, '\\' :: c :: rest => pushChar? (simpleEscape? c) (multiBasic? .text rest)
  | _, '\r' :: '\n' :: rest => push '\n' (multiBasic? .text rest)
  | _, '\n' :: rest => push '\n' (multiBasic? .text rest)
  | _, c :: rest => if isTextChar c then push c (multiBasic? .text rest) else none

/-- Reads up to the closing marks of a literal string on several lines. -/
def multiLiteral? : List Char → Option (List Char × List Char)
  | [] => none
  | '\'' :: '\'' :: '\'' :: '\'' :: '\'' :: rest => some (['\'', '\''], rest)
  | '\'' :: '\'' :: '\'' :: '\'' :: rest => some (['\''], rest)
  | '\'' :: '\'' :: '\'' :: rest => some ([], rest)
  | '\r' :: '\n' :: rest => push '\n' (multiLiteral? rest)
  | '\n' :: rest => push '\n' (multiLiteral? rest)
  | c :: rest => if isTextChar c then push c (multiLiteral? rest) else none

/-- A line break right behind the opening marks does not count. -/
def skipBreak : List Char → List Char
  | '\n' :: rest => rest
  | '\r' :: '\n' :: rest => rest
  | cs => cs

/-- Reads a string on one line, as keys may be written. -/
def quoted? : List Char → Option (List Char × List Char)
  | '"' :: rest => basic? rest
  | '\'' :: rest => literal? rest
  | _ => none

/-- Reads a string of any form. -/
def string? : List Char → Option (List Char × List Char)
  | '"' :: '"' :: '"' :: rest => multiBasic? .text (skipBreak rest)
  | '\'' :: '\'' :: '\'' :: rest => multiLiteral? (skipBreak rest)
  | cs => quoted? cs

end Casement.Toml
