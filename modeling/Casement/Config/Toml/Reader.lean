import Casement.Config.Toml.Node
import Casement.Config.Toml.Quoted
import Casement.Config.Toml.Scalar

/-!
# Reading documents
-/

namespace Casement.Toml

def isBlank (c : Char) : Bool := c = ' ' || c = '\t'

def skipBlanks (cs : List Char) : List Char := cs.dropWhile isBlank

/-- Skips a comment, up to the end of its line. -/
def skipComment : List Char → List Char
  | '#' :: rest => rest.dropWhile isTextChar
  | cs => cs

/-- The end of a line, or of the text. -/
def lineBreak? : List Char → Option (List Char)
  | [] => some []
  | '\n' :: rest => some rest
  | '\r' :: '\n' :: rest => some rest
  | _ => none

/-- What may follow on a line: blanks and a comment. -/
def lineEnd? (cs : List Char) : Option (List Char) := lineBreak? (skipComment (skipBlanks cs))

/-- Skips blanks, comments and line breaks. -/
def skipSpace : Nat → List Char → List Char
  | 0, cs => cs
  | n + 1, cs =>
    match skipComment (skipBlanks cs) with
    | '\n' :: rest => skipSpace n rest
    | '\r' :: '\n' :: rest => skipSpace n rest
    | cs => cs

def simpleKey? (cs : List Char) : Option (String × List Char) :=
  match cs with
  | '"' :: _ | '\'' :: _ => (quoted? cs).map fun (key, rest) => (String.ofList key, rest)
  | _ =>
    let key := cs.takeWhile isBareChar
    if key.isEmpty then none else some (String.ofList key, cs.dropWhile isBareChar)

/-- How many levels documents may go down. -/
def depthLimit : Nat := 80

/-- Reads keys with points between them: the path and the last key. -/
def dottedKey? : Nat → List Char → Option ((List String × String) × List Char)
  | 0, _ => none
  | n + 1, cs =>
    match simpleKey? (skipBlanks cs) with
    | none => none
    | some (key, rest) =>
      match skipBlanks rest with
      | '.' :: rest =>
        (dottedKey? n rest).map fun ((path, last), rest) => ((key :: path, last), rest)
      | rest => some (([], key), rest)

def key? (cs : List Char) : Option ((List String × String) × List Char) := dottedKey? (depthLimit - 1) cs

mutual

/-- Reads a value; `depth` is how many more arrays and tables may be opened within one another. -/
def value? : (fuel depth : Nat) → List Char → Option (Value × List Char)
  | 0, _, _ => none
  | n + 1, depth, cs =>
    match cs with
    | '"' :: _ | '\'' :: _ => (string? cs).map fun (text, rest) => (.string (String.ofList text), rest)
    | '[' :: rest =>
      match depth with
      | 0 => none
      | depth + 1 => (items? n depth rest).map fun (values, rest) => (.array values, rest)
    | '\x7b' :: rest =>
      match depth with
      | 0 => none
      | depth + 1 =>
        match skipBlanks rest with
        | '\x7d' :: rest => some (.table [], rest)
        | rest =>
          (pairs? n depth ⟨.header, []⟩ rest).map fun (t, rest) => (.table (finishEntries t.entries), rest)
    | _ =>
      let (word, rest) := splitWord cs
      (scalar? word).map fun v => (v, rest)

/-- Reads the rest of an array. -/
def items? : (fuel depth : Nat) → List Char → Option (List Value × List Char)
  | 0, _, _ => none
  | n + 1, depth, cs =>
    match skipSpace cs.length cs with
    | ']' :: rest => some ([], rest)
    | cs =>
      match value? n depth cs with
      | none => none
      | some (v, rest) =>
        match skipSpace rest.length rest with
        | ',' :: rest => (items? n depth rest).map fun (vs, rest) => (v :: vs, rest)
        | ']' :: rest => some ([v], rest)
        | _ => none

/-- Reads the rest of a table on one line, which has at least one more key. -/
def pairs? : (fuel depth : Nat) → Draft → List Char → Option (Draft × List Char)
  | 0, _, _, _ => none
  | n + 1, depth, t, cs =>
    match key? cs with
    | some ((path, key), '=' :: rest) =>
      match value? n depth (skipBlanks rest) with
      | none => none
      | some (v, rest) =>
        match t.define path key v with
        | none => none
        | some t =>
          match skipBlanks rest with
          | ',' :: rest => pairs? n depth t rest
          | '\x7d' :: rest => some (t, rest)
          | _ => none
    | _ => none

end

/-- The document so far, and the header that the next keys stand under. -/
structure Reading where
  root : Draft := ⟨.header, []⟩
  path : List String := []

namespace Reading

/-- Enough steps for a value: each step uses up a character or is followed by one that does. -/
def fuel (cs : List Char) : Nat := 2 * cs.length + 2

def pair? (r : Reading) (cs : List Char) : Option (Reading × List Char) :=
  match key? cs with
  | some ((path, key), '=' :: rest) =>
    match value? (fuel rest) (depthLimit - 1) (skipBlanks rest) with
    | none => none
    | some (v, rest) =>
      match r.root.atPath .passed (·.define path key v) r.path, lineEnd? rest with
      | some root, some rest => some ({ r with root }, rest)
      | _, _ => none
  | _ => none

def header? (r : Reading) : List Char → Option (Reading × List Char)
  | '[' :: '[' :: cs =>
    match key? cs with
    | some ((path, key), ']' :: ']' :: rest) =>
      match r.root.openRow path key, lineEnd? rest with
      | some root, some rest => some (⟨root, path ++ [key]⟩, rest)
      | _, _ => none
    | _ => none
  | '[' :: cs =>
    match key? cs with
    | some ((path, key), ']' :: rest) =>
      match r.root.openTable path key, lineEnd? rest with
      | some root, some rest => some (⟨root, path ++ [key]⟩, rest)
      | _, _ => none
    | _ => none
  | _ => none

def lines? : Nat → Reading → List Char → Option Reading
  | 0, _, _ => none
  | n + 1, r, cs =>
    match skipBlanks cs with
    | [] => some r
    | '#' :: rest => (lineEnd? ('#' :: rest)).bind (lines? n r)
    | '\n' :: rest => lines? n r rest
    | '\r' :: '\n' :: rest => lines? n r rest
    | '[' :: rest => (r.header? ('[' :: rest)).bind fun (r, rest) => lines? n r rest
    | cs => (r.pair? cs).bind fun (r, rest) => lines? n r rest

end Reading

/-- A mark of the byte order in front of a text does not count. -/
def skipMark : List Char → List Char
  | '\uFEFF' :: cs => cs
  | cs => cs

/-- Reads a document. -/
def read? (text : String) : Option Table :=
  let cs := skipMark text.toList
  (Reading.lines? (cs.length + 1) {} cs).map fun r => finishEntries r.root.entries

end Casement.Toml
