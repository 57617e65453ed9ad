import Casement.Config.Ron.Quoted
import Casement.Config.Ron.Value
import Casement.Config.Ron.Word

/-!
# Reading documents

A document is read for what is expected in it: the same characters are a name in one place and an
option in another.
-/

namespace Casement.Ron

/-- Whether named fields follow an opening parenthesis. -/
def hasNames (cs : List Char) : Bool :=
  match name? cs with
  | some (_, rest) => ((space? rest).bind List.head?) = some ':'
  | none => false

/-- Takes away a closing mark, a comma before it allowed. -/
def closing? (close : Char) (cs : List Char) : Option (List Char) :=
  match space? cs with
  | some (',' :: rest) =>
    match space? rest with
    | some (c :: rest) => if c = close then some rest else none
    | _ => none
  | some (c :: rest) => if c = close then some rest else none
  | _ => none

/-- Takes away the name of a record, which need not be there, and the parenthesis behind it. -/
def recordStart? (name : String) (cs : List Char) : Option (List Char) :=
  let named := if cs.head?.any isNameChar then
      match name? cs with
      | some (given, rest) => if given = name then some rest else none
      | none => none
    else some cs
  match named.bind space? with
  | some ('(' :: rest) => some rest
  | _ => none

/-- Values that are one word with a meaning of its own. -/
def constant? (cs : List Char) : Option (Value × List Char) :=
  match oneOf? ["true", "false", "None", "inf", "NaN"] cs with
  | some ("None", rest) => some (.none, rest)
  | some ("inf", rest) => some (.number ['i', 'n', 'f'], rest)
  | some ("NaN", rest) => some (.number ['N', 'a', 'N'], rest)
  | some (name, rest) => some (.name name, rest)
  | none => none

section

variable (impliesSome : Bool)

mutual

/-- Reads a value of a shape; `depth` is how much deeper values may stand within one another. -/
def value? : (fuel depth : Nat) → Shape → List Char → Option (Value × List Char)
  | 0, _, _, _ => none
  | n + 1, depth, shape, cs =>
    match shape with
    | .any => any? n depth cs
    | .name => (name? cs).map fun (name, rest) => (.name name, rest)
    | .text => (string? cs).map fun (s, rest) => (.text s, rest)
    | .float => (floatWord? cs).map fun (word, rest) => (.number word, rest)
    | .integer => (integerWord? cs).map fun (word, rest) => (.number word, rest)
    | .natural => (naturalWord? cs).map fun (word, rest) => (.number word, rest)
    | .option shape =>
      match take? "None" cs with
      | some rest => some (.none, rest)
      | none => some? n depth shape cs
    | .list item =>
      match cs, depth with
      | '[' :: rest, depth + 1 =>
        (items? n depth item ']' rest).map fun (vs, rest) => (.list vs, rest)
      | _, _ => none
    | .record name shapes =>
      match recordStart? name cs, depth with
      | some rest, depth + 1 =>
        (fields? n depth shapes rest).map fun (fs, rest) => (.record none fs, rest)
      | _, _ => none

/-- Reads a present option. Where documents may leave it out, the mark of one does not need
parentheses either. -/
def some? : (fuel depth : Nat) → Shape → List Char → Option (Value × List Char)
  | 0, _, _, _ => none
  | _, 0, _, _ => none
  | n + 1, depth + 1, shape, cs =>
    match (take? "Some" cs).map space? with
    | some none => none
    | some (some ('(' :: rest)) =>
      ((space? rest).bind (value? n depth shape)).bind fun (v, rest) =>
        (closing? ')' rest).map fun rest => (.some v, rest)
    | some (some rest) =>
      if impliesSome then (value? n depth shape rest).map fun (v, rest) => (.some v, rest) else none
    | none =>
      if impliesSome then (value? n depth shape cs).map fun (v, rest) => (.some v, rest) else none

/-- Reads a value of any kind. -/
def any? : (fuel depth : Nat) → List Char → Option (Value × List Char)
  | 0, _, _ => none
  | n + 1, depth, cs =>
    match word? "Some" cs, constant? cs, take? "()" cs, name? cs with
    | some _, _, _, _ => some? n depth .any cs
    | none, some v, _, _ => some v
    | none, none, some rest, _ => some (.tuple none [], rest)
    | none, none, none, some (name, rest) =>
      match space? rest with
      | some ('(' :: inner) => parenthesis? n depth (some name) inner
      | some rest => some (.name name, rest)
      | none => none
    | none, none, none, none =>
      match cs, depth with
      | '(' :: rest, _ => parenthesis? n depth none rest
      | '[' :: rest, depth + 1 =>
        (items? n depth .any ']' rest).map fun (vs, rest) => (.list vs, rest)
      | '\x7b' :: rest, depth + 1 => (entries? n depth rest).map fun (es, rest) => (.map es, rest)
      | '"' :: _, _ | 'r' :: _, _ => (string? cs).map fun (s, rest) => (.text s, rest)
      | '\'' :: _, _ => (char? cs).map fun (c, rest) => (.char c, rest)
      | c :: _, _ =>
        if c.isDigit || c = '+' || c = '-' || c = '.' then
          (numberWord? cs).map fun (word, rest) => (.number word, rest)
        else none
      | [], _ => none

/-- Reads a record or tuple of any kind from behind its opening parenthesis. -/
def parenthesis? : (fuel depth : Nat) → Option String → List Char → Option (Value × List Char)
  | 0, _, _, _ => none
  | _, 0, _, _ => none
  | n + 1, depth + 1, name, cs =>
    match space? cs with
    | none => none
    | some cs =>
      if hasNames cs then (fields? n depth [] cs).map fun (fs, rest) => (.record name fs, rest)
      else (items? n depth .any ')' cs).map fun (vs, rest) => (.tuple name vs, rest)

/-- Reads values with commas between them, up to a closing mark. -/
def items? : (fuel depth : Nat) → Shape → Char → List Char → Option (List Value × List Char)
  | 0, _, _, _, _ => none
  | n + 1, depth, shape, close, cs =>
    match space? cs with
    | none => none
    | some cs =>
      if cs.head? = some close then some ([], cs.tail)
      else
        match depth with
        | 0 => none
        | depth + 1 =>
          (value? n depth shape cs).bind fun (v, rest) =>
            match space? rest with
            | some (',' :: rest) =>
              (items? n (depth + 1) shape close rest).map fun (vs, rest) => (v :: vs, rest)
            | some (c :: rest) => if c = close then some ([v], rest) else none
            | _ => none

/-- Reads named fields with commas between them, up to the closing parenthesis. -/
def fields? : (fuel depth : Nat) → List (String × Shape) → List Char →
    Option (List (String × Value) × List Char)
  | 0, _, _, _ => none
  | n + 1, depth, shapes, cs =>
    match space? cs, depth with
    | none, _ => none
    | some (')' :: rest), _ => some ([], rest)
    | some _, 0 => none
    | some cs, depth + 1 =>
      match name? cs with
      | none => none
      | some (name, rest) =>
        match space? rest with
        | some (':' :: rest) =>
          ((space? rest).bind (value? n depth ((shapes.lookup name).getD .any))).bind fun (v, rest) =>
            match space? rest with
            | some (',' :: rest) =>
              (fields? n (depth + 1) shapes rest).map fun (fs, rest) => ((name, v) :: fs, rest)
            | some (')' :: rest) => some ([(name, v)], rest)
            | _ => none
        | _ => none

/-- Reads keys and values with commas between them, up to the closing brace. -/
def entries? : (fuel depth : Nat) → List Char → Option (List (Value × Value) × List Char)
  | 0, _, _ => none
  | n + 1, depth, cs =>
    match space? cs, depth with
    | none, _ => none
    | some ('\x7d' :: rest), _ => some ([], rest)
    | some _, 0 => none
    | some cs, depth + 1 =>
      (any? n depth cs).bind fun (key, rest) =>
        match space? rest with
        | some (':' :: rest) =>
          ((space? rest).bind (any? n depth)).bind fun (v, rest) =>
            match space? rest with
            | some (',' :: rest) =>
              (entries? n (depth + 1) rest).map fun (es, rest) => ((key, v) :: es, rest)
            | some ('\x7d' :: rest) => some ([(key, v)], rest)
            | _ => none
        | _ => none

end

end

/-! ## Documents -/

/-- Takes given words away, with space behind each. -/
def words? : List String → List Char → Option (List Char)
  | [], cs => some cs
  | word :: rest, cs => ((take? word cs).bind space?).bind (words? rest)

/-- The extensions a document may ask for. -/
def extensions : List String := ["unwrap_newtypes", "implicit_some", "unwrap_variant_newtypes"]

/-- Reads the names in an extension line; tells whether one lets values stand for options. -/
def extensionNames? : Nat → List Char → Option (Bool × List Char)
  | 0, _ => none
  | n + 1, cs =>
    match name? cs with
    | none => none
    | some (name, rest) =>
      if !extensions.contains name then none
      else
        let implies := name = "implicit_some"
        match space? rest with
        | some (',' :: rest) =>
          (space? rest).bind fun rest =>
            if rest.head?.any isNameChar then
              (extensionNames? n rest).map fun (more, rest) => (implies || more, rest)
            else some (implies, rest)
        | some rest => if rest.head?.any isNameChar then none else some (implies, rest)
        | none => none

/-- Reads the extension lines in front of a document. -/
def extensionLines? : Nat → List Char → Option (Bool × List Char)
  | 0, _ => none
  | n + 1, cs =>
    match cs with
    | '#' :: _ =>
      (words? ["#", "!", "[", "enable", "("] cs).bind fun cs =>
        (extensionNames? cs.length cs).bind fun (implies, rest) =>
          ((space? rest).bind (words? [")", "]"])).bind fun rest =>
            (extensionLines? n rest).map fun (more, rest) => (implies || more, rest)
    | _ => some (false, cs)

/-- How deep values may stand within one another. -/
def depthLimit : Nat := 128

/-- Enough steps for a value: no more than four go by between two characters. -/
def fuel (cs : List Char) : Nat := 4 * cs.length + 8

/-- Reads a document of a shape. -/
def read? (shape : Shape) (text : String) : Option Value :=
  let cs := text.toList
  ((space? cs).bind (extensionLines? (cs.length + 1))).bind fun (impliesSome, cs) =>
    match value? impliesSome (fuel cs) depthLimit shape cs with
    | some (value, rest) => if space? rest = some [] then some value else none
    | none => none

end Casement.Ron
