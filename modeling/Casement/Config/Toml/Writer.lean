import Casement.Config.Toml.Value
import Casement.Number.Layout

/-!
# Writing documents

The plain keys of a table come first, then its tables under their headers. A list of tables gets a
header for each of its rows.
-/

namespace Casement.Toml

open Number

/-- Numbers are written positionally, whole ones with a point and a zero. -/
def floats : Layout := ⟨true, none, "nan"⟩

/-! ## Strings -/

/-- The ways to write a string: with escapes or literally, between single or triple marks. Triple
marks allow line breaks. -/
inductive Quoting where
  | basic
  | literal
  | multiBasic
  | multiLiteral
  deriving DecidableEq, Repr

/-- Whether a mark comes three times in a row. -/
def hasTriple (mark : Char) : List Char → Bool
  | a :: b :: c :: rest => (a = mark && b = mark && c = mark) || hasTriple mark (b :: c :: rest)
  | _ => false

/-- Characters that are always written as escapes. -/
def isCoded (c : Char) : Bool := (c < ' ' && c ≠ '\t' && c ≠ '\n') || c = '\x7f'

/-- The quoting of a text on one line that needs no escapes. -/
def plainQuoting? (cs : List Char) : Option Quoting :=
  if cs.any isCoded || cs.contains '\n' then none
  else if !cs.contains '\\' && !cs.contains '"' then some .basic
  else if !cs.contains '\'' then some .literal
  else none

/-- The first way to write a text without escapes, quotation marks coming before apostrophes and
single marks before triple ones; with escapes if there is none. -/
def quoting (cs : List Char) : Quoting :=
  match plainQuoting? cs with
  | some q => q
  | none =>
    if cs.any isCoded then if cs.contains '\n' then .multiBasic else .basic
    else if !cs.contains '\\' && !hasTriple '"' cs then .multiBasic
    else if !hasTriple '\'' cs then .multiLiteral
    else if cs.contains '\n' then .multiBasic
    else .basic

def hexDigit (n : Nat) : Char := (Nat.digitChar (n % 16)).toUpper

/-- A character other than a quotation mark; line breaks stay as they are between triple marks. -/
def escape (isMulti : Bool) (c : Char) : List Char :=
  match c with
  | '\x08' => ['\\', 'b']
  | '\t' => ['\\', 't']
  | '\n' => if isMulti then ['\n'] else ['\\', 'n']
  | '\x0c' => ['\\', 'f']
  | '\r' => ['\\', 'r']
  | '\\' => ['\\', '\\']
  | c =>
    if isCoded c then
      let n := c.toNat
      ['\\', 'u', hexDigit (n / 4096), hexDigit (n / 256), hexDigit (n / 16), hexDigit n]
    else [c]

/-- A text with its escapes. Between triple marks two quotation marks in a row stand as they are, and
`run` have just been written so. -/
def escapeAll (isMulti : Bool) : (run : Nat) → List Char → List Char
  | _, [] => []
  | run, c :: cs =>
    if c = '"' then
      if isMulti && run < 2 then '"' :: escapeAll isMulti (run + 1) cs
      else '\\' :: '"' :: escapeAll isMulti 0 cs
    else escape isMulti c ++ escapeAll isMulti 0 cs

/-- The line break that opens a text on several lines. -/
def opening (cs : List Char) : List Char := if cs.contains '\n' then ['\n'] else []

def Quoting.write (cs : List Char) : Quoting → List Char
  | .basic => '"' :: escapeAll false 0 cs ++ ['"']
  | .literal => '\'' :: cs ++ ['\'']
  | .multiBasic => ['"', '"', '"'] ++ opening cs ++ escapeAll true 0 cs ++ ['"', '"', '"']
  | .multiLiteral => ['\'', '\'', '\''] ++ opening cs ++ cs ++ ['\'', '\'', '\'']

def quote (cs : List Char) : List Char := (quoting cs).write cs

/-- A key, quoted where it has to be, and always on one line. -/
def keyText (key : String) : List Char :=
  if !key.isEmpty && key.toList.all isBareChar then key.toList
  else ((plainQuoting? key.toList).getD .basic).write key.toList

/-! ## Values -/

mutual

/-- A value on one line. -/
def Value.line : Value → List Char
  | .string value => quote value.toList
  | .integer value => (toString value).toList
  | .float word => (Format.double.write floats word).toList
  | .boolean value => if value then "true".toList else "false".toList
  | .time => []
  | .array values => '[' :: lineItems values ++ [']']
  | .table entries => '\x7b' :: lineEntries entries ++ ['\x7d']

def lineItems : List Value → List Char
  | [] => []
  | [v] => v.line
  | v :: rest => v.line ++ ',' :: ' ' :: lineItems rest

def lineEntries : List (String × Value) → List Char
  | [] => []
  | (key, v) :: rest =>
    ' ' :: keyText key ++ ' ' :: '=' :: ' ' :: v.line ++ (if rest.isEmpty then [' '] else [',']) ++ lineEntries rest

end

/-- A value that stands under headers of its own. -/
def Value.isSection : Value → Bool
  | .table _ => true
  | .array values => !values.isEmpty && values.all fun v => match v with | .table _ => true | _ => false
  | _ => false

/-- The keys with a value on their line. -/
def plainLines : List (String × Value) → List (List Char)
  | [] => []
  | (key, v) :: rest =>
    if v.isSection then plainLines rest
    else (keyText key ++ ' ' :: '=' :: ' ' :: v.line) :: plainLines rest

/-- Lines with the header they stand under. -/
abbrev Block := List (List Char)

mutual

/-- The blocks of a value that has headers of its own. A table that holds only tables needs none. -/
def Value.blocks (path : List Char) : Value → List Block
  | .table entries =>
    let plain := plainLines entries
    (if plain.isEmpty && !entries.isEmpty then [] else [('[' :: path ++ [']']) :: plain]) ++
      sections (path ++ ['.']) entries
  | .array rows => rowBlocks path rows
  | _ => []

def rowBlocks (path : List Char) : List Value → List Block
  | [] => []
  | .table entries :: rest =>
    (('[' :: '[' :: path ++ [']', ']']) :: plainLines entries) ::
      (sections (path ++ ['.']) entries ++ rowBlocks path rest)
  | _ :: rest => rowBlocks path rest

def sections (path : List Char) : List (String × Value) → List Block
  | [] => []
  | (key, v) :: rest =>
    (if v.isSection then v.blocks (path ++ keyText key) else []) ++ sections path rest

end

def Block.text (block : Block) : List Char := block.flatMap fun line => line ++ ['\n']

/-- The text of a document, a blank line before each header but a first. -/
def write (t : Table) : String :=
  let blocks := (plainLines t :: sections [] t).filter (!·.isEmpty)
  String.ofList (List.intercalate ['\n'] (blocks.map Block.text))

end Casement.Toml
