import Casement.Config.Ron.Value
import Casement.Text.Invisible

/-!
# Writing documents

Every field, item and entry stands on a line of its own, with a comma behind it.
-/

namespace Casement.Ron

/-- A character between quotation marks. -/
def escape (c : Char) : List Char :=
  match c with
  | '\x00' => ['\\', '0']
  | '\t' => ['\\', 't']
  | '\n' => ['\\', 'n']
  | '\r' => ['\\', 'r']
  | '\'' => ['\\', '\'']
  | '"' => ['\\', '"']
  | '\\' => ['\\', '\\']
  | c =>
    if isInvisible c then '\\' :: 'u' :: '\x7b' :: Nat.toDigits 16 c.toNat ++ ['\x7d'] else [c]

def quote (cs : List Char) : List Char := '"' :: cs.flatMap escape ++ ['"']

def indent (depth : Nat) : List Char := List.replicate (4 * depth) ' '

/-- Lines between two marks; none need no line breaks. -/
def enclose (depth : Nat) (first last : Char) (lines : List (List Char)) : List Char :=
  if lines.isEmpty then [first, last]
  else
    first :: '\n' :: lines.flatMap (fun line => indent (depth + 1) ++ line ++ [',', '\n']) ++
      indent depth ++ [last]

mutual

/-- The text of a value whose first line is indented `depth` times. -/
def Value.layOut (depth : Nat) : Value → List Char
  | .name name => name.toList
  | .number word => word
  | .text value => quote value.toList
  | .char value => '\'' :: escape value ++ ['\'']
  | .none => "None".toList
  | .some value => "Some(".toList ++ value.layOut depth ++ [')']
  | .list values => enclose depth '[' ']' (itemTexts (depth + 1) values)
  | .map entries => enclose depth '\x7b' '\x7d' (entryTexts (depth + 1) entries)
  | .record name fields => (name.getD "").toList ++ enclose depth '(' ')' (fieldTexts (depth + 1) fields)
  | .tuple name values =>
    (name.getD "").toList ++ '(' :: List.intercalate [',', ' '] (itemTexts depth values) ++ [')']

def itemTexts (depth : Nat) : List Value → List (List Char)
  | [] => []
  | v :: rest => v.layOut depth :: itemTexts depth rest

def fieldTexts (depth : Nat) : List (String × Value) → List (List Char)
  | [] => []
  | (name, v) :: rest => (name.toList ++ ':' :: ' ' :: v.layOut depth) :: fieldTexts depth rest

def entryTexts (depth : Nat) : List (Value × Value) → List (List Char)
  | [] => []
  | (key, v) :: rest => (key.layOut depth ++ ':' :: ' ' :: v.layOut depth) :: entryTexts depth rest

end

/-- The text of a document. -/
def write (v : Value) : String := String.ofList (v.layOut 0)

end Casement.Ron
