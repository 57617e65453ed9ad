/-!
# Documents of tables

A document is a table: keys with values in the order they came. Points in time are told apart from
other values but not from one another.
-/

namespace Casement.Toml

inductive Value where
  | string (value : String)
  | integer (value : Int)
  | float (word : Nat)
  | boolean (value : Bool)
  | time
  | array (values : List Value)
  | table (entries : List (String × Value))
  deriving Inhabited

abbrev Table := List (String × Value)

/-- Characters of keys that need no quotation marks. -/
def isBareChar (c : Char) : Bool := c.isAlphanum || c = '_' || c = '-'

end Casement.Toml
