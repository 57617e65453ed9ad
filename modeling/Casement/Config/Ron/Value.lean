/-!
# Documents of records

Values as they are written: names, numbers not yet read, text, lists, maps, and records with named
or placed fields.
-/

namespace Casement.Ron

inductive Value where
  | name (name : String)
  | number (word : List Char)
  | text (value : String)
  | char (value : Char)
  | none
  | some (value : Value)
  | list (values : List Value)
  | map (entries : List (Value × Value))
  | record (name : Option String) (fields : List (String × Value))
  | tuple (name : Option String) (values : List Value)
  deriving Inhabited

/-- What is expected at a place of a document. The fields of a record that it does not name may be
anything. -/
inductive Shape where
  | any
  | name
  | text
  | float
  | integer
  | natural
  | option (shape : Shape)
  | list (item : Shape)
  | record (name : String) (fields : List (String × Shape))
  deriving Inhabited

end Casement.Ron
