namespace Casement

/-- The window systems told apart. -/
inductive Platform where
  | windows
  | macOs
  | linux
  deriving DecidableEq, Repr, Inhabited

namespace Platform

/-- The platform taken where none is named. -/
def fallback : Platform := .linux

def name : Platform → String
  | .windows => "Windows"
  | .macOs => "MacOs"
  | .linux => "Linux"

def ofName? : String → Option Platform
  | "Windows" => some .windows
  | "MacOs" => some .macOs
  | "Linux" => some .linux
  | _ => none

end Platform

end Casement
