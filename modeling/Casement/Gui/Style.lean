namespace Casement

/-- The colour schemes of a GUI. -/
inductive GuiStyle where
  | dark
  | light
  | classic
  deriving DecidableEq, Repr, Inhabited

namespace GuiStyle

def name : GuiStyle → String
  | .dark => "Dark"
  | .light => "Light"
  | .classic => "Classic"

def ofName? : String → Option GuiStyle
  | "Dark" => some .dark
  | "Light" => some .light
  | "Classic" => some .classic
  | _ => none

end GuiStyle

end Casement
