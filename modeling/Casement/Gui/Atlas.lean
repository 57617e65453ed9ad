import Casement.Number.Single

namespace Casement

/-- A font by its size and, unless it is the built-in one, its file. -/
structure Font where
  size : Single
  file : Option String
  deriving DecidableEq, Repr

/-- The fonts of a GUI and the texture built from them. -/
structure FontAtlas where
  fonts : List Font := []
  texture : Option UInt64 := none
  deriving DecidableEq, Repr, Inhabited

namespace FontAtlas

/-- A new font makes the texture stale; it is numbered by its place. -/
def add (a : FontAtlas) (font : Font) : Nat × FontAtlas :=
  (a.fonts.length, ⟨a.fonts ++ [font], none⟩)

def isBuilt (a : FontAtlas) : Bool := a.texture.isSome

/-- A change to an atlas. -/
inductive Edit where
  | add (font : Font)
  | setTexture (texture : UInt64)
  | clear
  deriving DecidableEq, Repr

/-- The atlas after a change, with the number of the font it added. -/
def edit (a : FontAtlas) : Edit → Option Nat × FontAtlas
  | .add font => (some (a.add font).1, (a.add font).2)
  | .setTexture texture => (none, { a with texture := some texture })
  | .clear => (none, {})

end FontAtlas

end Casement
