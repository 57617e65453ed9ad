import Casement.Gui.Style
import Casement.Number.Single
import Casement.Platform

namespace Casement

/-- How windows are set up. -/
structure ContextConfig where
  style : GuiStyle := .dark
  wheelDelta : Option Single := none
  platformName : String := "imgui_host"
  deriving DecidableEq, Repr, Inhabited

/-- A window of the demo program and the ticks it shows frames for. -/
structure WindowConfig where
  title : String
  x : Int32
  y : Int32
  width : Int32
  height : Int32
  frames : UInt32
  deriving DecidableEq, Repr, Inhabited

structure DemoConfig where
  platform : Platform := .fallback
  ticks : UInt32 := 4
  context : ContextConfig := {}
  windows : List WindowConfig := [⟨"Demo", 0, 0, 400, 300, 3⟩]
  deriving DecidableEq, Repr, Inhabited

end Casement
