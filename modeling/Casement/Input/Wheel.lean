import Casement.Number.Single
import Casement.Platform

namespace Casement

inductive WheelAxis where
  | vertical
  | horizontal
  deriving DecidableEq, Repr, Inhabited

namespace WheelAxis

def name : WheelAxis → String
  | .vertical => "Vertical"
  | .horizontal => "Horizontal"

def ofName? : String → Option WheelAxis
  | "Vertical" => some .vertical
  | "Horizontal" => some .horizontal
  | _ => none

end WheelAxis

/-- The wheel movement that makes one notch. -/
def Platform.wheelNotch : Platform → Single
  | .macOs => Single.ofInt 60
  | .windows | .linux => Single.ofInt 120

/-- Wheel movement in notches. -/
structure Wheel where
  vertical : Single := .zero
  horizontal : Single := .zero
  deriving DecidableEq, Repr, Inhabited

namespace Wheel

def turn (w : Wheel) (axis : WheelAxis) (delta : Int16) (notch : Single) : Wheel :=
  let notches := Single.ofInt delta.toInt / notch
  match axis with
  | .vertical => { w with vertical := w.vertical + notches }
  | .horizontal => { w with horizontal := w.horizontal + notches }

def add (w v : Wheel) : Wheel := ⟨w.vertical + v.vertical, w.horizontal + v.horizontal⟩

end Wheel

end Casement
