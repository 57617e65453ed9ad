namespace Casement

/-- The cursor a GUI asks for. -/
inductive MouseCursor where
  | hidden | arrow | textInput | resizeAll | resizeNS | resizeEW | resizeNESW | resizeNWSE | hand
  | notAllowed
  deriving DecidableEq, Repr, Inhabited

namespace MouseCursor

def name : MouseCursor → String
  | .hidden => "None"
  | .arrow => "Arrow"
  | .textInput => "TextInput"
  | .resizeAll => "ResizeAll"
  | .resizeNS => "ResizeNS"
  | .resizeEW => "ResizeEW"
  | .resizeNESW => "ResizeNESW"
  | .resizeNWSE => "ResizeNWSE"
  | .hand => "Hand"
  | .notAllowed => "NotAllowed"

def all : List MouseCursor :=
  [.hidden, .arrow, .textInput, .resizeAll, .resizeNS, .resizeEW, .resizeNESW, .resizeNWSE, .hand,
    .notAllowed]

def ofName? (name : String) : Option MouseCursor := all.find? (·.name == name)

end MouseCursor

/-- A cursor of the window system. -/
inductive NativeCursor where
  | arrow | iBeam | sizeAll | sizeNS | sizeWE | sizeNESW | sizeNWSE | hand | no
  deriving DecidableEq, Repr, Inhabited

def NativeCursor.name : NativeCursor → String
  | .arrow => "Arrow"
  | .iBeam => "IBeam"
  | .sizeAll => "SizeAll"
  | .sizeNS => "SizeNS"
  | .sizeWE => "SizeWE"
  | .sizeNESW => "SizeNESW"
  | .sizeNWSE => "SizeNWSE"
  | .hand => "Hand"
  | .no => "No"

/-- The window system's cursor for one the GUI asks for; none hides it. -/
def MouseCursor.native : MouseCursor → Option NativeCursor
  | .hidden => none
  | .arrow => some .arrow
  | .textInput => some .iBeam
  | .resizeAll => some .sizeAll
  | .resizeNS => some .sizeNS
  | .resizeEW => some .sizeWE
  | .resizeNESW => some .sizeNESW
  | .resizeNWSE => some .sizeNWSE
  | .hand => some .hand
  | .notAllowed => some .no

end Casement
