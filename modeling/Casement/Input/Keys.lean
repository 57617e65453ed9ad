import Casement.Platform

namespace Casement

/-- A key by the number the window system gives it. -/
abbrev KeyCode := UInt8

namespace KeyCode

def shift : KeyCode := 0x10

def control : KeyCode := 0x11

def alt : KeyCode := 0x12

def super : KeyCode := 0x5B

end KeyCode

/-- The keys a GUI steers by. -/
inductive NavKey where
  | tab | leftArrow | rightArrow | upArrow | downArrow | pageUp | pageDown | home | endKey
  | insert | delete | backspace | space | enter | escape | keyPadEnter | a | c | v | x | y | z
  deriving DecidableEq, Repr, Inhabited

namespace NavKey

def name : NavKey → String
  | .tab => "Tab"
  | .leftArrow => "LeftArrow"
  | .rightArrow => "RightArrow"
  | .upArrow => "UpArrow"
  | .downArrow => "DownArrow"
  | .pageUp => "PageUp"
  | .pageDown => "PageDown"
  | .home => "Home"
  | .endKey => "End"
  | .insert => "Insert"
  | .delete => "Delete"
  | .backspace => "Backspace"
  | .space => "Space"
  | .enter => "Enter"
  | .escape => "Escape"
  | .keyPadEnter => "KeyPadEnter"
  | .a => "A"
  | .c => "C"
  | .v => "V"
  | .x => "X"
  | .y => "Y"
  | .z => "Z"

end NavKey

/-- Key codes by steering key, in the order of the keys' names. -/
abbrev KeyMap := List (NavKey × KeyCode)

/-- The key codes of the steering keys, where key codes mean keys. -/
def Platform.keyMap : Platform → KeyMap
  | .macOs => []
  | .windows | .linux => [
      (.a, 0x41), (.backspace, 0x08), (.c, 0x43), (.delete, 0x2E), (.downArrow, 0x28),
      (.endKey, 0x23), (.enter, 0x0D), (.escape, 0x1B), (.home, 0x24), (.insert, 0x2D),
      (.keyPadEnter, 0x0D), (.leftArrow, 0x25), (.pageDown, 0x22), (.pageUp, 0x21),
      (.rightArrow, 0x27), (.space, 0x20), (.tab, 0x09), (.upArrow, 0x26), (.v, 0x56),
      (.x, 0x58), (.y, 0x59), (.z, 0x5A)]

end Casement
