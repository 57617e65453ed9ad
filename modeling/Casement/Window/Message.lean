import Casement.Host.Handle
import Casement.Input.Buttons
import Casement.Input.Keys
import Casement.Input.Wheel

namespace Casement

/-- What a host tells a window. -/
inductive Message where
  | close
  | destroy
  | mouseMove
  | setCursor (client : Bool)
  | mouseWheel (axis : WheelAxis) (delta : Int16)
  | buttonDown (button : MouseButton)
  | buttonUp (button : MouseButton)
  | key (code : KeyCode) (down : Bool)
  | char (codepoint : UInt32)
  | other (id : UInt32) (wparam : UInt64) (lparam : Int64)
  deriving DecidableEq, Repr

/-- Messages by their kind alone. -/
inductive MessageKind where
  | close | destroy | mouseMove | setCursor | mouseWheel | buttonDown | buttonUp | key | char | other
  deriving DecidableEq, Repr, Inhabited

namespace MessageKind

def name : MessageKind → String
  | .close => "Close"
  | .destroy => "Destroy"
  | .mouseMove => "MouseMove"
  | .setCursor => "SetCursor"
  | .mouseWheel => "MouseWheel"
  | .buttonDown => "ButtonDown"
  | .buttonUp => "ButtonUp"
  | .key => "Key"
  | .char => "Char"
  | .other => "Other"

def all : List MessageKind :=
  [.close, .destroy, .mouseMove, .setCursor, .mouseWheel, .buttonDown, .buttonUp, .key, .char, .other]

def ofName? (name : String) : Option MessageKind := all.find? (·.name == name)

end MessageKind

namespace Message

def kind : Message → MessageKind
  | .close => .close
  | .destroy => .destroy
  | .mouseMove => .mouseMove
  | .setCursor _ => .setCursor
  | .mouseWheel .. => .mouseWheel
  | .buttonDown _ => .buttonDown
  | .buttonUp _ => .buttonUp
  | .key .. => .key
  | .char _ => .char
  | .other .. => .other

def boolText (b : Bool) : String := if b then "true" else "false"

/-- Braces around fields, as the log writes them. -/
def fields (fs : List String) : String := " \x7b " ++ ", ".intercalate fs ++ " \x7d"

/-- The message as the log writes it. -/
def text (m : Message) : String :=
  m.kind.name ++
    match m with
    | .close | .destroy | .mouseMove => ""
    | .setCursor client => fields ["client: " ++ boolText client]
    | .mouseWheel axis delta => fields ["axis: " ++ axis.name, s!"delta: {delta.toInt}"]
    | .buttonDown button | .buttonUp button => "(" ++ button.name ++ ")"
    | .key code down => fields [s!"key: {code.toNat}", "down: " ++ boolText down]
    | .char codepoint => s!"({codepoint.toNat})"
    | .other id wparam lparam =>
      fields [s!"id: {id.toNat}", s!"wparam: {wparam.toNat}", s!"lparam: {lparam.toInt}"]

end Message

/-- Whether a message was dealt with or is left to the host. -/
inductive MessageResult where
  | handled
  | default
  deriving DecidableEq, Repr

def MessageResult.name : MessageResult → String
  | .handled => "Handled"
  | .default => "Default"

/-- A key offered to the windows that listen for accelerators. -/
structure KeyMessage where
  target : NativeHandle
  code : KeyCode
  down : Bool
  deriving DecidableEq, Repr

/-- The answer to a key offered as an accelerator. -/
inductive Accel where
  | notOurs
  | eat
  | passToHost
  deriving DecidableEq, Repr

def Accel.name : Accel → String
  | .notOurs => "NotOurs"
  | .eat => "Eat"
  | .passToHost => "PassToHost"

end Casement
