import Casement.Config.Basic
import Casement.Config.Toml.Value
import Casement.Number.Binary

/-!
# Configurations as tables

A field that is not in the table keeps its default; fields that are not known do not count. A table
may also be given as the array of its fields in their order.
-/

namespace Casement

open Number

namespace Toml

/-- A name out of several, alone or as the only key of a table whose value is empty. -/
def nameOf? : Value → Option String
  | .string name => some name
  | .table [(name, .table [])] => some name
  | .table [(name, .array [])] => some name
  | _ => none

def textOf? : Value → Option String
  | .string s => some s
  | _ => none

/-- Whole numbers count as numbers. -/
def single? : Value → Option Single
  | .integer n => some (Single.ofInt n)
  | .float word => some ⟨UInt32.ofNat (Format.double.convert .single word)⟩
  | _ => none

def int32? : Value → Option Int32
  | .integer n =>
    if Int32.minValue.toInt ≤ n ∧ n ≤ Int32.maxValue.toInt then some (Int32.ofInt n) else none
  | _ => none

def uint32? : Value → Option UInt32
  | .integer n => if 0 ≤ n ∧ n < UInt32.size then some (UInt32.ofNat n.toNat) else none
  | _ => none

/-- The fields of a record, by name or by place. -/
inductive Fields where
  | named (entries : Table)
  | placed (values : List Value)

/-- A point in time counts as a record without known fields. -/
def fields? : Value → Option Fields
  | .table entries => some (.named entries)
  | .array values => some (.placed values)
  | .time => some (.named [])
  | _ => none

namespace Fields

def get? (fs : Fields) (key : String) (place : Nat) : Option Value :=
  match fs with
  | .named entries => entries.lookup key
  | .placed values => values[place]?

/-- A field that must be there. -/
def need {α : Type} (fs : Fields) (key : String) (place : Nat) (read : Value → Option α) : Option α :=
  (fs.get? key place).bind read

/-- A field with a default. -/
def want {α : Type} (fs : Fields) (key : String) (place : Nat) (read : Value → Option α) (fallback : α) :
    Option α :=
  match fs.get? key place with
  | none => some fallback
  | some v => read v

end Fields

end Toml

open Toml

namespace ContextConfig

def toTable (c : ContextConfig) : Toml.Table :=
  [("style", Value.string c.style.name)] ++
    (c.wheelDelta.map fun x =>
      ("wheel_delta", Value.float (Format.single.convert .double x.word.toNat))).toList ++
    [("platform_name", Value.string c.platformName)]

def ofValue? (v : Value) : Option ContextConfig := do
  let fs ← fields? v
  let style ← fs.want "style" 0 (fun v => (nameOf? v).bind GuiStyle.ofName?) ({} : ContextConfig).style
  let wheelDelta ← fs.want "wheel_delta" 1 (fun v => (single? v).map some) ({} : ContextConfig).wheelDelta
  let platformName ← fs.want "platform_name" 2 textOf? ({} : ContextConfig).platformName
  return { style, wheelDelta, platformName }

end ContextConfig

namespace WindowConfig

def toTable (c : WindowConfig) : Toml.Table :=
  [("title", .string c.title), ("x", .integer c.x.toInt), ("y", .integer c.y.toInt),
    ("width", .integer c.width.toInt), ("height", .integer c.height.toInt),
    ("frames", .integer c.frames.toNat)]

def ofValue? (v : Value) : Option WindowConfig := do
  let fs ← fields? v
  let title ← fs.need "title" 0 textOf?
  let x ← fs.need "x" 1 int32?
  let y ← fs.need "y" 2 int32?
  let width ← fs.need "width" 3 int32?
  let height ← fs.need "height" 4 int32?
  let frames ← fs.need "frames" 5 uint32?
  return { title, x, y, width, height, frames }

def listOfValue? : Value → Option (List WindowConfig)
  | .array values => values.mapM ofValue?
  | _ => none

end WindowConfig

namespace DemoConfig

def toTable (c : DemoConfig) : Toml.Table :=
  [("platform", .string c.platform.name), ("ticks", .integer c.ticks.toNat),
    ("context", .table c.context.toTable),
    ("windows", .array (c.windows.map fun w => .table w.toTable))]

def ofValue? (v : Value) : Option DemoConfig := do
  let fs ← fields? v
  let platform ← fs.want "platform" 0 (fun v => (nameOf? v).bind Platform.ofName?) ({} : DemoConfig).platform
  let ticks ← fs.want "ticks" 1 uint32? ({} : DemoConfig).ticks
  let context ← fs.want "context" 2 ContextConfig.ofValue? ({} : DemoConfig).context
  let windows ← fs.want "windows" 3 WindowConfig.listOfValue? ({} : DemoConfig).windows
  return { platform, ticks, context, windows }

end DemoConfig

end Casement
