import Casement.Config.Basic
import Casement.Config.Ron.Reader
import Casement.Number.Layout

/-!
# Configurations as records

A field that is not in the record keeps its default, fields that are not known do not count, and no
known field comes twice.
-/

namespace Casement

open Number

namespace Ron

def textOf? : Value → Option String
  | .text s => some s
  | _ => none

def nameOf? : Value → Option String
  | .name s => some s
  | _ => none

def single? : Value → Option Single
  | .number word => (float? .single word).map fun w => ⟨UInt32.ofNat w⟩
  | _ => none

/-- Numbers are written positionally, whole ones with a point and a zero. -/
def floats : Layout := ⟨true, none, "NaN"⟩

def ofSingle (x : Single) : Value := .number (Format.single.write floats x.word.toNat).toList

def ofInt (n : Int) : Value := .number (toString n).toList

def option? {α : Type} (read : Value → Option α) : Value → Option (Option α)
  | .none => some none
  | .some v => (read v).map some
  | _ => none

def int32? : Value → Option Int32
  | .number word =>
    (integer? word).bind fun n =>
      if Int32.minValue.toInt ≤ n ∧ n ≤ Int32.maxValue.toInt then some (Int32.ofInt n) else none
  | _ => none

/-- Numbers without a sign. -/
def uint32? : Value → Option UInt32
  | .number word =>
    (magnitude? word).bind fun n => if n < UInt32.size then some (UInt32.ofNat n) else none
  | _ => none

def fieldsOf? : Value → Option (List (String × Value))
  | .record _ fields => some fields
  | _ => none

/-- The value of a field, if it comes at most once. -/
def field? (fields : List (String × Value)) (key : String) : Option (Option Value) :=
  match fields.filter (·.1 = key) with
  | [] => some none
  | [(_, v)] => some (some v)
  | _ => none

def need {α : Type} (fields : List (String × Value)) (key : String) (read : Value → Option α) :
    Option α :=
  match field? fields key with
  | some (some v) => read v
  | _ => none

def want {α : Type} (fields : List (String × Value)) (key : String) (read : Value → Option α)
    (fallback : α) : Option α :=
  match field? fields key with
  | some (some v) => read v
  | some none => some fallback
  | none => none

end Ron

open Ron

namespace ContextConfig

def shape : Shape :=
  .record "ContextConfig" [("style", .name), ("wheel_delta", .option .float), ("platform_name", .text)]

def toRecord (c : ContextConfig) : Ron.Value :=
  .record none
    [("style", .name c.style.name),
      ("wheel_delta", (c.wheelDelta.map fun x => Value.some (Ron.ofSingle x)).getD .none),
      ("platform_name", .text c.platformName)]

def ofRecord? (v : Ron.Value) : Option ContextConfig := do
  let fs ← fieldsOf? v
  let style ← want fs "style" (fun v => (nameOf? v).bind GuiStyle.ofName?) ({} : ContextConfig).style
  let wheelDelta ← want fs "wheel_delta" (option? single?) ({} : ContextConfig).wheelDelta
  let platformName ← want fs "platform_name" textOf? ({} : ContextConfig).platformName
  return { style, wheelDelta, platformName }

end ContextConfig

namespace WindowConfig

def shape : Shape :=
  .record "WindowConfig"
    [("title", .text), ("x", .integer), ("y", .integer), ("width", .integer), ("height", .integer),
      ("frames", .natural)]

def toRecord (c : WindowConfig) : Ron.Value :=
  .record none
    [("title", .text c.title), ("x", Ron.ofInt c.x.toInt), ("y", Ron.ofInt c.y.toInt),
      ("width", Ron.ofInt c.width.toInt), ("height", Ron.ofInt c.height.toInt),
      ("frames", Ron.ofInt c.frames.toNat)]

def ofRecord? (v : Ron.Value) : Option WindowConfig := do
  let fs ← fieldsOf? v
  let title ← need fs "title" textOf?
  let x ← need fs "x" int32?
  let y ← need fs "y" int32?
  let width ← need fs "width" int32?
  let height ← need fs "height" int32?
  let frames ← need fs "frames" uint32?
  return { title, x, y, width, height, frames }

def listOfRecords? : Ron.Value → Option (List WindowConfig)
  | .list values => values.mapM ofRecord?
  | _ => none

end WindowConfig

namespace DemoConfig

def shape : Shape :=
  .record "DemoConfig"
    [("platform", .name), ("ticks", .natural), ("context", ContextConfig.shape),
      ("windows", .list WindowConfig.shape)]

def toRecord (c : DemoConfig) : Ron.Value :=
  .record none
    [("platform", .name c.platform.name), ("ticks", Ron.ofInt c.ticks.toNat),
      ("context", c.context.toRecord), ("windows", .list (c.windows.map (·.toRecord)))]

def ofRecord? (v : Ron.Value) : Option DemoConfig := do
  let fs ← fieldsOf? v
  let platform ← want fs "platform" (fun v => (nameOf? v).bind Platform.ofName?) ({} : DemoConfig).platform
  let ticks ← want fs "ticks" uint32? ({} : DemoConfig).ticks
  let context ← want fs "context" ContextConfig.ofRecord? ({} : DemoConfig).context
  let windows ← want fs "windows" WindowConfig.listOfRecords? ({} : DemoConfig).windows
  return { platform, ticks, context, windows }

end DemoConfig

end Casement
