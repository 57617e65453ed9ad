import Mathlib.Data.Finset.Insert
import Casement.Proofs.Config.Overlay

namespace Casement

open Number Config

namespace Toml

theorem Keyed.of_keys {p : Value → Prop} {t : Table} (keys : List String) (hkeys : t.map Prod.fst = keys)
    (hbare : keys.all isBare = true) (hnodup : keys.Nodup) (values : ∀ e ∈ t, p e.2) : Keyed p t where
  bare e he := bare_of_isBare (List.all_eq_true.mp hbare e.1 (hkeys ▸ List.mem_map_of_mem he))
  nodup := hkeys ▸ hnodup
  values := values

theorem inRange_int32 (n : Int32) : inRange n.toInt = true := by
  have hlow := n.le_toInt
  have hhigh := n.toInt_lt
  have hmin : Int64.minValue.toInt = -9223372036854775808 := rfl
  have hmax : Int64.maxValue.toInt = 9223372036854775807 := rfl
  simp only [inRange, Bool.and_eq_true, decide_eq_true_eq]
  omega

theorem inRange_uint32 (n : UInt32) : inRange n.toNat = true := by
  have hlt := n.toNat_lt
  have hmin : Int64.minValue.toInt = -9223372036854775808 := rfl
  have hmax : Int64.maxValue.toInt = 9223372036854775807 := rfl
  simp only [inRange, Bool.and_eq_true, decide_eq_true_eq]
  omega

end Toml

open Toml in
theorem ContextConfig.keyed_toTable (c : ContextConfig) (hdelta : ∀ x ∈ c.wheelDelta, x.isNan = false) :
    Keyed Plain c.toTable := by
  rw [toTable]
  cases hc : c.wheelDelta with
  | none =>
    refine .of_keys ["style", "platform_name"] rfl rfl (by decide) ?_
    simp only [Option.map_none, Option.toList_none, List.append_nil, List.singleton_append, List.forall_mem_cons]
    exact ⟨.string _, .string _, by simp⟩
  | some x =>
    obtain ⟨word, rfl, hnumber, -⟩ := exists_float (hdelta x hc)
    refine .of_keys ["style", "wheel_delta", "platform_name"] rfl rfl (by decide) ?_
    simp only [Option.map_some, Option.toList_some, List.cons_append, List.nil_append,
      List.forall_mem_cons]
    exact ⟨.string _, .float hnumber, .string _, by simp⟩

open Toml in
theorem WindowConfig.keyed_toTable (c : WindowConfig) : Keyed Plain c.toTable := by
  refine .of_keys keys rfl rfl (by decide) ?_
  simp only [toTable, List.forall_mem_cons]
  exact ⟨.string _, .integer (inRange_int32 _), .integer (inRange_int32 _), .integer (inRange_int32 _),
    .integer (inRange_int32 _), .integer (inRange_uint32 _), by simp⟩

open Toml in
theorem DemoConfig.keyed_toTable (c : DemoConfig) (hdelta : ∀ x ∈ c.context.wheelDelta, x.isNan = false) :
    Keyed Shallow c.toTable := by
  have hwindows : Shallow (.array (c.windows.map fun w => .table w.toTable)) := by
    cases hc : c.windows with
    | nil => exact .plain .empty
    | cons w ws =>
      have hrows : (w :: ws).map (fun w => Value.table w.toTable) =
          (w.toTable :: ws.map (·.toTable)).map Value.table := by simp
      rw [hrows]
      refine .rows fun t ht ↦ ?_
      rw [← List.map_cons (f := fun w : WindowConfig => w.toTable), List.mem_map] at ht
      obtain ⟨w, -, rfl⟩ := ht
      exact w.keyed_toTable
  refine .of_keys ["platform", "ticks", "context", "windows"] rfl rfl (by decide) ?_
  simp only [toTable, List.forall_mem_cons]
  exact ⟨.plain (.string _), .plain (.integer (inRange_uint32 _)), .table (c.context.keyed_toTable hdelta), hwindows,
    by simp⟩

namespace Ron

theorem Fits.of_fields {depth : Nat} {name : String} {shapes : List (String × Shape)} (fields : List (String × Value))
    (keys : List String) (hkeys : fields.map Prod.fst = keys) (hnames : keys.all isName = true)
    (h : ∀ f ∈ fields, Fits depth ((shapes.lookup f.1).getD .any) f.2) :
    Fits (depth + 2) (.record name shapes) (.record Option.none fields) :=
  .record (fun f hf ↦ isName_of_check (List.all_eq_true.mp hnames f.1 (hkeys ▸ List.mem_map_of_mem hf))) h

theorem isName_style (style : GuiStyle) : IsName style.name := by
  cases style <;> exact isName_of_check rfl

theorem isName_platform (platform : Platform) : IsName platform.name := by
  cases platform <;> exact isName_of_check rfl

end Ron

open Ron in
theorem ContextConfig.fits_toRecord (c : ContextConfig) (hdelta : ∀ x ∈ c.wheelDelta, x.isNan = false) (depth : Nat) :
    Fits (depth + 3) shape c.toRecord := by
  have hwheel : Fits (depth + 1) (.option .float) ((c.wheelDelta.map fun x => Value.some (ofSingle x)).getD .none) := by
    cases hc : c.wheelDelta with
    | none => exact .none
    | some x => exact .some (.float (Single.isNumber (hdelta x hc)))
  refine Fits.of_fields c.fields ["style", "wheel_delta", "platform_name"] rfl rfl ?_
  simp only [fields, List.forall_mem_cons]
  exact ⟨.name (isName_style _), hwheel, .text _, by simp⟩

open Ron in
theorem WindowConfig.fits_toRecord (c : WindowConfig) (depth : Nat) : Fits (depth + 2) shape c.toRecord := by
  refine Fits.of_fields c.fields keys rfl rfl ?_
  simp only [fields, List.forall_mem_cons]
  exact ⟨.text _, .integer _, .integer _, .integer _, .integer _, .natural _, by simp⟩

open Ron in
theorem DemoConfig.fits_toRecord (c : DemoConfig) (hdelta : ∀ x ∈ c.context.wheelDelta, x.isNan = false) :
    Fits depthLimit shape c.toRecord := by
  have hwindows : Fits (124 + 2) (.list WindowConfig.shape) (.list (c.windows.map (·.toRecord))) := by
    refine .list fun v hv ↦ ?_
    obtain ⟨w, -, rfl⟩ := List.mem_map.mp hv
    exact w.fits_toRecord 122
  change Fits (126 + 2) _ _
  refine Fits.of_fields c.fields ["platform", "ticks", "context", "windows"] rfl rfl ?_
  simp only [fields, List.forall_mem_cons]
  exact ⟨.name (isName_platform _), .natural _, c.context.fits_toRecord hdelta 123, hwindows, by simp⟩

namespace Schema

variable {α : Type} (s : Schema α)

def strikeText (out : Location → Bool) (text : String) : FileFormat → Option String
  | .toml => (Toml.read? text).map fun t => Toml.write (Toml.entriesWithout out t)
  | .ron => (Ron.read? s.shape text).map fun v => Ron.write (v.without out)

/-- Takes the entries at some places out of the document in a file. -/
def strike (out : Location → Bool) (f : Folder) (path : String) : Except ConfigError Folder :=
  match f.readText path with
  | .error cause => .error (.file cause)
  | .ok text =>
    match FileFormat.ofPath? path with
    | none => .error (.unsupported path)
    | some format =>
      match s.strikeText out text format with
      | none => .error .malformed
      | some text =>
        match f.write path text.toUTF8 with
        | .error cause => .error (.file cause)
        | .ok f => .ok f

end Schema

theorem fromUTF8?_toUTF8 (text : String) : String.fromUTF8? text.toUTF8 = some text :=
  dif_pos text.isValidUTF8

theorem Folder.exists_write (f : Folder) {path : String} (hname : (nameOfPath? path).isSome) (text : String) :
    ∃ g, f.write path text.toUTF8 = .ok g ∧ g.readText path = .ok text := by
  obtain ⟨name, hname⟩ := Option.isSome_iff_exists.mp hname
  refine ⟨⟨(name, text.toUTF8) :: f.files.filter (·.1 ≠ name)⟩, ?_, ?_⟩
  · rw [write, hname]
  · rw [readText, hname, Option.bind_some, List.lookup_cons_self]
    simp only [fromUTF8?_toUTF8]

namespace DemoConfig

section

variable (c : DemoConfig) (hdelta : ∀ x ∈ c.context.wheelDelta, x.isNan = false)

def reread? (out : Location → Bool) : FileFormat → Option DemoConfig
  | .toml => ofValue? (.table (Toml.entriesWithout out c.toTable))
  | .ron => ofRecord? (c.toRecord.without out)

theorem reread?_window {i : Nat} (hi : i < c.windows.length) {key : String} (hkey : key ∈ WindowConfig.keys)
    (format : FileFormat) : c.reread? (fun place => decide (place = windowPlace i key)) format = none := by
  cases format with
  | toml => exact c.ofValue?_without_window hi hkey
  | ron => exact c.ofRecord?_without_window hi hkey

include hdelta

theorem reread?_places (keys : Finset Setting) (format : FileFormat) :
    c.reread? (places keys) format = some (c.overlay keys) := by
  cases format with
  | toml => exact c.ofValue?_without hdelta keys
  | ron => exact c.ofRecord?_without hdelta keys

theorem read?_toml : Toml.read? (schema.render c .toml) = some (Toml.plainFirst c.toTable) := by
  rw [Schema.render]
  exact Toml.read?_write (c.keyed_toTable hdelta)

theorem read?_ron : Ron.read? schema.shape (schema.render c .ron) = some c.toRecord := by
  rw [Schema.render]
  exact Ron.read?_write (c.fits_toRecord hdelta)

theorem exists_strikeText (out : Location → Bool) (format : FileFormat) :
    ∃ text, schema.strikeText out (schema.render c format) format = some text ∧
      schema.parse? text format = c.reread? out format := by
  cases format with
  | toml =>
    have hkeyed := c.keyed_toTable hdelta
    have hedited : Toml.Keyed Toml.Shallow (Toml.entriesWithout out (Toml.plainFirst c.toTable)) :=
      hkeyed.plainFirst.without Toml.Shallow.without
    refine ⟨Toml.write (Toml.entriesWithout out (Toml.plainFirst c.toTable)), ?_, ?_⟩
    · rw [Schema.strikeText, c.read?_toml hdelta, Option.map_some]
    · rw [Schema.parse?, Toml.read?_write hedited, Option.bind_some, reread?]
      refine ofValue?_congr fun key ↦ ?_
      rw [Toml.lookup_plainFirst hedited.nodup, Toml.lookup_entriesWithout, Toml.lookup_plainFirst hkeyed.nodup,
        Toml.lookup_entriesWithout]
  | ron =>
    have hedited : Ron.Fits Ron.depthLimit schema.shape (c.toRecord.without out) := (c.fits_toRecord hdelta).without out
    refine ⟨Ron.write (c.toRecord.without out), ?_, ?_⟩
    · rw [Schema.strikeText, c.read?_ron hdelta, Option.map_some]
    · rw [Schema.parse?, Ron.read?_write hedited, Option.bind_some, reread?]
      rfl

theorem parse?_render (format : FileFormat) : schema.parse? (schema.render c format) format = some c := by
  have hnone (step : Hop) (place : Location) : places ∅ (step :: place) = false := decide_eq_false (by simp)
  have hread : schema.parse? (schema.render c format) format = c.reread? (places ∅) format := by
    cases format with
    | toml =>
      rw [Schema.parse?, c.read?_toml hdelta, Option.bind_some, reread?, Toml.entriesWithout_eq_self hnone]
      exact ofValue?_congr fun key ↦ Toml.lookup_plainFirst (c.keyed_toTable hdelta).nodup key
    | ron =>
      rw [Schema.parse?, c.read?_ron hdelta, Option.bind_some, reread?, Ron.Value.without_eq_self hnone]
      rfl
  rw [hread, c.reread?_places hdelta, overlay_empty]

/-- A file with a configuration's document stays one that can be read, whatever is taken out of it; what is loaded from
it then is what is left of the document. -/
theorem exists_strike {f : Folder} {path : String} (hname : (nameOfPath? path).isSome) {format : FileFormat}
    (hformat : FileFormat.ofPath? path = some format) (hf : f.readText path = .ok (schema.render c format))
    (out : Location → Bool) :
    ∃ edited, schema.strike out f path = .ok edited ∧
      schema.loadFrom edited path = ((c.reread? out format).elim (.error .malformed) .ok) := by
  obtain ⟨text, hstrike, hparse⟩ := c.exists_strikeText hdelta out format
  obtain ⟨edited, hwrite, hread⟩ := f.exists_write hname text
  refine ⟨edited, ?_, ?_⟩
  · simp only [Schema.strike, hf, hformat, hstrike, hwrite]
  · simp only [Schema.loadFrom, Schema.load, hread, hformat, hparse]
    cases c.reread? out format <;> rfl

end

def mixed : DemoConfig where
  platform := .macOs
  ticks := 4294967295
  context := ⟨.light, some ⟨0xbdcccccd⟩, "a \"quoted\"\nname"⟩
  windows := [⟨"", -2147483648, 0, 1, 2147483647, 0⟩, ⟨"\x00\\", 1, 2, 3, 4, 5⟩]

end DemoConfig

end Casement
