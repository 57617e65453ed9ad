import Mathlib.Data.Finset.Empty
import Casement.Proofs.Config.Places

namespace Casement

open Number Config

namespace Config

/-- The keys that may be left out of a document. -/
inductive Setting where
  | platform
  | ticks
  | context
  | windows
  | style
  | wheelDelta
  | platformName
  deriving DecidableEq, Repr

def Setting.place : Setting → Location
  | .platform => [.key "platform"]
  | .ticks => [.key "ticks"]
  | .context => [.key "context"]
  | .windows => [.key "windows"]
  | .style => [.key "context", .key "style"]
  | .wheelDelta => [.key "context", .key "wheel_delta"]
  | .platformName => [.key "context", .key "platform_name"]

def places (keys : Finset Setting) (place : Location) : Bool := decide (∃ key ∈ keys, key.place = place)

theorem Setting.place_injective : Function.Injective Setting.place := by
  intro a b h
  cases a <;> cases b <;> first | rfl | simp [place] at h

theorem places_place (keys : Finset Setting) (key : Setting) : places keys key.place = decide (key ∈ keys) := by
  refine decide_eq_decide.mpr ⟨?_, fun h ↦ ⟨key, h, rfl⟩⟩
  rintro ⟨other, hmem, hplace⟩
  exact Setting.place_injective hplace ▸ hmem

theorem places_windows (keys : Finset Setting) (step : Hop) (place : Location) :
    places keys (.key "windows" :: step :: place) = false := by
  refine decide_eq_false ?_
  rintro ⟨key, -, h⟩
  cases key <;> simp [Setting.place] at h

def windowPlace (index : Nat) (key : String) : Location := [.key "windows", .item index, .key key]

end Config

/-- A configuration with the defaults for some keys. -/
def DemoConfig.overlay (keys : Finset Setting) (c : DemoConfig) : DemoConfig :=
  let base : DemoConfig := {}
  { platform := if .platform ∈ keys then base.platform else c.platform
    ticks := if .ticks ∈ keys then base.ticks else c.ticks
    context :=
      if .context ∈ keys then base.context
      else
        { style := if .style ∈ keys then base.context.style else c.context.style
          wheelDelta := if .wheelDelta ∈ keys then base.context.wheelDelta else c.context.wheelDelta
          platformName := if .platformName ∈ keys then base.context.platformName else c.context.platformName }
    windows := if .windows ∈ keys then base.windows else c.windows }

theorem DemoConfig.overlay_empty (c : DemoConfig) : c.overlay ∅ = c := by
  simp [overlay]

def WindowConfig.keys : List String := ["title", "x", "y", "width", "height", "frames"]

theorem Platform.ofName?_name (p : Platform) : Platform.ofName? p.name = some p := by
  cases p <;> rfl

theorem GuiStyle.ofName?_name (s : GuiStyle) : GuiStyle.ofName? s.name = some s := by
  cases s <;> rfl

theorem Single.isNumber {x : Single} (h : x.isNan = false) : Format.single.IsNumber x.word.toNat where
  lt := x.word.toNat_lt
  not_nan negative hdecode := by
    rw [isNan, datum, hdecode] at h
    cases h

theorem mapM_eq_some {α β : Type} {write : α → β} {read : β → Option α} (h : ∀ a, read (write a) = some a) (l : List α) :
    (l.map write).mapM read = some l := by
  induction l with
  | nil => rfl
  | cons a l ih => simp [List.mapM_cons, h, ih]

theorem mapM_eq_none {α β : Type} {read : α → Option β} {l : List α} {a : α} (ha : a ∈ l) (h : read a = none) :
    l.mapM read = none := by
  induction l with
  | nil => cases ha
  | cons b l ih =>
    rw [List.mapM_cons]
    rcases List.mem_cons.mp ha with rfl | ha
    · rw [h]
      rfl
    · rw [ih ha]
      cases read b <;> rfl

namespace Toml

variable {α : Type} {t : Table} {v : Value} {key : String} {place : Nat} {read : Value → Option α} {fallback a : α}
  {out : Location → Bool}

theorem want_without (hv : t.lookup key = some v) (hread : read (v.without (behind out (.key key))) = some a) :
    (Fields.named (entriesWithout out t)).want key place read fallback =
      some (if out [.key key] then fallback else a) := by
  rw [Fields.want, Fields.get?, lookup_entriesWithout, hv]
  cases out [.key key] with
  | true => rfl
  | false => exact hread

theorem want_without_absent (hv : t.lookup key = none) :
    (Fields.named (entriesWithout out t)).want key place read fallback = some fallback := by
  rw [Fields.want, Fields.get?, lookup_entriesWithout, hv]
  cases out [.key key] <;> rfl

theorem need_eq_some (hv : t.lookup key = some v) (hread : read v = some a) :
    (Fields.named t).need key place read = some a := by
  rw [Fields.need, Fields.get?, hv, Option.bind_some, hread]

theorem int32?_toInt (n : Int32) : int32? (.integer n.toInt) = some n := by
  rw [int32?, if_pos ⟨n.minValue_le_toInt, n.toInt_le⟩, Int32.ofInt_toInt]

theorem uint32?_toNat (n : UInt32) : uint32? (.integer n.toNat) = some n := by
  have hlt : (n.toNat : Int) < UInt32.size := by exact_mod_cast n.toNat_lt
  rw [uint32?, if_pos ⟨by omega, hlt⟩, Int.toNat_natCast, UInt32.ofNat_toNat]

/-- A number with single precision is written with double precision and read with single again. -/
theorem exists_float {x : Single} (h : x.isNan = false) :
    ∃ word, Format.single.convert .double x.word.toNat = word ∧ Format.double.IsNumber word ∧
      single? (.float word) = some x := by
  obtain ⟨negative, rest, hrest, hword⟩ := (Single.isNumber h).exists_magnitude
  obtain ⟨rest', hrest', hdouble, hsingle⟩ := Format.exists_double hrest negative
  refine ⟨_, rfl, ?_, ?_⟩
  · rw [hword, hdouble]
    exact Format.isNumber_sign_add .double negative hrest'
  · rw [hword, hdouble, single?, hsingle, ← hword, UInt32.ofNat_toNat]

end Toml

open Toml in
theorem ContextConfig.ofValue?_without (c : ContextConfig) (hdelta : ∀ x ∈ c.wheelDelta, x.isNan = false)
    (out : Location → Bool) :
    ofValue? (.table (entriesWithout out c.toTable)) =
      some
        { style := if out [.key "style"] then ({} : ContextConfig).style else c.style
          wheelDelta := if out [.key "wheel_delta"] then ({} : ContextConfig).wheelDelta else c.wheelDelta
          platformName :=
            if out [.key "platform_name"] then ({} : ContextConfig).platformName else c.platformName } := by
  have hstyle : (Fields.named (entriesWithout out c.toTable)).want "style" 0
      (fun v => (nameOf? v).bind GuiStyle.ofName?) ({} : ContextConfig).style =
        some (if out [.key "style"] then ({} : ContextConfig).style else c.style) :=
    want_without rfl c.style.ofName?_name
  have hname : (Fields.named (entriesWithout out c.toTable)).want "platform_name" 2 textOf?
      ({} : ContextConfig).platformName =
        some (if out [.key "platform_name"] then ({} : ContextConfig).platformName else c.platformName) := by
    refine want_without (v := .string c.platformName) ?_ rfl
    rw [toTable]
    cases c.wheelDelta <;> rfl
  have hwheel : (Fields.named (entriesWithout out c.toTable)).want "wheel_delta" 1
      (fun v => (single? v).map some) ({} : ContextConfig).wheelDelta =
        some (if out [.key "wheel_delta"] then ({} : ContextConfig).wheelDelta else c.wheelDelta) := by
    cases hc : c.wheelDelta with
    | none =>
      rw [want_without_absent]
      · split <;> rfl
      · rw [toTable, hc]
        rfl
    | some x =>
      obtain ⟨word, hword, -, hread⟩ := exists_float (hdelta x hc)
      refine want_without (v := .float word) ?_ (congrArg (Option.map some) hread)
      rw [toTable, hc, ← hword]
      rfl
  rw [ofValue?]
  simp only [fields?, Option.bind_eq_bind, Option.bind_some, hstyle, hwheel, hname]
  rfl

open Toml in
theorem WindowConfig.ofValue?_toTable (c : WindowConfig) : ofValue? (.table c.toTable) = some c := by
  have htitle : (Fields.named c.toTable).need "title" 0 textOf? = some c.title := need_eq_some rfl rfl
  have hx : (Fields.named c.toTable).need "x" 1 int32? = some c.x := need_eq_some rfl (int32?_toInt c.x)
  have hy : (Fields.named c.toTable).need "y" 2 int32? = some c.y := need_eq_some rfl (int32?_toInt c.y)
  have hwidth : (Fields.named c.toTable).need "width" 3 int32? = some c.width := need_eq_some rfl (int32?_toInt c.width)
  have hheight : (Fields.named c.toTable).need "height" 4 int32? = some c.height :=
    need_eq_some rfl (int32?_toInt c.height)
  have hframes : (Fields.named c.toTable).need "frames" 5 uint32? = some c.frames :=
    need_eq_some rfl (uint32?_toNat c.frames)
  rw [ofValue?]
  simp only [fields?, Option.bind_eq_bind, Option.bind_some, htitle, hx, hy, hwidth, hheight, hframes]
  rfl

open Toml in
theorem WindowConfig.ofValue?_eq_none {t : Toml.Table} {key : String} (hkey : key ∈ keys) (h : t.lookup key = none) :
    ofValue? (.table t) = none := by
  have hneed {α : Type} (place : Nat) (read : Value → Option α) : (Fields.named t).need key place read = none := by
    rw [Fields.need, Fields.get?, h, Option.bind_none]
  rw [ofValue?]
  simp only [fields?, Option.bind_eq_bind, Option.bind_some]
  simp only [keys, List.mem_cons, List.not_mem_nil, or_false] at hkey
  rcases hkey with rfl | rfl | rfl | rfl | rfl | rfl <;> simp [hneed]

open Toml in
theorem DemoConfig.ofValue?_congr {t t' : Toml.Table} (h : ∀ key, t.lookup key = t'.lookup key) :
    ofValue? (.table t) = ofValue? (.table t') := by
  have hwant {α : Type} (key : String) (place : Nat) (read : Value → Option α) (fallback : α) :
      (Fields.named t).want key place read fallback = (Fields.named t').want key place read fallback := by
    rw [Fields.want, Fields.want, Fields.get?, Fields.get?, h]
  rw [ofValue?, ofValue?]
  simp only [fields?, Option.bind_eq_bind, Option.bind_some, hwant]

open Toml in
/-- The table of a configuration, without the keys that may be left out, gives their defaults. -/
theorem DemoConfig.ofValue?_without (c : DemoConfig) (hdelta : ∀ x ∈ c.context.wheelDelta, x.isNan = false)
    (keys : Finset Setting) : ofValue? (.table (entriesWithout (places keys) c.toTable)) = some (c.overlay keys) := by
  have hplatform : (Fields.named (entriesWithout (places keys) c.toTable)).want "platform" 0
      (fun v => (nameOf? v).bind Platform.ofName?) ({} : DemoConfig).platform =
        some (if places keys Setting.platform.place then ({} : DemoConfig).platform else c.platform) :=
    want_without rfl c.platform.ofName?_name
  have hticks : (Fields.named (entriesWithout (places keys) c.toTable)).want "ticks" 1 uint32? ({} : DemoConfig).ticks =
      some (if places keys Setting.ticks.place then ({} : DemoConfig).ticks else c.ticks) :=
    want_without rfl (uint32?_toNat c.ticks)
  have hcontext : (Fields.named (entriesWithout (places keys) c.toTable)).want "context" 2 ContextConfig.ofValue?
      ({} : DemoConfig).context =
        some (if places keys Setting.context.place then ({} : DemoConfig).context else
          { style := if places keys Setting.style.place then ({} : ContextConfig).style else c.context.style
            wheelDelta :=
              if places keys Setting.wheelDelta.place then ({} : ContextConfig).wheelDelta else c.context.wheelDelta
            platformName :=
              if places keys Setting.platformName.place then ({} : ContextConfig).platformName
              else c.context.platformName }) :=
    want_without rfl (c.context.ofValue?_without hdelta _)
  have hwindows : (Fields.named (entriesWithout (places keys) c.toTable)).want "windows" 3 WindowConfig.listOfValue?
      ({} : DemoConfig).windows =
        some (if places keys Setting.windows.place then ({} : DemoConfig).windows else c.windows) := by
    refine want_without (v := .array (c.windows.map fun w => .table w.toTable)) rfl ?_
    rw [Value.without_eq_self (places_windows keys)]
    exact mapM_eq_some WindowConfig.ofValue?_toTable c.windows
  rw [ofValue?]
  simp only [fields?, Option.bind_eq_bind, Option.bind_some, hplatform, hticks, hcontext, hwindows, places_place,
    decide_eq_true_eq]
  rfl

open Toml in
theorem DemoConfig.ofValue?_without_window (c : DemoConfig) {i : Nat} (hi : i < c.windows.length) {key : String}
    (hkey : key ∈ WindowConfig.keys) :
    ofValue? (.table (entriesWithout (fun place => decide (place = windowPlace i key)) c.toTable)) = none := by
  generalize hout : (fun place => decide (place = windowPlace i key)) = out
  have hplace : out (windowPlace i key) = true := by simp [← hout]
  have hlist : out [.key "windows"] = false := by simp [← hout, windowPlace]
  have hrow : (c.windows.map fun w => Value.table w.toTable)[i]? = some (.table c.windows[i].toTable) := by
    simp [hi]
  have hnone : WindowConfig.ofValue?
      (.table (entriesWithout (behind (behind out (.key "windows")) (.item i)) c.windows[i].toTable)) = none := by
    refine WindowConfig.ofValue?_eq_none hkey ?_
    rw [lookup_entriesWithout]
    exact if_pos hplace
  have hmem := without_mem_itemsWithout (behind out (.key "windows")) hrow
  have hwindows : (Fields.named (entriesWithout out c.toTable)).want "windows" 3 WindowConfig.listOfValue?
      ({} : DemoConfig).windows = none := by
    have hlookup : c.toTable.lookup "windows" = some (.array (c.windows.map fun w => .table w.toTable)) := rfl
    rw [Fields.want, Fields.get?, lookup_entriesWithout, hlist, hlookup]
    exact mapM_eq_none hmem hnone
  rw [ofValue?]
  simp [fields?, hwindows]

namespace Ron

variable {α : Type} {fs : List (String × Value)} {v : Value} {key : String} {read : Value → Option α} {fallback a : α}
  {out : Location → Bool}

theorem want_without (hv : field? fs key = some (some v)) (hread : read (v.without (behind out (.key key))) = some a) :
    want (fieldsWithout out fs) key read fallback = some (if out [.key key] then fallback else a) := by
  rw [want, field?_fieldsWithout, hv]
  cases out [.key key] with
  | true => rfl
  | false => exact hread

theorem need_eq_some (hv : field? fs key = some (some v)) (hread : read v = some a) : need fs key read = some a := by
  rw [need, hv]
  exact hread

theorem int32?_toInt (n : Int32) : int32? (ofInt n.toInt) = some n := by
  rw [ofInt, int32?, integer?_intText, Option.bind_some, if_pos ⟨n.minValue_le_toInt, n.toInt_le⟩, Int32.ofInt_toInt]

theorem uint32?_toNat (n : UInt32) : uint32? (ofInt n.toNat) = some n := by
  rw [ofInt, uint32?, natText, magnitude?_toDigits, Option.bind_some, if_pos n.toNat_lt, UInt32.ofNat_toNat]

theorem single?_ofSingle {x : Single} (h : x.isNan = false) : single? (ofSingle x) = some x := by
  rw [ofSingle, single?, float?_floatText (Single.isNumber h), Option.map_some, UInt32.ofNat_toNat]

end Ron

def ContextConfig.fields (c : ContextConfig) : List (String × Ron.Value) :=
  [("style", .name c.style.name),
    ("wheel_delta", (c.wheelDelta.map fun x => Ron.Value.some (Ron.ofSingle x)).getD .none),
    ("platform_name", .text c.platformName)]

theorem ContextConfig.toRecord_eq (c : ContextConfig) : c.toRecord = .record none c.fields := rfl

open Ron in
theorem ContextConfig.ofRecord?_without (c : ContextConfig) (hdelta : ∀ x ∈ c.wheelDelta, x.isNan = false)
    (out : Location → Bool) :
    ofRecord? (c.toRecord.without out) =
      some
        { style := if out [.key "style"] then ({} : ContextConfig).style else c.style
          wheelDelta := if out [.key "wheel_delta"] then ({} : ContextConfig).wheelDelta else c.wheelDelta
          platformName :=
            if out [.key "platform_name"] then ({} : ContextConfig).platformName else c.platformName } := by
  have hstyle : want (fieldsWithout out c.fields) "style" (fun v => (nameOf? v).bind GuiStyle.ofName?)
      ({} : ContextConfig).style = some (if out [.key "style"] then ({} : ContextConfig).style else c.style) :=
    want_without rfl c.style.ofName?_name
  have hname : want (fieldsWithout out c.fields) "platform_name" textOf? ({} : ContextConfig).platformName =
      some (if out [.key "platform_name"] then ({} : ContextConfig).platformName else c.platformName) :=
    want_without rfl rfl
  have hwheel : want (fieldsWithout out c.fields) "wheel_delta" (option? single?) ({} : ContextConfig).wheelDelta =
      some (if out [.key "wheel_delta"] then ({} : ContextConfig).wheelDelta else c.wheelDelta) := by
    cases hc : c.wheelDelta with
    | none => exact want_without (v := .none) (by rw [fields, hc]; rfl) rfl
    | some x =>
      refine want_without (v := .some (ofSingle x)) (by rw [fields, hc]; rfl) ?_
      exact congrArg (Option.map some) (single?_ofSingle (hdelta x hc))
  rw [ofRecord?, c.toRecord_eq, Value.without]
  simp only [fieldsOf?, Option.bind_eq_bind, Option.bind_some, hstyle, hwheel, hname]
  rfl

def WindowConfig.fields (c : WindowConfig) : List (String × Ron.Value) :=
  [("title", .text c.title), ("x", Ron.ofInt c.x.toInt), ("y", Ron.ofInt c.y.toInt),
    ("width", Ron.ofInt c.width.toInt), ("height", Ron.ofInt c.height.toInt), ("frames", Ron.ofInt c.frames.toNat)]

theorem WindowConfig.toRecord_eq (c : WindowConfig) : c.toRecord = .record none c.fields := rfl

open Ron in
theorem WindowConfig.ofRecord?_toRecord (c : WindowConfig) : ofRecord? c.toRecord = some c := by
  have htitle : need c.fields "title" textOf? = some c.title := need_eq_some rfl rfl
  have hx : need c.fields "x" int32? = some c.x := need_eq_some rfl (int32?_toInt c.x)
  have hy : need c.fields "y" int32? = some c.y := need_eq_some rfl (int32?_toInt c.y)
  have hwidth : need c.fields "width" int32? = some c.width := need_eq_some rfl (int32?_toInt c.width)
  have hheight : need c.fields "height" int32? = some c.height := need_eq_some rfl (int32?_toInt c.height)
  have hframes : need c.fields "frames" uint32? = some c.frames := need_eq_some rfl (uint32?_toNat c.frames)
  rw [ofRecord?, c.toRecord_eq]
  simp only [fieldsOf?, Option.bind_eq_bind, Option.bind_some, htitle, hx, hy, hwidth, hheight, hframes]
  rfl

open Ron in
theorem WindowConfig.ofRecord?_eq_none {fs : List (String × Ron.Value)} {name : Option String} {key : String}
    (hkey : key ∈ keys) (h : field? fs key = some none) : ofRecord? (.record name fs) = none := by
  have hneed {α : Type} (read : Value → Option α) : need fs key read = none := by rw [need, h]
  rw [ofRecord?]
  simp only [fieldsOf?, Option.bind_eq_bind, Option.bind_some]
  simp only [keys, List.mem_cons, List.not_mem_nil, or_false] at hkey
  rcases hkey with rfl | rfl | rfl | rfl | rfl | rfl <;> simp [hneed]

def DemoConfig.fields (c : DemoConfig) : List (String × Ron.Value) :=
  [("platform", .name c.platform.name), ("ticks", Ron.ofInt c.ticks.toNat), ("context", c.context.toRecord),
    ("windows", .list (c.windows.map (·.toRecord)))]

theorem DemoConfig.toRecord_eq (c : DemoConfig) : c.toRecord = .record none c.fields := rfl

open Ron in
/-- The record of a configuration, without the keys that may be left out, gives their defaults. -/
theorem DemoConfig.ofRecord?_without (c : DemoConfig) (hdelta : ∀ x ∈ c.context.wheelDelta, x.isNan = false)
    (keys : Finset Setting) : ofRecord? (c.toRecord.without (places keys)) = some (c.overlay keys) := by
  have hplatform : want (fieldsWithout (places keys) c.fields) "platform" (fun v => (nameOf? v).bind Platform.ofName?)
      ({} : DemoConfig).platform =
        some (if places keys Setting.platform.place then ({} : DemoConfig).platform else c.platform) :=
    want_without rfl c.platform.ofName?_name
  have hticks : want (fieldsWithout (places keys) c.fields) "ticks" uint32? ({} : DemoConfig).ticks =
      some (if places keys Setting.ticks.place then ({} : DemoConfig).ticks else c.ticks) :=
    want_without rfl (uint32?_toNat c.ticks)
  have hcontext : want (fieldsWithout (places keys) c.fields) "context" ContextConfig.ofRecord?
      ({} : DemoConfig).context =
      some (if places keys Setting.context.place then ({} : DemoConfig).context else
        { style := if places keys Setting.style.place then ({} : ContextConfig).style else c.context.style
          wheelDelta :=
            if places keys Setting.wheelDelta.place then ({} : ContextConfig).wheelDelta else c.context.wheelDelta
          platformName :=
            if places keys Setting.platformName.place then ({} : ContextConfig).platformName
            else c.context.platformName }) :=
    want_without rfl (c.context.ofRecord?_without hdelta _)
  have hwindows : want (fieldsWithout (places keys) c.fields) "windows" WindowConfig.listOfRecords?
      ({} : DemoConfig).windows =
      some (if places keys Setting.windows.place then ({} : DemoConfig).windows else c.windows) := by
    refine want_without (v := .list (c.windows.map (·.toRecord))) rfl ?_
    rw [Value.without_eq_self (places_windows keys)]
    exact mapM_eq_some WindowConfig.ofRecord?_toRecord c.windows
  rw [ofRecord?, c.toRecord_eq, Value.without]
  simp only [fieldsOf?, Option.bind_eq_bind, Option.bind_some, hplatform, hticks, hcontext, hwindows, places_place,
    decide_eq_true_eq]
  rfl

open Ron in
theorem DemoConfig.ofRecord?_without_window (c : DemoConfig) {i : Nat} (hi : i < c.windows.length) {key : String}
    (hkey : key ∈ WindowConfig.keys) :
    ofRecord? (c.toRecord.without fun place => decide (place = windowPlace i key)) = none := by
  generalize hout : (fun place => decide (place = windowPlace i key)) = out
  have hplace : out (windowPlace i key) = true := by simp [← hout]
  have hlist : out [.key "windows"] = false := by simp [← hout, windowPlace]
  have hrow : (c.windows.map (·.toRecord))[i]? = some c.windows[i].toRecord := by
    simp [hi]
  have hnone : WindowConfig.ofRecord?
      (c.windows[i].toRecord.without (behind (behind out (.key "windows")) (.item i))) = none := by
    refine WindowConfig.ofRecord?_eq_none hkey ?_
    rw [field?_fieldsWithout]
    exact if_pos hplace
  have hmem := without_mem_itemsWithout (behind out (.key "windows")) hrow
  have hwindows : want (fieldsWithout out c.fields) "windows" WindowConfig.listOfRecords?
      ({} : DemoConfig).windows = none := by
    have hfield : field? c.fields "windows" = some (some (.list (c.windows.map (·.toRecord)))) := rfl
    rw [want, field?_fieldsWithout, hlist, hfield]
    exact mapM_eq_none hmem hnone
  rw [ofRecord?, c.toRecord_eq, Value.without]
  simp [fieldsOf?, hwindows]

end Casement
