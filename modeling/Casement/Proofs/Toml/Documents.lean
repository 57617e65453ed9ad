import Mathlib.Data.List.Nodup
import Casement.Config.Toml.Writer
import Casement.Proofs.Toml.Values

namespace Casement.Toml

variable {key : String} {path : List String} {v : Value} {t : Table} {before entries : Entries} {cs rest : List Char}

structure Bare (key : String) : Prop where
  ne_nil : key.toList ≠ []
  all : ∀ c ∈ key.toList, isBareChar c = true

def isBare (key : String) : Bool := !key.toList.isEmpty && key.toList.all isBareChar

theorem bare_of_isBare (h : isBare key = true) : Bare key := by
  simp only [isBare, Bool.and_eq_true, Bool.not_eq_true', List.isEmpty_eq_false_iff, List.all_eq_true] at h
  exact ⟨h.1, h.2⟩

namespace Bare

theorem keyText_eq (h : Bare key) : keyText key = key.toList := by
  have hempty : key.isEmpty = false := by
    rw [Bool.eq_false_iff]
    intro hkey
    exact h.ne_nil (by simpa using hkey)
  have hall : key.toList.all isBareChar = true := List.all_eq_true.mpr h.all
  rw [keyText, hempty, hall]
  rfl

theorem exists_cons (h : Bare key) : ∃ c cs, key.toList = c :: cs ∧ isBareChar c = true := by
  have hall := h.all
  cases hkey : key.toList with
  | nil => exact absurd hkey h.ne_nil
  | cons c cs =>
    rw [hkey] at hall
    exact ⟨c, cs, rfl, hall c List.mem_cons_self⟩

theorem skipBlanks_append (h : Bare key) (rest : List Char) : skipBlanks (key.toList ++ rest) = key.toList ++ rest := by
  obtain ⟨c, cs, hkey, hc⟩ := h.exists_cons
  rw [hkey]
  refine List.dropWhile_cons_of_neg ?_
  simp only [isBlank, Bool.or_eq_true, decide_eq_true_eq]
  rintro (rfl | rfl) <;> cases hc

theorem simpleKey?_append (h : Bare key) (hrest : ∀ c ∈ rest.head?, isBareChar c = false) :
    simpleKey? (key.toList ++ rest) = some (key, rest) := by
  have hdrop := dropWhile_word h.all hrest
  have htake := takeWhile_word h.all hrest
  have hempty : key.toList.isEmpty = false := by simp [h.ne_nil]
  obtain ⟨c, cs, hkey, hc⟩ := h.exists_cons
  have hhead : key.toList ++ rest = c :: (cs ++ rest) := by rw [hkey, List.cons_append]
  generalize key.toList ++ rest = text at hdrop htake hhead ⊢
  subst hhead
  have hquote : c ≠ '"' := by
    rintro rfl
    cases hc
  have hmark : c ≠ '\'' := by
    rintro rfl
    cases hc
  rw [simpleKey?]
  · rw [htake, hdrop, hempty, String.ofList_toList]
    rfl
  all_goals simp_all

theorem key?_append (h : Bare key) (hrest : ∀ c ∈ rest.head?, isBareChar c = false)
    (hpoint : (skipBlanks rest).head? ≠ some '.') : key? (key.toList ++ rest) = some (([], key), skipBlanks rest) := by
  change dottedKey? (78 + 1) _ = _
  rw [dottedKey?, h.skipBlanks_append, h.simpleKey?_append hrest]
  dsimp only
  split
  · next heq =>
    rw [heq] at hpoint
    exact absurd rfl hpoint
  · rfl

end Bare

theorem lookup_eq_none {α : Type} {l : List (String × α)} (h : key ∉ l.map Prod.fst) : l.lookup key = none := by
  refine List.lookup_eq_none_iff.mpr fun e he ↦ ?_
  rw [bne_iff_ne]
  rintro rfl
  exact h (List.mem_map_of_mem he)

theorem find?_eq_none {origin : Origin} (h : key ∉ entries.map Prod.fst) : Draft.find? ⟨origin, entries⟩ key = none :=
  lookup_eq_none h

theorem find?_last {origin : Origin} (h : key ∉ before.map Prod.fst) (node : Node) :
    Draft.find? ⟨origin, before ++ [(key, node)]⟩ key = some node := by
  have hnone : before.lookup key = none := lookup_eq_none h
  simp [Draft.find?, List.lookup_append, hnone]

theorem set_new {origin : Origin} (h : key ∉ entries.map Prod.fst) (node : Node) :
    Draft.set ⟨origin, entries⟩ key node = ⟨origin, entries ++ [(key, node)]⟩ := by
  rw [Draft.set, find?_eq_none h]
  rfl

theorem set_last {origin : Origin} (h : key ∉ before.map Prod.fst) (old node : Node) :
    Draft.set ⟨origin, before ++ [(key, old)]⟩ key node = ⟨origin, before ++ [(key, node)]⟩ := by
  have hsame : before.map (fun e => if e.1 = key then (e.1, node) else (e.1, e.2)) = before := by
    conv_rhs => rw [← List.map_id before]
    refine List.map_congr_left fun e he ↦ ?_
    rw [if_neg]
    · rfl
    · rintro rfl
      exact h (List.mem_map_of_mem he)
  rw [Draft.set, find?_last h]
  simp only [Option.isSome_some, if_true, List.map_append, List.map_cons, List.map_nil, if_true]
  rw [hsame]

theorem define_new {origin : Origin} (h : key ∉ entries.map Prod.fst) (v : Value) :
    Draft.define [] key v ⟨origin, entries⟩ = some ⟨origin, entries ++ [(key, .value v)]⟩ := by
  rw [Draft.define, Draft.atPath, find?_eq_none h, set_new h]
  rfl

/-- A place in a document where new keys go: the path to it, and the document as a function of the entries there. -/
def Cursor (path : List String) (put : Entries → Entries) : Prop :=
  ∀ (entries : Entries) (key : String) (v : Value), key ∉ entries.map Prod.fst →
    Draft.atPath .passed (·.define [] key v) path ⟨.header, put entries⟩ =
      some ⟨.header, put (entries ++ [(key, .value v)])⟩

theorem cursor_root : Cursor [] id := fun _ _ v h ↦ define_new h v

theorem cursor_table (h : key ∉ before.map Prod.fst) :
    Cursor [key] fun entries => before ++ [(key, .table .header entries)] := by
  intro entries inner v hinner
  rw [Draft.atPath, find?_last h]
  simp only [Draft.atPath, define_new hinner, set_last h, Option.map_some, reduceCtorEq, false_and, if_false]

theorem cursor_row (h : key ∉ before.map Prod.fst) (rows : List Entries) :
    Cursor [key] fun entries => before ++ [(key, .tables (rows ++ [entries]))] := by
  intro entries inner v hinner
  rw [Draft.atPath, find?_last h]
  simp only [List.getLast?_concat, List.dropLast_concat, Draft.atPath, define_new hinner, set_last h, Option.map_some]

theorem openTable_new (h : key ∉ before.map Prod.fst) :
    Draft.openTable [] key ⟨.header, before⟩ = some ⟨.header, before ++ [(key, .table .header [])]⟩ := by
  rw [Draft.openTable, Draft.atPath, find?_eq_none h]
  dsimp only
  rw [set_new h]

theorem openRow_new (h : key ∉ before.map Prod.fst) :
    Draft.openRow [] key ⟨.header, before⟩ = some ⟨.header, before ++ [(key, .tables [[]])]⟩ := by
  rw [Draft.openRow, Draft.atPath, find?_eq_none h]
  dsimp only
  rw [set_new h]

theorem openRow_next (h : key ∉ before.map Prod.fst) (rows : List Entries) :
    Draft.openRow [] key ⟨.header, before ++ [(key, .tables rows)]⟩ =
      some ⟨.header, before ++ [(key, .tables (rows ++ [[]]))]⟩ := by
  rw [Draft.openRow, Draft.atPath, find?_last h]
  dsimp only
  rw [set_last h]

theorem finishEntries_eq_map (entries : Entries) : finishEntries entries = entries.map fun e => (e.1, e.2.finish) := by
  induction entries with
  | nil => rw [finishEntries, List.map_nil]
  | cons e entries ih => rw [finishEntries, ih, List.map_cons]

theorem finishRows_eq_map (rows : List Entries) : finishRows rows = rows.map fun row => .table (finishEntries row) := by
  induction rows with
  | nil => rw [finishRows, List.map_nil]
  | cons row rows ih => rw [finishRows, ih, List.map_cons]

theorem finishEntries_append (before after : Entries) :
    finishEntries (before ++ after) = finishEntries before ++ finishEntries after := by
  simp only [finishEntries_eq_map, List.map_append]

def flatEntries (t : Table) : Entries := t.map fun e => (e.1, .value e.2)

theorem map_fst_flatEntries (t : Table) : (flatEntries t).map Prod.fst = t.map Prod.fst := by
  rw [flatEntries, List.map_map]
  rfl

theorem finishEntries_flatEntries (t : Table) : finishEntries (flatEntries t) = t := by
  rw [finishEntries_eq_map, flatEntries, List.map_map]
  conv_rhs => rw [← List.map_id t]
  refine List.map_congr_left fun e _ ↦ ?_
  rw [Function.comp_apply, Node.finish]
  rfl

def Reads (r : Reading) (cs : List Char) (t : Table) : Prop :=
  ∀ n, cs.length < n → (r.lines? n cs).map (fun r => finishEntries r.root.entries) = some t

namespace Reads

variable {r : Reading}

theorem nil : Reads r [] (finishEntries r.root.entries) := by
  intro n hn
  obtain ⟨n, rfl⟩ := Nat.exists_eq_succ_of_ne_zero (Nat.ne_of_gt hn)
  rfl

theorem blank (h : Reads r cs t) : Reads r ('\n' :: cs) t := by
  intro n hn
  obtain ⟨n, rfl⟩ := Nat.exists_eq_succ_of_ne_zero (by omega : n ≠ 0)
  exact h n (by simpa using hn)

theorem of_blank (h : Reads r ('\n' :: cs) t) : Reads r cs t := fun n hn ↦ h (n + 1) (by simpa using hn)

theorem lines?_of_isBareChar {c : Char} (hc : isBareChar c = true) (n : Nat) :
    r.lines? (n + 1) (c :: cs) = (r.pair? (c :: cs)).bind fun next => next.1.lines? n next.2 := by
  have hother {d : Char} (hd : isBareChar d = false) : c ≠ d := by
    rintro rfl
    rw [hc] at hd
    cases hd
  have hskip : skipBlanks (c :: cs) = c :: cs := by
    refine List.dropWhile_cons_of_neg ?_
    simp [isBlank, hother (d := ' ') rfl, hother (d := '\t') rfl]
  rw [Reading.lines?, hskip]
  split
  · next heq => cases heq
  · next heq => exact absurd (List.cons.inj heq).1 (hother rfl)
  · next heq => exact absurd (List.cons.inj heq).1 (hother rfl)
  · next heq => exact absurd (List.cons.inj heq).1 (hother rfl)
  · next heq => exact absurd (List.cons.inj heq).1 (hother rfl)
  · rfl

theorem pair?_line (hkey : Bare key) (hv : Plain v) {root : Draft}
    (hroot : r.root.atPath .passed (·.define [] key v) r.path = some root) (rest : List Char) :
    r.pair? (key.toList ++ (' ' :: '=' :: ' ' :: v.line ++ '\n' :: rest)) = some ({ r with root }, rest) := by
  have hread : key? (key.toList ++ (' ' :: '=' :: ' ' :: v.line ++ '\n' :: rest)) =
      some (([], key), '=' :: ' ' :: (v.line ++ '\n' :: rest)) := by
    refine hkey.key?_append ?_ ?_
    · intro c hc
      cases hc
      rfl
    · change some '=' ≠ some '.'
      decide
  have hskip : skipBlanks (' ' :: (v.line ++ '\n' :: rest)) = v.line ++ '\n' :: rest := hv.skipBlanks_line _
  have hvalue : value? (Reading.fuel (' ' :: (v.line ++ '\n' :: rest))) (depthLimit - 1) (v.line ++ '\n' :: rest) =
      some (v, '\n' :: rest) := hv.value?_line _ 78 rest
  rw [Reading.pair?, hread]
  simp only [hskip, hvalue, hroot]
  rfl

theorem pair (hkey : Bare key) (hv : Plain v) {root : Draft}
    (hroot : r.root.atPath .passed (·.define [] key v) r.path = some root) (h : Reads { r with root } rest t) :
    Reads r (keyText key ++ ' ' :: '=' :: ' ' :: v.line ++ '\n' :: rest) t := by
  intro n hn
  obtain ⟨n, rfl⟩ := Nat.exists_eq_succ_of_ne_zero (by omega : n ≠ 0)
  have hpair := pair?_line hkey hv hroot rest
  have hlength : rest.length < n := by
    simp only [List.length_append, List.length_cons] at hn
    omega
  obtain ⟨c, cs, htext, hc⟩ := hkey.exists_cons
  rw [hkey.keyText_eq, List.append_assoc]
  rw [htext, List.cons_append] at hpair ⊢
  rw [lines?_of_isBareChar hc, hpair]
  exact h n hlength

theorem key?_header (hkey : Bare key) (rest : List Char) :
    key? (key.toList ++ ']' :: rest) = some (([], key), ']' :: rest) := by
  refine hkey.key?_append ?_ ?_
  · intro c hc
    cases hc
    rfl
  · change some ']' ≠ some '.'
    decide

theorem header (hkey : Bare key) {root : Draft} (hroot : r.root.openTable [] key = some root)
    (h : Reads ⟨root, [key]⟩ rest t) : Reads r ('[' :: keyText key ++ [']'] ++ '\n' :: rest) t := by
  intro n hn
  obtain ⟨n, rfl⟩ := Nat.exists_eq_succ_of_ne_zero (by omega : n ≠ 0)
  have hlength : rest.length < n := by
    simp only [List.length_append, List.length_cons] at hn
    omega
  have hheader : r.header? ('[' :: (key.toList ++ ']' :: '\n' :: rest)) = some (⟨root, [key]⟩, rest) := by
    have hread := key?_header hkey ('\n' :: rest)
    obtain ⟨c, cs, htext, hc⟩ := hkey.exists_cons
    rw [htext, List.cons_append] at hread ⊢
    have hbracket : c ≠ '[' := by
      rintro rfl
      cases hc
    rw [Reading.header?, hread]
    · simp only [hroot]
      rfl
    · intro more heq
      exact hbracket (List.cons.inj heq).1
  rw [hkey.keyText_eq, List.append_assoc]
  change ((r.header? ('[' :: (key.toList ++ ']' :: '\n' :: rest))).bind fun next => next.1.lines? n next.2).map _ = _
  rw [hheader]
  exact h n hlength

theorem rowHeader (hkey : Bare key) {root : Draft} (hroot : r.root.openRow [] key = some root)
    (h : Reads ⟨root, [key]⟩ rest t) : Reads r ('[' :: '[' :: keyText key ++ [']', ']'] ++ '\n' :: rest) t := by
  intro n hn
  obtain ⟨n, rfl⟩ := Nat.exists_eq_succ_of_ne_zero (by omega : n ≠ 0)
  have hlength : rest.length < n := by
    simp only [List.length_append, List.length_cons] at hn
    omega
  have hheader : r.header? ('[' :: '[' :: (key.toList ++ ']' :: ']' :: '\n' :: rest)) = some (⟨root, [key]⟩, rest) := by
    rw [Reading.header?, key?_header hkey]
    simp only [hroot]
    rfl
  rw [hkey.keyText_eq, List.append_assoc]
  change ((r.header? ('[' :: '[' :: (key.toList ++ ']' :: ']' :: '\n' :: rest))).bind
    fun next => next.1.lines? n next.2).map _ = _
  rw [hheader]
  exact h n hlength

end Reads

structure Keyed (p : Value → Prop) (t : Table) : Prop where
  bare : ∀ e ∈ t, Bare e.1
  nodup : (t.map Prod.fst).Nodup
  values : ∀ e ∈ t, p e.2

theorem Keyed.tail {p : Value → Prop} {e : String × Value} (h : Keyed p (e :: t)) : Keyed p t where
  bare e he := h.bare e (List.mem_cons_of_mem _ he)
  nodup := (List.nodup_cons.mp h.nodup).2
  values e he := h.values e (List.mem_cons_of_mem _ he)

inductive Shallow : Value → Prop
  | plain {v : Value} (h : Plain v) : Shallow v
  | table {t : Table} (h : Keyed Plain t) : Shallow (.table t)
  | rows {first : Table} {more : List Table} (h : ∀ t ∈ first :: more, Keyed Plain t) :
    Shallow (.array ((first :: more).map .table))

theorem Plain.isSection (h : Plain v) : v.isSection = false := by
  cases h <;> rfl

theorem isSection_table (t : Table) : (Value.table t).isSection = true := rfl

theorem isSection_rows (first : Table) (more : List Table) :
    (Value.array ((first :: more).map .table)).isSection = true := by
  rw [Value.isSection, Bool.and_eq_true]
  refine ⟨rfl, List.all_eq_true.mpr fun v hv ↦ ?_⟩
  obtain ⟨t, -, rfl⟩ := List.mem_map.mp hv
  rfl

theorem Shallow.plain_of_isSection (h : Shallow v) (hv : v.isSection = false) : Plain v := by
  cases h with
  | plain h => exact h
  | table h => cases hv
  | rows h =>
    rw [isSection_rows] at hv
    cases hv

namespace Reads

theorem plainLines {put : Entries → Entries} (hput : Cursor path put) (entries : Entries) {inner : Table}
    (hinner : Keyed Shallow inner) (hnew : ∀ key ∈ inner.map Prod.fst, key ∉ entries.map Prod.fst)
    (h : Reads ⟨⟨.header, put (entries ++ flatEntries (inner.filter (!·.2.isSection)))⟩, path⟩ rest t) :
    Reads ⟨⟨.header, put entries⟩, path⟩ (Block.text (Toml.plainLines inner) ++ rest) t := by
  induction inner generalizing entries with
  | nil => simpa [Toml.plainLines, Block.text, flatEntries] using h
  | cons e inner ih =>
    obtain ⟨key, v⟩ := e
    have hkey := hnew key List.mem_cons_self
    obtain ⟨hfresh, -⟩ := List.nodup_cons.mp hinner.nodup
    have hshallow := hinner.values _ List.mem_cons_self
    have hbare := hinner.bare _ List.mem_cons_self
    rw [Toml.plainLines]
    cases hv : v.isSection with
    | true =>
      rw [if_pos rfl]
      refine ih entries hinner.tail (fun k hk ↦ hnew k (List.mem_cons_of_mem _ hk)) ?_
      simpa [hv] using h
    | false =>
      rw [if_neg Bool.false_ne_true, Block.text, List.flatMap_cons, List.append_assoc, List.append_assoc]
      refine pair hbare (hshallow.plain_of_isSection hv) (hput entries key v hkey) ?_
      refine ih _ hinner.tail ?_ ?_
      · intro k hk
        rw [List.map_append, List.mem_append]
        rintro (hmem | hmem)
        · exact hnew k (List.mem_cons_of_mem _ hk) hmem
        · rw [List.mem_singleton.mp hmem] at hk
          exact hfresh hk
      · simpa [hv, flatEntries] using h

end Reads

namespace Keyed

variable {inner : Table}

theorem shallow (h : Keyed Plain inner) : Keyed Shallow inner :=
  ⟨h.bare, h.nodup, fun e he ↦ .plain (h.values e he)⟩

theorem filter_eq (h : Keyed Plain inner) : inner.filter (!·.2.isSection) = inner :=
  List.filter_eq_self.mpr fun e he ↦ by rw [(h.values e he).isSection]; rfl

theorem sections_eq (h : Keyed Plain inner) (path : List Char) : sections path inner = [] := by
  induction inner with
  | nil => rw [sections]
  | cons e inner ih =>
    rw [sections, (h.values e List.mem_cons_self).isSection, ih h.tail]
    rfl

theorem plainLines_eq_nil (h : Keyed Plain inner) (hnil : plainLines inner = []) : inner = [] := by
  cases inner with
  | nil => rfl
  | cons e inner =>
    rw [plainLines, (h.values e List.mem_cons_self).isSection] at hnil
    cases hnil

theorem blocks_eq (h : Keyed Plain inner) (path : List Char) :
    (Value.table inner).blocks path = [('[' :: path ++ [']']) :: plainLines inner] := by
  rw [Value.blocks, h.sections_eq, List.append_nil]
  refine if_neg ?_
  simp only [Bool.and_eq_true, List.isEmpty_iff, Bool.not_eq_true', List.isEmpty_eq_false_iff]
  rintro ⟨hnil, hne⟩
  exact hne (h.plainLines_eq_nil hnil)

end Keyed

def spaced (blocks : List Block) : List Char := blocks.flatMap fun block => '\n' :: block.text

namespace Reads

variable {inner : Table}

theorem block {put : Entries → Entries} (hput : Cursor path put) (hinner : Keyed Plain inner)
    (h : Reads ⟨⟨.header, put (flatEntries inner)⟩, path⟩ rest t) :
    Reads ⟨⟨.header, put []⟩, path⟩ (Block.text (Toml.plainLines inner) ++ rest) t := by
  refine plainLines hput [] hinner.shallow (by simp) ?_
  rw [hinner.filter_eq]
  exact h

theorem table (hkey : Bare key) (hnew : key ∉ before.map Prod.fst) (hinner : Keyed Plain inner)
    (h : Reads ⟨⟨.header, before ++ [(key, .table .header (flatEntries inner))]⟩, [key]⟩ rest t) :
    Reads ⟨⟨.header, before⟩, path⟩ (spaced ((Value.table inner).blocks (keyText key)) ++ rest) t := by
  rw [hinner.blocks_eq, spaced, List.flatMap_singleton, Block.text, List.flatMap_cons, List.cons_append,
    List.append_assoc, List.append_assoc]
  refine blank (header hkey (openTable_new hnew) ?_)
  exact block (cursor_table hnew) hinner h

theorem row (hkey : Bare key) (hnew : key ∉ before.map Prod.fst) (hinner : Keyed Plain inner) (done : List Entries)
    (hopen : Draft.openRow [] key ⟨.header, entries⟩ = some ⟨.header, before ++ [(key, .tables (done ++ [[]]))]⟩)
    (h : Reads ⟨⟨.header, before ++ [(key, .tables (done ++ [flatEntries inner]))]⟩, [key]⟩ rest t) :
    Reads ⟨⟨.header, entries⟩, path⟩
      ('\n' :: Block.text (('[' :: '[' :: keyText key ++ [']', ']']) :: Toml.plainLines inner) ++ rest) t := by
  rw [Block.text, List.flatMap_cons, List.cons_append, List.append_assoc, List.append_assoc]
  refine blank (rowHeader hkey hopen ?_)
  exact block (cursor_row hnew done) hinner h

theorem spaced_rowBlocks (hinner : Keyed Plain inner) (more : List Table) (path : List Char) :
    spaced (rowBlocks path ((inner :: more).map .table)) =
      '\n' :: Block.text (('[' :: '[' :: path ++ [']', ']']) :: Toml.plainLines inner) ++
        spaced (rowBlocks path (more.map .table)) := by
  rw [List.map_cons, rowBlocks, hinner.sections_eq, List.nil_append, spaced, List.flatMap_cons]
  rfl

theorem moreRows (hkey : Bare key) (hnew : key ∉ before.map Prod.fst) {tables : List Table}
    (htables : ∀ inner ∈ tables, Keyed Plain inner) {done : List Entries}
    (h : Reads ⟨⟨.header, before ++ [(key, .tables (done ++ tables.map flatEntries))]⟩, [key]⟩ rest t) :
    Reads ⟨⟨.header, before ++ [(key, .tables done)]⟩, [key]⟩
      (spaced (rowBlocks (keyText key) (tables.map .table)) ++ rest) t := by
  induction tables generalizing done with
  | nil =>
    rw [List.map_nil, rowBlocks]
    simpa [spaced] using h
  | cons inner tables ih =>
    obtain ⟨hinner, hmore⟩ := List.forall_mem_cons.mp htables
    rw [spaced_rowBlocks hinner, List.append_assoc]
    refine row hkey hnew hinner done (openRow_next hnew done) (ih hmore ?_)
    simpa using h

theorem rows (hkey : Bare key) (hnew : key ∉ before.map Prod.fst) {first : Table} {more : List Table}
    (htables : ∀ inner ∈ first :: more, Keyed Plain inner)
    (h : Reads ⟨⟨.header, before ++ [(key, .tables ((first :: more).map flatEntries))]⟩, [key]⟩ rest t) :
    Reads ⟨⟨.header, before⟩, path⟩
      (spaced ((Value.array ((first :: more).map .table)).blocks (keyText key)) ++ rest) t := by
  obtain ⟨hfirst, hmore⟩ := List.forall_mem_cons.mp htables
  rw [Value.blocks, spaced_rowBlocks hfirst, List.append_assoc]
  refine row hkey hnew hfirst [] (openRow_new hnew) (moreRows hkey hnew hmore ?_)
  exact h

end Reads

theorem finish_rows (tables : List Table) :
    (Node.tables (tables.map flatEntries)).finish = .array (tables.map .table) := by
  rw [Node.finish, finishRows_eq_map, List.map_map]
  congr 1
  refine List.map_congr_left fun inner _ ↦ ?_
  rw [Function.comp_apply, finishEntries_flatEntries]

theorem reads_sections (ht : Keyed Shallow t)
    (hnew : ∀ e ∈ t, e.2.isSection = true → e.1 ∉ before.map Prod.fst) (path : List String) :
    Reads ⟨⟨.header, before⟩, path⟩ (spaced (sections [] t)) (finishEntries before ++ t.filter (·.2.isSection)) := by
  induction t generalizing before path with
  | nil =>
    rw [sections, List.filter_nil, List.append_nil]
    exact Reads.nil
  | cons e t ih =>
    obtain ⟨key, v⟩ := e
    obtain ⟨hkey, hlater⟩ := List.forall_mem_cons.mp hnew
    have hbare := ht.bare _ List.mem_cons_self
    -- what is read behind the section of this key
    have hnext {node : Node} (hnode : node.finish = v) (hv : v.isSection = true) :
        Reads ⟨⟨.header, before ++ [(key, node)]⟩, [key]⟩ (spaced (sections [] t))
          (finishEntries before ++ ((key, v) :: t).filter (·.2.isSection)) := by
      have hfresh := (List.nodup_cons.mp ht.nodup).1
      have hbefore : ∀ e ∈ t, e.2.isSection = true → e.1 ∉ (before ++ [(key, node)]).map Prod.fst := by
        intro e he hsection hmem
        rw [List.map_append, List.mem_append] at hmem
        rcases hmem with hmem | hmem
        · exact hlater e he hsection hmem
        · exact hfresh (List.mem_singleton.mp hmem ▸ List.mem_map_of_mem he)
      have hrest := ih ht.tail hbefore [key]
      rw [finishEntries_append, finishEntries_eq_map [(key, node)]] at hrest
      simpa [hnode, hv] using hrest
    rw [sections, List.nil_append]
    cases ht.values _ List.mem_cons_self with
    | plain hv =>
      have hplain := hv.isSection
      rw [hplain, List.filter_cons_of_neg (by simp [hplain])]
      exact ih ht.tail hlater path
    | table hinner =>
      rw [spaced, if_pos (isSection_table _), List.flatMap_append]
      refine Reads.table hbare (hkey rfl) hinner (hnext ?_ rfl)
      rw [Node.finish, finishEntries_flatEntries]
    | rows htables =>
      rw [spaced, if_pos (isSection_rows _ _), List.flatMap_append]
      exact Reads.rows hbare (hkey (isSection_rows _ _)) htables (hnext (finish_rows _) (isSection_rows _ _))

theorem rowBlocks_ne_nil {tables : List Table} (htables : ∀ inner ∈ tables, Keyed Plain inner) (path : List Char) :
    ∀ block ∈ rowBlocks path (tables.map .table), block ≠ [] := by
  induction tables with
  | nil =>
    rw [List.map_nil, rowBlocks]
    simp
  | cons inner tables ih =>
    obtain ⟨hinner, hmore⟩ := List.forall_mem_cons.mp htables
    intro block hblock
    rw [List.map_cons, rowBlocks, hinner.sections_eq, List.nil_append, List.mem_cons] at hblock
    rcases hblock with rfl | hblock
    · exact List.cons_ne_nil _ _
    · exact ih hmore block hblock

theorem sections_ne_nil (ht : Keyed Shallow t) (path : List Char) : ∀ block ∈ sections path t, block ≠ [] := by
  induction t with
  | nil =>
    rw [sections]
    simp
  | cons e t ih =>
    obtain ⟨key, v⟩ := e
    intro block hblock
    rw [sections, List.mem_append] at hblock
    rcases hblock with hblock | hblock
    · cases ht.values _ List.mem_cons_self with
      | plain hv =>
        rw [if_neg (by simp [hv.isSection])] at hblock
        cases hblock
      | table hinner =>
        rw [if_pos (isSection_table _), hinner.blocks_eq, List.mem_singleton] at hblock
        rw [hblock]
        exact List.cons_ne_nil _ _
      | @rows first more htables =>
        rw [if_pos (isSection_rows _ _), Value.blocks] at hblock
        exact rowBlocks_ne_nil htables _ block hblock
    · exact ih ht.tail block hblock

theorem intercalate_eq_append (text : List Char) (texts : List (List Char)) :
    List.intercalate ['\n'] (text :: texts) = text ++ texts.flatMap ('\n' :: ·) := by
  induction texts generalizing text with
  | nil => simp [List.intercalate]
  | cons next texts ih => rw [List.intercalate_cons_cons, ih, List.flatMap_cons, List.append_assoc]; rfl

theorem Reads.blocks {r : Reading} {block : Block} {blocks : List Block} (hblocks : ∀ block ∈ blocks, block ≠ [])
    (h : Reads r (block.text ++ spaced blocks) t) :
    Reads r (List.intercalate ['\n'] (((block :: blocks).filter (!·.isEmpty)).map Block.text)) t := by
  have hfilter : blocks.filter (!·.isEmpty) = blocks := by
    refine List.filter_eq_self.mpr fun block hblock ↦ ?_
    simp [hblocks block hblock]
  have hspaced (blocks : List Block) : (blocks.map Block.text).flatMap ('\n' :: ·) = spaced blocks := by
    rw [spaced, List.flatMap_map]
  cases block with
  | cons line block =>
    rw [List.filter_cons_of_pos rfl, hfilter, List.map_cons, intercalate_eq_append, hspaced]
    exact h
  | nil =>
    rw [List.filter_cons_of_neg (by simp), hfilter]
    cases blocks with
    | nil => exact h
    | cons next blocks =>
      rw [List.map_cons, intercalate_eq_append, hspaced]
      exact of_blank h

/-- No document that can be read begins with a mark of the byte order but for the one that is skipped. -/
theorem Reads.skipMark_eq {r : Reading} (h : Reads r cs t) : skipMark cs = cs := by
  unfold skipMark
  split
  · next more =>
    have hnone : r.lines? (more.length + 2) ('\uFEFF' :: more) = none := rfl
    have := h (more.length + 2) (by simp)
    rw [hnone] at this
    cases this
  · rfl

/-- A table with the keys that have headers behind the others. -/
def plainFirst (t : Table) : Table := t.filter (!·.2.isSection) ++ t.filter (·.2.isSection)

/-- Documents read back, with the keys that have headers behind the others. -/
theorem read?_write (ht : Keyed Shallow t) : read? (write t) = some (plainFirst t) := by
  have hreads : Reads {} (write t).toList (plainFirst t) := by
    rw [write, String.toList_ofList]
    refine Reads.blocks (sections_ne_nil ht []) ?_
    refine Reads.plainLines cursor_root [] ht (by simp) ?_
    have hapart : ∀ e ∈ t, e.2.isSection = true →
        e.1 ∉ (flatEntries (t.filter (!·.2.isSection))).map Prod.fst := by
      intro e he hsection hmem
      rw [map_fst_flatEntries, List.mem_map] at hmem
      obtain ⟨other, hother, hkey⟩ := hmem
      obtain ⟨hother, hplain⟩ := List.mem_filter.mp hother
      rw [List.inj_on_of_nodup_map ht.nodup hother he hkey, hsection] at hplain
      cases hplain
    have hsections := reads_sections ht hapart []
    rw [finishEntries_flatEntries] at hsections
    exact hsections
  rw [read?, hreads.skipMark_eq]
  exact hreads _ (Nat.lt_succ_self _)

end Casement.Toml
