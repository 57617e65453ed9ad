import Casement.Config.File
import Casement.Proofs.Ron.Documents
import Casement.Proofs.Toml.Documents

namespace Casement

namespace Config

/-- A step into a document, to the value of a key or to an item of a list. -/
inductive Hop where
  | key (name : String)
  | item (index : Nat)
  deriving DecidableEq, Repr

abbrev Location := List Hop

def behind (out : Location → Bool) (step : Hop) : Location → Bool := fun place => out (step :: place)

theorem behind_eq_false {out : Location → Bool} (h : ∀ step place, out (step :: place) = false) (first step : Hop)
    (place : Location) : behind out first (step :: place) = false := h first (step :: place)

variable {α : Type} {without : (Location → Bool) → α → α} {out : Location → Bool} {entries : List (String × α)}

def prune (without : (Location → Bool) → α → α) (out : Location → Bool) (entries : List (String × α)) :
    List (String × α) :=
  entries.filterMap fun e => if out [.key e.1] then none else some (e.1, without (behind out (.key e.1)) e.2)

theorem prune_cons (e : String × α) :
    prune without out (e :: entries) =
      if out [.key e.1] then prune without out entries
      else (e.1, without (behind out (.key e.1)) e.2) :: prune without out entries := by
  rw [prune, List.filterMap_cons]
  split
  · next heq => rw [if_pos (by by_contra hout; simp [hout] at heq)]; rfl
  · next heq =>
    split at heq
    · cases heq
    · next hout =>
      cases heq
      rw [if_neg hout]
      rfl

theorem mem_prune {e : String × α} (h : e ∈ prune without out entries) :
    ∃ a, (e.1, a) ∈ entries ∧ e.2 = without (behind out (.key e.1)) a := by
  obtain ⟨source, hmem, heq⟩ := List.mem_filterMap.mp h
  split at heq
  · cases heq
  · cases heq
    exact ⟨source.2, hmem, rfl⟩

theorem map_fst_prune (out : Location → Bool) (entries : List (String × α)) :
    ((prune without out entries).map Prod.fst).Sublist (entries.map Prod.fst) := by
  induction entries with
  | nil => exact List.Sublist.refl _
  | cons e entries ih =>
    rw [prune_cons]
    split
    · exact ih.cons _
    · exact ih.cons_cons _

/-- The entries under a key are gone, or stand there without what was taken out of them. -/
theorem filter_prune (out : Location → Bool) (entries : List (String × α)) (key : String) :
    (prune without out entries).filter (·.1 = key) =
      if out [.key key] then []
      else (entries.filter (·.1 = key)).map fun e => (e.1, without (behind out (.key key)) e.2) := by
  induction entries with
  | nil => simp [prune]
  | cons e entries ih =>
    obtain ⟨k, a⟩ := e
    rw [prune_cons]
    by_cases hk : k = key
    · subst hk
      split
      · next hout => rw [ih, if_pos hout]
      · next hout => simp [ih, hout]
    · split
      · simp [ih, hk]
      · simp [ih, hk]

theorem lookup_prune (out : Location → Bool) (entries : List (String × α)) (key : String) :
    (prune without out entries).lookup key =
      if out [.key key] then none else (entries.lookup key).map (without (behind out (.key key))) := by
  induction entries with
  | nil => simp [prune]
  | cons e entries ih =>
    obtain ⟨k, a⟩ := e
    rw [prune_cons]
    by_cases hk : key = k
    · subst hk
      split
      · next hout => rw [ih, if_pos hout]
      · next hout => simp
    · have hne : (key == k) = false := beq_eq_false_iff_ne.mpr hk
      split
      · rw [ih, List.lookup_cons, hne]
      · rw [List.lookup_cons, List.lookup_cons, hne]
        exact ih

end Config

open Config

namespace Toml

mutual

/-- A value without the entries at some places in it. -/
def Value.without (out : Location → Bool) : Value → Value
  | .array values => .array (itemsWithout out 0 values)
  | .table entries => .table (entriesWithout out entries)
  | v => v

def itemsWithout (out : Location → Bool) : (index : Nat) → List Value → List Value
  | _, [] => []
  | i, v :: rest => v.without (behind out (.item i)) :: itemsWithout out (i + 1) rest

def entriesWithout (out : Location → Bool) : List (String × Value) → List (String × Value)
  | [] => []
  | (key, v) :: rest =>
    if out [.key key] then entriesWithout out rest
    else (key, v.without (behind out (.key key))) :: entriesWithout out rest

end

variable {key : String} {v : Value} {t : Table} {out : Location → Bool}

theorem entriesWithout_eq_prune (out : Location → Bool) (t : Table) :
    entriesWithout out t = prune Value.without out t := by
  induction t with
  | nil => rw [entriesWithout, prune, List.filterMap_nil]
  | cons e t ih => rw [entriesWithout, prune_cons, ih]

theorem itemsWithout_eq_mapIdx (out : Location → Bool) (i : Nat) (values : List Value) :
    itemsWithout out i values = values.mapIdx fun j v => v.without (behind out (.item (i + j))) := by
  induction values generalizing i with
  | nil => rw [itemsWithout, List.mapIdx_nil]
  | cons v values ih => simp only [itemsWithout, ih, List.mapIdx_cons, Nat.add_zero, Nat.add_right_comm, Nat.add_assoc]

theorem lookup_entriesWithout (out : Location → Bool) (t : Table) (key : String) :
    (entriesWithout out t).lookup key =
      if out [.key key] then none else (t.lookup key).map (·.without (behind out (.key key))) := by
  rw [entriesWithout_eq_prune, lookup_prune]

theorem Keyed.without {p : Value → Prop} (hp : ∀ {v out}, p v → p (v.without out)) (h : Keyed p t) :
    Keyed p (entriesWithout out t) where
  bare e he := by
    rw [entriesWithout_eq_prune] at he
    obtain ⟨v, hmem, -⟩ := mem_prune he
    exact h.bare (e.1, v) hmem
  nodup := by
    rw [entriesWithout_eq_prune]
    exact h.nodup.sublist (map_fst_prune out t)
  values e he := by
    rw [entriesWithout_eq_prune] at he
    obtain ⟨v, hmem, hv⟩ := mem_prune he
    rw [hv]
    exact hp (h.values (e.1, v) hmem)

theorem Plain.without (h : Plain v) : Plain (v.without out) := by
  cases h with
  | string s => exact .string s
  | integer h => exact .integer h
  | float h => exact .float h
  | empty => exact .empty

theorem itemsWithout_rows (out : Location → Bool) (i : Nat) (tables : List Table) (h : ∀ t ∈ tables, Keyed Plain t) :
    ∃ tables' : List Table, itemsWithout out i (tables.map .table) = tables'.map .table ∧
      tables'.length = tables.length ∧ ∀ t ∈ tables', Keyed Plain t := by
  induction tables generalizing i with
  | nil => exact ⟨[], rfl, rfl, by simp⟩
  | cons t tables ih =>
    obtain ⟨ht, hmore⟩ := List.forall_mem_cons.mp h
    obtain ⟨tables', heq, hlength, hkeyed⟩ := ih (i + 1) hmore
    refine ⟨entriesWithout (behind out (.item i)) t :: tables', ?_, by simp [hlength], ?_⟩
    · rw [List.map_cons, itemsWithout, heq]
      rfl
    · exact List.forall_mem_cons.mpr ⟨ht.without Plain.without, hkeyed⟩

theorem Shallow.without (h : Shallow v) : Shallow (v.without out) := by
  cases h with
  | plain h => exact .plain h.without
  | table h => exact .table (h.without Plain.without)
  | @rows first more h =>
    obtain ⟨tables, heq, hlength, hkeyed⟩ := itemsWithout_rows out 0 (first :: more) h
    rw [Value.without, heq]
    cases tables with
    | nil => cases hlength
    | cons first more => exact .rows hkeyed

theorem plainFirst_perm (t : Table) : (plainFirst t).Perm t := by
  refine List.perm_append_comm.trans ?_
  exact List.filter_append_perm (·.2.isSection) t

theorem Keyed.plainFirst {p : Value → Prop} (h : Keyed p t) : Keyed p (plainFirst t) where
  bare e he := h.bare e ((plainFirst_perm t).mem_iff.mp he)
  nodup := ((plainFirst_perm t).map Prod.fst).nodup_iff.mpr h.nodup
  values e he := h.values e ((plainFirst_perm t).mem_iff.mp he)

theorem lookup_plainFirst (h : (t.map Prod.fst).Nodup) (key : String) : (plainFirst t).lookup key = t.lookup key := by
  unfold plainFirst
  induction t with
  | nil => rfl
  | cons e t ih =>
    obtain ⟨hfresh, hnodup⟩ := List.nodup_cons.mp h
    obtain ⟨k, v⟩ := e
    by_cases hk : key = k
    · subst hk
      have hother : (t.filter (!·.2.isSection)).lookup key = none :=
        lookup_eq_none fun hmem ↦ hfresh ((List.filter_sublist.map Prod.fst).subset hmem)
      cases hv : v.isSection with
      | true => simp [List.lookup_append, hv, hother]
      | false => simp [hv]
    · have hne : (key == k) = false := beq_eq_false_iff_ne.mpr hk
      have hrest := ih hnodup
      rw [List.lookup_append] at hrest ⊢
      cases hv : v.isSection with
      | true => simpa [hv, List.lookup_cons, hne] using hrest
      | false => simpa [hv, List.lookup_cons, hne] using hrest

theorem without_mem_itemsWithout (out : Location → Bool) {values : List Value} {i : Nat} (h : values[i]? = some v) :
    v.without (behind out (.item i)) ∈ itemsWithout out 0 values := by
  obtain ⟨hi, hv⟩ := List.getElem?_eq_some_iff.mp h
  rw [itemsWithout_eq_mapIdx, List.mem_mapIdx]
  exact ⟨i, hi, by rw [hv, Nat.zero_add]⟩

mutual

theorem Value.without_eq_self {out : Location → Bool} (hout : ∀ step place, out (step :: place) = false) :
    (v : Value) → v.without out = v
  | .string _ | .integer _ | .float _ | .boolean _ | .time => rfl
  | .array values => congrArg Value.array (itemsWithout_eq_self hout 0 values)
  | .table entries => congrArg Value.table (entriesWithout_eq_self hout entries)

theorem itemsWithout_eq_self {out : Location → Bool} (hout : ∀ step place, out (step :: place) = false) :
    (i : Nat) → (values : List Value) → itemsWithout out i values = values
  | _, [] => rfl
  | i, v :: values => by
    rw [itemsWithout, v.without_eq_self (behind_eq_false hout _), itemsWithout_eq_self hout (i + 1) values]

theorem entriesWithout_eq_self {out : Location → Bool} (hout : ∀ step place, out (step :: place) = false) :
    (entries : List (String × Value)) → entriesWithout out entries = entries
  | [] => rfl
  | (key, v) :: entries => by
    rw [entriesWithout, hout, if_neg Bool.false_ne_true, v.without_eq_self (behind_eq_false hout _),
      entriesWithout_eq_self hout entries]

end

end Toml

namespace Ron

mutual

/-- A value without the entries at some places in it. -/
def Value.without (out : Location → Bool) : Value → Value
  | .list values => .list (itemsWithout out 0 values)
  | .record name fields => .record name (fieldsWithout out fields)
  | v => v

def itemsWithout (out : Location → Bool) : (index : Nat) → List Value → List Value
  | _, [] => []
  | i, v :: rest => v.without (behind out (.item i)) :: itemsWithout out (i + 1) rest

def fieldsWithout (out : Location → Bool) : List (String × Value) → List (String × Value)
  | [] => []
  | (key, v) :: rest =>
    if out [.key key] then fieldsWithout out rest
    else (key, v.without (behind out (.key key))) :: fieldsWithout out rest

end

variable {v : Value} {fields : List (String × Value)} {out : Location → Bool}

theorem fieldsWithout_eq_prune (out : Location → Bool) (fields : List (String × Value)) :
    fieldsWithout out fields = prune Value.without out fields := by
  induction fields with
  | nil => rw [fieldsWithout, prune, List.filterMap_nil]
  | cons f fields ih => rw [fieldsWithout, prune_cons, ih]

theorem itemsWithout_eq_mapIdx (out : Location → Bool) (i : Nat) (values : List Value) :
    itemsWithout out i values = values.mapIdx fun j v => v.without (behind out (.item (i + j))) := by
  induction values generalizing i with
  | nil => rw [itemsWithout, List.mapIdx_nil]
  | cons v values ih => simp only [itemsWithout, ih, List.mapIdx_cons, Nat.add_zero, Nat.add_right_comm, Nat.add_assoc]

theorem field?_fieldsWithout (out : Location → Bool) (fields : List (String × Value)) (key : String) :
    field? (fieldsWithout out fields) key =
      if out [.key key] then some none
      else (field? fields key).map (·.map (·.without (behind out (.key key)))) := by
  rw [field?, fieldsWithout_eq_prune, filter_prune, field?]
  cases out [.key key] with
  | true => rfl
  | false =>
    generalize fields.filter (·.1 = key) = found
    rcases found with _ | ⟨f, _ | ⟨_, _⟩⟩
    · rfl
    · rfl
    · rfl

theorem without_mem_itemsWithout (out : Location → Bool) {values : List Value} {i : Nat} (h : values[i]? = some v) :
    v.without (behind out (.item i)) ∈ itemsWithout out 0 values := by
  obtain ⟨hi, hv⟩ := List.getElem?_eq_some_iff.mp h
  rw [itemsWithout_eq_mapIdx, List.mem_mapIdx]
  exact ⟨i, hi, by rw [hv, Nat.zero_add]⟩

theorem Fits.without {depth : Nat} {shape : Shape} (h : Fits depth shape v) (out : Location → Bool) :
    Fits depth shape (v.without out) := by
  induction h generalizing out with
  | name h => exact .name h
  | text s => exact .text s
  | float h => exact .float h
  | integer n => exact .integer n
  | natural n => exact .natural n
  | none => exact .none
  | some h ih => exact .some h
  | list h ih =>
    refine .list fun v hv ↦ ?_
    rw [itemsWithout_eq_mapIdx, List.mem_mapIdx] at hv
    obtain ⟨j, hj, rfl⟩ := hv
    exact ih _ (List.getElem_mem hj) _
  | record names h ih =>
    refine .record (fun f hf ↦ ?_) fun f hf ↦ ?_
    · rw [fieldsWithout_eq_prune] at hf
      obtain ⟨v, hmem, -⟩ := mem_prune hf
      exact names (f.1, v) hmem
    · rw [fieldsWithout_eq_prune] at hf
      obtain ⟨v, hmem, hv⟩ := mem_prune hf
      rw [hv]
      exact ih (f.1, v) hmem _

mutual

theorem Value.without_eq_self {out : Location → Bool} (hout : ∀ step place, out (step :: place) = false) :
    (v : Value) → v.without out = v
  | .name _ | .number _ | .text _ | .char _ | .none | .some _ | .map _ | .tuple _ _ => rfl
  | .list values => congrArg Value.list (itemsWithout_eq_self hout 0 values)
  | .record name fields => congrArg (Value.record name) (fieldsWithout_eq_self hout fields)

theorem itemsWithout_eq_self {out : Location → Bool} (hout : ∀ step place, out (step :: place) = false) :
    (i : Nat) → (values : List Value) → itemsWithout out i values = values
  | _, [] => rfl
  | i, v :: values => by
    rw [itemsWithout, v.without_eq_self (behind_eq_false hout _), itemsWithout_eq_self hout (i + 1) values]

theorem fieldsWithout_eq_self {out : Location → Bool} (hout : ∀ step place, out (step :: place) = false) :
    (fields : List (String × Value)) → fieldsWithout out fields = fields
  | [] => rfl
  | (key, v) :: fields => by
    rw [fieldsWithout, hout, if_neg Bool.false_ne_true, v.without_eq_self (behind_eq_false hout _),
      fieldsWithout_eq_self hout fields]

end

end Ron

end Casement
