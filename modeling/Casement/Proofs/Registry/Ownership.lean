import Casement.Registry.Basic
import Casement.Proofs.SlotMap

namespace Casement.Registry

variable {κ α ε β : Type}

section Cells

variable (r : Registry κ α ε) (o o' : ObjectId)

def owners : Nat := (r.cells[o]?.map (·.owners)).getD 0

theorem cell_modifyCell (f : Cell α → Cell α) :
    (r.modifyCell o f).cells[o']? = if o = o' then r.cells[o']?.map f else r.cells[o']? := by
  simp only [modifyCell, List.getElem?_modify]
  split <;> cases r.cells[o']? <;> simp_all

@[simp] theorem length_modifyCell (f : Cell α → Cell α) :
    (r.modifyCell o f).cells.length = r.cells.length := by simp [modifyCell]

@[simp] theorem entries_modifyCell (f : Cell α → Cell α) :
    (r.modifyCell o f).entries = r.entries := rfl

@[simp] theorem dropped_modifyCell (f : Cell α → Cell α) :
    (r.modifyCell o f).dropped = r.dropped := rfl

@[simp] theorem env_modifyCell (f : Cell α → Cell α) : (r.modifyCell o f).env = r.env := rfl

@[simp] theorem length_update (f : α → α) : (r.update o f).cells.length = r.cells.length :=
  length_modifyCell ..

@[simp] theorem length_setBorrowed (b : Bool) : (r.setBorrowed o b).cells.length = r.cells.length :=
  length_modifyCell ..

@[simp] theorem length_retain : (r.retain o).cells.length = r.cells.length := length_modifyCell ..

theorem isBorrowed_eq_true_iff :
    r.isBorrowed o = true ↔ ∃ c, r.cells[o]? = some c ∧ c.borrowed = true := by
  unfold isBorrowed
  cases r.cells[o]? <;> simp

theorem lt_of_isBorrowed {r : Registry κ α ε} {o : ObjectId} (h : r.isBorrowed o = true) :
    o < r.cells.length := by
  obtain ⟨c, hc, -⟩ := (r.isBorrowed_eq_true_iff o).mp h
  exact (List.getElem?_eq_some_iff.mp hc).1

theorem lt_of_owners {r : Registry κ α ε} {o : ObjectId} (h : 1 ≤ r.owners o) :
    o < r.cells.length := by
  by_contra hlt
  simp [owners, List.getElem?_eq_none (Nat.le_of_not_lt hlt)] at h

@[simp] theorem owners_update (f : α → α) : (r.update o f).owners o' = r.owners o' := by
  simp only [owners, update, cell_modifyCell]
  split <;> cases r.cells[o']? <;> simp

@[simp] theorem isBorrowed_update (f : α → α) : (r.update o f).isBorrowed o' = r.isBorrowed o' := by
  simp only [isBorrowed, update, cell_modifyCell]
  split <;> cases r.cells[o']? <;> simp

theorem value?_update (f : α → α) :
    (r.update o f).value? o' = if o = o' then (r.value? o').map f else r.value? o' := by
  simp only [value?, update, cell_modifyCell]
  split <;> cases r.cells[o']? <;> simp

@[simp] theorem owners_setBorrowed (b : Bool) : (r.setBorrowed o b).owners o' = r.owners o' := by
  simp only [owners, setBorrowed, cell_modifyCell]
  split <;> cases r.cells[o']? <;> simp

theorem isBorrowed_setBorrowed (b : Bool) (h : o < r.cells.length) :
    (r.setBorrowed o b).isBorrowed o' = if o = o' then b else r.isBorrowed o' := by
  simp only [isBorrowed, setBorrowed, cell_modifyCell]
  split
  · next h' =>
    subst h'
    simp [List.getElem?_eq_getElem h]
  · rfl

theorem isBorrowed_setBorrowed_of_ne {o o' : ObjectId} (hne : o ≠ o') (b : Bool) :
    (r.setBorrowed o b).isBorrowed o' = r.isBorrowed o' := by
  rw [isBorrowed, isBorrowed, setBorrowed, cell_modifyCell, if_neg hne]

@[simp] theorem value?_setBorrowed (b : Bool) : (r.setBorrowed o b).value? o' = r.value? o' := by
  simp only [value?, setBorrowed, cell_modifyCell]
  split <;> cases r.cells[o']? <;> simp

theorem owners_retain (h : o < r.cells.length) :
    (r.retain o).owners o' = r.owners o' + if o = o' then 1 else 0 := by
  simp only [owners, retain, cell_modifyCell]
  split
  · next h' =>
    subst h'
    simp [List.getElem?_eq_getElem h]
  · simp

@[simp] theorem isBorrowed_retain : (r.retain o).isBorrowed o' = r.isBorrowed o' := by
  simp only [isBorrowed, retain, cell_modifyCell]
  split <;> cases r.cells[o']? <;> simp

@[simp] theorem value?_retain : (r.retain o).value? o' = r.value? o' := by
  simp only [value?, retain, cell_modifyCell]
  split <;> cases r.cells[o']? <;> simp

end Cells

def IsRegistered (r : Registry κ α ε) (o : ObjectId) : Prop :=
  ∃ key e, r.entries.get? key = some e ∧ e.object = o

open Classical in
noncomputable def holders (r : Registry κ α ε) (o : ObjectId) : Nat :=
  r.owners o - if r.IsRegistered o then 1 else 0

/-- The resource is borrowed, or nobody owns it any longer. -/
def IsBusy (r : Registry κ α ε) (o : ObjectId) : Prop := r.isBorrowed o = true ∨ o ∈ r.dropped

theorem isRegistered_congr {r r' : Registry κ α ε} (h : r'.entries = r.entries) (o : ObjectId) :
    r'.IsRegistered o ↔ r.IsRegistered o := by simp [IsRegistered, h]

theorem holders_congr {r r' : Registry κ α ε} {o : ObjectId} (h : r'.entries = r.entries)
    (ho : r'.owners o = r.owners o) : r'.holders o = r.holders o := by
  have hreg := isRegistered_congr h o
  unfold holders
  by_cases hr : r.IsRegistered o
  · rw [ho, if_pos hr, if_pos (hreg.mpr hr)]
  · rw [ho, if_neg hr, if_neg (hr ∘ hreg.mp)]

theorem holders_setBorrowed (r : Registry κ α ε) (o o' : ObjectId) (b : Bool) :
    (r.setBorrowed o b).holders o' = r.holders o' := holders_congr rfl (owners_setBorrowed ..)

/-- At any moment: keys lead to existing resources, one key to each; what is registered is owned,
what is borrowed is owned by a call, and what nobody owns has been dropped, once. -/
structure Sound (r : Registry κ α ε) : Prop where
  table : r.entries.WellFormed
  object_lt : ∀ {key e}, r.entries.get? key = some e → e.object < r.cells.length
  key_unique : ∀ {key key' e e'}, r.entries.get? key = some e → r.entries.get? key' = some e' →
    e.object = e'.object → key = key'
  owned : ∀ {o}, r.IsRegistered o → 1 ≤ r.owners o
  held : ∀ {o}, r.isBorrowed o = true → 1 ≤ r.holders o
  dropped_iff : ∀ {o}, o ∈ r.dropped ↔ o < r.cells.length ∧ r.owners o = 0
  dropped_nodup : r.dropped.Nodup

/-- What a call leaves as it found it, `current` being the resource it works on: the owners and
the borrowing of every resource, and the value of every other one that is busy. Keys that find
older resources are no new ones. -/
structure Keeps (current : Option ObjectId) (r r' : Registry κ α ε) : Prop where
  length_le : r.cells.length ≤ r'.cells.length
  holders : ∀ {o}, o < r.cells.length → r'.holders o = r.holders o
  borrowed : ∀ {o}, o < r.cells.length → r'.isBorrowed o = r.isBorrowed o
  value : ∀ {o}, r.IsBusy o → current ≠ some o → r'.value? o = r.value? o
  dropped : ∀ {o}, o ∈ r.dropped → o ∈ r'.dropped
  entry : ∀ {key e}, r'.entries.get? key = some e → e.object < r.cells.length →
    r.entries.get? key = some e
  advances : r.entries.Advances r'.entries
  fresh : ∀ {o}, r.cells.length ≤ o → o < r'.cells.length →
    r'.holders o = 0 ∧ r'.isBorrowed o = false

section Facts

variable {r r' r'' : Registry κ α ε} {o : ObjectId} {current : Option ObjectId}

theorem IsRegistered.lt (hr : r.Sound) (h : r.IsRegistered o) : o < r.cells.length := by
  obtain ⟨key, e, he, rfl⟩ := h
  exact hr.object_lt he

theorem IsBusy.lt (hr : r.Sound) (h : r.IsBusy o) : o < r.cells.length := by
  rcases h with h | h
  · exact lt_of_isBorrowed h
  · exact (hr.dropped_iff.mp h).1

theorem holders_le_owners : r.holders o ≤ r.owners o := by
  unfold holders
  omega

theorem holders_of_isRegistered (hr : r.Sound) (h : r.IsRegistered o) :
    r.owners o = r.holders o + 1 := by
  have := hr.owned h
  unfold holders
  rw [if_pos h]
  omega

theorem holders_of_not_isRegistered (h : ¬ r.IsRegistered o) : r.owners o = r.holders o := by
  unfold holders
  rw [if_neg h, Nat.sub_zero]

theorem holders_eq_zero (h : r.cells.length ≤ o) : r.holders o = 0 := by
  by_contra hne
  have howned : 1 ≤ r.owners o := (Nat.one_le_iff_ne_zero.mpr hne).trans r.holders_le_owners
  exact absurd (lt_of_owners howned) (Nat.not_lt.mpr h)

theorem isBorrowed_eq_false (h : r.cells.length ≤ o) : r.isBorrowed o = false := by
  rw [Bool.eq_false_iff]
  intro hb
  exact absurd (lt_of_isBorrowed hb) (Nat.not_lt.mpr h)

theorem not_mem_dropped_of_holders (hr : r.Sound) (h : 1 ≤ r.holders o) : o ∉ r.dropped := by
  intro hd
  have := (hr.dropped_iff.mp hd).2
  have := r.holders_le_owners (o := o)
  omega

theorem not_mem_dropped_of_isRegistered (hr : r.Sound) (h : r.IsRegistered o) : o ∉ r.dropped := by
  intro hd
  have := (hr.dropped_iff.mp hd).2
  have := hr.owned h
  omega

theorem Keeps.refl (current : Option ObjectId) (r : Registry κ α ε) : r.Keeps current r where
  length_le := Nat.le_refl _
  holders _ := rfl
  borrowed _ := rfl
  value _ _ := rfl
  dropped h := h
  entry h _ := h
  advances := .refl _
  fresh h h' := by omega

theorem Keeps.isBusy (h : r.Keeps current r') (hr : r.Sound) (hb : r.IsBusy o) : r'.IsBusy o := by
  have hlt := hb.lt hr
  rcases hb with hb | hb
  · exact .inl ((h.borrowed hlt).trans hb)
  · exact .inr (h.dropped hb)

theorem Keeps.trans (h : r.Keeps current r') (h' : r'.Keeps current r'') (hr : r.Sound) :
    r.Keeps current r'' where
  length_le := h.length_le.trans h'.length_le
  holders hlt := (h'.holders (hlt.trans_le h.length_le)).trans (h.holders hlt)
  borrowed hlt := (h'.borrowed (hlt.trans_le h.length_le)).trans (h.borrowed hlt)
  value hb hc := (h'.value (h.isBusy hr hb) hc).trans (h.value hb hc)
  dropped hd := h'.dropped (h.dropped hd)
  entry he hlt := h.entry (h'.entry he (hlt.trans_le h.length_le)) hlt
  advances := h.advances.trans h'.advances
  fresh {o} hle hlt := by
    by_cases ho : o < r'.cells.length
    · rw [h'.holders ho, h'.borrowed ho]
      exact h.fresh hle ho
    · exact h'.fresh (Nat.le_of_not_lt ho) hlt

theorem Keeps.of_none (h : r.Keeps none r') : r.Keeps current r' :=
  { h with value := fun hb _ ↦ h.value hb (by simp) }

theorem Keeps.of_eq (he : r'.entries = r.entries) (hc : r'.cells = r.cells)
    (hd : r'.dropped = r.dropped) : r.Keeps current r' where
  length_le := (congrArg List.length hc).ge
  holders _ := holders_congr he (by simp [owners, hc])
  borrowed _ := by simp [isBorrowed, hc]
  value _ _ := by simp [value?, hc]
  dropped h := hd ▸ h
  entry h _ := he ▸ h
  advances := he ▸ .refl _
  fresh h h' := by rw [hc] at h'; omega

theorem Sound.of_eq (hr : r.Sound) (he : r'.entries = r.entries) (hc : r'.cells = r.cells)
    (hd : r'.dropped = r.dropped) : r'.Sound := by
  have ho (o : ObjectId) : r'.owners o = r.owners o := by simp [owners, hc]
  exact
    { table := he ▸ hr.table
      object_lt := fun h ↦ hc ▸ hr.object_lt (he ▸ h)
      key_unique := fun h h' ↦ hr.key_unique (he ▸ h) (he ▸ h')
      owned := fun h ↦ (ho _).symm ▸ hr.owned ((isRegistered_congr he _).mp h)
      held := fun {o} h ↦ by
        rw [holders_congr he (ho o)]
        exact hr.held (by simpa [isBorrowed, hc] using h)
      dropped_iff := by
        intro o
        rw [hd, hc, ho]
        exact hr.dropped_iff
      dropped_nodup := hd ▸ hr.dropped_nodup }

/-- Who works on a resource that was not busy keeps what any call keeps. -/
theorem Keeps.of_idle (h : r.Keeps (some o) r') (hidle : ¬ r.IsBusy o) : r.Keeps none r' :=
  { h with value := fun hb _ ↦ h.value hb fun heq ↦ hidle (Option.some.inj heq ▸ hb) }

def borrow (r : Registry κ α ε) (o : ObjectId) : Registry κ α ε := (r.retain o).setBorrowed o true

def letGo (r : Registry κ α ε) (o : ObjectId) : Registry κ α ε :=
  { r.modifyCell o fun c => { c with owners := c.owners - 1 } with
    dropped := if r.cells[o]?.any (·.owners ≤ 1) then o :: r.dropped else r.dropped }

theorem release_eq (d : Disposal κ α ε) (r : Registry κ α ε) (o : ObjectId) :
    release d o r = if r.cells[o]?.any (·.owners ≤ 1) then d.drop o (r.letGo o) else r.letGo o := by
  have h : (r.modifyCell o fun c => { c with owners := c.owners - 1 }).cells[o]?.any (·.owners = 0) =
      r.cells[o]?.any (·.owners ≤ 1) := by
    rw [cell_modifyCell, if_pos rfl]
    cases r.cells[o]? with
    | none => rfl
    | some c =>
      simp only [Option.map_some, Option.any_some, decide_eq_decide]
      omega
  simp only [release, letGo, h]
  split <;> rfl

@[simp] theorem entries_letGo : (r.letGo o).entries = r.entries := rfl

@[simp] theorem env_letGo : (r.letGo o).env = r.env := rfl

theorem cell_letGo (o' : ObjectId) :
    (r.letGo o).cells[o']? =
      if o = o' then r.cells[o']?.map fun c => { c with owners := c.owners - 1 } else r.cells[o']? :=
  cell_modifyCell r o o' _

@[simp] theorem length_letGo : (r.letGo o).cells.length = r.cells.length := length_modifyCell ..

@[simp] theorem isBorrowed_letGo (o' : ObjectId) : (r.letGo o).isBorrowed o' = r.isBorrowed o' := by
  simp only [isBorrowed, cell_letGo]
  split <;> cases r.cells[o']? <;> simp

@[simp] theorem value?_letGo (o' : ObjectId) : (r.letGo o).value? o' = r.value? o' := by
  simp only [value?, cell_letGo]
  split <;> cases r.cells[o']? <;> simp

theorem owners_letGo (o' : ObjectId) :
    (r.letGo o).owners o' = r.owners o' - if o = o' then 1 else 0 := by
  simp only [owners, cell_letGo]
  split <;> cases r.cells[o']? <;> simp

theorem any_owners_le_one (ho : o < r.cells.length) :
    r.cells[o]?.any (·.owners ≤ 1) = true ↔ r.owners o ≤ 1 := by
  simp [owners, List.getElem?_eq_getElem ho]

theorem mem_dropped_letGo (ho : o < r.cells.length) (o' : ObjectId) :
    o' ∈ (r.letGo o).dropped ↔ (o' = o ∧ r.owners o ≤ 1) ∨ o' ∈ r.dropped := by
  simp only [letGo, any_owners_le_one ho]
  split
  · next h => simp [h]
  · next h => simp [h]

theorem holders_letGo (hr : r.Sound) (o' : ObjectId) :
    (r.letGo o).holders o' = r.holders o' - if o = o' then 1 else 0 := by
  have hreg : (r.letGo o).IsRegistered o' ↔ r.IsRegistered o' := .rfl
  by_cases ho' : r.IsRegistered o'
  · have h₁ := holders_of_isRegistered hr ho'
    unfold holders
    rw [if_pos ho', if_pos (hreg.mpr ho'), owners_letGo]
    omega
  · rw [← holders_of_not_isRegistered (ho' ∘ hreg.mp), ← holders_of_not_isRegistered ho', owners_letGo]

theorem Sound.letGo (hr : r.Sound) (h : 1 ≤ r.holders o)
    (hb : r.isBorrowed o = true → 2 ≤ r.holders o) : (r.letGo o).Sound where
  table := hr.table
  object_lt he := length_letGo (r := r) ▸ hr.object_lt he
  key_unique := hr.key_unique
  owned {o'} ho' := by
    have h₁ := holders_of_isRegistered (r := r) hr ho'
    rw [owners_letGo]
    split
    · next heq =>
      subst heq
      omega
    · omega
  held {o'} ho' := by
    rw [isBorrowed_letGo] at ho'
    rw [holders_letGo hr o']
    have h₁ := hr.held ho'
    split
    · next heq =>
      subst heq
      have := hb ho'
      omega
    · omega
  dropped_iff {o'} := by
    have hlt : o < r.cells.length := lt_of_owners (h.trans r.holders_le_owners)
    rw [mem_dropped_letGo hlt, length_letGo, owners_letGo, hr.dropped_iff]
    have := r.holders_le_owners (o := o)
    by_cases heq : o = o'
    · subst heq
      simp only [true_and, if_true, hlt]
      omega
    · simp [heq, Ne.symm heq]
  dropped_nodup := by
    unfold Registry.letGo
    dsimp only
    split
    · exact List.nodup_cons.mpr ⟨not_mem_dropped_of_holders hr h, hr.dropped_nodup⟩
    · exact hr.dropped_nodup

theorem holders_retain (hr : r.Sound) (ho : r.IsRegistered o) (o' : ObjectId) :
    (r.retain o).holders o' = r.holders o' + if o = o' then 1 else 0 := by
  have hreg : (r.retain o).IsRegistered o' ↔ r.IsRegistered o' := .rfl
  have hown := r.owners_retain o o' (ho.lt hr)
  by_cases ho' : r.IsRegistered o'
  · have h₁ := hr.owned ho'
    unfold holders
    rw [if_pos ho', if_pos (hreg.mpr ho'), hown]
    omega
  · rw [← holders_of_not_isRegistered (ho' ∘ hreg.mp), ← holders_of_not_isRegistered ho', hown]

theorem holders_borrow (hr : r.Sound) (ho : r.IsRegistered o) (o' : ObjectId) :
    (r.borrow o).holders o' = r.holders o' + if o = o' then 1 else 0 := by
  rw [borrow, holders_setBorrowed, holders_retain hr ho]

theorem isBorrowed_borrow (hr : r.Sound) (ho : r.IsRegistered o) (o' : ObjectId) :
    (r.borrow o).isBorrowed o' = if o = o' then true else r.isBorrowed o' := by
  rw [borrow, isBorrowed_setBorrowed _ _ _ _ (by simpa using ho.lt hr), isBorrowed_retain]

@[simp] theorem length_borrow : (r.borrow o).cells.length = r.cells.length := by simp [borrow]

@[simp] theorem value?_borrow (o' : ObjectId) : (r.borrow o).value? o' = r.value? o' := by
  simp [borrow]

theorem owned_borrow (howned : 1 ≤ r.owners o) :
    ((r.borrow o).setBorrowed o false).cells[o]?.any (·.owners ≤ 1) = false := by
  unfold owners at howned
  simp only [borrow, retain, setBorrowed, cell_modifyCell, if_true]
  cases h : r.cells[o]? with
  | none => rfl
  | some c =>
    simp only [h, Option.map_some, Option.getD_some] at howned
    simpa using Nat.one_le_iff_ne_zero.mp howned

theorem letGo_borrow (hfree : r.isBorrowed o = false) (howned : 1 ≤ r.owners o) :
    ((r.borrow o).setBorrowed o false).letGo o = r := by
  have hcells : (((r.borrow o).setBorrowed o false).letGo o).cells = r.cells := by
    refine List.ext_getElem? fun o' ↦ ?_
    simp only [cell_letGo, borrow, retain, setBorrowed, cell_modifyCell]
    split
    · next heq =>
      subst heq
      cases h : r.cells[o]? with
      | none => rfl
      | some c =>
        simp only [isBorrowed, h, Option.map_some, Option.getD_some] at hfree
        simp [← hfree]
    · rfl
  have hdropped : (((r.borrow o).setBorrowed o false).letGo o).dropped = r.dropped := by
    simp only [letGo, owned_borrow howned]
    rfl
  cases r
  rw [Registry.mk.injEq]
  exact ⟨rfl, hcells, hdropped, rfl⟩

theorem setBorrowed_letGo (b : Bool) : (r.letGo o).setBorrowed o b = (r.setBorrowed o b).letGo o := by
  have hlast : (r.setBorrowed o b).cells[o]?.any (·.owners ≤ 1) = r.cells[o]?.any (·.owners ≤ 1) := by
    simp only [setBorrowed, cell_modifyCell, if_true]
    cases r.cells[o]? <;> rfl
  simp only [letGo, hlast]
  simp only [setBorrowed, modifyCell, List.modify_modify_eq]
  rfl

theorem Sound.retain (hr : r.Sound) (ho : r.IsRegistered o) : (r.retain o).Sound where
  table := hr.table
  object_lt he := r.length_retain o ▸ hr.object_lt he
  key_unique := hr.key_unique
  owned h := by
    rw [owners_retain _ _ _ (ho.lt hr)]
    exact Nat.le_add_right_of_le (hr.owned h)
  held h := by
    rw [holders_retain hr ho]
    exact Nat.le_add_right_of_le (hr.held (by simpa using h))
  dropped_iff {o'} := by
    rw [length_retain, owners_retain _ _ _ (ho.lt hr)]
    refine hr.dropped_iff.trans (and_congr_right fun _ ↦ ?_)
    split
    · next heq =>
      subst heq
      have := hr.owned ho
      omega
    · simp
  dropped_nodup := hr.dropped_nodup

theorem Sound.setBorrowed (hr : r.Sound) {b : Bool} (hb : b = true → 1 ≤ r.holders o) :
    (r.setBorrowed o b).Sound where
  table := hr.table
  object_lt he := r.length_setBorrowed o b ▸ hr.object_lt he
  key_unique := hr.key_unique
  owned h := (r.owners_setBorrowed o _ b).symm ▸ hr.owned h
  held {o'} h := by
    rw [holders_setBorrowed]
    by_cases heq : o = o'
    · subst heq
      have hlt : o < r.cells.length := by simpa using lt_of_isBorrowed h
      rw [isBorrowed_setBorrowed _ _ _ _ hlt, if_pos rfl] at h
      exact hb h
    · rw [isBorrowed_setBorrowed_of_ne _ heq] at h
      exact hr.held h
  dropped_iff := by
    intro o'
    rw [owners_setBorrowed, length_setBorrowed]
    exact hr.dropped_iff
  dropped_nodup := hr.dropped_nodup

theorem Sound.borrow (hr : r.Sound) (ho : r.IsRegistered o) : (r.borrow o).Sound :=
  (hr.retain ho).setBorrowed fun _ ↦ by simp [holders_retain hr ho]

theorem Sound.unborrow (hr : r.Sound) (o : ObjectId) : (r.setBorrowed o false).Sound :=
  hr.setBorrowed (by simp)

theorem Sound.not_isBusy (hr : r.Sound) (ho : r.IsRegistered o) (hfree : r.isBorrowed o = false) :
    ¬ r.IsBusy o := by
  rintro (hb | hd)
  · rw [hfree] at hb
    cases hb
  · exact not_mem_dropped_of_isRegistered hr ho hd

theorem isBusy_retain {o' : ObjectId} : (r.retain o).IsBusy o' ↔ r.IsBusy o' := by
  simp only [IsBusy, isBorrowed_retain]
  rfl

theorem isBusy_setBorrowed {o' : ObjectId} (hne : o ≠ o') (b : Bool) :
    (r.setBorrowed o b).IsBusy o' ↔ r.IsBusy o' := by
  simp only [IsBusy, isBorrowed_setBorrowed_of_ne _ hne]
  rfl

theorem isBusy_borrow (hr : r.Sound) (ho : r.IsRegistered o) : (r.borrow o).IsBusy o :=
  .inl (by rw [isBorrowed_borrow hr ho, if_pos rfl])

theorem isBusy_borrow_iff (hr : r.Sound) (ho : r.IsRegistered o) {o' : ObjectId} :
    (r.borrow o).IsBusy o' ↔ o = o' ∨ r.IsBusy o' := by
  by_cases heq : o = o'
  · exact iff_of_true (heq ▸ isBusy_borrow hr ho) (.inl heq)
  · rw [or_iff_right heq]
    exact (isBusy_setBorrowed heq true).trans isBusy_retain

theorem isBusy_letGo (ho : o < r.cells.length) (hlast : r.cells[o]?.any (·.owners ≤ 1) = true) :
    (r.letGo o).IsBusy o :=
  .inr ((mem_dropped_letGo ho o).mpr (.inl ⟨rfl, (any_owners_le_one ho).mp hlast⟩))

theorem IsBusy.letGo {o' : ObjectId} (h : r.IsBusy o') (ho : o < r.cells.length) :
    (r.letGo o).IsBusy o' := by
  rcases h with hb | hd
  · exact .inl ((isBorrowed_letGo ..).trans hb)
  · exact .inr ((mem_dropped_letGo ho o').mpr (.inr hd))

end Facts

/-- What any call is allowed: from a sound registry to a sound one, keeping what calls keep. The
resource it works on, if any, is busy. -/
def Safe (current : Option ObjectId) (r r' : Registry κ α ε) : Prop :=
  r.Sound → (∀ o, current = some o → r.IsBusy o) → r'.Sound ∧ r.Keeps current r'

section Calls

variable {r r' r'' : Registry κ α ε} {o : ObjectId} {current : Option ObjectId}

theorem Safe.trans (h : Safe current r r') (h' : Safe current r' r'') : Safe current r r'' := by
  intro hr hc
  obtain ⟨hr', hk⟩ := h hr hc
  obtain ⟨hr'', hk'⟩ := h' hr' fun o ho ↦ hk.isBusy hr (hc o ho)
  exact ⟨hr'', hk.trans hk' hr⟩

theorem Safe.of_eq (he : r'.entries = r.entries) (hc : r'.cells = r.cells)
    (hd : r'.dropped = r.dropped) : Safe current r r' :=
  fun hr _ ↦ ⟨hr.of_eq he hc hd, .of_eq he hc hd⟩

theorem holders_update (o o' : ObjectId) (f : α → α) : (r.update o f).holders o' = r.holders o' :=
  holders_congr rfl (owners_update ..)

theorem Sound.update (hr : r.Sound) (o : ObjectId) (f : α → α) : (r.update o f).Sound where
  table := hr.table
  object_lt he := r.length_update o f ▸ hr.object_lt he
  key_unique := hr.key_unique
  owned h := (r.owners_update o _ f).symm ▸ hr.owned h
  held h := by
    rw [holders_update]
    exact hr.held (by simpa using h)
  dropped_iff := by
    intro o'
    rw [owners_update, length_update]
    exact hr.dropped_iff
  dropped_nodup := hr.dropped_nodup

theorem Keeps.update (r : Registry κ α ε) (o : ObjectId) (f : α → α) :
    r.Keeps (some o) (r.update o f) where
  length_le := (r.length_update o f).ge
  holders _ := holders_update ..
  borrowed _ := isBorrowed_update ..
  value {o'} _ hne := by rw [value?_update, if_neg (by simpa using hne)]
  dropped h := h
  entry h _ := h
  advances := .refl _
  fresh hle hlt := by
    rw [length_update] at hlt
    exact absurd hlt (Nat.not_lt.mpr hle)

inductive LetsGo (o : ObjectId) (r r' : Registry κ α ε) : Prop
  | stay (howned : r.cells[o]?.any (·.owners ≤ 1) = false) (heq : r' = r.letGo o)
  | last (hlast : r.cells[o]?.any (·.owners ≤ 1) = true) (hend : Safe (some o) (r.letGo o) r')

/-- Letting go of a resource that a call owns is safe if nobody else borrows it by that ownership.
Whether or not that was the last owner, what follows keeps what calls keep. -/
theorem LetsGo.keeps (hgo : LetsGo o r r') (hr : r.Sound) (h : 1 ≤ r.holders o)
    (hb : r.isBorrowed o = true → 2 ≤ r.holders o) :
    r'.Sound ∧ (r.letGo o).Keeps (some o) r' := by
  have hlt : o < r.cells.length := lt_of_owners (h.trans r.holders_le_owners)
  cases hgo with
  | stay howned heq =>
    subst heq
    exact ⟨hr.letGo h hb, .refl _ _⟩
  | last hlast hend =>
    refine hend (hr.letGo h hb) fun o' heq ↦ ?_
    cases heq
    exact isBusy_letGo hlt hlast

theorem Keeps.unborrow (h : (r.setBorrowed o true).Keeps (some o) r') (hlt : o < r.cells.length)
    (hidle : ¬ r.IsBusy o) : r.Keeps none (r'.setBorrowed o false) where
  length_le := by simpa using h.length_le
  holders {o'} ho' := by
    rw [holders_setBorrowed, h.holders (by simpa using ho'), holders_setBorrowed]
  borrowed {o'} ho' := by
    have hlt' : o < r'.cells.length := by simpa using hlt.trans_le (by simpa using h.length_le)
    by_cases heq : o = o'
    · subst heq
      rw [isBorrowed_setBorrowed _ _ _ _ hlt', if_pos rfl]
      exact (Bool.eq_false_iff.mpr fun hb ↦ hidle (.inl hb)).symm
    · rw [isBorrowed_setBorrowed_of_ne _ heq, h.borrowed (by simpa using ho'),
        isBorrowed_setBorrowed_of_ne _ heq]
  value {o'} hb _ := by
    have hne : o ≠ o' := fun heq ↦ hidle (heq ▸ hb)
    rw [value?_setBorrowed, h.value ((isBusy_setBorrowed hne true).mpr hb) (by simpa using hne),
      value?_setBorrowed]
  dropped hd := h.dropped hd
  entry he ho' := h.entry he (by simpa using ho')
  advances := h.advances
  fresh {o'} hle ho' := by
    rw [holders_setBorrowed, isBorrowed_setBorrowed_of_ne _ (hlt.trans_le hle).ne]
    exact h.fresh (by simpa using hle) (by simpa using ho')

theorem Keeps.letGo (h : (r.retain o).Keeps none r') (hr : r.Sound) (ho : r.IsRegistered o)
    (hr' : r'.Sound) : r.Keeps none (r'.letGo o) where
  length_le := by simpa using h.length_le
  holders {o'} ho' := by
    rw [holders_letGo hr', h.holders (by simpa using ho'), holders_retain hr ho, Nat.add_sub_cancel]
  borrowed ho' := by rw [isBorrowed_letGo, h.borrowed (by simpa using ho'), isBorrowed_retain]
  value hb hc := by rw [value?_letGo, h.value (isBusy_retain.mpr hb) hc, value?_retain]
  dropped {o'} hd := by
    have hlt : o < r'.cells.length := (ho.lt hr).trans_le (by simpa using h.length_le)
    exact (mem_dropped_letGo hlt o').mpr (.inr (h.dropped hd))
  entry he ho' := h.entry he (by simpa using ho')
  advances := h.advances
  fresh {o'} hle ho' := by
    obtain ⟨hholders, hborrowed⟩ := h.fresh (by simpa using hle) (by simpa using ho')
    rw [holders_letGo hr', isBorrowed_letGo, hholders, hborrowed, Nat.zero_sub]
    exact ⟨rfl, rfl⟩

section Holding

variable {r₂ r₃ r₄ : Registry κ α ε} (ho : r.IsRegistered o) (hb : r.isBorrowed o = false)

include ho hb

theorem Keeps.held (hr : r.Sound) (hk₁ : (r.borrow o).Keeps (some o) r₂)
    (hk₂ : (r₂.setBorrowed o false).Keeps none r₃) : (r.retain o).Keeps none r₃ :=
  (hk₁.unborrow (by simpa using ho.lt hr) (isBusy_retain.not.mpr (hr.not_isBusy ho hb))).trans hk₂
    (hr.retain ho)

theorem Keeps.held_once (hr : r.Sound) (hk₁ : (r.borrow o).Keeps (some o) r₂)
    (hk₂ : (r₂.setBorrowed o false).Keeps none r₃) {o' : ObjectId} (h : o' < r.cells.length) :
    r₃.holders o' = (r.holders o' + if o = o' then 1 else 0) ∧ r₃.isBorrowed o' = r.isBorrowed o' := by
  have hk := hk₁.held ho hb hr hk₂
  constructor
  · rw [hk.holders (by simpa using h), holders_retain hr ho]
  · rw [hk.borrowed (by simpa using h), isBorrowed_retain]

/-- A call on a resource: it is borrowed, something is done with it, it is given back, something
else is done, and then it is let go. -/
theorem safe_hold (h₁ : Safe (some o) (r.borrow o) r₂) (h₂ : Safe none (r₂.setBorrowed o false) r₃)
    (hgo : LetsGo o r₃ r₄) : Safe none r r₄ := by
  intro hr _
  obtain ⟨hr₂, hk₁⟩ := h₁ (hr.borrow ho) fun o' heq ↦ by
    cases heq
    exact isBusy_borrow hr ho
  obtain ⟨hr₃, hk₂⟩ := h₂ (hr₂.unborrow o) (by simp)
  obtain ⟨hholders, hborrowed⟩ := hk₁.held_once ho hb hr hk₂ (ho.lt hr)
  obtain ⟨hr₄, hk₄⟩ := hgo.keeps hr₃ (by simp [hholders]) (by simp [hborrowed, hb])
  have hk : r.Keeps none (r₃.letGo o) := (hk₁.held ho hb hr hk₂).letGo hr ho hr₃
  exact ⟨hr₄, (hk.of_none.trans hk₄ hr).of_idle (hr.not_isBusy ho hb)⟩

end Holding

theorem isRegistered_erase_iff (hr : r.Sound) {key : Key} {e : Entry κ} (he : r.entries.get? key = some e) :
    ({ r with entries := r.entries.erase key } : Registry κ α ε).IsRegistered o ↔
      r.IsRegistered o ∧ e.object ≠ o := by
  constructor
  · rintro ⟨key', e', he', rfl⟩
    obtain ⟨hne, he'⟩ := SlotMap.get?_erase_eq_some_iff.mp he'
    exact ⟨⟨key', e', he', rfl⟩, fun heq ↦ hne (hr.key_unique he' he heq.symm)⟩
  · rintro ⟨⟨key', e', he', rfl⟩, hne⟩
    refine ⟨key', e', SlotMap.get?_erase_eq_some_iff.mpr ⟨?_, he'⟩, rfl⟩
    rintro rfl
    rw [he'] at he
    cases he
    exact hne rfl

theorem holders_erase (hr : r.Sound) {key : Key} {e : Entry κ} (he : r.entries.get? key = some e)
    (o : ObjectId) :
    ({ r with entries := r.entries.erase key } : Registry κ α ε).holders o =
      r.holders o + if e.object = o then 1 else 0 := by
  have hreg := isRegistered_erase_iff (o := o) hr he
  have howners : ({ r with entries := r.entries.erase key } : Registry κ α ε).owners o = r.owners o := rfl
  by_cases heq : e.object = o
  · have h := holders_of_isRegistered hr ⟨key, e, he, heq⟩
    rw [← holders_of_not_isRegistered fun ho ↦ (hreg.mp ho).2 heq, howners, h, if_pos heq]
  · by_cases ho : r.IsRegistered o
    · unfold holders
      rw [if_pos ho, if_pos (hreg.mpr ⟨ho, heq⟩), if_neg heq, howners, Nat.add_zero]
    · rw [← holders_of_not_isRegistered ho, ← holders_of_not_isRegistered (ho ∘ And.left ∘ hreg.mp),
        howners, if_neg heq, Nat.add_zero]

theorem Sound.erase (hr : r.Sound) {key : Key} {e : Entry κ} (he : r.entries.get? key = some e) :
    ({ r with entries := r.entries.erase key } : Registry κ α ε).Sound where
  table := hr.table.erase key
  object_lt h := hr.object_lt (SlotMap.get?_erase_eq_some_iff.mp h).2
  key_unique h h' :=
    hr.key_unique (SlotMap.get?_erase_eq_some_iff.mp h).2 (SlotMap.get?_erase_eq_some_iff.mp h').2
  owned h := hr.owned ((isRegistered_erase_iff hr he).mp h).1
  held h := by
    rw [holders_erase hr he]
    exact Nat.le_add_right_of_le (hr.held h)
  dropped_iff := hr.dropped_iff
  dropped_nodup := hr.dropped_nodup

theorem Keeps.forget (hr : r.Sound) {key : Key} {e : Entry κ} (he : r.entries.get? key = some e) :
    r.Keeps none (({ r with entries := r.entries.erase key } : Registry κ α ε).letGo e.object) where
  length_le := by simp
  holders _ := by rw [holders_letGo (hr.erase he), holders_erase hr he, Nat.add_sub_cancel]
  borrowed _ := isBorrowed_letGo ..
  value _ _ := value?_letGo ..
  dropped h := (mem_dropped_letGo (hr.object_lt he) _).mpr (.inr h)
  entry h _ := (SlotMap.get?_erase_eq_some_iff.mp h).2
  advances := SlotMap.advances_erase _ _
  fresh hle hlt := by
    rw [length_letGo] at hlt
    exact absurd hlt (Nat.not_lt.mpr hle)

theorem safe_forget {key : Key} {e : Entry κ} (he : r.entries.get? key = some e)
    (hgo : LetsGo e.object { r with entries := r.entries.erase key } r') : Safe none r r' := by
  intro hr _
  have hreg : r.IsRegistered e.object := ⟨key, e, he, rfl⟩
  have hholders := holders_erase hr he e.object
  rw [if_pos rfl] at hholders
  obtain ⟨hr', hk⟩ := hgo.keeps (hr.erase he) (by omega) fun hb ↦ by
    have := hr.held hb
    omega
  refine ⟨hr', ?_⟩
  cases hgo with
  | stay _ heq => exact heq ▸ .forget hr he
  | last hlast _ =>
    -- a call that borrowed the resource would own it beside the registry
    have hfree : r.isBorrowed e.object = false := by
      rw [Bool.eq_false_iff]
      intro hb
      have hone : r.owners e.object ≤ 1 := (any_owners_le_one (hr.object_lt he)).mp hlast
      have htwo := holders_of_isRegistered hr hreg
      have := hr.held hb
      omega
    exact ((Keeps.forget hr he).of_none.trans hk hr).of_idle (hr.not_isBusy hreg hfree)

end Calls

section Register

variable {r : Registry κ α ε} {o : ObjectId} (kind : κ) (value : α)

@[simp] theorem length_register : (r.register kind value).2.cells.length = r.cells.length + 1 := by
  simp [register]

theorem lt_length_register : o < (r.register kind value).2.cells.length ↔
    o < r.cells.length ∨ o = r.cells.length := by
  rw [length_register]
  exact Nat.lt_succ_iff_lt_or_eq

theorem cell_register (o : ObjectId) :
    (r.register kind value).2.cells[o]? =
      if o = r.cells.length then some ⟨value, 1, false⟩ else r.cells[o]? := by
  simp only [register, List.getElem?_append]
  rcases Nat.lt_trichotomy o r.cells.length with hlt | rfl | hgt
  · rw [if_pos hlt, if_neg hlt.ne]
  · simp
  · rw [if_neg hgt.not_gt, if_neg hgt.ne', List.getElem?_eq_none hgt.le, List.getElem?_eq_none]
    exact Nat.sub_pos_of_lt hgt

theorem owners_register (o : ObjectId) :
    (r.register kind value).2.owners o = if o = r.cells.length then 1 else r.owners o := by
  rw [owners, cell_register]
  split <;> rfl

@[simp] theorem isBorrowed_register (o : ObjectId) :
    (r.register kind value).2.isBorrowed o = r.isBorrowed o := by
  rw [isBorrowed, cell_register]
  split
  · next heq => simp [isBorrowed, heq]
  · rfl

theorem value?_register (o : ObjectId) :
    (r.register kind value).2.value? o = if o = r.cells.length then some value else r.value? o := by
  rw [value?, cell_register]
  split <;> rfl

theorem get?_register (hr : r.Sound) (key : Key) :
    (r.register kind value).2.entries.get? key =
      if key = r.entries.nextKey then some ⟨kind, r.cells.length⟩ else r.entries.get? key :=
  SlotMap.get?_insert hr.table _ key

theorem isRegistered_register_iff (hr : r.Sound) :
    (r.register kind value).2.IsRegistered o ↔ o = r.cells.length ∨ r.IsRegistered o := by
  constructor
  · rintro ⟨key, e, he, rfl⟩
    rw [get?_register kind value hr] at he
    split at he
    · cases he
      exact .inl rfl
    · exact .inr ⟨key, e, he, rfl⟩
  · rintro (rfl | ⟨key, e, he, rfl⟩)
    · exact ⟨r.entries.nextKey, _, by rw [get?_register kind value hr, if_pos rfl], rfl⟩
    · refine ⟨key, e, ?_, rfl⟩
      rw [get?_register kind value hr, if_neg, he]
      rintro rfl
      rw [SlotMap.get?_nextKey hr.table] at he
      cases he

theorem holders_register (hr : r.Sound) (o : ObjectId) :
    (r.register kind value).2.holders o = r.holders o := by
  have hreg := isRegistered_register_iff (o := o) kind value hr
  by_cases heq : o = r.cells.length
  · have hnew : (r.register kind value).2.holders o = 0 := by
      unfold holders
      rw [if_pos (hreg.mpr (.inl heq)), owners_register, if_pos heq]
    rw [hnew, holders_eq_zero heq.ge]
  · have hiff : (r.register kind value).2.IsRegistered o ↔ r.IsRegistered o :=
      hreg.trans (or_iff_right heq)
    unfold holders
    rw [owners_register, if_neg heq]
    by_cases ho : r.IsRegistered o
    · rw [if_pos ho, if_pos (hiff.mpr ho)]
    · rw [if_neg ho, if_neg (ho ∘ hiff.mp)]

theorem Sound.register (hr : r.Sound) : (r.register kind value).2.Sound where
  table := hr.table.insert _
  object_lt he := by
    rw [get?_register kind value hr] at he
    rw [length_register]
    split at he
    · cases he
      exact Nat.lt_succ_self _
    · exact Nat.lt_succ_of_lt (hr.object_lt he)
  key_unique he he' heq := by
    -- the new key is the only one that leads to the new resource
    rw [get?_register kind value hr] at he he'
    split at he <;> split at he'
    · next hkey hkey' => rw [hkey, hkey']
    · cases he
      exact absurd heq.symm (hr.object_lt he').ne
    · cases he'
      exact absurd heq (hr.object_lt he).ne
    · exact hr.key_unique he he' heq
  owned {o} ho := by
    rw [owners_register]
    split
    · exact Nat.le_refl 1
    · next hne => exact hr.owned (((isRegistered_register_iff kind value hr).mp ho).resolve_left hne)
  held ho := by
    rw [holders_register kind value hr]
    exact hr.held (isBorrowed_register kind value _ ▸ ho)
  dropped_iff {o} := by
    refine hr.dropped_iff.trans ?_
    rw [length_register, owners_register]
    split
    · next heq => simp [heq]
    · next hne =>
      exact and_congr_left fun _ ↦ (Nat.lt_succ_iff_lt_or_eq.trans (or_iff_left hne)).symm
  dropped_nodup := hr.dropped_nodup

theorem Keeps.register (hr : r.Sound) : r.Keeps none (r.register kind value).2 where
  length_le := by
    rw [length_register]
    exact Nat.le_succ _
  holders _ := holders_register kind value hr _
  borrowed _ := isBorrowed_register kind value _
  value hbusy _ := by rw [value?_register, if_neg (hbusy.lt hr).ne]
  dropped ho := ho
  entry he hlt := by
    rw [get?_register kind value hr] at he
    split at he
    · cases he
      exact absurd hlt (Nat.lt_irrefl _)
    · exact he
  advances := SlotMap.advances_insert hr.table _
  fresh hle _ := by
    rw [holders_register kind value hr, isBorrowed_register]
    exact ⟨holders_eq_zero hle, isBorrowed_eq_false hle⟩

end Register

section Keys

variable {r : Registry κ α ε} {o : ObjectId}

variable [DecidableEq κ]

theorem find?_eq_some {kind : Option κ} {key : Key} (h : r.find? kind key = some o) :
    ∃ e, r.entries.get? key = some e ∧ matchesKind kind e = true ∧ e.object = o := by
  simp only [find?, Option.map_eq_some_iff, Option.filter_eq_some_iff] at h
  obtain ⟨e, ⟨he, hk⟩, rfl⟩ := h
  exact ⟨e, he, hk, rfl⟩

theorem pairwise_keys (r : Registry κ α ε) (kind : Option κ) :
    (r.keys kind).Pairwise fun key key' => key.index < key'.index := by
  have hall : r.entries.toList.Pairwise fun p q => p.1.index < q.1.index :=
    List.pairwise_map.mp r.entries.pairwise_toList
  exact List.pairwise_map.mpr (hall.filter _)

theorem nodup_keys (r : Registry κ α ε) (kind : Option κ) : (r.keys kind).Nodup := by
  apply (r.pairwise_keys kind).imp
  intro key key' hlt heq
  rw [heq] at hlt
  exact Nat.lt_irrefl _ hlt

theorem mem_keys_iff {kind : Option κ} {key : Key} : key ∈ r.keys kind ↔ ∃ o, r.find? kind key = some o := by
  simp only [keys, find?, List.mem_map, List.mem_filter, Option.map_eq_some_iff,
    Option.filter_eq_some_iff]
  constructor
  · rintro ⟨⟨key, e⟩, ⟨he, hkind⟩, rfl⟩
    exact ⟨e.object, e, ⟨SlotMap.mem_toList.mp he, hkind⟩, rfl⟩
  · rintro ⟨-, e, ⟨he, hkind⟩, -⟩
    exact ⟨(key, e), ⟨SlotMap.mem_toList.mpr he, hkind⟩, rfl⟩

theorem isRegistered_of_find? {kind : Option κ} {key : Key} (h : r.find? kind key = some o) :
    r.IsRegistered o := by
  obtain ⟨e, he, -, rfl⟩ := find?_eq_some h
  exact ⟨key, e, he, rfl⟩

end Keys

end Casement.Registry
