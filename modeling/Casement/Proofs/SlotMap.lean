import Casement.SlotMap
import Mathlib.Data.Nat.Basic
import Mathlib.Order.Basic

namespace Casement.SlotMap

variable {α : Type}

/-- Slots are filled exactly at odd versions, and every slot offered for reuse is vacant. -/
structure WellFormed (m : SlotMap α) : Prop where
  filled : ∀ {i s}, m.slot? i = some s → (s.value.isSome ↔ s.version % 2 = 1)
  vacant : ∀ {i}, i ∈ m.free → ∃ s, m.slot? i = some s ∧ s.value = none
  nodup : m.free.Nodup

theorem wellFormed_empty : (({} : SlotMap α)).WellFormed where
  filled h := by simp [slot?] at h
  vacant h := by simp at h
  nodup := List.nodup_nil

theorem slot?_pos {m : SlotMap α} {i : Nat} {s : Slot α} (h : m.slot? i = some s) : 0 < i := by
  unfold slot? at h
  split at h
  · contradiction
  · omega

theorem get?_eq_some_iff {m : SlotMap α} {k : Key} {v : α} :
    m.get? k = some v ↔ m.slot? k.index = some ⟨k.version, some v⟩ := by
  unfold get?
  cases h : m.slot? k.index with
  | none => simp
  | some s =>
    obtain ⟨version, value⟩ := s
    simp only [Option.some.injEq, Slot.mk.injEq]
    split <;> simp_all

theorem get?_eq_none_of_vacant {m : SlotMap α} {k : Key} {s : Slot α}
    (h : m.slot? k.index = some s) (hs : s.value = none) : m.get? k = none := by
  simp [get?, h, hs]

theorem slot?_set (m : SlotMap α) (free : List Nat) (i j : Nat) (s : Slot α) (hi : 0 < i) :
    (⟨m.slots.set (i - 1) s, free⟩ : SlotMap α).slot? j =
      if i = j ∧ (m.slot? i).isSome then some s else m.slot? j := by
  unfold slot?
  by_cases hj : j = 0
  · subst hj
    simp [Nat.ne_of_gt hi]
  · rw [if_neg hj, if_neg hj, List.getElem?_set]
    by_cases hij : i = j
    · subst hij
      by_cases hlt : i - 1 < m.slots.length <;> simp [hlt, Nat.ne_of_gt hi]
    · rw [if_neg (by omega), if_neg (by simp [hij])]

theorem slot?_append (m : SlotMap α) (free : List Nat) (j : Nat) (s : Slot α) :
    (⟨m.slots ++ [s], free⟩ : SlotMap α).slot? j =
      if j = m.slots.length + 1 then some s else m.slot? j := by
  unfold slot?
  by_cases hj : j = 0
  · subst hj
    simp
  · rw [if_neg hj, if_neg hj]
    rcases Nat.lt_trichotomy (j - 1) m.slots.length with h | h | h
    · rw [List.getElem?_append_left h, if_neg (by omega)]
    · rw [List.getElem?_append_right (by omega), if_pos (by omega)]
      simp [h]
    · rw [if_neg (by omega), List.getElem?_eq_none (by simp; omega), List.getElem?_eq_none (by omega)]

theorem nextKey_of_free {m : SlotMap α} {i : Nat} {rest : List Nat} {s : Slot α}
    (hf : m.free = i :: rest) (hs : m.slot? i = some s) : m.nextKey = ⟨i, s.version + 1⟩ := by
  simp [nextKey, hf, hs]

theorem nextKey_of_full {m : SlotMap α} (hf : m.free = []) :
    m.nextKey = ⟨m.slots.length + 1, 1⟩ := by
  simp [nextKey, hf]

/-- The slots of a table after a value is put in: only the slot of its key is another one. -/
theorem slot?_insert {m : SlotMap α} (hm : m.WellFormed) (v : α) (j : Nat) :
    (m.insert v).slot? j =
      if m.nextKey.index = j then some ⟨m.nextKey.version, some v⟩ else m.slot? j := by
  unfold insert
  cases hf : m.free with
  | nil =>
    simp only [nextKey_of_full hf, slot?_append]
    by_cases h : j = m.slots.length + 1 <;> simp [h, eq_comm]
  | cons i rest =>
    obtain ⟨s, hs, -⟩ := hm.vacant (i := i) (by simp [hf])
    simp only [nextKey_of_free hf hs, slot?_set m rest i j _ (slot?_pos hs), hs, Option.isSome_some,
      and_true]

theorem slot?_nextKey {m : SlotMap α} (hm : m.WellFormed) :
    m.slot? m.nextKey.index = none ∨
      ∃ s, m.slot? m.nextKey.index = some s ∧ s.value = none ∧ m.nextKey.version = s.version + 1 := by
  cases hf : m.free with
  | nil =>
    left
    simp [nextKey_of_full hf, slot?]
  | cons i rest =>
    obtain ⟨s, hs, hv⟩ := hm.vacant (i := i) (by simp [hf])
    right
    exact ⟨s, by simp [nextKey_of_free hf hs, hs, hv]⟩

theorem get?_nextKey {m : SlotMap α} (hm : m.WellFormed) : m.get? m.nextKey = none := by
  rcases slot?_nextKey hm with h | ⟨s, h, hv, -⟩
  · simp [get?, h]
  · exact get?_eq_none_of_vacant h hv

theorem get?_insert {m : SlotMap α} (hm : m.WellFormed) (v : α) (k : Key) :
    (m.insert v).get? k = if k = m.nextKey then some v else m.get? k := by
  by_cases hi : m.nextKey.index = k.index
  · have hold : m.get? k = none := by
      rcases slot?_nextKey hm with h | ⟨s, h, hv, -⟩
      · simp [get?, ← hi, h]
      · exact get?_eq_none_of_vacant (hi ▸ h) hv
    rw [get?, slot?_insert hm, if_pos hi, hold]
    have hk : k = m.nextKey ↔ m.nextKey.version = k.version := by
      constructor
      · intro h
        rw [h]
      · intro h
        rcases k with ⟨i, version⟩
        simp only at hi h
        simp [← hi, ← h]
    simp [hk]
  · rw [get?, slot?_insert hm, if_neg hi, if_neg (by rintro rfl; exact hi rfl)]
    rfl

theorem erase_eq {m : SlotMap α} {k : Key} {v : α} (h : m.get? k = some v) :
    m.erase k = ⟨m.slots.set (k.index - 1) ⟨k.version + 1, none⟩, k.index :: m.free⟩ := by
  simp [erase, h]

theorem erase_eq_self {m : SlotMap α} {k : Key} (h : m.get? k = none) : m.erase k = m := by
  simp [erase, h]

theorem slot?_erase {m : SlotMap α} {k : Key} {v : α} (h : m.get? k = some v) (j : Nat) :
    (m.erase k).slot? j = if k.index = j then some ⟨k.version + 1, none⟩ else m.slot? j := by
  have hs := get?_eq_some_iff.mp h
  rw [erase_eq h, slot?_set m _ k.index j _ (slot?_pos hs), hs]
  simp

theorem get?_erase (m : SlotMap α) (k k' : Key) :
    (m.erase k).get? k' = if k' = k then none else m.get? k' := by
  cases h : m.get? k with
  | none =>
    rw [erase_eq_self h]
    split
    · next hk => rw [hk, h]
    · rfl
  | some v =>
    by_cases hi : k.index = k'.index
    · rw [get?_eq_none_of_vacant (s := ⟨k.version + 1, none⟩) (by rw [slot?_erase h, if_pos hi]) rfl]
      split
      · rfl
      · next hk =>
        symm
        have hs := get?_eq_some_iff.mp h
        rw [get?, ← hi, hs]
        simp only [ite_eq_right_iff]
        intro hv
        exact absurd (by rcases k with ⟨i, n⟩; rcases k' with ⟨i', n'⟩; simp_all) hk
    · rw [get?, slot?_erase h, if_neg hi, if_neg (by rintro rfl; exact hi rfl)]
      rfl

theorem get?_erase_eq_some_iff {m : SlotMap α} {k k' : Key} {v : α} :
    (m.erase k).get? k' = some v ↔ k' ≠ k ∧ m.get? k' = some v := by
  rw [get?_erase]
  split
  · next heq => simp [heq]
  · next hne => simp [hne]

theorem odd_nextKey {m : SlotMap α} (hm : m.WellFormed) : m.nextKey.version % 2 = 1 := by
  cases hf : m.free with
  | nil => simp [nextKey_of_full hf]
  | cons i rest =>
    obtain ⟨s, hs, hv⟩ := hm.vacant (i := i) (by simp [hf])
    have heven := hm.filled hs
    simp only [hv, Option.isSome_none, Bool.false_eq_true, false_iff] at heven
    rw [nextKey_of_free hf hs]
    dsimp only
    omega

theorem WellFormed.insert {m : SlotMap α} (hm : m.WellFormed) (v : α) : (m.insert v).WellFormed := by
  have hslots := slot?_insert hm v
  have hfree : (m.insert v).free = m.free.tail := by
    unfold SlotMap.insert
    cases hf : m.free <;> simp
  constructor
  · intro i s h
    rw [hslots] at h
    split at h
    · cases h
      simp [odd_nextKey hm]
    · exact hm.filled h
  · intro i hi
    rw [hfree] at hi
    obtain ⟨s, hs, hv⟩ := hm.vacant (List.mem_of_mem_tail hi)
    refine ⟨s, ?_, hv⟩
    rw [hslots, if_neg, hs]
    -- the slot that is used again was on the free list once, so it is not any longer
    cases hf : m.free with
    | nil => simp [hf] at hi
    | cons j rest =>
      obtain ⟨t, ht, -⟩ := hm.vacant (i := j) (by simp [hf])
      rw [nextKey_of_free hf ht]
      have hn := hm.nodup
      simp only [hf, List.tail_cons, List.nodup_cons] at hi hn
      rintro rfl
      exact hn.1 hi
  · rw [hfree]
    exact hm.nodup.tail

theorem WellFormed.erase {m : SlotMap α} (hm : m.WellFormed) (k : Key) : (m.erase k).WellFormed := by
  cases h : m.get? k with
  | none => rwa [erase_eq_self h]
  | some v =>
    have hs := get?_eq_some_iff.mp h
    have hslots := slot?_erase h
    have hfree : (m.erase k).free = k.index :: m.free := by rw [erase_eq h]
    have hodd := hm.filled hs
    constructor
    · intro i s hi
      rw [hslots] at hi
      split at hi
      · cases hi
        simp only [Option.isSome_some, true_iff, Option.isSome_none, Bool.false_eq_true, false_iff] at hodd ⊢
        omega
      · exact hm.filled hi
    · intro i hi
      rw [hslots]
      by_cases hki : k.index = i
      · exact ⟨_, if_pos hki, rfl⟩
      · rw [if_neg hki]
        rw [hfree, List.mem_cons] at hi
        exact hm.vacant (hi.resolve_left (Ne.symm hki))
    · rw [hfree, List.nodup_cons]
      refine ⟨fun hmem ↦ ?_, hm.nodup⟩
      obtain ⟨s, hs', hv⟩ := hm.vacant hmem
      rw [hs] at hs'
      cases hs'
      simp at hv

def Advances (m m' : SlotMap α) : Prop :=
  ∀ i s, m.slot? i = some s → ∃ s', m'.slot? i = some s' ∧ (s' = s ∨ s.version < s'.version)

theorem Advances.refl (m : SlotMap α) : m.Advances m := fun _ s h ↦ ⟨s, h, .inl rfl⟩

theorem Advances.trans {m₁ m₂ m₃ : SlotMap α} (h : m₁.Advances m₂) (h' : m₂.Advances m₃) :
    m₁.Advances m₃ := by
  intro i s hs
  obtain ⟨s', hs', hv⟩ := h i s hs
  obtain ⟨s'', hs'', hv'⟩ := h' i s' hs'
  refine ⟨s'', hs'', ?_⟩
  rcases hv with rfl | hv
  · exact hv'
  · rcases hv' with rfl | hv'
    · exact .inr hv
    · exact .inr (hv.trans hv')

theorem advances_insert {m : SlotMap α} (hm : m.WellFormed) (v : α) : m.Advances (m.insert v) := by
  intro i s hs
  rw [slot?_insert hm]
  by_cases hi : m.nextKey.index = i
  · rw [if_pos hi]
    refine ⟨_, rfl, .inr ?_⟩
    rcases slot?_nextKey hm with h | ⟨s', h, -, hn⟩
    · simp [hi, hs] at h
    · rw [hi, hs] at h
      cases h
      simp [hn]
  · rw [if_neg hi]
    exact ⟨s, hs, .inl rfl⟩

theorem advances_erase (m : SlotMap α) (k : Key) : m.Advances (m.erase k) := by
  cases h : m.get? k with
  | none =>
    rw [erase_eq_self h]
    exact .refl m
  | some v =>
    intro i s hs
    rw [slot?_erase h]
    by_cases hi : k.index = i
    · rw [if_pos hi]
      refine ⟨_, rfl, .inr ?_⟩
      have hk := get?_eq_some_iff.mp h
      rw [hi, hs] at hk
      cases hk
      simp
    · rw [if_neg hi]
      exact ⟨s, hs, .inl rfl⟩

/-- A key that was handed out before its slot went on to a higher version. -/
def Stale (m : SlotMap α) (k : Key) : Prop := ∃ s, m.slot? k.index = some s ∧ k.version < s.version

theorem Stale.get?_eq_none {m : SlotMap α} {k : Key} (h : m.Stale k) : m.get? k = none := by
  obtain ⟨s, hs, hv⟩ := h
  simp only [get?, hs, ite_eq_right_iff]
  intro h
  omega

theorem Stale.of_advances {m m' : SlotMap α} {k : Key} (h : m.Stale k) (ha : m.Advances m') :
    m'.Stale k := by
  obtain ⟨s, hs, hv⟩ := h
  obtain ⟨s', hs', rfl | hlt⟩ := ha _ _ hs
  · exact ⟨s', hs', hv⟩
  · exact ⟨s', hs', hv.trans hlt⟩

theorem Advances.get?_or_stale {m m' : SlotMap α} {k : Key} {v : α} (ha : m.Advances m')
    (h : m.get? k = some v) : m'.get? k = some v ∨ m'.Stale k := by
  obtain ⟨s', hs', rfl | hlt⟩ := ha _ _ (get?_eq_some_iff.mp h)
  · exact .inl (get?_eq_some_iff.mpr hs')
  · exact .inr ⟨s', hs', hlt⟩

theorem not_stale_nextKey {m : SlotMap α} (hm : m.WellFormed) :
    ¬ m.Stale m.nextKey := by
  rintro ⟨s, hs, hv⟩
  rcases slot?_nextKey hm with h | ⟨s', h, -, hn⟩
  · simp [h] at hs
  · rw [hs] at h
    cases h
    omega

/-- What is erased is stale from then on. -/
theorem stale_erase {m : SlotMap α} {k : Key} {v : α} (h : m.get? k = some v) : (m.erase k).Stale k :=
  ⟨⟨k.version + 1, none⟩, by rw [slot?_erase h, if_pos rfl], Nat.lt_succ_self _⟩

theorem mem_listFrom {i : Nat} {slots : List (Slot α)} {k : Key} {v : α} :
    (k, v) ∈ listFrom i slots ↔ i ≤ k.index ∧ slots[k.index - i]? = some ⟨k.version, some v⟩ := by
  induction slots generalizing i with
  | nil => simp [listFrom]
  | cons s rest ih =>
    obtain ⟨version, value⟩ := s
    have hrest : (k, v) ∈ listFrom (i + 1) rest ↔
        i < k.index ∧ (⟨version, value⟩ :: rest : List (Slot α))[k.index - i]? =
          some ⟨k.version, some v⟩ := by
      rw [ih]
      refine and_congr_right fun h ↦ ?_
      have hsub : k.index - i = k.index - (i + 1) + 1 := by omega
      rw [hsub, List.getElem?_cons_succ]
    have hhead : i ≤ k.index ↔ i = k.index ∨ i < k.index := by omega
    rcases k with ⟨index, n⟩
    cases value with
    | none =>
      rw [listFrom, hrest, hhead]
      constructor
      · exact fun h ↦ ⟨.inr h.1, h.2⟩
      · rintro ⟨rfl | h, hg⟩
        · simp at hg
        · exact ⟨h, hg⟩
    | some x =>
      rw [listFrom, List.mem_cons, hrest, hhead]
      constructor
      · rintro (h | h)
        · cases h
          simp
        · exact ⟨.inr h.1, h.2⟩
      · rintro ⟨rfl | h, hg⟩
        · left
          simp only [Nat.sub_self, List.getElem?_cons_zero, Option.some.injEq, Slot.mk.injEq] at hg
          simp [hg]
        · exact .inr ⟨h, hg⟩

/-- The listing shows exactly what the keys find. -/
theorem mem_toList {m : SlotMap α} {k : Key} {v : α} : (k, v) ∈ m.toList ↔ m.get? k = some v := by
  rw [toList, mem_listFrom, get?_eq_some_iff]
  unfold slot?
  by_cases h : k.index = 0
  · simp [h]
  · rw [if_neg h]
    exact ⟨fun h ↦ h.2, fun h' ↦ ⟨by omega, h'⟩⟩

theorem pairwise_listFrom (i : Nat) (slots : List (Slot α)) :
    ((listFrom i slots).map (·.1.index)).Pairwise (· < ·) := by
  induction slots generalizing i with
  | nil => simp [listFrom]
  | cons s rest ih =>
    obtain ⟨version, value⟩ := s
    cases value with
    | none => exact ih (i + 1)
    | some x =>
      simp only [listFrom, List.map_cons, List.pairwise_cons]
      refine ⟨?_, ih (i + 1)⟩
      simp only [List.mem_map, Prod.exists, forall_exists_index, and_imp]
      rintro _ k v hmem rfl
      have := (mem_listFrom.mp hmem).1
      omega

theorem pairwise_toList (m : SlotMap α) : (m.toList.map (·.1.index)).Pairwise (· < ·) :=
  pairwise_listFrom 1 m.slots

end Casement.SlotMap
