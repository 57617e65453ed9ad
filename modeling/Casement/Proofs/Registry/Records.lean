import Casement.Proofs.Registry.Runs

namespace Casement.Registry.Moment

variable {κ α ε : Type} {m m' : Moment κ α ε}

inductive Trade (m m' : Moment κ α ε) : Prop
  | none (hentries : m'.registry.entries = m.registry.entries)
      (hlength : m'.registry.cells.length = m.registry.cells.length)
      (hissued : m'.issued = m.issued) (hremoved : m'.removed = m.removed)
  | give (kind : κ)
      (hentries : m'.registry.entries = m.registry.entries.insert ⟨kind, m.registry.cells.length⟩)
      (hlength : m'.registry.cells.length = m.registry.cells.length + 1)
      (hissued : m'.issued = m.issued ++ [(kind, m.registry.entries.nextKey)])
      (hremoved : m'.removed = m.removed)
  | take {key : Key} {e : Entry κ} (he : m.registry.entries.get? key = some e)
      (hentries : m'.registry.entries = m.registry.entries.erase key)
      (hlength : m'.registry.cells.length = m.registry.cells.length)
      (hissued : m'.issued = m.issued) (hremoved : m'.removed = key :: m.removed)

theorem Step.trade [DecidableEq κ] (h : Step m m') : Trade m m' := by
  cases h with
  | register kind value => exact .give kind rfl (by simp [Registry.register]) rfl rfl
  | @unregister kind key o hfind =>
    obtain ⟨e, he, -, rfl⟩ := find?_eq_some hfind
    rw [unregister_unattended hfind, release_unattended]
    exact .take he rfl length_letGo rfl rfl
  | elsewhere f => exact .none rfl rfl rfl rfl
  | touch hstack ho f => exact .none rfl (length_modifyCell ..) rfl rfl
  | enter hfind hfree => exact .none rfl length_borrow rfl rfl
  | unborrow hstack => exact .none rfl (length_modifyCell ..) rfl rfl
  | leave hstack =>
    rw [release_unattended]
    exact .none rfl length_letGo rfl rfl
  | bury hstack => exact .none rfl rfl rfl rfl

theorem Trade.removed_subset (ht : Trade m m') : m.removed ⊆ m'.removed := by
  intro key hkey
  cases ht with
  | none hentries hlength hissued hremoved => rwa [hremoved]
  | give kind hentries hlength hissued hremoved => rwa [hremoved]
  | take he hentries hlength hissued hremoved =>
    rw [hremoved]
    exact .tail _ hkey

theorem removed_subset [DecidableEq κ] (h : Relation.ReflTransGen Step m m') :
    m.removed ⊆ m'.removed := by
  induction h with
  | refl => exact List.Subset.refl _
  | tail _ hstep ih => exact List.Subset.trans ih hstep.trade.removed_subset

theorem Trade.issued_kept (ht : Trade m m') {o : ObjectId} {p : κ × Key} (ho : m.issued[o]? = some p) :
    m'.issued[o]? = some p := by
  cases ht with
  | none hentries hlength hissued hremoved => rwa [hissued]
  | give kind hentries hlength hissued hremoved =>
    rw [hissued, List.getElem?_append_left (List.getElem?_eq_some_iff.mp ho).1]
    exact ho
  | take he hentries hlength hissued hremoved => rwa [hissued]

theorem issued_kept [DecidableEq κ] (h : Relation.ReflTransGen Step m m') {o : ObjectId} {p : κ × Key}
    (ho : m.issued[o]? = some p) : m'.issued[o]? = some p := by
  induction h with
  | refl => exact ho
  | tail _ hstep ih => exact hstep.trade.issued_kept ih

/-- The table of entries holds the handles that were given out and not taken back. -/
structure Recorded (m : Moment κ α ε) : Prop where
  length : m.issued.length = m.registry.cells.length
  entry : ∀ {key e}, m.registry.entries.get? key = some e → m.issued[e.object]? = some (e.kind, key)
  kept : ∀ {o kind key}, m.issued[o]? = some (kind, key) →
    m.registry.entries.get? key = some ⟨kind, o⟩ ∨ key ∈ m.removed
  stale : ∀ {key}, key ∈ m.removed → m.registry.entries.Stale key
  nodup : (m.issued.map (·.2)).Nodup

namespace Recorded

variable {key : Key} {kind : κ} {o : ObjectId} {e : Entry κ}

theorem get?_eq_some_iff (h : m.Recorded) :
    m.registry.entries.get? key = some e ↔
      m.issued[e.object]? = some (e.kind, key) ∧ key ∉ m.removed := by
  constructor
  · intro he
    refine ⟨h.entry he, fun hremoved ↦ ?_⟩
    rw [(h.stale hremoved).get?_eq_none] at he
    cases he
  · rintro ⟨hissued, hkept⟩
    exact (h.kept hissued).resolve_right hkept

/-- A key finds the resource that it was given out for, until it is taken back. -/
theorem find?_eq_some_iff [DecidableEq κ] (h : m.Recorded) :
    m.registry.find? (some kind) key = some o ↔ m.issued[o]? = some (kind, key) ∧ key ∉ m.removed := by
  rw [← h.get?_eq_some_iff (e := ⟨kind, o⟩)]
  constructor
  · intro hfind
    obtain ⟨⟨kind', o'⟩, he, hkind, rfl⟩ := Registry.find?_eq_some hfind
    rw [he, of_decide_eq_true hkind]
  · intro he
    simp [find?, he, matchesKind]

theorem nextKey_not_mem (h : m.Recorded) (htable : m.registry.entries.WellFormed) :
    m.registry.entries.nextKey ∉ m.issued.map (·.2) := by
  intro hmem
  obtain ⟨⟨kind, key⟩, hp, hkey⟩ := List.mem_map.mp hmem
  obtain ⟨o, ho⟩ := List.mem_iff_getElem?.mp hp
  dsimp only at hkey
  subst hkey
  rcases h.kept ho with hget | hremoved
  · rw [SlotMap.get?_nextKey htable] at hget
    cases hget
  · exact SlotMap.not_stale_nextKey htable (h.stale hremoved)

theorem give (h : m.Recorded) (htable : m.registry.entries.WellFormed)
    (hentries : m'.registry.entries = m.registry.entries.insert ⟨kind, m.registry.cells.length⟩)
    (hlength : m'.registry.cells.length = m.registry.cells.length + 1)
    (hissued : m'.issued = m.issued ++ [(kind, m.registry.entries.nextKey)])
    (hremoved : m'.removed = m.removed) : m'.Recorded := by
  have hget (key' : Key) : m'.registry.entries.get? key' =
      if key' = m.registry.entries.nextKey then some ⟨kind, m.registry.cells.length⟩
      else m.registry.entries.get? key' := by
    rw [hentries]
    exact SlotMap.get?_insert htable _ key'
  have hnew : m'.issued[m.registry.cells.length]? = some (kind, m.registry.entries.nextKey) := by
    rw [hissued, ← h.length, List.getElem?_concat_length]
  have hold {o : ObjectId} (ho : o < m.registry.cells.length) : m'.issued[o]? = m.issued[o]? := by
    rw [hissued, List.getElem?_append_left (h.length.symm ▸ ho)]
  have hcount : m'.issued.length = m.registry.cells.length + 1 := by
    rw [hissued, List.length_append, h.length]
    rfl
  exact
    { length := hcount.trans hlength.symm
      entry := fun {key' e'} he' ↦ by
        rw [hget] at he'
        split at he'
        · next heq =>
          cases he'
          rw [heq, hnew]
        · have hissued' := h.entry he'
          rw [hold (h.length ▸ (List.getElem?_eq_some_iff.mp hissued').1)]
          exact hissued'
      kept := fun {o' kind' key'} ho' ↦ by
        rw [hremoved, hget]
        have hlt : o' < m.registry.cells.length + 1 := hcount ▸ (List.getElem?_eq_some_iff.mp ho').1
        rcases Nat.lt_succ_iff_lt_or_eq.mp hlt with hlt | rfl
        · rw [hold hlt] at ho'
          rw [if_neg]
          · exact h.kept ho'
          · rintro rfl
            exact h.nextKey_not_mem htable (List.mem_map.mpr ⟨_, List.mem_of_getElem? ho', rfl⟩)
        · rw [hnew] at ho'
          cases ho'
          exact .inl (if_pos rfl)
      stale := fun {key'} hkey' ↦ by
        rw [hremoved] at hkey'
        rw [hentries]
        exact (h.stale hkey').of_advances (SlotMap.advances_insert htable _)
      nodup := by
        rw [hissued, List.map_append, List.nodup_append]
        refine ⟨h.nodup, List.nodup_singleton _, fun key' hkey' key'' hkey'' heq ↦ ?_⟩
        have hnext : key' = m.registry.entries.nextKey := heq.trans (List.mem_singleton.mp hkey'')
        exact h.nextKey_not_mem htable (hnext ▸ hkey') }

theorem take (h : m.Recorded) (he : m.registry.entries.get? key = some e)
    (hentries : m'.registry.entries = m.registry.entries.erase key)
    (hlength : m'.registry.cells.length = m.registry.cells.length)
    (hissued : m'.issued = m.issued) (hremoved : m'.removed = key :: m.removed) : m'.Recorded where
  length := by rw [hissued, hlength, h.length]
  entry {key' e'} he' := by
    rw [hentries] at he'
    rw [hissued]
    exact h.entry (SlotMap.get?_erase_eq_some_iff.mp he').2
  kept {o' kind' key'} ho' := by
    rw [hissued] at ho'
    rw [hentries, SlotMap.get?_erase, hremoved, List.mem_cons]
    split
    · next heq => exact .inr (.inl heq)
    · exact (h.kept ho').imp_right .inr
  stale {key'} hkey' := by
    rw [hremoved] at hkey'
    rw [hentries]
    rcases List.mem_cons.mp hkey' with rfl | hkey'
    · exact SlotMap.stale_erase he
    · exact (h.stale hkey').of_advances (SlotMap.advances_erase _ _)
  nodup := hissued ▸ h.nodup

theorem trade (h : m.Recorded) (htable : m.registry.entries.WellFormed) (ht : Trade m m') :
    m'.Recorded := by
  cases ht with
  | none hentries hlength hissued hremoved =>
    constructor
    · rw [hissued, hlength, h.length]
    · rw [hentries, hissued]
      exact h.entry
    · rw [hentries, hissued, hremoved]
      exact h.kept
    · rw [hentries, hremoved]
      exact h.stale
    · rw [hissued]
      exact h.nodup
  | give kind hentries hlength hissued hremoved => exact h.give htable hentries hlength hissued hremoved
  | take he hentries hlength hissued hremoved => exact h.take he hentries hlength hissued hremoved

end Recorded

theorem recorded_start (env : ε) : (start env : Moment κ α ε).Recorded where
  length := rfl
  entry he := by simp [start, SlotMap.get?, SlotMap.slot?] at he
  kept ho := by simp [start] at ho
  stale hkey := by cases hkey
  nodup := List.nodup_nil

theorem Reached.recorded [DecidableEq κ] (hm : m.Reached) : m.Recorded := by
  have hboth : m.Balanced ∧ m.Recorded := by
    apply hm.of_step (fun env ↦ ⟨balanced_start env, recorded_start env⟩)
    intro m m' hstep h
    exact ⟨hstep.balanced h.1, h.2.trade h.1.sound.table hstep.trade⟩
  exact hboth.2

end Casement.Registry.Moment
