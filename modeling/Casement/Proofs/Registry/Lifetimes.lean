import Casement.Proofs.Registry.Records

namespace Casement.Registry

variable {κ α ε : Type}

namespace Moment

variable {m : Moment κ α ε} {o : ObjectId}

theorem Balanced.not_mem_of_dropped (h : m.Balanced) (ho : o ∈ m.registry.dropped) :
    .use o ∉ m.stack ∧ .keep o ∉ m.stack := by
  have howned : o ∉ m.stack.filterMap Hold.owned? := by
    intro hmem
    have hheld : 1 ≤ m.registry.holders o := by
      rw [h.owned]
      exact List.count_pos_iff.mpr hmem
    exact not_mem_dropped_of_holders h.sound hheld ho
  constructor
  · intro huse
    exact howned (List.mem_filterMap.mpr ⟨_, huse, rfl⟩)
  · intro hkeep
    exact howned (List.mem_filterMap.mpr ⟨_, hkeep, rfl⟩)

theorem Balanced.mem_dropped_iff (h : m.Balanced) (hstack : m.stack = []) :
    o ∈ m.registry.dropped ↔ o < m.registry.cells.length ∧ ¬ m.registry.IsRegistered o := by
  have hholders : m.registry.holders o = 0 := by
    rw [h.owned, hstack]
    rfl
  rw [h.sound.dropped_iff]
  apply and_congr_right
  intro _
  constructor
  · intro hnone hreg
    have := h.sound.owned hreg
    omega
  · intro hreg
    rw [holders_of_not_isRegistered hreg, hholders]

theorem Recorded.exists_issued (h : m.Recorded) (ho : o < m.registry.cells.length) :
    ∃ kind key, m.issued[o]? = some (kind, key) :=
  ⟨_, _, List.getElem?_eq_getElem (h.length.symm ▸ ho)⟩

theorem Recorded.not_isRegistered_iff (h : m.Recorded) {kind : κ} {key : Key}
    (ho : m.issued[o]? = some (kind, key)) : ¬ m.registry.IsRegistered o ↔ key ∈ m.removed := by
  constructor
  · intro hreg
    refine (h.kept ho).resolve_left fun he ↦ hreg ⟨key, _, he, rfl⟩
  · rintro hremoved ⟨key', e, he, rfl⟩
    have hissued := h.entry he
    rw [ho] at hissued
    cases hissued
    exact (h.get?_eq_some_iff.mp he).2 hremoved

end Moment

theorem length_keys_none [DecidableEq κ] (r : Registry κ α ε) :
    (r.keys none).length = (r.entries.toList.map (·.2.object)).length := by
  have hall : r.entries.toList.filter (fun p => matchesKind none p.2) = r.entries.toList :=
    List.filter_eq_self.mpr fun _ _ ↦ rfl
  simp only [keys, hall, List.length_map]

theorem Sound.nodup_objects {r : Registry κ α ε} (hr : r.Sound) :
    (r.entries.toList.map (·.2.object)).Nodup := by
  have hkeys : r.entries.toList.Pairwise fun p q => p.1.index < q.1.index :=
    List.pairwise_map.mp r.entries.pairwise_toList
  rw [List.Nodup, List.pairwise_map]
  refine hkeys.imp_of_mem ?_
  rintro ⟨key, e⟩ ⟨key', e'⟩ hp hq hlt heq
  have hsame := hr.key_unique (SlotMap.mem_toList.mp hp) (SlotMap.mem_toList.mp hq) heq
  dsimp only at hlt
  rw [hsame] at hlt
  exact Nat.lt_irrefl _ hlt

theorem mem_objects_iff {r : Registry κ α ε} {o : ObjectId} :
    o ∈ r.entries.toList.map (·.2.object) ↔ r.IsRegistered o := by
  rw [List.mem_map]
  constructor
  · rintro ⟨⟨key, e⟩, hp, rfl⟩
    exact ⟨key, e, SlotMap.mem_toList.mp hp, rfl⟩
  · rintro ⟨key, e, he, rfl⟩
    exact ⟨(key, e), SlotMap.mem_toList.mpr he, rfl⟩

/-- Without calls, every resource is either registered or gone. -/
theorem Moment.Balanced.perm_range {m : Moment κ α ε} (h : m.Balanced) (hstack : m.stack = []) :
    (m.registry.entries.toList.map (·.2.object) ++ m.registry.dropped).Perm
      (List.range m.registry.cells.length) := by
  have hdisjoint : (m.registry.entries.toList.map (·.2.object)).Disjoint m.registry.dropped := by
    intro o hreg hdropped
    exact ((h.mem_dropped_iff hstack).mp hdropped).2 (mem_objects_iff.mp hreg)
  apply (List.perm_ext_iff_of_nodup
    (h.sound.nodup_objects.append h.sound.dropped_nodup hdisjoint) List.nodup_range).mpr
  intro o
  rw [List.mem_append, mem_objects_iff, h.mem_dropped_iff hstack, List.mem_range]
  constructor
  · rintro (hreg | hgone)
    · exact hreg.lt h.sound
    · exact hgone.1
  · intro ho
    by_cases hreg : m.registry.IsRegistered o
    · exact .inl hreg
    · exact .inr ⟨ho, hreg⟩

/-- At every moment of a run, what is gone went once, an unregistration of its handle had answered true,
and no call on it was left. Without calls under way what is gone is exactly what was unregistered, and
together with what is registered it is all that ever was. -/
theorem dropped_once_unregistered [DecidableEq κ] {m : Moment κ α ε} (hm : m.Reached) :
    m.registry.dropped.Nodup ∧
    (∀ o ∈ m.registry.dropped, .use o ∉ m.stack ∧ .keep o ∉ m.stack ∧
      ∃ kind key, m.issued[o]? = some (kind, key) ∧ key ∈ m.removed) ∧
    (∀ o, .drop o ∈ m.stack → o ∈ m.registry.dropped) ∧
    (m.stack = [] →
      (∀ o kind key, m.issued[o]? = some (kind, key) →
        (o ∈ m.registry.dropped ↔ key ∈ m.removed)) ∧
      m.issued.length = (m.registry.keys none).length + m.registry.dropped.length) := by
  have hb := hm.balanced
  have hrec := hm.recorded
  refine ⟨hb.sound.dropped_nodup, fun o ho ↦ ?_, fun o ho ↦ hb.ended ho, fun hstack ↦ ⟨?_, ?_⟩⟩
  · obtain ⟨huse, hkeep⟩ := hb.not_mem_of_dropped ho
    obtain ⟨hlt, hnone⟩ := hb.sound.dropped_iff.mp ho
    obtain ⟨kind, key, hissued⟩ := hrec.exists_issued hlt
    refine ⟨huse, hkeep, kind, key, hissued, (hrec.not_isRegistered_iff hissued).mp fun hreg ↦ ?_⟩
    exact not_mem_dropped_of_isRegistered hb.sound hreg ho
  · intro o kind key hissued
    have hlt : o < m.registry.cells.length := hrec.length ▸ (List.getElem?_eq_some_iff.mp hissued).1
    rw [hb.mem_dropped_iff hstack, ← hrec.not_isRegistered_iff hissued]
    exact and_iff_right hlt
  · have hlength := (hb.perm_range hstack).length_eq
    rw [List.length_append, List.length_range] at hlength
    rw [hrec.length, length_keys_none, hlength]

/-- A probe unregisters itself in its retirement and leaves another one at its end. -/
def heirScript : List Probe.Step :=
  [.register "x" .a (some 1) [] [.unregister "x"] [.register "y" .b none [] [] []], .heartbeat none]

theorem dropped_once_unregistered_heir :
    let r := (Probe.runScript heirScript).2
    let l := Probe.scriptTurnover heirScript
    Moment.Reached ⟨r, [], l.given, l.taken⟩ ∧ l.given = [(.a, ⟨1, 1⟩), (.b, ⟨1, 3⟩)] ∧ l.taken = [⟨1, 1⟩] ∧
      0 ∈ r.dropped ∧ 1 ∉ r.dropped ∧ (r.keys none).length + r.dropped.length = 2 := by
  intro r l
  have hm : Moment.Reached ⟨r, [], l.given, l.taken⟩ := Probe.reached_runScript heirScript
  have hgiven : l.given = [(.a, ⟨1, 1⟩), (.b, ⟨1, 3⟩)] := by decide +kernel
  have htaken : l.taken = [⟨1, 1⟩] := by decide +kernel
  obtain ⟨-, -, -, hquiet⟩ := dropped_once_unregistered hm
  obtain ⟨hdropped, hcount⟩ := hquiet rfl
  dsimp only at hdropped hcount
  rw [hgiven, htaken] at hdropped
  rw [hgiven] at hcount
  refine ⟨hm, hgiven, htaken, ?_, ?_, hcount.symm⟩
  · exact (hdropped 0 .a ⟨1, 1⟩ rfl).mpr (List.mem_singleton_self _)
  · rw [hdropped 1 .b ⟨1, 3⟩ rfl]
    decide

end Casement.Registry
