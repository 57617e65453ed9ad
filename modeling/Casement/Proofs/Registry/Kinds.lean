import Casement.Proofs.Registry.Handles
import Casement.Proofs.Registry.Visits

namespace Casement.Registry

variable {κ α ε : Type} [DecidableEq κ]

theorem length_keys (r : Registry κ α ε) (kind : κ) : (r.keys (some kind)).length = r.count kind := by
  rw [keys, count, List.length_map]

theorem mem_keys_iff_contains {r : Registry κ α ε} {kind : κ} {key : Key} :
    key ∈ r.keys (some kind) ↔ r.contains kind key = true := by
  rw [mem_keys_iff, contains, Option.isSome_iff_exists]

namespace Moment

variable {m m' : Moment κ α ε} {kind kind' : κ} {key : Key}

/-- The handles of a kind that were given out and not taken back, in the order they were given out. -/
def live (m : Moment κ α ε) (kind : κ) : List Key :=
  (m.issued.filter fun p => p.1 = kind ∧ p.2 ∉ m.removed).map (·.2)

theorem mem_live : key ∈ m.live kind ↔ (kind, key) ∈ m.issued ∧ key ∉ m.removed := by
  simp only [live, List.mem_map, List.mem_filter, decide_eq_true_eq]
  constructor
  · rintro ⟨⟨kind', key'⟩, ⟨hissued, rfl, hkept⟩, rfl⟩
    exact ⟨hissued, hkept⟩
  · rintro ⟨hissued, hkept⟩
    exact ⟨(kind, key), ⟨hissued, rfl, hkept⟩, rfl⟩

omit [DecidableEq κ] in
theorem Recorded.kind_unique (h : m.Recorded) (hkind : (kind, key) ∈ m.issued)
    (hkind' : (kind', key) ∈ m.issued) : kind = kind' :=
  congrArg Prod.fst (List.inj_on_of_nodup_map h.nodup hkind hkind' rfl)

theorem Recorded.mem_keys_iff (h : m.Recorded) : key ∈ m.registry.keys (some kind) ↔ key ∈ m.live kind := by
  rw [mem_keys_iff_contains, h.contains_iff, mem_live]

theorem Recorded.perm_live (h : m.Recorded) (kind : κ) : (m.registry.keys (some kind)).Perm (m.live kind) := by
  have hnodup : (m.live kind).Nodup := h.nodup.sublist (List.filter_sublist.map _)
  apply (List.perm_ext_iff_of_nodup (m.registry.nodup_keys _) hnodup).mpr
  intro key
  exact h.mem_keys_iff

theorem Recorded.refuses_of_not_live (h : m.Recorded) (hkey : key ∉ m.live kind) :
    m.registry.Refuses kind key := by
  rw [mem_live, ← h.contains_iff] at hkey
  exact refuses_of_find?_eq_none (Option.not_isSome_iff_eq_none.mp hkey)

/-- A handle that was taken back or given out for another kind is never live again. -/
theorem Reached.not_live_later (hm : m.Reached) (h : m.Later m')
    (hkey : key ∈ m.removed ∨ ∃ kind', kind' ≠ kind ∧ (kind', key) ∈ m.issued) : key ∉ m'.live kind := by
  intro hlive
  obtain ⟨hissued, hkept⟩ := mem_live.mp hlive
  rcases hkey with hremoved | ⟨kind', hne, hother⟩
  · exact hkept (removed_subset h.steps hremoved)
  · obtain ⟨o, ho⟩ := List.mem_iff_getElem?.mp hother
    have hother' := List.mem_of_getElem? (issued_kept h.steps ho)
    exact hne ((hm.later h).recorded.kind_unique hother' hissued)

end Moment

/-- At every moment of a run, and for every kind, the list of handles is in the order of their places,
has exactly the handles that are found, as many as are counted, and these are the ones given out for
the kind and not taken back. No handle is listed for two kinds. To unregister a handle that is not live
fails and leaves the registry as it is, so all lists and all handles to come are the same; and handles
that were taken back, or belong to another kind, stay so. -/
theorem kinds_shown_alike {m : Moment κ α ε} (hm : m.Reached) :
    (∀ kind,
      (m.registry.keys (some kind)).Pairwise (fun key key' => key.index < key'.index) ∧
      (∀ key, key ∈ m.registry.keys (some kind) ↔ m.registry.contains kind key = true) ∧
      (m.registry.keys (some kind)).length = m.registry.count kind ∧
      (m.registry.keys (some kind)).Perm (m.live kind)) ∧
    (∀ kind kind' key, key ∈ m.registry.keys (some kind) → key ∈ m.registry.keys (some kind') → kind = kind') ∧
    (∀ kind key, key ∉ m.live kind → ∀ d, m.registry.unregister d kind key = (false, m.registry)) ∧
    (∀ kind key, (key ∈ m.removed ∨ ∃ kind', kind' ≠ kind ∧ (kind', key) ∈ m.issued) →
      ∀ m', m.Later m' → key ∉ m'.live kind) := by
  have hrecorded := hm.recorded
  refine ⟨?_, ?_, ?_, ?_⟩
  · intro kind
    exact ⟨pairwise_keys _ _, fun key ↦ mem_keys_iff_contains, length_keys _ _, hrecorded.perm_live kind⟩
  · intro kind kind' key hkind hkind'
    rw [hrecorded.mem_keys_iff, Moment.mem_live] at hkind hkind'
    exact hrecorded.kind_unique hkind.1 hkind'.1
  · intro kind key hkey d
    exact (hrecorded.refuses_of_not_live hkey).unregister d
  · intro kind key hkey m' hlater
    exact hm.not_live_later hlater hkey

/-- The heartbeat of the second probe unregisters the first, whose place goes to a probe of the other
kind; a handle of that one is then taken for one of the first kind. -/
def usurperScript : List Probe.Step :=
  [.register "x" .a none [] [] [],
    .register "y" .b none [.unregister "x", .register "z" .b none [] [] [], .forge "f" .a (.name "z"),
      .unregister "f", .unregister "x"] [] [],
    .heartbeat none]

theorem kinds_shown_alike_usurper :
    let r := (Probe.runScript usurperScript).2
    ∃ issued removed, Moment.Reached ⟨r, [], issued, removed⟩ ∧
      r.keys (some .a) = [] ∧ r.keys (some .b) = [⟨1, 3⟩, ⟨2, 1⟩] ∧ r.count .b = 2 ∧
      r.contains .b ⟨1, 3⟩ = true ∧ ¬ ⟨1, 3⟩ ∈ r.keys (some .a) ∧
      ∀ d, r.unregister d .a ⟨1, 3⟩ = (false, r) ∧ r.unregister d .a ⟨1, 1⟩ = (false, r) := by
  intro r
  obtain ⟨issued, removed, hm⟩ : ∃ issued removed, Moment.Reached ⟨r, [], issued, removed⟩ :=
    ⟨_, _, Probe.reached_runScript usurperScript⟩
  obtain ⟨hshown, hone, hrefused, -⟩ := kinds_shown_alike hm
  have ha : r.keys (some .a) = [] := by decide +kernel
  have hb : r.keys (some .b) = [⟨1, 3⟩, ⟨2, 1⟩] := by decide +kernel
  obtain ⟨-, hfound, hcount, -⟩ := hshown .b
  obtain ⟨-, -, -, hperm⟩ := hshown .a
  dsimp only at hfound hcount hone hperm hrefused
  have hnone (key : Key) : key ∉ Moment.live ⟨r, [], issued, removed⟩ .a := by
    rw [← hperm.mem_iff, ha]
    exact List.not_mem_nil
  refine ⟨issued, removed, hm, ha, hb, ?_, ?_, ?_, fun d ↦ ⟨hrefused .a _ (hnone _) d, hrefused .a _ (hnone _) d⟩⟩
  · rw [← hcount, hb]
    rfl
  · rw [← hfound, hb]
    exact List.mem_cons_self
  · intro hmem
    have hkind := hone .a .b ⟨1, 3⟩ hmem (by rw [hb]; exact List.mem_cons_self)
    cases hkind

end Casement.Registry
