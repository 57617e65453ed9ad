import Casement.Proofs.Registry.Ownership
import Mathlib.Data.List.Nodup
import Mathlib.Logic.Relation

namespace Casement.Registry

variable {κ α ε : Type}

/-- A call that has to do with a resource: it works on it, it only keeps it until it returns, its
retirement being carried out then, or it is the end of the resource. -/
inductive Hold where
  | use (o : ObjectId)
  | keep (o : ObjectId)
  | drop (o : ObjectId)
  deriving DecidableEq, Repr

namespace Hold

def owned? : Hold → Option ObjectId
  | use o | keep o => some o
  | drop _ => none

def accessed? : Hold → Option ObjectId
  | use o | drop o => some o
  | keep _ => none

end Hold

/-- The registry with the calls that are under way, the innermost first, the handles given out so
far, by resource, and those that were taken back. -/
structure Moment (κ α ε : Type) where
  registry : Registry κ α ε
  stack : List Hold
  issued : List (κ × Key)
  removed : List Key

def unattended : Disposal κ α ε where
  drop _ r := r
  busy _ _ e := e

def isOrphaned (r : Registry κ α ε) (o : ObjectId) : Bool := r.cells[o]?.any (·.owners = 0)

namespace Moment

/-- A resource has been let go, with `r` the registry left. After the last owner comes its end. -/
def letGo (m : Moment κ α ε) (o : ObjectId) (r : Registry κ α ε) : Moment κ α ε :=
  { m with registry := r, stack := if r.isOrphaned o then .drop o :: m.stack else m.stack }

inductive Step [DecidableEq κ] : Moment κ α ε → Moment κ α ε → Prop
  | elsewhere (m : Moment κ α ε) (f : ε → ε) : Step m { m with registry := m.registry.modifyEnv f }
  | touch {m : Moment κ α ε} {hold : Hold} {rest : List Hold} {o : ObjectId}
      (hstack : m.stack = hold :: rest) (ho : hold.accessed? = some o) (f : α → α) :
      Step m { m with registry := m.registry.update o f }
  | register (m : Moment κ α ε) (kind : κ) (value : α) :
      Step m { m with
        registry := (m.registry.register kind value).2
        issued := m.issued ++ [(kind, (m.registry.register kind value).1)] }
  | unregister {m : Moment κ α ε} {kind : κ} {key : Key} {o : ObjectId}
      (hfind : m.registry.find? (some kind) key = some o) :
      Step m { m.letGo o (unregister unattended kind key m.registry).2 with
        removed := if (unregister unattended kind key m.registry).1 then key :: m.removed else m.removed }
  | enter {m : Moment κ α ε} {kind : Option κ} {key : Key} {o : ObjectId}
      (hfind : m.registry.find? kind key = some o) (hfree : m.registry.isBorrowed o = false) :
      Step m { m with registry := m.registry.borrow o, stack := .use o :: m.stack }
  | unborrow {m : Moment κ α ε} {o : ObjectId} {rest : List Hold} (hstack : m.stack = .use o :: rest) :
      Step m { m with registry := m.registry.setBorrowed o false, stack := .keep o :: rest }
  | leave {m : Moment κ α ε} {o : ObjectId} {rest : List Hold} (hstack : m.stack = .keep o :: rest) :
      Step m ({ m with stack := rest }.letGo o (release unattended o m.registry))
  | bury {m : Moment κ α ε} {o : ObjectId} {rest : List Hold} (hstack : m.stack = .drop o :: rest) :
      Step m { m with stack := rest }

def start (env : ε) : Moment κ α ε := ⟨{ env }, [], [], []⟩

end Moment

section Release

variable {r : Registry κ α ε} {o : ObjectId}

theorem release_unattended : release unattended o r = r.letGo o := by
  rw [release_eq]
  exact ite_self _

theorem isOrphaned_letGo : (r.letGo o).isOrphaned o = r.cells[o]?.any (·.owners ≤ 1) := by
  rw [isOrphaned, cell_letGo, if_pos rfl]
  cases r.cells[o]? with
  | none => rfl
  | some c =>
    simp only [Option.map_some, Option.any_some, decide_eq_decide]
    omega

end Release

namespace Moment

/-- The owners of a resource, the registry apart, are the calls that own it, the resources in use
are borrowed, and no two calls may change the same one. -/
structure Balanced (m : Moment κ α ε) : Prop where
  sound : m.registry.Sound
  owned : ∀ o, m.registry.holders o = (m.stack.filterMap Hold.owned?).count o
  borrowed : ∀ o, m.registry.isBorrowed o = true ↔ .use o ∈ m.stack
  exclusive : (m.stack.filterMap Hold.accessed?).Nodup
  ended : ∀ {o}, .drop o ∈ m.stack → o ∈ m.registry.dropped

structure Owing (m : Moment κ α ε) (o : ObjectId) : Prop where
  sound : m.registry.Sound
  owned : ∀ o', m.registry.holders o' =
    (m.stack.filterMap Hold.owned?).count o' + if o = o' then 1 else 0
  borrowed : ∀ o', m.registry.isBorrowed o' = true ↔ .use o' ∈ m.stack
  exclusive : (m.stack.filterMap Hold.accessed?).Nodup
  ended : ∀ {o'}, .drop o' ∈ m.stack → o' ∈ m.registry.dropped

section Balanced

variable {m m' : Moment κ α ε} {o : ObjectId} {stack : List Hold}

theorem count_pos_of_use (h : .use o ∈ stack) : 0 < (stack.filterMap Hold.owned?).count o := by
  rw [List.count_pos_iff, List.mem_filterMap]
  exact ⟨_, h, rfl⟩

theorem mem_accessed_iff :
    o ∈ stack.filterMap Hold.accessed? ↔ .use o ∈ stack ∨ .drop o ∈ stack := by
  rw [List.mem_filterMap]
  constructor
  · rintro ⟨hold, hmem, ho⟩
    cases hold with
    | use o' =>
      cases ho
      exact .inl hmem
    | keep o' => cases ho
    | drop o' =>
      cases ho
      exact .inr hmem
  · rintro (h | h)
    · exact ⟨_, h, rfl⟩
    · exact ⟨_, h, rfl⟩

theorem letGo_of_owned (m : Moment κ α ε) {r : Registry κ α ε}
    (howned : r.cells[o]?.any (·.owners ≤ 1) = false) :
    m.letGo o (release unattended o r) = { m with registry := r.letGo o } := by
  simp [Moment.letGo, release_unattended, isOrphaned_letGo, howned]

theorem letGo_of_last (m : Moment κ α ε) {r : Registry κ α ε}
    (hlast : r.cells[o]?.any (·.owners ≤ 1) = true) :
    m.letGo o (release unattended o r) =
      { m with registry := r.letGo o, stack := .drop o :: m.stack } := by
  simp [Moment.letGo, release_unattended, isOrphaned_letGo, hlast]

/-- The ownership that is owed is given up. -/
theorem Owing.letGo (h : m.Owing o) : (m.letGo o (release unattended o m.registry)).Balanced := by
  have hheld : 1 ≤ m.registry.holders o := by
    rw [h.owned, if_pos rfl]
    omega
  have hlt : o < m.registry.cells.length := lt_of_owners (hheld.trans m.registry.holders_le_owners)
  have hsound : (m.registry.letGo o).Sound := by
    apply h.sound.letGo hheld
    intro hb
    have := count_pos_of_use ((h.borrowed o).mp hb)
    rw [h.owned, if_pos rfl]
    omega
  have howned (o' : ObjectId) :
      (m.registry.letGo o).holders o' = (m.stack.filterMap Hold.owned?).count o' := by
    rw [holders_letGo h.sound, h.owned]
    omega
  unfold Moment.letGo
  rw [release_unattended, isOrphaned_letGo]
  split
  · next hlast =>
    have hone := (any_owners_le_one hlt).mp hlast
    have hdropped : o ∈ (m.registry.letGo o).dropped := (mem_dropped_letGo hlt o).mpr (.inl ⟨rfl, hone⟩)
    have hnone : (m.stack.filterMap Hold.owned?).count o = 0 := by
      have hown := h.owned o
      rw [if_pos rfl] at hown
      have := m.registry.holders_le_owners (o := o)
      omega
    refine ⟨hsound, howned, fun o' ↦ ?_, ?_, fun {o'} ho' ↦ ?_⟩
    · rw [isBorrowed_letGo, h.borrowed]
      simp
    · apply List.nodup_cons.mpr ⟨fun hmem ↦ ?_, h.exclusive⟩
      rcases mem_accessed_iff.mp hmem with huse | hdrop
      · have := count_pos_of_use huse
        omega
      · exact not_mem_dropped_of_holders h.sound hheld (h.ended hdrop)
    · rcases List.mem_cons.mp ho' with heq | ho'
      · cases heq
        exact hdropped
      · exact (mem_dropped_letGo hlt o').mpr (.inr (h.ended ho'))
  · refine ⟨hsound, howned, fun o' ↦ ?_, h.exclusive, fun {o'} ho' ↦ ?_⟩
    · rw [isBorrowed_letGo, h.borrowed]
    · exact (mem_dropped_letGo hlt o').mpr (.inr (h.ended ho'))

theorem Balanced.of_same (h : m.Balanced) (hsound : m'.registry.Sound)
    (hholders : ∀ o, m'.registry.holders o = m.registry.holders o)
    (hborrowed : ∀ o, m'.registry.isBorrowed o = m.registry.isBorrowed o)
    (hdropped : m'.registry.dropped = m.registry.dropped) (hstack : m'.stack = m.stack) :
    m'.Balanced where
  sound := hsound
  owned o := by rw [hholders, hstack, h.owned]
  borrowed o := by rw [hborrowed, hstack, h.borrowed]
  exclusive := hstack ▸ h.exclusive
  ended ho := by
    rw [hstack] at ho
    rw [hdropped]
    exact h.ended ho

theorem Balanced.isBusy (h : m.Balanced) {hold : Hold} {rest : List Hold}
    (hstack : m.stack = hold :: rest) (ho : hold.accessed? = some o) : m.registry.IsBusy o := by
  have hmem : o ∈ m.stack.filterMap Hold.accessed? := by
    rw [hstack, List.mem_filterMap]
    exact ⟨hold, .head _, ho⟩
  rcases mem_accessed_iff.mp hmem with huse | hdrop
  · exact .inl ((h.borrowed o).mpr huse)
  · exact .inr (h.ended hdrop)

theorem Balanced.register (h : m.Balanced) (kind : κ) (value : α) (issued : List (κ × Key)) :
    ({ m with registry := (m.registry.register kind value).2, issued } : Moment κ α ε).Balanced := by
  apply h.of_same (h.sound.register kind value)
  · exact holders_register kind value h.sound
  · exact isBorrowed_register kind value
  · rfl
  · rfl

theorem Balanced.borrow (h : m.Balanced) (ho : m.registry.IsRegistered o)
    (hfree : m.registry.isBorrowed o = false) :
    ({ m with registry := m.registry.borrow o, stack := .use o :: m.stack } : Moment κ α ε).Balanced where
  sound := h.sound.borrow ho
  owned o' := by
    rw [holders_borrow h.sound ho, h.owned, List.filterMap_cons_some (by rfl), List.count_cons]
    simp
  borrowed o' := by
    rw [isBorrowed_borrow h.sound ho, List.mem_cons, Hold.use.injEq, ← h.borrowed]
    split
    · next heq => simp [heq]
    · next hne => simp [Ne.symm hne]
  exclusive := by
    apply List.nodup_cons.mpr ⟨fun hmem ↦ ?_, h.exclusive⟩
    rcases mem_accessed_iff.mp hmem with huse | hdrop
    · rw [(h.borrowed o).mpr huse] at hfree
      cases hfree
    · exact not_mem_dropped_of_isRegistered h.sound ho (h.ended hdrop)
  ended ho' := by
    rcases List.mem_cons.mp ho' with heq | ho'
    · cases heq
    · exact h.ended ho'

theorem Balanced.unborrow (h : m.Balanced) {rest : List Hold} (hstack : m.stack = .use o :: rest) :
    ({ m with registry := m.registry.setBorrowed o false, stack := .keep o :: rest } :
      Moment κ α ε).Balanced := by
  have hlt : o < m.registry.cells.length := lt_of_isBorrowed ((h.borrowed o).mpr (hstack ▸ .head _))
  have hexclusive := h.exclusive
  rw [hstack] at hexclusive
  obtain ⟨honce, hexclusive⟩ := List.nodup_cons.mp hexclusive
  refine ⟨h.sound.unborrow o, fun o' ↦ ?_, fun o' ↦ ?_, hexclusive, fun {o'} ho' ↦ ?_⟩
  · rw [holders_setBorrowed, h.owned, hstack]
    rfl
  · rw [isBorrowed_setBorrowed _ _ _ _ hlt]
    split
    · next heq =>
      subst heq
      have : .use o ∉ rest := fun huse ↦ honce (mem_accessed_iff.mpr (.inl huse))
      simp [this]
    · next hne =>
      rw [h.borrowed, hstack, List.mem_cons, Hold.use.injEq]
      simp [Ne.symm hne]
  · have hrest : .drop o' ∈ rest := by simpa using ho'
    exact h.ended (hstack ▸ .tail _ hrest)

/-- The innermost call returns: what it owned is owed. -/
theorem Balanced.leave (h : m.Balanced) {rest : List Hold} (hstack : m.stack = .keep o :: rest) :
    ({ m with stack := rest } : Moment κ α ε).Owing o where
  sound := h.sound
  owned o' := by
    rw [h.owned, hstack, List.filterMap_cons_some (by rfl), List.count_cons]
    simp
  borrowed o' := by
    rw [h.borrowed, hstack]
    simp
  exclusive := by
    have := h.exclusive
    rwa [hstack] at this
  ended ho' := h.ended (hstack ▸ .tail _ ho')

theorem Balanced.bury (h : m.Balanced) {rest : List Hold} (hstack : m.stack = .drop o :: rest) :
    ({ m with stack := rest } : Moment κ α ε).Balanced where
  sound := h.sound
  owned o' := by
    rw [h.owned, hstack]
    rfl
  borrowed o' := by
    rw [h.borrowed, hstack]
    simp
  exclusive := by
    have := h.exclusive
    rw [hstack] at this
    exact (List.nodup_cons.mp this).2
  ended ho' := h.ended (hstack ▸ .tail _ ho')

theorem Balanced.erase (h : m.Balanced) {key : Key} {e : Entry κ}
    (he : m.registry.entries.get? key = some e) (removed : List Key) :
    ({ m with registry := { m.registry with entries := m.registry.entries.erase key }, removed } :
      Moment κ α ε).Owing e.object := by
  have hholders := holders_erase h.sound he
  refine ⟨h.sound.erase he, fun o' ↦ ?_, h.borrowed, h.exclusive, h.ended⟩
  rw [hholders, h.owned]

theorem balanced_start (env : ε) : (start env : Moment κ α ε).Balanced := by
  have hnone (o : ObjectId) : ¬ (start env : Moment κ α ε).registry.IsRegistered o := by
    rintro ⟨key, e, he, -⟩
    simp [start, SlotMap.get?, SlotMap.slot?] at he
  refine ⟨⟨SlotMap.wellFormed_empty, ?_, ?_, ?_, ?_, ?_, List.nodup_nil⟩, fun o ↦ ?_, fun o ↦ ?_,
    List.nodup_nil, fun ho ↦ ?_⟩
  · intro key e he
    exact absurd ⟨key, e, he, rfl⟩ (hnone e.object)
  · intro key key' e e' he
    exact absurd ⟨key, e, he, rfl⟩ (hnone e.object)
  · exact fun ho ↦ absurd ho (hnone _)
  · exact fun hb ↦ absurd (lt_of_isBorrowed hb) (Nat.not_lt_zero _)
  · simp [start]
  · exact holders_eq_zero (Nat.zero_le o)
  · simp [start, isBorrowed]
  · cases ho

variable [DecidableEq κ]

theorem unregister_unattended {r : Registry κ α ε} {kind : κ} {key : Key}
    (hfind : r.find? (some kind) key = some o) :
    Registry.unregister unattended kind key r =
      (true, release unattended o { r with entries := r.entries.erase key }) := by
  rw [Registry.unregister, hfind]

theorem Step.balanced (hstep : Step m m') (h : m.Balanced) : m'.Balanced := by
  cases hstep with
  | elsewhere f =>
    have hsound : (m.registry.modifyEnv f).Sound := h.sound.of_eq rfl rfl rfl
    apply h.of_same hsound
    · exact fun o ↦ holders_congr rfl rfl
    · exact fun o ↦ rfl
    · rfl
    · rfl
  | touch hstack ho f =>
    have hbusy := h.isBusy hstack ho
    apply h.of_same (h.sound.update _ f)
    · exact fun o ↦ holders_congr rfl (owners_update ..)
    · exact fun o ↦ isBorrowed_update ..
    · rfl
    · rfl
  | register kind value => exact h.register kind value _
  | @unregister kind key o hfind =>
    obtain ⟨e, he, -, rfl⟩ := find?_eq_some hfind
    rw [unregister_unattended hfind]
    exact (h.erase he (key :: m.removed)).letGo
  | enter hfind hfree => exact h.borrow (isRegistered_of_find? hfind) hfree
  | unborrow hstack => exact h.unborrow hstack
  | leave hstack => exact (h.leave hstack).letGo
  | bury hstack => exact h.bury hstack

end Balanced

end Moment

end Casement.Registry
