import Casement.Proofs.Registry.Records
import Mathlib.Algebra.Ring.Nat

namespace Casement

namespace Key

theorem or_one_eq (n : Nat) : n ||| 1 = n + (n + 1) % 2 := by
  have hhalf : (n ||| 1) / 2 = n / 2 := by simpa using Nat.or_div_two_pow (a := n) (b := 1) (n := 1)
  have hodd : (n ||| 1) % 2 = 1 := by simp
  omega

structure Fits (k : Key) : Prop where
  index_lt : k.index < UInt32.size
  version_lt : k.version < UInt32.size
  odd : k.version % 2 = 1

theorem Fits.toNat_raw {k : Key} (h : k.Fits) :
    k.raw.toNat = k.version * UInt32.size + k.index := by
  have hindex := h.index_lt
  have hversion := h.version_lt
  rw [raw, UInt64.toNat_ofNat']
  simp only [UInt32.size] at *
  omega

theorem Fits.ofRaw_raw {k : Key} (h : k.Fits) : ofRaw k.raw = k := by
  have hindex := h.index_lt
  have hodd := h.odd
  obtain ⟨index, version⟩ := k
  simp only [ofRaw, h.toNat_raw, Key.mk.injEq]
  simp only [UInt32.size] at *
  omega

theorem Fits.raw_inj {k k' : Key} (h : k.Fits) (h' : k'.Fits) (heq : k.raw = k'.raw) : k = k' := by
  rw [← h.ofRaw_raw, heq, h'.ofRaw_raw]

theorem fits_ofRaw (v : UInt64) : (ofRaw v).Fits := by
  have hv := v.toNat_lt
  constructor
  · simp only [ofRaw, UInt32.size]
    omega
  · simp only [ofRaw, UInt32.size]
    omega
  · simp only [ofRaw]
    omega

/-- Reading a word as a key sets bit 32, the lowest of the version. -/
theorem raw_ofRaw (v : UInt64) : (ofRaw v).raw = v ||| (1 : UInt64) <<< 32 := by
  have hbit : ((1 : UInt64) <<< 32).toNat = 2 ^ 32 := by decide
  have hhigh : (v.toNat ||| 2 ^ 32) / 2 ^ 32 = v.toNat / 2 ^ 32 ||| 1 := by
    rw [Nat.or_div_two_pow, Nat.div_self (Nat.two_pow_pos 32)]
  have hlow : (v.toNat ||| 2 ^ 32) % 2 ^ 32 = v.toNat % 2 ^ 32 := by
    rw [Nat.or_mod_two_pow, Nat.mod_self, Nat.or_zero]
  rw [or_one_eq] at hhigh
  apply UInt64.toNat.inj
  rw [(fits_ofRaw v).toNat_raw, UInt64.toNat_or, hbit]
  simp only [ofRaw, UInt32.size]
  omega

end Key

namespace SlotMap

variable {α : Type} {m : SlotMap α} {n : Nat}

structure Bounded (m : SlotMap α) (n : Nat) : Prop where
  index_le : ∀ {i s}, m.slot? i = some s → i ≤ n
  version_le : ∀ {i s}, m.slot? i = some s → s.version ≤ 2 * n

theorem bounded_empty (n : Nat) : ({} : SlotMap α).Bounded n where
  index_le h := by simp [slot?] at h
  version_le h := by simp [slot?] at h

theorem length_le_of_bounded (h : m.Bounded n) : m.slots.length ≤ n := by
  cases hlen : m.slots.length with
  | zero => omega
  | succ l =>
    apply h.index_le
    rw [slot?, if_neg (by omega), Nat.add_sub_cancel, List.getElem?_eq_getElem (by omega)]

theorem Bounded.nextKey_le (h : m.Bounded n) (hm : m.WellFormed) :
    m.nextKey.index ≤ n + 1 ∧ m.nextKey.version ≤ 2 * n + 1 := by
  cases hfree : m.free with
  | nil =>
    have := length_le_of_bounded h
    rw [nextKey_of_full hfree]
    dsimp only
    omega
  | cons i rest =>
    obtain ⟨s, hs, -⟩ := hm.vacant (i := i) (by simp [hfree])
    have hindex := h.index_le hs
    have hversion := h.version_le hs
    rw [nextKey_of_free hfree hs]
    dsimp only
    omega

theorem Bounded.insert (h : m.Bounded n) (hm : m.WellFormed) (v : α) : (m.insert v).Bounded (n + 1) := by
  have hnext := h.nextKey_le hm
  constructor
  · intro i s hs
    rw [slot?_insert hm] at hs
    split at hs
    · next heq => omega
    · exact (h.index_le hs).trans (Nat.le_succ n)
  · intro i s hs
    rw [slot?_insert hm] at hs
    split at hs
    · cases hs
      dsimp only
      omega
    · have := h.version_le hs
      omega

theorem Bounded.erase (h : m.Bounded n) (hm : m.WellFormed) (k : Key) : (m.erase k).Bounded n := by
  cases hget : m.get? k with
  | none => rwa [erase_eq_self hget]
  | some v =>
    have hslot := get?_eq_some_iff.mp hget
    have hindex := h.index_le hslot
    have hversion := h.version_le hslot
    have hodd := (hm.filled hslot).mp rfl
    dsimp only at hversion hodd
    constructor
    · intro i s hs
      rw [slot?_erase hget] at hs
      split at hs
      · next heq => omega
      · exact h.index_le hs
    · intro i s hs
      rw [slot?_erase hget] at hs
      split at hs
      · cases hs
        dsimp only
        omega
      · exact h.version_le hs

end SlotMap

namespace Registry

variable {κ α ε : Type}

namespace Moment

variable {m m' : Moment κ α ε}

/-- Neither the table nor a handle that was given out is beyond what the registrations account for. -/
structure InRange (m : Moment κ α ε) : Prop where
  table : m.registry.entries.Bounded m.registry.cells.length
  issued : ∀ {h}, h ∈ m.issued → h.2.index ≤ m.registry.cells.length ∧
    h.2.version ≤ 2 * m.registry.cells.length ∧ h.2.version % 2 = 1

theorem InRange.trade (h : m.InRange) (htable : m.registry.entries.WellFormed) (ht : Trade m m') :
    m'.InRange := by
  cases ht with
  | none hentries hlength hissued hremoved =>
    constructor
    · rw [hentries, hlength]
      exact h.table
    · rw [hissued, hlength]
      exact h.issued
  | give kind hentries hlength hissued hremoved =>
    have hnext := h.table.nextKey_le htable
    constructor
    · rw [hentries, hlength]
      exact h.table.insert htable _
    · intro p hp
      rw [hissued] at hp
      rw [hlength]
      rcases List.mem_append.mp hp with hp | hp
      · have := h.issued hp
        omega
      · cases List.mem_singleton.mp hp
        have := SlotMap.odd_nextKey htable
        dsimp only
        omega
  | take he hentries hlength hissued hremoved =>
    constructor
    · rw [hentries, hlength]
      exact h.table.erase htable _
    · rw [hissued, hlength]
      exact h.issued

theorem InRange.fits (h : m.InRange) (hfew : m.registry.cells.length ≤ 2 ^ 31) {p : κ × Key}
    (hp : p ∈ m.issued) : p.2.Fits := by
  obtain ⟨hindex, hversion, hodd⟩ := h.issued hp
  constructor
  · simp only [UInt32.size]
    omega
  · simp only [UInt32.size]
    omega
  · exact hodd

variable [DecidableEq κ]

theorem Reached.inRange (hm : m.Reached) : m.InRange := by
  have hboth : m.Balanced ∧ m.InRange := by
    apply hm.of_step
    · intro env
      refine ⟨balanced_start env, SlotMap.bounded_empty 0, fun hmem ↦ ?_⟩
      cases hmem
    · intro m m' hstep h
      exact ⟨hstep.balanced h.1, h.2.trade h.1.sound.table hstep.trade⟩
  exact hboth.2

theorem Reached.fits (hm : m.Reached) (hfew : m.issued.length ≤ 2 ^ 31) {p : κ × Key} (hp : p ∈ m.issued) :
    p.2.Fits := hm.inRange.fits (hm.recorded.length ▸ hfew) hp

theorem Recorded.contains_iff (h : m.Recorded) {kind : κ} {key : Key} :
    m.registry.contains kind key = true ↔ (kind, key) ∈ m.issued ∧ key ∉ m.removed := by
  rw [contains, Option.isSome_iff_exists, List.mem_iff_getElem?]
  simp only [h.find?_eq_some_iff, exists_and_right]

end Moment

variable [DecidableEq κ]

/-- Nothing comes of a handle. -/
structure Refuses (r : Registry κ α ε) (kind : κ) (key : Key) : Prop where
  contains : r.contains kind key = false
  unregister : ∀ d, r.unregister d kind key = (false, r)
  access : ∀ d {β : Type} (body : ObjectId → Registry κ α ε → β × Registry κ α ε),
    r.access d kind key body = (none, r)

theorem refuses_of_find?_eq_none {r : Registry κ α ε} {kind : κ} {key : Key}
    (h : r.find? (some kind) key = none) : r.Refuses kind key where
  contains := by rw [Registry.contains, h]; rfl
  unregister d := by rw [Registry.unregister, h]
  access d _ body := by rw [Registry.access, h]

theorem Moment.Recorded.refuses {m : Moment κ α ε} (h : m.Recorded) {key : Key}
    (hkey : key ∈ m.removed) (kind : κ) : m.registry.Refuses kind key := by
  apply refuses_of_find?_eq_none
  rw [Option.eq_none_iff_forall_ne_some]
  intro o hfind
  exact (h.find?_eq_some_iff.mp hfind).2 hkey

theorem Moment.Reached.nodup_raw {m : Moment κ α ε} (hm : m.Reached)
    (hfew : m.issued.length ≤ 2 ^ 31) : (m.issued.map (·.2.raw)).Nodup := by
  have hnodup := hm.recorded.nodup
  apply hnodup.of_map.map_on
  intro p hp q hq heq
  have hkey := (hm.fits hfew hp).raw_inj (hm.fits hfew hq) heq
  exact List.inj_on_of_nodup_map hnodup hp hq hkey

theorem Moment.Reached.raw_register_not_mem {m : Moment κ α ε} (hm : m.Reached) (hfew : m.issued.length < 2 ^ 31)
    (kind : κ) (value : α) : (m.registry.register kind value).1.raw ∉ m.issued.map (·.2.raw) := by
  have hnext := hm.trans (.single (.register m kind value))
  have hlength : (m.issued ++ [(kind, (m.registry.register kind value).1)]).length = m.issued.length + 1 := by simp
  have hnodup := hnext.nodup_raw (hlength.trans_le hfew)
  rw [List.map_append, List.nodup_append] at hnodup
  intro hmem
  exact hnodup.2.2 _ hmem _ (List.mem_singleton.mpr rfl) rfl

theorem mem_taken_ofUnregister {d : Disposal κ α ε} {drops : ObjectId → Registry κ α ε → Turnover κ} {kind : κ}
    {key : Key} {r : Registry κ α ε} (h : (r.unregister d kind key).1 = true) :
    key ∈ (Turnover.ofUnregister d drops kind key r).taken := by
  unfold Turnover.ofUnregister
  rw [if_pos h]
  split <;> simp [Turnover.take]

theorem Moment.Reached.refuses_later {m m' : Moment κ α ε} (hm : m.Reached) {key : Key} (hkey : key ∈ m.removed)
    (hlater : m.Later m') (kind : κ) : m'.registry.Refuses kind key :=
  (hm.later hlater).recorded.refuses (removed_subset hlater.steps hkey) kind

/-- At every moment of a run with few registrations, the next handle is a word that was not returned
before. A handle of which an unregistration answered true, then or earlier, is refused ever after; and a
word is as good as the registered handle that it is with bit 32 set, or refused. -/
theorem handles_resolve_iff_registered {m : Moment κ α ε} (hm : m.Reached) (hfew : m.issued.length < 2 ^ 31) :
    (∀ kind value, (m.registry.register kind value).1.raw ∉ m.issued.map (·.2.raw)) ∧
    (m.issued.map (·.2.raw)).Nodup ∧
    (∀ (d : Disposal κ α ε) drops kind key, d.Proper drops → (m.registry.unregister d kind key).1 = true →
      ∀ m', (m.after (.ofUnregister d drops kind key m.registry) (m.registry.unregister d kind key).2).Later m' →
        ∀ kind', m'.registry.Refuses kind' key) ∧
    (∀ key ∈ m.removed, ∀ m', m.Later m' → ∀ kind, m'.registry.Refuses kind key) ∧
    (∀ kind v, m.registry.contains kind (Key.ofRaw v) = true ↔
      ∃ key, (kind, key) ∈ m.issued ∧ key ∉ m.removed ∧ key.raw = v ||| (1 : UInt64) <<< 32) ∧
    ∀ h ∈ m.issued, Key.ofRaw h.2.raw = h.2 := by
  refine ⟨hm.raw_register_not_mem hfew, hm.nodup_raw hfew.le, fun d drops kind key hd hfound m' hlater ↦ ?_,
    fun key hkey m' hlater ↦ hm.refuses_later hkey hlater, fun kind v ↦ ?_, fun h hh ↦ (hm.fits hfew.le hh).ofRaw_raw⟩
  · apply (hm.later (.single (.unregister hd kind key))).refuses_later _ hlater
    exact List.mem_append_left _ (mem_taken_ofUnregister hfound)
  · rw [hm.recorded.contains_iff]
    constructor
    · rintro ⟨hissued, hkept⟩
      exact ⟨_, hissued, hkept, Key.raw_ofRaw v⟩
    · rintro ⟨key, hissued, hkept, hraw⟩
      rw [← Key.raw_ofRaw] at hraw
      have hkey := (hm.fits hfew.le hissued).raw_inj (Key.fits_ofRaw v) hraw
      rw [← hkey]
      exact ⟨hissued, hkept⟩

/-- The heartbeat of the second probe unregisters the first, whose place goes to a probe of the other
kind. Within a call on the second one a third place is taken, and given back at once. -/
def reuseScript : List Probe.Step :=
  [.register "x" .a none [] [] [],
    .register "y" .b none [.unregister "x", .register "z" .b none [] [] []] [] [],
    .heartbeat none,
    .within "y" [.register "u" .a none [] [] [], .unregister "u"]]

theorem handles_resolve_iff_registered_reuse :
    let r := (Probe.runScript reuseScript).2
    let l := Probe.scriptTurnover reuseScript
    Moment.Reached ⟨r, [], l.given, l.taken⟩ ∧ l.given.length < 2 ^ 31 ∧
      l.given = [(.a, ⟨1, 1⟩), (.b, ⟨2, 1⟩), (.b, ⟨1, 3⟩), (.a, ⟨3, 1⟩)] ∧ l.taken = [⟨3, 1⟩, ⟨1, 1⟩] ∧
      (∀ kind, r.Refuses kind ⟨1, 1⟩ ∧ r.Refuses kind ⟨3, 1⟩) ∧ (l.given.map (·.2.raw)).Nodup ∧
      (r.register .a default).1.raw ∉ l.given.map (·.2.raw) ∧
      ∃ key, (.b, key) ∈ l.given ∧ key ∉ l.taken ∧ key.raw = (0x200000001 : UInt64) ||| (1 : UInt64) <<< 32 := by
  intro r l
  have hm : Moment.Reached ⟨r, [], l.given, l.taken⟩ := Probe.reached_runScript reuseScript
  have hgiven : l.given = [(.a, ⟨1, 1⟩), (.b, ⟨2, 1⟩), (.b, ⟨1, 3⟩), (.a, ⟨3, 1⟩)] := by decide +kernel
  have htaken : l.taken = [⟨3, 1⟩, ⟨1, 1⟩] := by decide +kernel
  have hfew : l.given.length < 2 ^ 31 := by
    rw [hgiven]
    decide
  obtain ⟨hnew, hnodup, -, hrefused, hword, -⟩ := handles_resolve_iff_registered hm hfew
  dsimp only at hnew hnodup hrefused hword
  refine ⟨hm, hfew, hgiven, htaken, fun kind ↦ ⟨?_, ?_⟩, hnodup, hnew .a default, ?_⟩
  · exact hrefused ⟨1, 1⟩ (by rw [htaken]; decide) _ .refl kind
  · exact hrefused ⟨3, 1⟩ (by rw [htaken]; decide) _ .refl kind
  · exact (hword .b 0x200000001).mp (by decide +kernel)

end Registry

end Casement
