import Casement.Proofs.World.Conservation
import Mathlib.Data.List.Nodup

namespace Casement

namespace World

variable {ok : WindowStep → Prop} {current : Option ObjectId} {w w' : World} {o : ObjectId}
  {key : Key} {native : NativeHandle}

theorem lookup_filter_ne (l : List (NativeHandle × Key)) (native n : NativeHandle) :
    (l.filter (·.1 ≠ native)).lookup n = if n = native then none else l.lookup n := by
  induction l with
  | nil => simp
  | cons p l ih =>
    obtain ⟨m, key⟩ := p
    by_cases hm : m = native
    · subst hm
      simp only [ne_eq, not_true_eq_false, decide_false, Bool.false_eq_true, not_false_eq_true,
        List.filter_cons_of_neg, ih, List.lookup_cons]
      split
      · rfl
      · next hne => simp [beq_eq_false_iff_ne.mpr hne]
    · simp only [ne_eq, hm, not_false_eq_true, decide_true, List.filter_cons_of_pos, List.lookup_cons,
        ih]
      by_cases hn : n = m
      · subst hn
        simp [hm]
      · simp [beq_eq_false_iff_ne.mpr hn]

theorem lookup_indexErase (w : World) (native n : NativeHandle) :
    (indexErase native w).env.index.lookup n = if n = native then none else w.env.index.lookup n :=
  lookup_filter_ne ..

theorem lookup_indexInsert (w : World) (native n : NativeHandle) (key : Key) :
    (indexInsert native key w).env.index.lookup n =
      if n = native then some key else w.env.index.lookup n := by
  simp only [indexInsert, Registry.env_modifyEnv, List.lookup_cons, lookup_filter_ne]
  by_cases hn : n = native
  · simp [hn]
  · simp [beq_eq_false_iff_ne.mpr hn, hn]

theorem lookup_install (win : Window) (w : World) (n : NativeHandle) :
    (install win w).env.index.lookup n =
      if n = win.native then some w.entries.nextKey else w.env.index.lookup n :=
  lookup_indexInsert (w.register () win).2 win.native n w.entries.nextKey

/-- No later window, on whatever host, got the same number for its native window. -/
def IsYoungest (w : World) (o : ObjectId) : Prop :=
  ∀ o', o' < w.cells.length → (window w o').native = (window w o).native → o' ≤ o

/-- The index lists exactly the registered windows that are the youngest with their numbers, and
holds no keys of the future. -/
structure Ranked (w : World) : Prop where
  named : ∀ {native key e}, w.env.index.lookup native = some key → w.entries.get? key = some e →
    (window w e.object).native = native ∧ IsYoungest w e.object
  listed : ∀ {key e}, w.entries.get? key = some e → IsYoungest w e.object →
    w.env.index.lookup (window w e.object).native = some key
  issued : ∀ {native key}, w.env.index.lookup native = some key →
    (w.entries.get? key).isSome ∨ w.entries.Stale key

theorem isYoungest_congr (hlength : w'.cells.length = w.cells.length)
    (hnative : ∀ o, (window w' o).native = (window w o).native) :
    IsYoungest w' o ↔ IsYoungest w o := by
  simp only [IsYoungest, hlength, hnative]

theorem isYoungest_install (win : Window) (w : World) :
    IsYoungest (install win w) w.cells.length := by
  intro o' ho' _
  rcases (lt_length_install win w).mp ho' with ho' | rfl
  · exact ho'.le
  · exact Nat.le_refl _

/-- A new window takes its number over from all windows before it. -/
theorem isYoungest_install_iff (win : Window) (ho : o < w.cells.length) :
    IsYoungest (install win w) o ↔ IsYoungest w o ∧ (window w o).native ≠ win.native := by
  constructor
  · intro hyoung
    constructor
    · intro o' ho' hnative
      apply hyoung o' ((lt_length_install win w).mpr (.inl ho'))
      rw [window_install, window_install, if_neg ho'.ne, if_neg ho.ne, hnative]
    · intro hnative
      have hle := hyoung w.cells.length ((lt_length_install win w).mpr (.inr rfl))
        (by rw [window_install, window_install, if_pos rfl, if_neg ho.ne, hnative])
      exact absurd hle (Nat.not_le.mpr ho)
  · rintro ⟨hyoung, hne⟩ o' ho' hnative
    rw [window_install, window_install, if_neg ho.ne] at hnative
    split at hnative
    · exact absurd hnative.symm hne
    · next hother =>
      exact hyoung o' (((lt_length_install win w).mp ho').resolve_right hother) hnative

namespace Ranked

theorem of_eq (h : Ranked w) (hentries : w'.entries = w.entries)
    (hindex : w'.env.index = w.env.index) (hlength : w'.cells.length = w.cells.length)
    (hnative : ∀ o, (window w' o).native = (window w o).native) : Ranked w' := by
  constructor
  · intro native key e hl he
    rw [hindex] at hl
    rw [hentries] at he
    rw [hnative, isYoungest_congr hlength hnative]
    exact h.named hl he
  · intro key e he hyoung
    rw [hentries] at he
    rw [hindex, hnative]
    exact h.listed he ((isYoungest_congr hlength hnative).mp hyoung)
  · rw [hindex, hentries]
    exact h.issued

theorem of_same (h : Ranked w) (hsame : SameWindows w w') (hindex : w'.env.index = w.env.index) :
    Ranked w' :=
  h.of_eq hsame.entries hindex (by rw [hsame.cells]) fun o ↦ by rw [hsame.window]

theorem letGo (h : Ranked w) (o : ObjectId) : Ranked (w.letGo o) :=
  h.of_eq rfl rfl (by simp) (by simp)

theorem releaseAtlas (h : Ranked w) : Ranked (releaseAtlas w) :=
  h.of_same (sameWindows_releaseAtlas w) rfl

theorem releaseWatchdog (h : Ranked w) : Ranked (releaseWatchdog w) :=
  h.of_same (sameWindows_releaseWatchdog w) (index_releaseWatchdog w)

theorem modifyHost (h : Ranked w) (i : Nat) (f : Host → Host) : Ranked (modifyHost i f w) :=
  h.of_same (sameWindows_modifyHost i f w) rfl

theorem edit (h : Ranked w) (hedit : Edit w w') : Ranked w' := by
  apply h.of_same hedit.sameWindows
  cases hedit with
  | holdAtlas => exact index_acquireAtlas w
  | holdWatchdog i => exact index_acquireWatchdog w i
  | dropWatchdog => exact index_releaseWatchdog w
  | addView | removeView | dropAtlas | editAtlas => rfl

theorem erase (h : Ranked w) (key : Key) : Ranked { w with entries := w.entries.erase key } := by
  constructor
  · intro native key' e' hl he'
    exact h.named hl (SlotMap.get?_erase_eq_some_iff.mp he').2
  · intro key' e' he' hyoung
    exact h.listed (SlotMap.get?_erase_eq_some_iff.mp he').2 hyoung
  · intro native key' hl
    rcases h.issued hl with hsome | hstale
    · obtain ⟨e', he'⟩ := Option.isSome_iff_exists.mp hsome
      rcases (SlotMap.advances_erase w.entries key).get?_or_stale he' with h' | h'
      · exact .inl (by simp [h'])
      · exact .inr h'
    · exact .inr (hstale.of_advances (SlotMap.advances_erase _ _))

theorem unindex (h : Ranked w) (hindex : w.env.index.lookup native = some key)
    (hkey : w.entries.get? key = none) : Ranked (indexErase native w) := by
  constructor
  · intro native' key' e' hl he'
    rw [lookup_indexErase] at hl
    split at hl
    · cases hl
    · exact h.named hl he'
  · intro key' e' he' hyoung
    have hl : w.env.index.lookup (window w e'.object).native = some key' := h.listed he' hyoung
    rw [lookup_indexErase, if_neg]
    · exact hl
    · intro heq
      have hkeys : w.env.index.lookup native = some key' := heq ▸ hl
      rw [hindex, Option.some.injEq] at hkeys
      subst hkeys
      exact absurd (hkey.symm.trans he') (by simp)
  · intro native' key' hl
    rw [lookup_indexErase] at hl
    split at hl
    · cases hl
    · exact h.issued hl

theorem forget {w₁ : World} (h : Ranked w) (hf : Forgets o w w₁) : Ranked w₁ := by
  cases hf with
  | unregister hkey => exact h.erase _
  | @destroy key native hindex hkey =>
    exact (h.erase key).unindex hindex (by rw [SlotMap.get?_erase, if_pos rfl])

theorem ne_nextKey (h : Ranked w) (hw : w.Sound) (hl : w.env.index.lookup native = some key) :
    key ≠ w.entries.nextKey := by
  rintro rfl
  rcases h.issued hl with hsome | hstale
  · rw [SlotMap.get?_nextKey hw.table] at hsome
    cases hsome
  · exact SlotMap.not_stale_nextKey hw.table hstale

theorem install (h : Ranked w) (hw : w.Sound) (win : Window) : Ranked (install win w) where
  named {native key e} hl he := by
    rw [lookup_install] at hl
    rw [get?_install win w hw] at he
    split at hl
    · next hn =>
      cases hl
      rw [if_pos rfl] at he
      cases he
      rw [window_install, if_pos rfl]
      exact ⟨hn.symm, isYoungest_install win w⟩
    · next hn =>
      rw [if_neg (h.ne_nextKey hw hl)] at he
      have hlt := hw.object_lt he
      obtain ⟨hnative, hyoung⟩ := h.named hl he
      rw [window_install, if_neg hlt.ne, isYoungest_install_iff win hlt, hnative]
      exact ⟨rfl, hyoung, hn⟩
  listed {key e} he hyoung := by
    rw [get?_install win w hw] at he
    split at he
    · next hkey =>
      cases he
      rw [window_install, if_pos rfl, lookup_install, if_pos rfl, hkey]
    · have hlt := hw.object_lt he
      obtain ⟨hyoung, hne⟩ := (isYoungest_install_iff win hlt).mp hyoung
      rw [window_install, if_neg hlt.ne, lookup_install, if_neg hne]
      exact h.listed he hyoung
  issued {native key} hl := by
    rw [lookup_install] at hl
    rw [get?_install win w hw]
    split at hl
    · cases hl
      exact .inl (by simp)
    · refine (h.issued hl).imp (fun hsome ↦ ?_) fun hstale ↦
        hstale.of_advances (SlotMap.advances_insert hw.table _)
      split
      · rfl
      · exact hsome

end Ranked

theorem conserved_ranked {hosts : Nat} :
    Conserved ok hosts (fun _ : Unit ↦ Ranked) id fun _ _ => () where
  silent {_ w f} houtline h := by
    have hindex : (f w.env).outline.index = w.env.outline.index := by rw [houtline]
    exact h.of_same ⟨rfl, rfl, rfl⟩ hindex
  edit hedit h := h.edit hedit
  touch {_ w o f} ho hf h := by
    refine h.of_eq rfl rfl (by simp) fun o' ↦ ?_
    rw [window_update w o o' f ho]
    split
    · exact (hf _).2
    · rfl
  keepAtlas h := h.of_same ⟨rfl, rfl, rfl⟩ rfl
  borrow o h := h.of_eq rfl rfl (by simp) (by simp)
  unborrow o h := h.of_eq rfl rfl (by simp) (by simp)
  letGo _ h := h.letGo _
  forget hforget h := h.forget hforget
  unindex hindex hkey h := h.unindex hindex hkey
  unlisten _ _ _ _ _ h := (h.letGo _).modifyHost _ _
  discharge h := h.releaseAtlas.releaseAtlas.releaseWatchdog
  equip _ h := h.of_same (sameWindows_equip _ _) (by simp [World.equip])
  releaseAtlas h := h.releaseAtlas
  releaseWatchdog h := h.releaseWatchdog
  addView _ _ _ h := h.modifyHost _ _
  install hw _ _ _ h := h.install hw.sound _

/-- The index lists the youngest windows at every moment, within calls too. -/
theorem Moves.ranked (h : Moves ok current w w') (hw : Coherent ok w)
    (hc : ∀ o, current = some o → w.IsBusy o) (hr : Ranked w) : Ranked w' :=
  h.conserves (a := ()) conserved_ranked hw hc rfl hr

theorem ranked_empty (hosts : List HostSetup) : Ranked (World.empty hosts) where
  named h := by simp [World.empty] at h
  listed h := by simp [World.empty, SlotMap.get?, SlotMap.slot?] at h
  issued h := by simp [World.empty] at h

/-- The index finds every registered window by its handle, what it finds has that handle, it holds
no keys of the future, and the first host listens for exactly the windows that live. -/
structure Indexed (w : World) : Prop where
  listed : ∀ {key e}, w.entries.get? key = some e →
    w.env.index.lookup (window w e.object).native = some key
  named : ∀ {native key e}, w.env.index.lookup native = some key → w.entries.get? key = some e →
    (window w e.object).native = native
  issued : ∀ {native key}, w.env.index.lookup native = some key →
    (w.entries.get? key).isSome ∨ w.entries.Stale key
  accelerators : (host w 0).accelerators = (listening w).map fun o => (window w o).native

theorem Placed.host_eq_zero (hw : Placed ok w) (hone : w.env.bundles.length = 1)
    (ho : o < w.cells.length) : (window w o).host = 0 := by
  have := hw.host_lt ho
  omega

theorem Placed.native_inj (hw : Placed ok w) (hone : w.env.bundles.length = 1) {o o' : ObjectId}
    (ho : o < w.cells.length) (ho' : o' < w.cells.length)
    (hnative : (window w o).native = (window w o').native) : o = o' :=
  hw.place_inj ho ho' ((hw.host_eq_zero hone ho).trans (hw.host_eq_zero hone ho').symm) hnative

theorem Placed.isYoungest (hw : Placed ok w) (hone : w.env.bundles.length = 1)
    (ho : o < w.cells.length) : IsYoungest w o :=
  fun _ ho' hnative ↦ (hw.native_inj hone ho' ho hnative).le

def Listens (w : World) : Prop :=
  (host w 0).accelerators = (listening w).map fun o => (window w o).native

namespace Listens

theorem of_eq (h : Listens w) (hlen : w'.cells.length = w.cells.length)
    (hdropped : w'.dropped = w.dropped) (hnative : ∀ o, (window w' o).native = (window w o).native)
    (haccel : (host w' 0).accelerators = (host w 0).accelerators) : Listens w' := by
  rw [Listens, haccel, h, listening_congr hlen hdropped]
  exact List.map_congr_left fun o _ ↦ (hnative o).symm

theorem of_same (h : Listens w) (hsame : SameWindows w w')
    (haccel : (host w' 0).accelerators = (host w 0).accelerators) : Listens w' :=
  h.of_eq (by rw [hsame.cells]) hsame.dropped (fun o ↦ by rw [hsame.window]) haccel

theorem acquireAtlas (h : Listens w) : Listens (acquireAtlas w) :=
  h.of_same (sameWindows_acquireAtlas w) (by simp [host])

theorem releaseAtlas (h : Listens w) : Listens (releaseAtlas w) :=
  h.of_same (sameWindows_releaseAtlas w) rfl

theorem acquireWatchdog (h : Listens w) (i : Nat) : Listens (acquireWatchdog i w) :=
  h.of_same (sameWindows_acquireWatchdog w i)
    (reading_acquireWatchdog w i 0 (·.host.accelerators) fun _ ↦ rfl)

theorem releaseWatchdog (h : Listens w) : Listens (releaseWatchdog w) :=
  h.of_same (sameWindows_releaseWatchdog w)
    (reading_releaseWatchdog w 0 (·.host.accelerators) fun _ _ ↦ rfl)

theorem modifyHost (h : Listens w) (i : Nat) (f : Host → Host)
    (hf : ∀ s, (f s).accelerators = s.accelerators) : Listens (modifyHost i f w) :=
  h.of_same (sameWindows_modifyHost i f w)
    (reading_modifyBundle w i 0 (·.host.accelerators) _ fun b ↦ hf b.host)

theorem edit (h : Listens w) (hedit : Edit w w') : Listens w' := by
  cases hedit with
  | addView i view => exact h.modifyHost i (·.addView view) fun _ ↦ rfl
  | removeView i native => exact h.modifyHost i (·.removeView native) fun _ ↦ rfl
  | holdAtlas => exact h.acquireAtlas.of_same ⟨rfl, rfl, rfl⟩ rfl
  | dropAtlas => exact h.releaseAtlas.of_same ⟨rfl, rfl, rfl⟩ rfl
  | editAtlas => exact h.of_same ⟨rfl, rfl, rfl⟩ rfl
  | holdWatchdog i => exact (h.acquireWatchdog i).of_same ⟨rfl, rfl, rfl⟩ rfl
  | dropWatchdog => exact h.releaseWatchdog.of_same ⟨rfl, rfl, rfl⟩ rfl

theorem forget {w₁ : World} (h : Listens w) (hf : Forgets o w w₁) : Listens w₁ := by
  cases hf with
  | unregister => exact h
  | destroy => exact h

theorem unlisten (h : Listens w) (hw : Coherent ok w) (hone : w.env.bundles.length = 1)
    (ho : o < w.cells.length) (hlast : w.cells[o]?.any (·.owners ≤ 1) = true) :
    Listens (unlisten o (w.letGo o)) := by
  have hhost : (window (w.letGo o) o).host = 0 := by
    rw [window_letGo]
    exact hw.host_eq_zero hone ho
  have haccel : (host (World.unlisten o (w.letGo o)) 0).accelerators =
      (host w 0).accelerators.filter (· ≠ (window w o).native) := by
    rw [World.unlisten, hhost, host_modifyHost _ _ _ _ (by simp [hone]), if_pos rfl, window_letGo]
    rfl
  have hlist : listening (World.unlisten o (w.letGo o)) = (listening w).filter (· ≠ o) :=
    listening_letGo_of_last hlast
  have hwindow (o' : ObjectId) : window (World.unlisten o (w.letGo o)) o' = window w o' :=
    window_letGo w o o'
  rw [Listens, haccel, hlist, h, List.filter_map]
  simp only [hwindow]
  congr 1
  refine List.filter_congr fun o' ho' ↦ decide_eq_decide.mpr (not_congr ⟨fun heq ↦ ?_, fun heq ↦ ?_⟩)
  · exact hw.native_inj hone (mem_listening.mp ho').1 ho heq
  · rw [heq]

theorem install {win : Window} (h : Listens w) (hw : Coherent ok w)
    (hone : w.env.bundles.length = 1) (hhost : win.host = 0)
    (hnew : ∀ o < w.cells.length, (window w o).native ≠ win.native) :
    Listens (World.install win w) := by
  have haccel : (host (World.install win w) 0).accelerators = (host w 0).accelerators ++ [win.native] := by
    have hadd : host (World.install win w) 0 = (host w 0).addAccelerator win.native := by
      rw [World.install, hhost, host_modifyHost _ _ _ _ (by exact hone ▸ Nat.one_pos), if_pos rfl]
      rfl
    have hall : (host w 0).accelerators = (listening w).map fun o => (window w o).native := h
    rw [hadd, Host.addAccelerator, if_neg]
    simp only [Host.hasAccelerator, hall, List.contains_iff_mem, List.mem_map]
    rintro ⟨o, ho, heq⟩
    exact hnew o (mem_listening.mp ho).1 heq
  have hlist : listening (World.install win w) = listening w ++ [w.cells.length] :=
    listening_register hw win
  rw [Listens, haccel, hlist, h, List.map_append, List.map_singleton, window_install, if_pos rfl]
  congr 1
  exact List.map_congr_left fun o ho ↦ by rw [window_install, if_neg (mem_listening.mp ho).1.ne]

end Listens

theorem conserved_listens : Conserved ok 1 (fun _ : Unit ↦ Listens) id fun _ _ => () where
  silent houtline h :=
    h.of_same ⟨rfl, rfl, rfl⟩ (Host.eq_of_outline (outline_host houtline 0)).2.2.2
  edit hedit h := h.edit hedit
  touch {_ w o f} ho hf h := by
    refine h.of_eq (by simp) rfl (fun o' ↦ ?_) rfl
    rw [window_update w o o' f ho]
    split
    · exact (hf _).2
    · rfl
  keepAtlas h := h.of_same ⟨rfl, rfl, rfl⟩ rfl
  borrow o h := h.of_eq (by simp) rfl (by simp) rfl
  unborrow o h := h.of_eq (by simp) rfl (by simp) rfl
  letGo howned h := h.of_eq (by simp) (dropped_letGo_of_owned howned) (by simp) rfl
  forget hforget h := h.forget hforget
  unindex _ _ h := h
  unlisten hw hone ho _ hlast h := h.unlisten hw hone ho hlast
  discharge h := h.releaseAtlas.releaseAtlas.releaseWatchdog
  equip _ h := (h.acquireWatchdog _).acquireAtlas.acquireAtlas
  releaseAtlas h := h.releaseAtlas
  releaseWatchdog h := h.releaseWatchdog
  addView _ _ _ h := h.modifyHost _ (·.addView _) fun _ ↦ rfl
  install {_ w win} hw hone hh hnew h := by
    have hhost : win.host = 0 := by omega
    exact h.install hw hone hhost fun o ho ↦ hnew o ho ((hw.host_eq_zero hone ho).trans hhost.symm)

theorem Indexed.ranked (h : Indexed w) (hw : Coherent ok w) (hone : w.env.bundles.length = 1) :
    Ranked w where
  named hl he := ⟨h.named hl he, hw.isYoungest hone (hw.sound.object_lt he)⟩
  listed he _ := h.listed he
  issued hl := h.issued hl

theorem Ranked.indexed (h : Ranked w) (hlistens : Listens w) (hw : Coherent ok w)
    (hone : w.env.bundles.length = 1) : Indexed w where
  listed he := h.listed he (hw.isYoungest hone (hw.sound.object_lt he))
  named hl he := (h.named hl he).1
  issued hl := h.issued hl
  accelerators := hlistens

/-- The indices agree at every moment, within calls too. -/
theorem Moves.indexed (h : Moves ok current w w') (hw : Coherent ok w)
    (hc : ∀ o, current = some o → w.IsBusy o) (hone : w.env.bundles.length = 1) (hi : Indexed w) :
    Indexed w' := by
  obtain ⟨hw', hf⟩ := h.lawful hw hc
  have hranked : Ranked w' := h.ranked hw hc (hi.ranked hw hone)
  have hlistens : Listens w' := h.conserves (a := ()) conserved_listens hw hc hone hi.accelerators
  exact hranked.indexed hlistens hw' (hf.hosts.trans hone)

theorem indexed_empty (hosts : List HostSetup) : Indexed (World.empty hosts) where
  listed h := by simp [World.empty, SlotMap.get?, SlotMap.slot?] at h
  named h := by simp [World.empty] at h
  issued h := by simp [World.empty] at h
  accelerators := by cases hosts <;> rfl

/-- After every script on one host, however its calls are nested: the index finds a window by a
handle exactly if the window is registered and has that handle, windows have different handles, and
the host listens for the registered windows, each once, in the order of their registration. -/
theorem indices_agree (setup : HostSetup) (n : Nat) (steps : List Step) :
    let w := (Session.runFrom n none (World.empty [setup]) steps).2
    (∀ native key, find? w native = some key ↔
      ∃ o, Registry.find? w (some ()) key = some o ∧ (window w o).native = native) ∧
    (∀ key key' o o', Registry.find? w (some ()) key = some o →
      Registry.find? w (some ()) key' = some o' →
      (window w o).native = (window w o').native → key = key') ∧
    (∃ os : List ObjectId, os.Pairwise (· < ·) ∧
      (∀ o, o ∈ os ↔ ∃ key, Registry.find? w (some ()) key = some o) ∧
      (host w 0).accelerators = os.map fun o => (window w o).native) ∧
    (host w 0).accelerators.Nodup := by
  intro w
  have hmoves : Moves (fun _ ↦ True) none (World.empty [setup]) w :=
    (Evolves.run n _ (Step.usesAll_of_forall (fun _ ↦ trivial) steps)).moves
  obtain ⟨hw, hf⟩ := hmoves.lawful (coherent_empty [setup]) (by simp)
  have hone : w.env.bundles.length = 1 := hf.hosts
  have hi := hmoves.indexed (coherent_empty [setup]) (by simp) rfl (indexed_empty [setup])
  have hrest := (atRest_empty [setup]).of_follows hf
  have hinj {key key' : Key} {o o' : ObjectId} (hkey : Registry.find? w (some ()) key = some o)
      (hkey' : Registry.find? w (some ()) key' = some o')
      (hnative : (window w o).native = (window w o').native) : key = key' := by
    obtain ⟨e, he, -, rfl⟩ := Registry.find?_eq_some hkey
    obtain ⟨e', he', -, rfl⟩ := Registry.find?_eq_some hkey'
    exact hw.sound.key_unique he he'
      (hw.native_inj hone (hw.sound.object_lt he) (hw.sound.object_lt he') hnative)
  refine ⟨fun native key ↦ ?_, fun key key' o o' ↦ hinj, ⟨listening w, ?_, fun o ↦ hrest.mem_listening_iff hw, hi.accelerators⟩, ?_⟩
  · rw [World.find?, Option.filter_eq_some_iff]
    constructor
    · rintro ⟨hl, hopen⟩
      obtain ⟨o, ho⟩ := Option.isSome_iff_exists.mp hopen
      obtain ⟨e, he, -, rfl⟩ := Registry.find?_eq_some ho
      exact ⟨e.object, ho, hi.named hl he⟩
    · rintro ⟨o, ho, rfl⟩
      obtain ⟨e, he, -, rfl⟩ := Registry.find?_eq_some ho
      exact ⟨hi.listed he, by simp [isOpen, Registry.contains, ho]⟩
  · exact List.pairwise_lt_range.filter _
  · rw [hi.accelerators]
    refine List.Nodup.map_on (fun o ho o' ho' heq ↦ ?_) (nodup_listening w)
    exact hw.native_inj hone (mem_listening.mp ho).1 (mem_listening.mp ho').1 heq

end World

end Casement
