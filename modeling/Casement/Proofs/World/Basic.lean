import Casement.Proofs.Registry.Ownership
import Casement.World.Lifecycle

namespace Casement

namespace Registry

variable {κ α ε : Type} (r : Registry κ α ε) (f : ε → ε) (o : ObjectId)

@[simp] theorem entries_modifyEnv : (r.modifyEnv f).entries = r.entries := rfl

@[simp] theorem cells_modifyEnv : (r.modifyEnv f).cells = r.cells := rfl

@[simp] theorem dropped_modifyEnv : (r.modifyEnv f).dropped = r.dropped := rfl

@[simp] theorem env_modifyEnv : (r.modifyEnv f).env = f r.env := rfl

@[simp] theorem value?_modifyEnv : (r.modifyEnv f).value? o = r.value? o := rfl

@[simp] theorem entries_update (g : α → α) : (r.update o g).entries = r.entries := rfl

@[simp] theorem dropped_update (g : α → α) : (r.update o g).dropped = r.dropped := rfl

@[simp] theorem env_update (g : α → α) : (r.update o g).env = r.env := rfl

end Registry

namespace World

variable (w : World) (o o' : ObjectId)

theorem window_eq_of_value? {w w' : World} {o : ObjectId} (h : w'.value? o = w.value? o) :
    window w' o = window w o := by simp [window, h]

@[simp] theorem window_modifyEnv (f : Desk → Desk) : window (w.modifyEnv f) o = window w o := rfl

theorem window_update (f : Window → Window) (ho : o < w.cells.length) :
    window (w.update o f) o' = if o = o' then f (window w o') else window w o' := by
  unfold window
  rw [Registry.value?_update]
  split
  · next h =>
    subst h
    simp [Registry.value?, List.getElem?_eq_getElem ho]
  · rfl

@[simp] theorem window_borrow : window (w.borrow o) o' = window w o' :=
  window_eq_of_value? (by simp)

@[simp] theorem window_setBorrowed (b : Bool) : window (w.setBorrowed o b) o' = window w o' :=
  window_eq_of_value? (by simp)

@[simp] theorem window_letGo : window (w.letGo o) o' = window w o' :=
  window_eq_of_value? (by simp)

variable (h h' : Nat)

@[simp] theorem bundle_note (r : LogRecord) : bundle (note r w) h = bundle w h := rfl

@[simp] theorem bundle_call (c : Call) : bundle (call h' c w) h = bundle w h := rfl

theorem bundle_modifyBundle (f : Bundle → Bundle) (hh : h < w.env.bundles.length) :
    bundle (modifyBundle h f w) h' = if h = h' then f (bundle w h') else bundle w h' := by
  simp only [bundle, modifyBundle, Registry.env_modifyEnv, List.getD_eq_getElem?_getD,
    List.getElem?_modify]
  split
  · next heq =>
    subst heq
    simp [List.getElem?_eq_getElem hh]
  · simp

theorem modifyBundle_congr {w : World} {h : Nat} {f g : Bundle → Bundle}
    (hfg : f (bundle w h) = g (bundle w h)) : modifyBundle h f w = modifyBundle h g w := by
  have hbundles : w.env.bundles.modify h f = w.env.bundles.modify h g := by
    refine List.ext_getElem? fun i ↦ ?_
    rw [List.getElem?_modify, List.getElem?_modify]
    split
    · next heq =>
      subst heq
      cases hb : w.env.bundles[h]? with
      | none => rfl
      | some b =>
        simp only [bundle, List.getD_eq_getElem?_getD, hb, Option.getD_some] at hfg
        simp [hfg]
    · rfl
  simp only [modifyBundle, Registry.modifyEnv, hbundles]

theorem modifyBundle_eq_self {w : World} {h : Nat} {f : Bundle → Bundle}
    (hf : f (bundle w h) = bundle w h) : modifyBundle h f w = w := by
  have hid : modifyBundle h id w = w := by simp [modifyBundle, Registry.modifyEnv, List.modify_id]
  exact (modifyBundle_congr hf).trans hid

theorem modifyBundle_modifyBundle (f g : Bundle → Bundle) :
    modifyBundle h f (modifyBundle h g w) = modifyBundle h (fun b => f (g b)) w := by
  simp only [modifyBundle, Registry.modifyEnv, List.modify_modify_eq]
  rfl

theorem modifyBundle_comm {f g : Bundle → Bundle} (hfg : ∀ b, f (g b) = g (f b)) :
    modifyBundle h f (modifyBundle h' g w) = modifyBundle h' g (modifyBundle h f w) := by
  by_cases heq : h = h'
  · subst heq
    simp only [modifyBundle_modifyBundle, hfg]
  · simp only [modifyBundle, Registry.modifyEnv, List.modify_modify_ne _ _ _ (Ne.symm heq)]

theorem related_modifyBundle {R : Bundle → Bundle → Prop} (hrefl : ∀ b, R b b) {f : Bundle → Bundle}
    (hf : ∀ b, R b (f b)) : R (bundle w h') (bundle (modifyBundle h f w) h') := by
  simp only [bundle, modifyBundle, Registry.env_modifyEnv, List.getD_eq_getElem?_getD,
    List.getElem?_modify]
  split
  · cases w.env.bundles[h']? <;> simp [hrefl, hf]
  · simp [hrefl]

theorem reading_modifyBundle {β : Type} (read : Bundle → β) (f : Bundle → Bundle)
    (hf : ∀ b, read (f b) = read b) : read (bundle (modifyBundle h f w) h') = read (bundle w h') :=
  related_modifyBundle w h h' (R := fun b b' ↦ read b' = read b) (fun _ ↦ rfl) hf

theorem reading_of_map {β : Type} {read : Bundle → β} {w w' : World}
    (h : w'.env.bundles.map read = w.env.bundles.map read) (i : Nat) :
    read (bundle w' i) = read (bundle w i) := by
  have hi := congrArg (fun l ↦ l[i]?.getD (read {})) h
  simpa only [List.getElem?_map, Option.getD_map, bundle, List.getD_eq_getElem?_getD] using hi

theorem host_modifyHost (f : Host → Host) (hh : h < w.env.bundles.length) :
    host (modifyHost h f w) h' = if h = h' then f (host w h') else host w h' := by
  rw [host, modifyHost, bundle_modifyBundle w h h' _ hh]
  split <;> rfl

theorem lt_of_isWindow {w : World} {i : Nat} {native : NativeHandle}
    (h : (host w i).isWindow native = true) : i < w.env.bundles.length := by
  by_contra hlt
  have hnone : host w i = {} := by
    simp [host, bundle, List.getElem?_eq_none (Nat.le_of_not_lt hlt)]
  rw [hnone] at h
  cases h

@[simp] theorem length_bundles_modifyBundle (f : Bundle → Bundle) :
    (modifyBundle h f w).env.bundles.length = w.env.bundles.length := by simp [modifyBundle]

@[simp] theorem length_bundles_modifyHost (f : Host → Host) :
    (modifyHost h f w).env.bundles.length = w.env.bundles.length := length_bundles_modifyBundle ..

/-- Worlds that differ in their surroundings only. -/
structure SameWindows (w w' : World) : Prop where
  entries : w'.entries = w.entries
  cells : w'.cells = w.cells
  dropped : w'.dropped = w.dropped

theorem SameWindows.trans {w w' w'' : World} (h : SameWindows w w') (h' : SameWindows w' w'') :
    SameWindows w w'' :=
  ⟨h'.entries.trans h.entries, h'.cells.trans h.cells, h'.dropped.trans h.dropped⟩

theorem SameWindows.safe {w w' : World} (h : SameWindows w w') (current : Option ObjectId) :
    Registry.Safe current w w' := .of_eq h.entries h.cells h.dropped

theorem SameWindows.window {w w' : World} (h : SameWindows w w') (o : ObjectId) :
    window w' o = window w o := window_eq_of_value? (by simp [Registry.value?, h.cells])

theorem SameWindows.find? {w w' : World} (h : SameWindows w w') (kind : Option Unit) (key : Key) :
    Registry.find? w' kind key = Registry.find? w kind key := by simp [Registry.find?, h.entries]

theorem sameWindows_acquireAtlas : SameWindows w (acquireAtlas w) := by
  unfold acquireAtlas
  split <;> exact ⟨rfl, rfl, rfl⟩

theorem sameWindows_releaseAtlas : SameWindows w (releaseAtlas w) := ⟨rfl, rfl, rfl⟩

theorem sameWindows_acquireWatchdog : SameWindows w (acquireWatchdog h w) := by
  unfold acquireWatchdog
  split <;> exact ⟨rfl, rfl, rfl⟩

theorem sameWindows_releaseWatchdog : SameWindows w (releaseWatchdog w) := by
  unfold releaseWatchdog
  dsimp only
  split
  · split <;> exact ⟨rfl, rfl, rfl⟩
  · exact ⟨rfl, rfl, rfl⟩

@[simp] theorem bundles_acquireAtlas : (acquireAtlas w).env.bundles = w.env.bundles := by
  unfold acquireAtlas
  split <;> rfl

@[simp] theorem bundle_acquireAtlas : bundle (acquireAtlas w) h = bundle w h := by simp [bundle]

@[simp] theorem bundle_releaseAtlas : bundle (releaseAtlas w) h = bundle w h := rfl

@[simp] theorem length_bundles_acquireWatchdog :
    (acquireWatchdog h w).env.bundles.length = w.env.bundles.length := by
  unfold acquireWatchdog
  split
  · rfl
  · exact length_bundles_modifyBundle ..

@[simp] theorem length_bundles_releaseWatchdog :
    (releaseWatchdog w).env.bundles.length = w.env.bundles.length := by
  unfold releaseWatchdog
  dsimp only
  split
  · split
    · exact length_bundles_modifyBundle ..
    · rfl
  · rfl

@[simp] theorem index_acquireAtlas : (acquireAtlas w).env.index = w.env.index := by
  unfold acquireAtlas
  split <;> rfl

@[simp] theorem index_acquireWatchdog : (acquireWatchdog h w).env.index = w.env.index := by
  unfold acquireWatchdog
  split <;> rfl

@[simp] theorem index_releaseWatchdog : (releaseWatchdog w).env.index = w.env.index := by
  unfold releaseWatchdog
  dsimp only
  split
  · split <;> rfl
  · rfl

theorem reading_acquireWatchdog {β : Type} (read : Bundle → β)
    (hread : ∀ b : Bundle, read { b with host := b.host.addTimer } = read b) :
    read (bundle (acquireWatchdog h w) h') = read (bundle w h') := by
  unfold acquireWatchdog
  split
  · rfl
  · exact reading_modifyBundle w h h' read _ hread

theorem reading_releaseWatchdog {β : Type} (read : Bundle → β)
    (hread : ∀ (b : Bundle) (t : TimerId), read { b with host := b.host.removeTimer t } = read b) :
    read (bundle (releaseWatchdog w) h) = read (bundle w h) := by
  unfold releaseWatchdog
  dsimp only
  split
  · split
    · exact reading_modifyBundle _ _ h read _ fun b ↦ hread b _
    · rfl
  · rfl

end World

end Casement
