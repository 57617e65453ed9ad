import Casement.Proofs.World.Access
import Casement.Proofs.World.Openings
import Casement.Proofs.World.Ticks
import Mathlib.Data.List.Find

namespace Casement

def Bundle.reported (b : Bundle) : Bundle :=
  { b with
    host := { b.host with errors := b.host.errors ++ b.gui.pendingErrors }
    gui := { b.gui with pendingErrors := [] } }

def Bundle.discarded (b : Bundle) : Bundle :=
  { b.reported with
    gui := { b.reported.gui with frames := b.gui.frames + 1 }
    stats := { b.stats with ended := b.stats.ended + 1 } }

def Bundle.bereft (win : Window) (b : Bundle) : Bundle :=
  let b := if win.inFrame then b.discarded else b
  { b with
    host := (b.host.removeAccelerator win.native).uncaptured win.native
    stats := { b.stats with dropped := b.stats.dropped + 1 } }

section Bereft

variable (win : Window) (b : Bundle)

theorem Bundle.views_bereft : (b.bereft win).host.views = b.host.views := by
  unfold bereft
  split <;> rfl

theorem Bundle.accelerators_bereft :
    (b.bereft win).host.accelerators = b.host.accelerators.filter (· ≠ win.native) := by
  unfold bereft
  split <;> rfl

theorem Bundle.stats_bereft : (b.bereft win).stats =
    { b.stats with
      dropped := b.stats.dropped + 1
      ended := b.stats.ended + if win.inFrame then 1 else 0 } := by
  unfold bereft
  split <;> rfl

end Bereft

theorem Host.capture_removeView (s : Host) (native : NativeHandle) :
    (s.removeView native).capture ≠ some native := by
  unfold removeView
  dsimp only
  split
  · simp
  · assumption

theorem Host.isWindow_removeView (s : Host) (native : NativeHandle) :
    (s.removeView native).isWindow native = false := by
  simp only [isWindow, view?, removeView, Option.isSome_eq_false_iff, Option.isNone_iff_eq_none,
    List.find?_eq_none, List.mem_filter, decide_eq_true_eq]
  exact fun _ hv ↦ hv.2.1

theorem Host.view?_removeView {s : Host} {native other : NativeHandle} (hne : other ≠ native)
    (hroot : ∀ seat ∈ s.seats, seat.1 = other → seat.2 = none) :
    (s.removeView native).view? other = s.view? other := by
  simp only [view?, removeView, List.find?_filter]
  refine List.find?_congr fun v hv ↦ ?_
  by_cases heq : v.handle = other
  · have hparent : v.parent = none := hroot _ (List.mem_map_of_mem hv) heq
    simp [heq, hne, hparent]
  · simp [heq]

theorem Registry.update_update {κ α ε : Type} (r : Registry κ α ε) (o : ObjectId) (f g : α → α) :
    (r.update o f).update o g = r.update o fun a => g (f a) := by
  simp only [update, modifyCell, List.modify_modify_eq]
  rfl

theorem Registry.update_congr {κ α ε : Type} {r : Registry κ α ε} {o : ObjectId} {f g : α → α}
    (h : ∀ a, r.value? o = some a → f a = g a) : r.update o f = r.update o g := by
  have hcells : (r.update o f).cells = (r.update o g).cells := by
    refine List.ext_getElem? fun o' ↦ ?_
    rw [update, update, cell_modifyCell, cell_modifyCell]
    split
    · next heq =>
      subst heq
      cases hc : r.cells[o]? with
      | none => rfl
      | some c => simp [h c.value (by simp [value?, hc])]
    · rfl
  exact congrArg (fun cells ↦ { r with cells }) hcells

theorem Registry.update_eq_self {κ α ε : Type} {r : Registry κ α ε} {o : ObjectId} {f : α → α}
    (h : ∀ a, r.value? o = some a → f a = a) : r.update o f = r := by
  have hid : r.cells.modify o id = r.cells := List.modify_id ..
  rw [Registry.update_congr (g := id) h]
  exact congrArg (fun cells ↦ { r with cells }) hid

namespace World

variable {w v : World} {o : ObjectId} {key : Key}

/-- A world without the record of what was called and logged. -/
def bare (w : World) : World := w.modifyEnv fun d => { d with trace := [], log := [] }

theorem reading_of_bare {β : Type} (h : bare w = bare v) (read : World → β)
    (hread : ∀ w, read (bare w) = read w) : read w = read v := by
  rw [← hread w, h, hread]

theorem bare_modifyBundle (w : World) (h : Nat) (f : Bundle → Bundle) :
    bare (modifyBundle h f w) = modifyBundle h f (bare w) := rfl

theorem bare_update (w : World) (o : ObjectId) (f : Window → Window) :
    bare (w.update o f) = (bare w).update o f := rfl

theorem update_modifyBundle (w : World) (h : Nat) (f : Bundle → Bundle) (o : ObjectId)
    (g : Window → Window) : (modifyBundle h f w).update o g = modifyBundle h f (w.update o g) := rfl

theorem bare_releaseWatchdog (w : World) : bare (releaseWatchdog w) = bare (releaseWatchdog (bare w)) := by
  unfold releaseWatchdog
  dsimp only
  have hdog : (bare w).env.watchdog = w.env.watchdog := rfl
  rw [hdog]
  split
  · split <;> rfl
  · rfl

theorem bare_discharge (w : World) : bare (discharge w) = bare (discharge (bare w)) :=
  bare_releaseWatchdog (releaseAtlas (releaseAtlas w))

theorem bare_reports (h : Nat) (native : NativeHandle) (errors : List String) (w : World) :
    bare (errors.foldl (fun w e =>
      note (.recovered native e) (modifyHost h (·.reportError e) (call h (.reportError e) w))) w) =
      modifyHost h (fun s => { s with errors := s.errors ++ errors }) (bare w) := by
  induction errors generalizing w with
  | nil =>
    rw [modifyHost, modifyBundle_eq_self (by simp)]
    rfl
  | cons e rest ih =>
    have hstep : bare (note (.recovered native e)
        (modifyHost h (·.reportError e) (call h (.reportError e) w))) =
      modifyHost h (·.reportError e) (bare w) := rfl
    rw [List.foldl_cons, ih, hstep, modifyHost, modifyHost, modifyBundle_modifyBundle]
    simp [Host.reportError, modifyHost]

theorem bare_freeCapture (h : Nat) (native : NativeHandle) (w : World) :
    bare (freeCapture h native w) = modifyHost h (·.uncaptured native) (bare w) := by
  unfold freeCapture
  split
  · next hcapture =>
    have hfreed : bare (modifyHost h .releaseCapture (call h .releaseCapture w)) =
      modifyHost h .releaseCapture (bare w) := rfl
    rw [hfreed]
    refine modifyBundle_congr ?_
    have hbundle : bundle (bare w) h = bundle w h := rfl
    rw [hbundle]
    simp only [Host.uncaptured, Host.releaseCapture]
    rw [if_pos (by exact hcapture)]
  · next hcapture =>
    refine (modifyBundle_eq_self ?_).symm
    have hbundle : bundle (bare w) h = bundle w h := rfl
    rw [hbundle]
    simp only [Host.uncaptured]
    rw [if_neg (by exact hcapture)]

theorem bare_recoverErrors (o : ObjectId) (w : World) : bare (recoverErrors (scripted 0) o w) =
    modifyBundle (window w o).host Bundle.reported (bare w) := by
  unfold recoverErrors
  dsimp only [scripted]
  rw [bare_reports, bundle_call, modifyGui, bare_modifyBundle, modifyHost, modifyBundle_modifyBundle]
  exact modifyBundle_congr rfl

theorem bare_discardFrame (hopen : (window w o).inFrame = true) :
    bare (endFrame (scripted 0) o false w) = modifyBundle (window w o).host Bundle.discarded
      ((bare w).update o fun win => { win with inFrame := false, context := win.context.finish }) := by
  have hreported := bare_recoverErrors o w
  unfold endFrame
  dsimp only
  rw [if_pos hopen, if_neg (by simp)]
  generalize recoverErrors (scripted 0) o w = w₁ at hreported ⊢
  have hwindow : window (bare w₁) o = window w o := by
    rw [hreported]
    rfl
  have hended : bare ((modifyStats (window w o).host (fun s => { s with ended := s.ended + 1 })
      (scripted 0 (window w o).host .endFrame (call (window w o).host (.endFrame (window w o).native)
        (discardFrame o w₁)))).update o fun win => { win with inFrame := false }) =
      modifyStats (window w o).host (fun s => { s with ended := s.ended + 1 })
        (modifyGui (window (bare w₁) o).host (fun g => { g with frames := g.frames + 1 })
          (((bare w₁).update o fun win => { win with context := win.context.finish }).update o
            fun win => { win with inFrame := false })) := rfl
  rw [hended, hwindow, hreported, Registry.update_update, update_modifyBundle, modifyStats, modifyGui,
    modifyBundle_modifyBundle, modifyBundle_modifyBundle]
  rfl

theorem bare_closeFrame (o : ObjectId) (w : World) : bare (closeFrame (scripted 0) o w) =
    modifyBundle (window w o).host (fun b => if (window w o).inFrame then b.discarded else b)
      ((bare w).update o Window.ended) := by
  have hvalue {win : Window} (h : (bare w).value? o = some win) : window w o = win := by
    have hwindow : window w o = ((bare w).value? o).getD default := rfl
    rw [hwindow, h, Option.getD_some]
  unfold closeFrame
  split
  · next hopen =>
    rw [bare_discardFrame hopen]
    refine congrArg _ (Registry.update_congr fun win hwin ↦ ?_)
    rw [Window.ended, if_pos (hvalue hwin ▸ hopen)]
  · next hidle =>
    rw [Registry.update_eq_self fun win hwin ↦ Window.ended_of_idle
      (hvalue hwin ▸ Bool.eq_false_iff.mpr hidle), modifyBundle_eq_self rfl]

def bury (o : ObjectId) (w : World) : World :=
  discharge (modifyBundle (window w o).host (·.bereft (window w o)) (w.update o Window.ended))

theorem bare_dropWindow (o : ObjectId) (w : World) :
    bare (dropWindow (scripted 0) o w) = bare (bury o w) := by
  rw [dropWindow_eq, bury, bare_discharge, bare_discharge (modifyBundle _ _ _)]
  congr 2
  have hleft : bare (closeFrame (scripted 0) o (call (window w o).host
      (.unregisterAccelerator (window w o).native) (unlisten o w))) =
      modifyBundle (window w o).host (fun b => if (window w o).inFrame then b.discarded else b)
        (modifyHost (window w o).host (·.removeAccelerator (window w o).native)
          ((bare w).update o Window.ended)) := bare_closeFrame o _
  generalize closeFrame (scripted 0) o _ = w₁ at hleft ⊢
  have hgone : bare (call (window w o).host .dropContext (modifyStats (window w o).host
      (fun s => { s with dropped := s.dropped + 1 }) (scripted 0 (window w o).host .drop
        (call (window w o).host (.dropBackend (window w o).native)
          (freeCapture (window w o).host (window w o).native w₁))))) =
      modifyStats (window w o).host (fun s => { s with dropped := s.dropped + 1 })
        (bare (freeCapture (window w o).host (window w o).native w₁)) := rfl
  rw [hgone, bare_freeCapture, hleft, bare_modifyBundle, bare_update]
  simp only [modifyStats, modifyHost, modifyBundle_modifyBundle]
  refine congrArg (modifyBundle _ · _) (funext fun b ↦ ?_)
  unfold Bundle.bereft
  split <;> rfl

theorem bare_bury (o : ObjectId) (w : World) : bare (bury o w) = bare (bury o (bare w)) := by
  rw [bury, bare_discharge, bury, bare_discharge (modifyBundle _ _ ((bare w).update _ _))]
  rfl

theorem discharge_modifyBundle {f : Bundle → Bundle}
    (hf : ∀ b t, { f b with host := (f b).host.removeTimer t } = f { b with host := b.host.removeTimer t })
    (w : World) (i : Nat) : discharge (modifyBundle i f w) = modifyBundle i f (discharge w) := by
  have hatlas : releaseAtlas (releaseAtlas (modifyBundle i f w)) =
    modifyBundle i f (releaseAtlas (releaseAtlas w)) := rfl
  rw [discharge, hatlas, discharge]
  generalize releaseAtlas (releaseAtlas w) = w
  unfold releaseWatchdog
  dsimp only
  have hdog : (modifyBundle i f w).env.watchdog = w.env.watchdog := rfl
  rw [hdog]
  split
  · next dog _ =>
    split
    · have hcomm := modifyBundle_comm (call dog.host (.unregisterTimer dog.timer)
        (w.modifyEnv fun d => { d with watchdog := d.watchdog.release })) dog.host i
        (f := fun b => { b with host := b.host.removeTimer dog.timer }) fun b ↦ hf b dog.timer
      exact congrArg (note (.watchdogStopped dog.timer)) hcomm
    · rfl
  · rfl

/-- It is the same for a window whether its native window goes before it or after it. -/
theorem bury_removeView (w : World) (o : ObjectId) (i : Nat) :
    bury o (modifyHost i (·.removeView (window w o).native) w) =
      modifyHost i (·.removeView (window w o).native) (bury o w) := by
  have hcomm : modifyBundle (window w o).host (·.bereft (window w o))
      (modifyHost i (·.removeView (window w o).native) (w.update o Window.ended)) =
      modifyHost i (·.removeView (window w o).native)
        (modifyBundle (window w o).host (·.bereft (window w o)) (w.update o Window.ended)) := by
    refine modifyBundle_comm _ _ _ fun b ↦ ?_
    unfold Bundle.bereft
    dsimp only
    split <;> rfl
  rw [bury, bury, modifyHost, modifyHost, ← discharge_modifyBundle fun _ _ ↦ rfl]
  exact congrArg discharge hcomm

section Calls

variable (w : World) (i : Nat) (native : NativeHandle)

theorem frameCalls_call (h : Nat) (c : Call) : frameCalls (call h c w) i native =
    frameCalls w i native ++ ((TraceEvent.call h c).frameCall? i native).toList := by
  cases hc : (TraceEvent.call h c).frameCall? i native <;>
    simp [frameCalls, call, traced, List.filterMap_append, hc]

theorem frameCalls_recoverErrors (o : ObjectId) :
    frameCalls (recoverErrors (scripted 0) o w) i native = frameCalls w i native := by
  have hother (h : Nat) (c : Call) (hc : c.isFrameCall = false) (w : World) :
      frameCalls (call h c w) i native = frameCalls w i native :=
    frameCalls_of_filter (Unframed.call w h c hc).trace i native
  have hreports (h : Nat) (n : NativeHandle) (errors : List String) (w : World) :
      frameCalls (errors.foldl (fun w e =>
        note (.recovered n e) (modifyHost h (·.reportError e) (call h (.reportError e) w))) w) i native =
        frameCalls w i native := by
    induction errors generalizing w with
    | nil => rfl
    | cons e rest ih => exact (ih _).trans (hother h (.reportError e) rfl w)
  exact (hreports _ _ _ _).trans (hother _ .recover rfl w)

theorem frameCalls_closeFrame (o : ObjectId) : frameCalls (closeFrame (scripted 0) o w) i native =
    frameCalls w i native ++ if (window w o).host = i ∧ (window w o).native = native then
      if (window w o).inFrame then [.finish] else [] else [] := by
  unfold closeFrame
  split
  · next hopen =>
    unfold endFrame
    dsimp only
    rw [if_pos hopen, if_neg (by simp)]
    have hended : frameCalls (Registry.update (modifyStats (window w o).host
        (fun s => { s with ended := s.ended + 1 }) (scripted 0 (window w o).host .endFrame
          (call (window w o).host (.endFrame (window w o).native)
            (discardFrame o (recoverErrors (scripted 0) o w))))) o fun win => { win with inFrame := false })
        i native =
      frameCalls (call (window w o).host (.endFrame (window w o).native)
        (discardFrame o (recoverErrors (scripted 0) o w))) i native := rfl
    have hdiscarded (w : World) : frameCalls (discardFrame o w) i native = frameCalls w i native :=
      frameCalls_of_filter (Unframed.call w (window w o).host .endContextFrame rfl).trace i native
    rw [hended, frameCalls_call, hdiscarded, frameCalls_recoverErrors]
    by_cases hh : (window w o).host = i <;> by_cases hn : (window w o).native = native <;>
      simp [TraceEvent.frameCall?, Call.frameCall?, hh, hn]
  · simp

theorem frameCalls_dropWindow (o : ObjectId) : frameCalls (dropWindow (scripted 0) o w) i native =
    frameCalls w i native ++ if (window w o).host = i ∧ (window w o).native = native then
      (if (window w o).inFrame then [.finish] else []) ++ [.drop] else [] := by
  have hfreed (h : Nat) (n : NativeHandle) (w : World) :
      frameCalls (freeCapture h n w) i native = frameCalls w i native := by
    unfold freeCapture
    split
    · exact frameCalls_of_filter (Unframed.call w h .releaseCapture rfl).trace i native
    · rfl
  have hleft : frameCalls (closeFrame (scripted 0) o (call (window w o).host
      (.unregisterAccelerator (window w o).native) (unlisten o w))) i native = _ :=
    frameCalls_closeFrame _ i native o
  have hcalled : frameCalls (call (window w o).host (.unregisterAccelerator (window w o).native)
      (unlisten o w)) i native = frameCalls w i native :=
    frameCalls_of_filter (Unframed.call (unlisten o w) (window w o).host
      (.unregisterAccelerator (window w o).native) rfl).trace i native
  rw [hcalled] at hleft
  have hgone (w₁ : World) : frameCalls (call (window w o).host .dropContext (modifyStats (window w o).host
      (fun s => { s with dropped := s.dropped + 1 }) (scripted 0 (window w o).host .drop
        (call (window w o).host (.dropBackend (window w o).native)
          (freeCapture (window w o).host (window w o).native w₁))))) i native =
      frameCalls (call (window w o).host (.dropBackend (window w o).native)
        (freeCapture (window w o).host (window w o).native w₁)) i native :=
    frameCalls_of_filter (Unframed.call _ (window w o).host .dropContext rfl).trace i native
  rw [dropWindow_eq, frameCalls_of_filter (Unframed.discharge _).trace, hgone, frameCalls_call, hfreed,
    hleft]
  have hwindow : window (call (window w o).host (.unregisterAccelerator (window w o).native)
    (unlisten o w)) o = window w o := rfl
  rw [hwindow]
  by_cases hh : (window w o).host = i <;> by_cases hn : (window w o).native = native <;>
    simp [TraceEvent.frameCall?, Call.frameCall?, hh, hn]

end Calls

def strike (key : Key) (native : NativeHandle) (w : World) : World :=
  { indexErase native w with entries := w.entries.erase key }

theorem destroy_eq {native : NativeHandle} (key : Key) (o : ObjectId)
    (hlisted : w.env.index.lookup native = some key)
    (hkey : Registry.find? w (some ()) key = some o) :
    destroy (scripted 0) native w = note (.destroyed native)
      (Registry.release (disposal (scripted 0)) o (strike key native w)) := by
  have hfound : Registry.find? (indexErase native w) (some ()) key = some o := hkey
  unfold destroy Registry.unregister
  rw [hlisted]
  dsimp only
  rw [hfound]
  rfl

/-- The window of a native handle, which nobody but the registry owns and whose renderer leaves
messages of destruction alone. -/
structure Doomed (w : World) (key : Key) (o : ObjectId) : Prop where
  quiet : Quiet w
  found : Registry.find? w (some ()) key = some o
  listed : w.env.index.lookup (window w o).native = some key
  owned : w.owners o = 1
  heeded : consumes w o .destroy = false

def departed (key : Key) (o : ObjectId) (w : World) : World :=
  modifyHost (window w o).host (·.removeView (window w o).native)
    (bury o ((strike key (window w o).native w).letGo o))

structure Departs (key : Key) (o : ObjectId) (w w' : World) : Prop where
  state : bare w' = bare (departed key o w)
  calls : ∀ i native, frameCalls w' i native = frameCalls w i native ++
    if (window w o).host = i ∧ (window w o).native = native then
      (if (window w o).inFrame then [.finish] else []) ++ [.drop] else []

namespace Doomed

theorem lt (h : Doomed w key o) : o < w.cells.length :=
  (Registry.isRegistered_of_find? h.found).lt h.quiet.coherent.sound

theorem call (h : Doomed w key o) (i : Nat) (c : Call) (hc : c.isFrameCall = false) :
    Doomed (call i c w) key o :=
  ⟨h.quiet.of_evolves (.call w i c hc), h.found, h.listed, h.owned, h.heeded⟩

theorem find? (h : Doomed w key o) : find? w (window w o).native = some key := by
  have hopen : isOpen w key = true := by simp [isOpen, Registry.contains, h.found]
  rw [World.find?, h.listed, Option.filter_some, if_pos hopen]

theorem dispatch_eq (h : Doomed w key o) :
    (dispatch (scripted 0) (window w o).native .destroy w).2 = note (.destroyed (window w o).native)
      (dropWindow (scripted 0) o ((strike key (window w o).native
        (note (.dispatching .destroy (window w o).native) w)).letGo o)) := by
  have hnoted : Quiet (note (.dispatching .destroy (window w o).native) w) := h.quiet.of_evolves (.note w _)
  have hasked : withWindow (scripted 0) key (fun o w => deliver (scripted 0) o .destroy w)
      (note (.dispatching .destroy (window w o).native) w) =
      (some .destroys, note (.dispatching .destroy (window w o).native) w) := by
    refine hnoted.withWindow_still (by exact h.found) (f := id) ?_
    unfold deliver
    dsimp only [scripted]
    rw [if_neg]
    · rfl
    · exact Bool.eq_false_iff.mp ((consumes_borrow w o .destroy).trans h.heeded)
  have hlast : (strike key (window w o).native
      (note (.dispatching .destroy (window w o).native) w)).cells[o]?.any (·.owners ≤ 1) = true :=
    (Registry.any_owners_le_one h.lt).mpr h.owned.le
  unfold dispatch
  rw [h.find?]
  dsimp only
  rw [hasked]
  dsimp only
  rw [destroy_eq key o (by exact h.listed) (by exact h.found), Registry.release_eq,
    if_pos (by exact hlast)]
  rfl

theorem destroyNative (h : Doomed w key o)
    (hwindow : (host w (window w o).host).isWindow (window w o).native = true) :
    Departs key o w (destroyNative (scripted 0) (window w o).host (window w o).native w) := by
  have hstruck : window ((strike key (window w o).native
      (note (.dispatching .destroy (window w o).native) w)).letGo o) o = window w o := window_letGo ..
  unfold World.destroyNative
  rw [if_pos hwindow, h.dispatch_eq]
  refine ⟨?_, fun i native ↦ ?_⟩
  · rw [departed, modifyHost, modifyHost, bare_modifyBundle, bare_modifyBundle]
    refine congrArg _ ((bare_dropWindow o _).trans ((bare_bury o _).trans ?_))
    exact (bare_bury o ((strike key (window w o).native w).letGo o)).symm
  · refine (frameCalls_dropWindow _ i native o).trans ?_
    rw [hstruck]
    rfl

theorem dispatch_borrowed (h : Doomed w key o) :
    let w₁ := (dispatch (scripted 0) (window w o).native .destroy (w.borrow o)).2
    bare w₁ = bare ((strike key (window w o).native (w.borrow o)).letGo o) ∧
      w₁.env.trace = w.env.trace := by
  have hreg := Registry.isRegistered_of_find? h.found
  have hbusy : (w.borrow o).isBorrowed o = true := by
    rw [Registry.isBorrowed_borrow h.quiet.coherent.sound hreg, if_pos rfl]
  have hfind : World.find? (w.borrow o) (window w o).native = some key := h.find?
  have howned : (w.borrow o).cells[o]?.any (·.owners ≤ 1) = false := by
    rw [Bool.eq_false_iff, ne_eq, Registry.any_owners_le_one (by simpa using h.lt), Registry.borrow,
      Registry.owners_setBorrowed, Registry.owners_retain _ _ _ h.lt, h.owned, if_pos rfl]
    omega
  unfold dispatch
  rw [hfind]
  dsimp only
  rw [withWindow_busy _ (by exact h.found) (by exact hbusy)]
  dsimp only
  rw [if_pos rfl, destroy_eq key o (by exact h.listed) (by exact h.found),
    Registry.release_eq, if_neg]
  · exact ⟨rfl, rfl⟩
  · exact Bool.eq_false_iff.mp howned

/-- The native window is destroyed while a call is at work on the window, which goes with the call. -/
theorem destroyNative_borrowed (h : Doomed w key o)
    (hwindow : (host w (window w o).host).isWindow (window w o).native = true) :
    Departs key o w (withWindow (scripted 0) key (fun _ w' =>
      ((), World.destroyNative (scripted 0) (window w o).host (window w o).native w')) w).2 := by
  have hletGo : window ((strike key (window w o).native w).letGo o) o = window w o := window_letGo ..
  have hgone := bury_removeView ((strike key (window w o).native w).letGo o) o (window w o).host
  obtain ⟨hstruck, htrace⟩ := h.dispatch_borrowed
  rw [h.quiet.withWindow_eq h.found]
  dsimp only
  unfold World.destroyNative
  rw [if_pos (by exact hwindow)]
  generalize (dispatch (scripted 0) (window w o).native .destroy (w.borrow o)).2 = w₁ at hstruck htrace ⊢
  -- the registry let go of the window, and now the call gives it back
  generalize hback : ((modifyHost (window w o).host (·.removeView (window w o).native) w₁).setBorrowed o
    false : World) = w₂
  have hbare : bare w₂ = modifyHost (window w o).host (·.removeView (window w o).native)
      (bare (strike key (window w o).native w)) := by
    have hgiven : bare w₂ = modifyHost (window w o).host (·.removeView (window w o).native)
        ((bare w₁).setBorrowed o false) := by
      rw [← hback]
      rfl
    have hheld : bare ((strike key (window w o).native (w.borrow o)).letGo o) =
      ((bare (strike key (window w o).native w)).borrow o).letGo o := rfl
    rw [hgiven, hstruck, hheld, Registry.setBorrowed_letGo,
      Registry.letGo_borrow (by exact h.quiet.free h.lt) (by exact h.owned.ge)]
  have hcells : (bare w₂).cells = w.cells := by
    rw [hbare]
    rfl
  have hlast : w₂.cells[o]?.any (·.owners ≤ 1) = true := by
    rw [show w₂.cells = w.cells from hcells]
    exact (Registry.any_owners_le_one h.lt).mpr h.owned.le
  rw [Registry.release_eq, if_pos hlast]
  refine ⟨(bare_dropWindow o _).trans ((bare_bury o _).trans ?_), fun i native ↦ ?_⟩
  · have hbare' : bare (w₂.letGo o) = (bare w₂).letGo o := rfl
    rw [hletGo] at hgone
    rw [hbare', hbare]
    exact (bare_bury o _).symm.trans (congrArg bare hgone)
  · have hwindow' : window (w₂.letGo o) o = window w o := by
      rw [window_letGo]
      exact window_eq_of_value? (by rw [Registry.value?, Registry.value?, show w₂.cells = w.cells from hcells])
    have hcalls : frameCalls (w₂.letGo o) i native = frameCalls w i native := by
      have hsame : (w₂.letGo o).env.trace = w₁.env.trace := by
        rw [← hback]
        rfl
      rw [frameCalls, hsame, htrace, frameCalls]
    refine (frameCalls_dropWindow (w₂.letGo o) i native o).trans ?_
    rw [hwindow', hcalls]

theorem closeWindow (h : Doomed w key o) (hdefers : (bundle w (window w o).host).defers = false) :
    closeWindow (scripted 0) key w = (true, World.destroyNative (scripted 0) (window w o).host
      (window w o).native (World.call (window w o).host (.destroyWindow (window w o).native) w)) := by
  have hasked : withWindow (scripted 0) key
      (fun o w => (((window w o).host, (window w o).native), w)) w =
      (some ((window w o).host, (window w o).native), w) := by
    refine h.quiet.withWindow_still h.found (f := id) ?_
    rw [window_borrow]
    rfl
  unfold World.closeWindow
  rw [hasked]
  dsimp only
  rw [requestDestroy, if_neg]
  exact Bool.eq_false_iff.mp hdefers

end Doomed

theorem Departs.of_call {w' : World} {i : Nat} {c : Call} (h : Departs key o (call i c w) w')
    (hc : c.isFrameCall = false) : Departs key o w w' where
  state := by
    rw [h.state, departed, departed, modifyHost, modifyHost, bare_modifyBundle, bare_modifyBundle]
    refine congrArg _ ((bare_bury o _).trans ?_)
    exact (bare_bury o ((strike key (window w o).native w).letGo o)).symm
  calls j native := by
    rw [h.calls, frameCalls_of_filter (Unframed.call w i c hc).trace]
    rfl

section Departed

variable (key : Key) (o : ObjectId) (w : World)

theorem sameWindows_departed : SameWindows (((strike key (window w o).native w).letGo o).update o
    Window.ended) (departed key o w) := by
  obtain ⟨hentries, hcells, hdropped⟩ := (Steady.discharge (modifyBundle (window w o).host
    (·.bereft (window w o)) (((strike key (window w o).native w).letGo o).update o Window.ended))).same
  have hwindow : window ((strike key (window w o).native w).letGo o) o = window w o := window_letGo ..
  rw [departed, bury, hwindow]
  exact ⟨hentries, hcells, hdropped⟩

theorem find?_departed (key' : Key) : Registry.find? (departed key o w) (some ()) key' =
    if key' = key then none else Registry.find? w (some ()) key' := by
  have hentries : (departed key o w).entries = w.entries.erase key := (sameWindows_departed key o w).entries
  rw [Registry.find?_unit, Registry.find?_unit, hentries, SlotMap.get?_erase]
  split <;> rfl

theorem window_departed (ho : o < w.cells.length) (o' : ObjectId) :
    window (departed key o w) o' = if o = o' then (window w o').ended else window w o' := by
  have hstruck (o' : ObjectId) : window ((strike key (window w o).native w).letGo o) o' = window w o' :=
    window_letGo ..
  rw [(sameWindows_departed key o w).window, window_update _ _ _ _ (by rw [Registry.length_letGo]; exact ho),
    hstruck]

theorem index_departed : (departed key o w).env.index =
    w.env.index.filter (·.1 ≠ (window w o).native) :=
  (Steady.discharge _).index

theorem reading_departed {β : Type} (hh : (window w o).host < w.env.bundles.length) (read : Bundle → β)
    (hread : ∀ (b : Bundle) t, read { b with host := b.host.removeTimer t } = read b) :
    read (bundle (departed key o w) (window w o).host) =
      read { (bundle w (window w o).host).bereft (window w o) with
        host := ((bundle w (window w o).host).bereft (window w o)).host.removeView (window w o).native } := by
  have hwindow : window ((strike key (window w o).native w).letGo o) o = window w o := window_letGo ..
  have hburied : bury o ((strike key (window w o).native w).letGo o) =
      discharge (modifyBundle (window w o).host (·.bereft (window w o))
        (((strike key (window w o).native w).letGo o).update o Window.ended)) := by
    rw [bury, hwindow]
  have hbereft := bundle_modifyBundle (((strike key (window w o).native w).letGo o).update o Window.ended)
    (window w o).host (window w o).host (·.bereft (window w o)) (by exact hh)
  rw [if_pos rfl] at hbereft
  rw [departed, modifyHost, hburied, bundle_modifyBundle, if_pos rfl]
  · refine (reading_releaseWatchdog _ _ (fun b ↦ read
      { b with host := b.host.removeView (window w o).native }) fun b t ↦
        hread { b with host := b.host.removeView (window w o).native } t).trans ?_
    rw [bundle_releaseAtlas, bundle_releaseAtlas, hbereft]
    rfl
  · rw [(Steady.discharge _).hosts, length_bundles_modifyBundle]
    exact hh

end Departed

/-- A window of the only host has gone with its native window, once and for all, and the others are as
they were. -/
structure Ends (key : Key) (o : ObjectId) (w w' : World) : Prop where
  unregistered : Registry.find? w' (some ()) key = none
  unlisted : w'.env.index.lookup (window w o).native = none
  unseated : (host w' 0).isWindow (window w o).native = false
  unheard : (host w' 0).hasAccelerator (window w o).native = false
  uncaptured : (host w' 0).capture ≠ some (window w o).native
  dropped : (bundle w' 0).stats.dropped = (bundle w 0).stats.dropped + 1
  ended : (bundle w' 0).stats.ended = (bundle w 0).stats.ended + if (window w o).inFrame then 1 else 0
  presented : (bundle w' 0).stats.presented = (bundle w 0).stats.presented
  calls : ∀ native, frameCalls w' 0 native = frameCalls w 0 native ++
    if (window w o).native = native then (if (window w o).inFrame then [.finish] else []) ++ [.drop] else []
  others : ∀ key' o', key' ≠ key → Registry.find? w (some ()) key' = some o' →
    Registry.find? w' (some ()) key' = some o' ∧ window w' o' = window w o' ∧
    w'.env.index.lookup (window w o').native = some key' ∧
    (host w' 0).view? (window w o').native = (host w 0).view? (window w o').native ∧
    (host w' 0).hasAccelerator (window w o').native = (host w 0).hasAccelerator (window w o').native

section Ends

variable {w' : World} (h : Departs key o w w') (hw : DeskInStep w)
  (hkey : Registry.find? w (some ()) key = some o)

include h

theorem Departs.find?_eq (key' : Key) : Registry.find? w' (some ()) key' =
    if key' = key then none else Registry.find? w (some ()) key' :=
  (reading_of_bare h.state (Registry.find? · (some ()) key') fun _ ↦ rfl).trans
    (find?_departed key o w key')

theorem Departs.lookup_eq (native : NativeHandle) : w'.env.index.lookup native =
    if native = (window w o).native then none else w.env.index.lookup native := by
  rw [reading_of_bare h.state (·.env.index) fun _ ↦ rfl, index_departed, lookup_filter_ne]

include hw hkey

theorem Departs.reading {β : Type} (read : Bundle → β)
    (hread : ∀ (b : Bundle) t, read { b with host := b.host.removeTimer t } = read b) :
    read (bundle w' 0) = read { (bundle w 0).bereft (window w o) with
      host := ((bundle w 0).bereft (window w o)).host.removeView (window w o).native } := by
  have hhost := hw.sited.host_eq_zero hw.quiet hkey
  have hdeparted := reading_departed key o w (by rw [hhost, hw.one]; exact Nat.one_pos) read hread
  rw [hhost] at hdeparted
  exact (reading_of_bare h.state (fun w ↦ read (bundle w 0)) fun _ ↦ rfl).trans hdeparted

theorem Departs.others {key' : Key} {o' : ObjectId} (hne : key' ≠ key)
    (hkey' : Registry.find? w (some ()) key' = some o') :
    Registry.find? w' (some ()) key' = some o' ∧ window w' o' = window w o' ∧
    w'.env.index.lookup (window w o').native = some key' ∧
    (host w' 0).view? (window w o').native = (host w 0).view? (window w o').native ∧
    (host w' 0).hasAccelerator (window w o').native = (host w 0).hasAccelerator (window w o').native := by
  have hlt := (Registry.isRegistered_of_find? hkey).lt hw.quiet.coherent.sound
  have hother : (window w o').native ≠ (window w o).native := fun heq ↦ by
    have hlisted := hw.indexed.isListed key' o' hkey'
    rw [heq, hw.indexed.isListed key o hkey] at hlisted
    exact hne (Option.some.inj hlisted).symm
  have ho' : o ≠ o' := by
    rintro rfl
    exact hother rfl
  refine ⟨(h.find?_eq key').trans ((if_neg hne).trans hkey'), ?_, ?_, ?_, ?_⟩
  · rw [reading_of_bare h.state (window · o') fun _ ↦ rfl, window_departed key o w hlt, if_neg ho']
  · rw [h.lookup_eq, if_neg hother]
    exact hw.indexed.isListed key' o' hkey'
  · have hviews := Bundle.views_bereft (window w o) (bundle w 0)
    have hroot : ∀ seat ∈ ((bundle w 0).bereft (window w o)).host.seats,
        seat.1 = (window w o').native → seat.2 = none := by
      rw [Host.seats, hviews]
      exact hw.sited.rooted hkey'
    rw [host, h.reading hw hkey (·.host.view? (window w o').native) fun _ _ ↦ rfl]
    dsimp only
    rw [Host.view?_removeView hother hroot, Host.view?, hviews]
    rfl
  · rw [host, h.reading hw hkey (·.host.hasAccelerator (window w o').native) fun _ _ ↦ rfl]
    simp [Host.hasAccelerator, Host.removeView, Bundle.accelerators_bereft, hother, host]

theorem Departs.ends : Ends key o w w' := by
  have hstats := h.reading hw hkey (·.stats) fun _ _ ↦ rfl
  rw [Bundle.stats_bereft] at hstats
  exact
    { unregistered := (h.find?_eq key).trans (if_pos rfl)
      unlisted := (h.lookup_eq _).trans (if_pos rfl)
      unseated := by
        rw [host, h.reading hw hkey (·.host.isWindow (window w o).native) fun _ _ ↦ rfl]
        exact Host.isWindow_removeView ..
      unheard := by
        rw [host, h.reading hw hkey (·.host.hasAccelerator (window w o).native) fun _ _ ↦ rfl]
        simp [Host.hasAccelerator, Host.removeView, Bundle.accelerators_bereft]
      uncaptured := by
        rw [host, h.reading hw hkey (·.host.capture) fun _ _ ↦ rfl]
        exact Host.capture_removeView _ _
      dropped := congrArg (·.dropped) hstats
      ended := congrArg (·.ended) hstats
      presented := congrArg (·.presented) hstats
      calls := fun native ↦ by
        rw [h.calls, hw.sited.host_eq_zero hw.quiet hkey]
        simp
      others := fun _ _ hne hkey' ↦ h.others hw hkey hne hkey' }

end Ends

theorem DeskInStep.doomed (hw : DeskInStep w) (hrest : AtRest w)
    (hkey : Registry.find? w (some ()) key = some o)
    (hheeded : consumes w o .destroy = false) : Doomed w key o where
  quiet := hw.quiet
  found := hkey
  listed := hw.indexed.isListed key o hkey
  owned := by
    have hreg := Registry.isRegistered_of_find? hkey
    rw [Registry.holders_of_isRegistered hw.quiet.coherent.sound hreg,
      hrest.unheld (hreg.lt hw.quiet.coherent.sound)]
  heeded := hheeded

theorem destroyNative_eq_self {i : Nat} {native : NativeHandle}
    (hwindow : (host w i).isWindow native = false) : destroyNative (scripted 0) i native w = w := by
  simp [destroyNative, hwindow]

theorem PromptDesk.destructible (hw : PromptDesk w)
    (hkey : Registry.find? w (some ()) key = some o) :
    (bundle w 0).defers = false ∧ consumes w o .destroy = false ∧
      (host w 0).isWindow (window w o).native = true := by
  refine ⟨hw.prompt.atOnce, ?_, ?_⟩
  · rw [consumes, hw.host_eq_zero hkey]
    exact hw.prompt.left
  · exact Host.isWindow_iff.mpr ⟨_, hw.prompt.seated (Registry.isRegistered_of_find? hkey), rfl⟩

/-- After every script on one host, however its calls are nested, and for every window: if the host
destroys at once and the renderer leaves messages of destruction alone, it makes no difference to the
state of the world whether the window is closed, its native window is destroyed, or that happens while
a call is at work on the window. If the native window is still there, the window comes to its end.
All of this is so if the script was not nested and never had messages of destruction kept or
destruction deferred. -/
theorem destruction_paths_agree (setup : HostSetup) (steps : List Step) (key : Key) (o : ObjectId)
    (hkey : Registry.find? (Session.run [setup] steps).2 (some ()) key = some o) :
    let w := (Session.run [setup] steps).2
    let native := (window w o).native
    let closed := closeWindow (scripted 0) key w
    let destroyed := destroyNative (scripted 0) 0 native w
    let borrowed := withWindow (scripted 0) key (fun _ w => ((), destroyNative (scripted 0) 0 native w)) w
    ((bundle w 0).defers = false → consumes w o .destroy = false →
      closed.1 = true ∧ borrowed.1 = some () ∧
      bare closed.2 = bare destroyed ∧ bare borrowed.2 = bare destroyed ∧
      ((host w 0).isWindow native = true → ∀ w' ∈ [closed.2, destroyed, borrowed.2], Ends key o w w')) ∧
    ((∀ s ∈ steps, s.isFlat = true ∧ s.isPrompt = true) →
      (bundle w 0).defers = false ∧ consumes w o .destroy = false ∧ (host w 0).isWindow native = true) := by
  intro w native closed destroyed borrowed
  have hevolves : Evolves (fun _ ↦ True) none (World.empty [setup]) w :=
    .run _ _ (Step.usesAll_of_forall (fun _ ↦ trivial) steps)
  have hw : DeskInStep w := (deskInStep_empty setup).of_evolves hevolves
  have hrest : AtRest w :=
    (atRest_empty [setup]).of_follows (hevolves.lawful (coherent_empty [setup]) (by simp)).2
  have hhost : (window w o).host = 0 := hw.sited.host_eq_zero hw.quiet hkey
  refine ⟨fun hdefers hheeded ↦ ?_, fun hsteps ↦ ?_⟩
  · have hdoomed : Doomed w key o := hw.doomed hrest hkey hheeded
    have hclosed : closed = _ := hdoomed.closeWindow (by rwa [hhost])
    rw [hhost] at hclosed
    have hasked : borrowed.1 = some () := by
      dsimp only [borrowed]
      rw [hw.quiet.withWindow_eq hkey]
    cases hwindow : (host w 0).isWindow native with
    | true =>
      have hd : Departs key o w destroyed := by
        have hgone := hdoomed.destroyNative (by rwa [hhost])
        rwa [hhost] at hgone
      have hb : Departs key o w borrowed.2 := by
        have hgone := hdoomed.destroyNative_borrowed (by rwa [hhost])
        rwa [hhost] at hgone
      have hc : Departs key o w closed.2 := by
        have hgone := (hdoomed.call 0 (.destroyWindow native) rfl).destroyNative (by
          rw [show (window (call 0 (.destroyWindow native) w) o).host = 0 from hhost]
          exact hwindow)
        rw [show (window (call 0 (.destroyWindow native) w) o).host = 0 from hhost] at hgone
        rw [hclosed]
        exact hgone.of_call rfl
      refine ⟨by rw [hclosed], hasked, hc.state.trans hd.state.symm, hb.state.trans hd.state.symm,
        fun _ w' hw' ↦ ?_⟩
      have hw'' : Departs key o w w' := by
        simp only [List.mem_cons, List.not_mem_nil, or_false] at hw'
        rcases hw' with rfl | rfl | rfl
        · exact hc
        · exact hd
        · exact hb
      exact hw''.ends hw hkey
    | false =>
      have hd : destroyed = w := destroyNative_eq_self hwindow
      have hc : closed.2 = call 0 (.destroyWindow native) w := by
        rw [hclosed]
        exact destroyNative_eq_self hwindow
      have hb : borrowed = (some (), w) := hw.quiet.withWindow_still hkey (f := id)
        (congrArg ((), ·) (destroyNative_eq_self (by exact hwindow)))
      refine ⟨by rw [hclosed], hasked, ?_, ?_, fun h ↦ by cases h⟩
      · rw [hc, hd]
        rfl
      · rw [hb, hd]
  · have hdesk : PromptDesk w := by
      have hrun : w = _ := run_of_isFlat [setup] fun s hs ↦ (hsteps s hs).1
      exact hrun ▸ (promptDesk_empty setup).runSteps hsteps
    exact hdesk.destructible hkey

/-- A window with an open frame and the capture, beside another. -/
theorem destruction_paths_agree_beside :
    let steps : List Step := [.openWindow 0 {} "a" 0 0 10 10, .openWindow 0 {} "b" 0 0 10 10,
      .window (.slot 0) .enterFrame, .dispatch (.slot 0) (.buttonDown .left)]
    let w := (Session.run [{}] steps).2
    let closed := closeWindow (scripted 0) ⟨1, 1⟩ w
    let borrowed := withWindow (scripted 0) ⟨1, 1⟩ (fun _ w => ((), destroyNative (scripted 0) 0 ⟨1⟩ w)) w
    (host w 0).capture = some ⟨1⟩ ∧ (window w 0).inFrame = true ∧ closed.1 = true ∧
      bare borrowed.2 = bare closed.2 ∧ Ends ⟨1, 1⟩ 0 w closed.2 ∧ Ends ⟨1, 1⟩ 0 w borrowed.2 := by
  intro steps w closed borrowed
  have hsteps : ∀ s ∈ steps, s.isFlat = true ∧ s.isPrompt = true := by decide
  have hkey : Registry.find? w (some ()) ⟨1, 1⟩ = some 0 := by decide +kernel
  have hnative : (window w 0).native = ⟨1⟩ := by decide +kernel
  obtain ⟨hagree, hplain⟩ := destruction_paths_agree {} steps ⟨1, 1⟩ 0 hkey
  obtain ⟨hdefers, hheeded, hwindow⟩ := hplain hsteps
  obtain ⟨hclosed, -, hc, hb, hends⟩ := hagree hdefers hheeded
  have hends := hends hwindow
  rw [hnative] at hc hb hends
  refine ⟨by decide +kernel, by decide +kernel, hclosed, hb.trans hc.symm, hends _ ?_, hends _ ?_⟩
  · exact List.mem_cons_self
  · exact List.mem_cons_of_mem _ (List.mem_cons_of_mem _ List.mem_cons_self)

/-- A renderer that keeps messages of destruction keeps its window from being closed, but not from being
destroyed while a call is at work on it. -/
theorem kept_destruction_differs :
    let w := (Session.run [{}] [.openWindow 0 {} "a" 0 0 10 10, .host 0 (.consume [.destroy])]).2
    let closed := closeWindow (scripted 0) ⟨1, 1⟩ w
    let borrowed := withWindow (scripted 0) ⟨1, 1⟩ (fun _ w => ((), destroyNative (scripted 0) 0 ⟨1⟩ w)) w
    isOpen w ⟨1, 1⟩ = true ∧ closed.1 = true ∧ isOpen closed.2 ⟨1, 1⟩ = true ∧
      isOpen borrowed.2 ⟨1, 1⟩ = false := by
  decide +kernel

end World

end Casement
