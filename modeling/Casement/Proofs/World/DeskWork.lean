import Casement.Proofs.World.Places

namespace Casement

def Bundle.dues (b : Bundle) : List (HookPoint × List Step) × List View × List String × List String × List String :=
  (b.hooks, b.host.views, b.host.errors, b.gui.pendingErrors, b.gui.injected)

def Desk.holdings (d : Desk) : List Bundle × List TraceEvent × Nat := (d.bundles, d.trace, d.keptWatchdogs)

namespace World

def settle (h : Nat) (native : NativeHandle) (w : World) : World :=
  (bundle w h).gui.pendingErrors.foldl (fun w e =>
    note (.recovered native e) (modifyHost h (·.reportError e) (call h (.reportError e) w)))
    (modifyGui h (fun g => { g with pendingErrors := [] }) w)

theorem recoverErrors_eq (k : Reentry) (o : ObjectId) (w : World) :
    recoverErrors k o w = settle (window w o).host (window w o).native
      (k (window w o).host .recover (call (window w o).host .recover w)) := rfl

theorem reading_settle {β : Type} (w : World) (i : Nat) (native : NativeHandle) (j : Nat) (read : Bundle → β)
    (hreport : ∀ (b : Bundle) e, read { b with host := b.host.reportError e } = read b)
    (hclear : ∀ b : Bundle, read { b with gui := { b.gui with pendingErrors := [] } } = read b) :
    read (bundle (settle i native w) j) = read (bundle w j) := by
  refine Eq.trans ?_ (reading_modifyBundle w i j read _ hclear)
  unfold settle modifyGui
  generalize World.modifyBundle i _ w = w₁
  induction (bundle w i).gui.pendingErrors generalizing w₁ with
  | nil => rfl
  | cons e errors ih =>
    refine (ih _).trans ?_
    exact reading_modifyBundle (call i (.reportError e) w₁) i j read _ fun b ↦ hreport b e

/-- The relation `R` does not see windows, and it allows the small changes of the desk that calls are
made of, `k` being what happens at callbacks. -/
structure DeskWork (k : Reentry) (R : World → World → Prop) : Prop where
  same : ∀ {w w' : World}, w'.env.holdings = w.env.holdings → R w w'
  trans : ∀ {w₁ w₂ w₃}, R w₁ w₂ → R w₂ w₃ → R w₁ w₃
  reentry : ∀ h p w, R w (k h p w)
  call : ∀ w h (c : Call), c.isReport = false → R w (call h c w)
  modifyBundle : ∀ w h (f : Bundle → Bundle), (∀ b, (f b).dues = b.dues) → R w (modifyBundle h f w)
  removeView : ∀ w h native, R w (modifyHost h (·.removeView native) w)
  settle : ∀ w h native, R w (settle h native w)

namespace DeskWork

variable {k : Reentry} {R : World → World → Prop} (hr : DeskWork k R) (w : World) (o : ObjectId)

include hr

theorem refl : R w w := hr.same rfl

omit w o in
theorem after_same {w w' w'' : World} (h : R w' w'') (hsame : w'.env.holdings = w.env.holdings) : R w w'' :=
  hr.trans (hr.same hsame) h

theorem note (r : LogRecord) : R w (note r w) := hr.same rfl

theorem modifyStats (i : Nat) (f : RenderStats → RenderStats) : R w (modifyStats i f w) :=
  hr.modifyBundle w i _ fun _ ↦ rfl

theorem modifyHost (i : Nat) (f : Host → Host) (hf : ∀ s, (f s).views = s.views ∧ (f s).errors = s.errors) :
    R w (modifyHost i f w) := hr.modifyBundle w i _ fun b ↦ by simp [Bundle.dues, hf]

theorem modifyGui (i : Nat) (f : GuiState → GuiState)
    (hf : ∀ g, (f g).pendingErrors = g.pendingErrors ∧ (f g).injected = g.injected) :
    R w (modifyGui i f w) := hr.modifyBundle w i _ fun b ↦ by simp [Bundle.dues, hf]

theorem update (f : Window → Window) : R w (w.update o f) := hr.same rfl

theorem acquireAtlas : R w (acquireAtlas w) := by
  unfold World.acquireAtlas
  split <;> exact hr.same rfl

theorem releaseAtlas : R w (releaseAtlas w) := hr.same rfl

theorem acquireWatchdog (i : Nat) : R w (acquireWatchdog i w) := by
  unfold World.acquireWatchdog
  split
  · exact hr.same rfl
  · have hcalled := hr.trans (hr.modifyHost w i .addTimer fun _ ↦ ⟨rfl, rfl⟩)
      (hr.call _ i (.registerTimer (host w i).freshTimer) rfl)
    exact hr.trans hcalled (hr.same rfl)

theorem releaseWatchdog : R w (releaseWatchdog w) := by
  have hlet : R w (w.modifyEnv fun d => { d with watchdog := d.watchdog.release }) :=
    hr.same rfl
  unfold World.releaseWatchdog
  dsimp only
  split
  · split
    · refine hr.trans hlet (hr.trans ?_ (hr.note _ _))
      exact hr.trans (hr.call _ _ _ rfl) (hr.modifyHost _ _ _ fun _ ↦ ⟨rfl, rfl⟩)
    · exact hlet
  · exact hlet

theorem equip (i : Nat) : R w (equip i w) :=
  hr.trans (hr.acquireWatchdog w i) (hr.trans (hr.acquireAtlas _) (hr.acquireAtlas _))

theorem discharge : R w (discharge w) :=
  hr.trans (hr.releaseAtlas w) (hr.trans (hr.releaseAtlas _) (hr.releaseWatchdog _))

theorem setCapture (i : Nat) (native : NativeHandle) : R w (World.modifyHost i (·.setCapture native) w) :=
  hr.modifyHost w i _ fun _ ↦ ⟨rfl, rfl⟩

theorem releaseCapture (i : Nat) : R w (World.modifyHost i .releaseCapture w) :=
  hr.modifyHost w i _ fun _ ↦ ⟨rfl, rfl⟩

theorem mouseDown (button : MouseButton) : R w (mouseDown o button w) := by
  unfold World.mouseDown
  dsimp only
  refine hr.trans ?_ (hr.update _ o _)
  split
  · exact hr.trans (hr.call w _ _ rfl) (hr.setCapture _ _ _)
  · exact hr.refl w

theorem mouseUp (button : MouseButton) : R w (mouseUp o button w) := by
  have hup : R w (w.update o fun win => { win with buttons := win.buttons.release button }) :=
    hr.update w o _
  unfold World.mouseUp
  dsimp only
  split
  · exact hr.trans hup (hr.trans (hr.call _ _ _ rfl) (hr.releaseCapture _ _))
  · exact hup

theorem freeCapture (i : Nat) (native : NativeHandle) : R w (freeCapture i native w) := by
  unfold World.freeCapture
  split
  · exact hr.trans (hr.call w _ _ rfl) (hr.releaseCapture _ _)
  · exact hr.refl w

theorem renderFrame : R w (renderFrame o w).2 := by
  unfold World.renderFrame
  dsimp only
  refine hr.trans ?_ (hr.modifyGui _ _ _ fun _ ↦ ⟨rfl, rfl⟩)
  exact hr.trans (hr.call w _ _ rfl) (hr.update _ o _)

theorem discardFrame : R w (discardFrame o w) := by
  unfold World.discardFrame
  refine hr.trans ?_ (hr.modifyGui _ _ _ fun _ ↦ ⟨rfl, rfl⟩)
  exact hr.trans (hr.call w _ _ rfl) (hr.update _ o _)

theorem newFrame : R w (newFrame k o w).2 := by
  have hcall := hr.trans (hr.call w (window w o).host .newFrame rfl) (hr.reentry (window w o).host .newFrame _)
  unfold World.newFrame
  dsimp only
  split
  · exact hcall
  · exact hr.trans hcall (hr.update _ o fun win => { win with context := win.context.begin _ })

theorem beginFrame : R w (beginFrame k o w).2 := by
  unfold World.beginFrame
  refine hr.trans ?_ (hr.newFrame _ o)
  refine hr.trans ?_ (hr.update _ o _)
  refine hr.trans ?_ (hr.modifyStats _ _ _)
  refine hr.trans ?_ (hr.reentry _ _ _)
  exact hr.trans (hr.update w o _) (hr.call _ _ _ rfl)

theorem presentFrame : R w (presentFrame k o w) := by
  unfold World.presentFrame
  refine hr.trans ?_ (hr.modifyStats _ _ _)
  refine hr.trans ?_ (hr.reentry _ _ _)
  exact hr.trans (hr.renderFrame w o) (hr.call _ _ _ rfl)

theorem recoverErrors : R w (recoverErrors k o w) := by
  rw [recoverErrors_eq]
  refine hr.trans ?_ (hr.settle _ _ _)
  exact hr.trans (hr.call w _ _ rfl) (hr.reentry _ _ _)

/-- An open frame ends in two parts: the errors are recovered, and the rest follows. -/
theorem endFrame_recovered (render : Bool) (hopen : (window w o).inFrame = true) :
    R (World.recoverErrors k o w) (endFrame k o render w) := by
  unfold World.endFrame
  dsimp only
  rw [if_pos hopen]
  refine hr.trans ?_ (hr.update _ o _)
  refine hr.trans ?_ (hr.modifyStats _ _ _)
  refine hr.trans ?_ (hr.reentry _ _ _)
  refine hr.trans ?_ (hr.call _ _ _ rfl)
  split
  · exact hr.presentFrame _ o
  · exact hr.discardFrame _ o

theorem endFrame (render : Bool) (hopen : (window w o).inFrame = true) : R w (endFrame k o render w) :=
  hr.trans (hr.recoverErrors w o) (hr.endFrame_recovered w o render hopen)

theorem closeFrame : R w (closeFrame k o w) := by
  unfold World.closeFrame
  split
  · next hopen => exact hr.endFrame w o false hopen
  · exact hr.refl w

theorem dropWindow : R w (dropWindow k o w) := by
  rw [dropWindow_eq]
  dsimp only
  refine hr.trans ?_ (hr.discharge _)
  refine hr.trans ?_ (hr.call _ _ _ rfl)
  refine hr.trans ?_ (hr.modifyStats _ _ _)
  refine hr.trans ?_ (hr.reentry _ _ _)
  refine hr.trans ?_ (hr.call _ _ _ rfl)
  refine hr.trans ?_ (hr.freeCapture _ _ _)
  refine hr.trans ?_ (hr.closeFrame _ o)
  refine hr.trans ?_ (hr.call _ _ _ rfl)
  exact hr.modifyHost w _ _ fun _ ↦ ⟨rfl, rfl⟩

theorem release : R w (w.release (disposal k) o) := by
  rw [Registry.release_eq]
  split
  · exact hr.after_same (hr.dropWindow (w.letGo o) o) rfl
  · exact hr.same rfl

theorem unregister (key : Key) : R w (w.unregister (disposal k) () key).2 := by
  unfold Registry.unregister
  split
  · next o _ => exact hr.after_same (hr.release { w with entries := w.entries.erase key } o) rfl
  · exact hr.refl w

theorem destroy (native : NativeHandle) : R w (destroy k native w) := by
  unfold World.destroy
  split
  · exact hr.refl w
  · next key _ =>
    have hleft : R w ((indexErase native w).unregister (disposal k) () key).2 :=
      hr.after_same (hr.unregister (indexErase native w) key) rfl
    dsimp only
    split
    · exact hr.trans hleft (hr.note _ _)
    · exact hleft

theorem hold {w₂ w₃ : World} (hbody : R (w.borrow o) w₂) (hafter : R (w₂.setBorrowed o false) w₃) :
    R w (w₃.release (disposal k) o) := by
  have hlast : R w₂ (w₃.release (disposal k) o) :=
    hr.after_same (hr.trans hafter (hr.release w₃ o)) rfl
  exact hr.after_same (hr.trans hbody hlast) rfl

omit w o in
theorem calls {ok : WindowStep → Prop} {may : HostStep → Prop}
    (hresolves : ∀ n native, may (.setCapture (.slot n)) → may (.setCapture (.handle native)))
    (haside : ∀ {w w'}, Aside ok may w w' → R w w') : Calls ok may k fun _ ↦ R where
  resolves := hresolves
  reentry _ h p w := hr.reentry h p w
  trans := hr.trans
  nested _ h := h
  aside := haside
  touch w o f _ := hr.update w o f
  keepAtlas _ _ := hr.same rfl
  mouseDown := hr.mouseDown
  mouseUp := hr.mouseUp
  beginFrame w o _ := hr.beginFrame w o
  endFrame := hr.endFrame
  newFrame w o _ := hr.newFrame w o
  renderFrame w o _ := hr.renderFrame w o
  discardFrame w o _ := hr.discardFrame w o
  hold {w _ _ o} _ _ := hr.hold w o
  unregister := hr.unregister
  destroy := hr.destroy
  removeView _ i native _ hdispatch := hr.trans hdispatch (hr.removeView _ i native)

theorem prepare (i : Nat) (style : GuiStyle) : R w (prepare i style w) := by
  unfold World.prepare
  refine hr.trans ?_ (hr.call _ _ _ rfl)
  refine hr.trans ?_ (hr.modifyGui _ i _ fun _ ↦ ⟨rfl, rfl⟩)
  exact hr.trans (hr.equip w i) (hr.call _ _ _ rfl)

theorem install (win : Window) : R w (install win w) := by
  have hlisted : R w (indexInsert win.native (w.register () win).1 (w.register () win).2) :=
    hr.same rfl
  refine hr.trans hlisted (hr.modifyHost _ _ _ fun s ↦ ?_)
  unfold Host.addAccelerator
  split <;> exact ⟨rfl, rfl⟩

theorem openWindow (i : Nat) (config : ContextConfig) (title : String) (x y width height : Int32)
    (hview : ∀ w title rect, R w (World.modifyHost i (·.addWindow title rect) w))
    (hdestroy : ∀ native w, R w (requestDestroy k i native w)) :
    R w (openWindow k i config title x y width height w).2 := by
  rw [openWindow_eq]
  dsimp only
  refine hr.trans (hr.prepare w i config.style) ?_
  generalize World.prepare i config.style w = w₁
  split
  · refine hr.trans ?_ (hr.discharge _)
    exact hr.trans (hr.call _ _ _ rfl) (hr.call _ _ _ rfl)
  · have hbuilt : R w₁ (build k i (host w₁ i).freshHandle title (.ofPosSize x y width height) w₁) := by
      unfold build
      refine hr.trans ?_ (hr.reentry _ _ _)
      refine hr.trans ?_ (hr.call _ _ _ rfl)
      exact hr.trans (hview w₁ _ _) (hr.call _ _ _ rfl)
    refine hr.trans hbuilt ?_
    generalize build k i _ title _ w₁ = w₂
    split
    · unfold abandon World.dropContext
      refine hr.trans ?_ (hr.releaseWatchdog _)
      refine hr.trans ?_ (hr.releaseAtlas _)
      refine hr.trans ?_ (hdestroy _ _)
      refine hr.trans ?_ (hr.releaseAtlas _)
      exact hr.trans (hr.note _ _) (hr.call _ _ _ rfl)
    · refine hr.trans ?_ (hr.note _ _)
      refine hr.trans ?_ (hr.call _ _ _ rfl)
      refine hr.trans ?_ (hr.install _ _)
      exact hr.trans (hr.modifyStats _ _ _) (hr.note _ _)

end DeskWork

end World

end Casement
