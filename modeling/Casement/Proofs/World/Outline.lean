import Casement.Proofs.World.Evolution

namespace Casement

def Host.outline (s : Host) : Host where
  nextHandle := s.nextHandle
  nextTimer := s.nextTimer
  views := s.views.map fun v => { handle := v.handle, rect := .empty, parent := v.parent }
  timers := s.timers
  accelerators := s.accelerators

def Bundle.outline (b : Bundle) : Bundle where
  host := b.host.outline

def Desk.outline (d : Desk) : Desk :=
  { d with bundles := d.bundles.map Bundle.outline, trace := [], log := [], slots := [] }

theorem Bundle.outline_core (b : Bundle) : b.core.outline = b.outline := by
  simp [Bundle.outline, Bundle.core, Host.outline, Host.core]

theorem Desk.outline_core (d : Desk) : d.core.outline = d.outline := by
  simp [Desk.outline, Desk.core, Bundle.outline_core]

def Window.stance (win : Window) : Nat × NativeHandle × Platform × Nat × Bool :=
  (win.host, win.native, win.platform, win.atlas, win.buttons.anyDown)

theorem Window.stance_readInput (win : Window) (s : Host) : (win.readInput s).stance = win.stance := rfl

namespace World

def equip (h : Nat) (w : World) : World := acquireAtlas (acquireAtlas (acquireWatchdog h w))

def discharge (w : World) : World := releaseWatchdog (releaseAtlas (releaseAtlas w))

def install (win : Window) (w : World) : World :=
  modifyHost win.host (·.addAccelerator win.native)
    (indexInsert win.native (w.register () win).1 (w.register () win).2)

def unlisten (o : ObjectId) (w : World) : World :=
  modifyHost (window w o).host (·.removeAccelerator (window w o).native) w

def closeFrame (k : Reentry) (o : ObjectId) (w : World) : World :=
  if (window w o).inFrame then endFrame k o false w else w

def freeCapture (h : Nat) (native : NativeHandle) (w : World) : World :=
  if (host w h).capture = some native then modifyHost h .releaseCapture (call h .releaseCapture w)
  else w

theorem dropWindow_eq (k : Reentry) (o : ObjectId) (w : World) :
    dropWindow k o w =
      let h := (window w o).host
      let native := (window w o).native
      let w := closeFrame k o (call h (.unregisterAccelerator native) (unlisten o w))
      let w := k h .drop (call h (.dropBackend native) (freeCapture h native w))
      discharge (call h .dropContext
        (modifyStats h (fun s => { s with dropped := s.dropped + 1 }) w)) := rfl

def prepare (h : Nat) (style : GuiStyle) (w : World) : World :=
  call h (.setStyle style) (modifyGui h (fun g => { g with contexts := g.contexts + 1 })
    (call h .createContext (equip h w)))

def build (k : Reentry) (h : Nat) (native : NativeHandle) (title : String) (rect : Rect) (w : World) :
    World :=
  k h .createBackend (call h (.createBackend native) (call h (.createWindow (some native))
    (modifyHost h (·.addWindow title rect) w)))

def newWindow (h : Nat) (native : NativeHandle) (config : ContextConfig) (platform : Platform)
    (background : UInt32) (atlas : Nat) : Window where
  host := h
  native
  platform
  clearColor := Color.ofTheme background platform
  notch := config.wheelDelta.getD platform.wheelNotch
  context := newContext config platform
  atlas

theorem openWindow_eq (k : Reentry) (h : Nat) (config : ContextConfig) (title : String)
    (x y width height : Int32) (w : World) :
    (openWindow k h config title x y width height w).2 =
      let w₁ := prepare h config.style w
      let native := (host w₁ h).freshHandle
      if (host w₁ h).refusesWindows then
        discharge (call h .dropContext (call h (.createWindow none) w₁))
      else
        let w₂ := build k h native title (.ofPosSize x y width height) w₁
        if (bundle w₂ h).failsCreation then
          abandon (requestDestroy k h native
            (dropContext h (note (.backendFailed title ⟨native, (host w h).platform⟩) w₂)))
        else
          let w₃ := note (.backendBound native)
            (modifyStats h (fun s => { s with created := s.created + 1 }) w₂)
          note (.opened native title x y width height) (call h (.registerAccelerator native)
            (install (newWindow h native config (host w h).platform (host w₁ h).background
              w₃.env.atlas.generation) w₃)) := by
  unfold openWindow
  dsimp only
  split
  · next hrefuses => exact (if_pos hrefuses).symm
  · next hrefuses =>
    refine Eq.trans ?_ (if_neg hrefuses).symm
    split
    · next hfails => exact (if_pos hfails).symm
    · next hfails => exact (if_neg hfails).symm

theorem destroy_cases (k : Reentry) (native : NativeHandle) (w : World) :
    destroy k native w = w ∨ ∃ key, w.env.index.lookup native = some key ∧
      (Registry.find? w (some ()) key = none ∧ destroy k native w = indexErase native w ∨
      ∃ o, Registry.find? w (some ()) key = some o ∧ destroy k native w = note (.destroyed native)
        (Registry.release (disposal k) o { indexErase native w with entries := w.entries.erase key })) := by
  unfold destroy
  split
  · exact .inl rfl
  · next key hindex =>
    refine .inr ⟨key, hindex, ?_⟩
    unfold Registry.unregister
    cases hkey : Registry.find? (indexErase native w) (some ()) key with
    | none => exact .inl ⟨hkey, rfl⟩
    | some o => exact .inr ⟨o, hkey, rfl⟩

theorem sameWindows_modifyHost (h : Nat) (f : Host → Host) (w : World) :
    SameWindows w (modifyHost h f w) := ⟨rfl, rfl, rfl⟩

theorem sameWindows_discharge (w : World) : SameWindows w (discharge w) :=
  ((sameWindows_releaseAtlas _).trans (sameWindows_releaseAtlas _)).trans (sameWindows_releaseWatchdog _)

theorem sameWindows_equip (h : Nat) (w : World) : SameWindows w (equip h w) :=
  ((sameWindows_acquireWatchdog _ h).trans (sameWindows_acquireAtlas _)).trans (sameWindows_acquireAtlas _)

theorem Edit.sameWindows {w w' : World} (h : Edit w w') : SameWindows w w' := by
  cases h with
  | holdAtlas => exact (sameWindows_acquireAtlas _).trans ⟨rfl, rfl, rfl⟩
  | holdWatchdog h hh => exact (sameWindows_acquireWatchdog _ h).trans ⟨rfl, rfl, rfl⟩
  | dropWatchdog hkept => exact (sameWindows_releaseWatchdog _).trans ⟨rfl, rfl, rfl⟩
  | addView | removeView | dropAtlas | editAtlas => exact ⟨rfl, rfl, rfl⟩

inductive Forgets (o : ObjectId) : World → World → Prop
  | unregister {w : World} {key : Key} (hkey : Registry.find? w (some ()) key = some o) :
      Forgets o w { w with entries := w.entries.erase key }
  | destroy {w : World} {key : Key} {native : NativeHandle}
      (hindex : w.env.index.lookup native = some key)
      (hkey : Registry.find? w (some ()) key = some o) :
      Forgets o w { indexErase native w with entries := w.entries.erase key }

inductive Moves (ok : WindowStep → Prop) : Option ObjectId → World → World → Prop
  | refl (current : Option ObjectId) (w : World) : Moves ok current w w
  | trans {current : Option ObjectId} {w₁ w₂ w₃ : World} :
      Moves ok current w₁ w₂ → Moves ok current w₂ w₃ → Moves ok current w₁ w₃
  | nested {w w' : World} (o : ObjectId) : Moves ok none w w' → Moves ok (some o) w w'
  | assuming {current : Option ObjectId} {w w' : World} :
      (w.env.HooksUse ok → Moves ok current w w') → Moves ok current w w'
  | silent {current : Option ObjectId} (w : World) (f : Desk → Desk)
      (houtline : (f w.env).outline = w.env.outline)
      (hhooks : w.env.HooksUse ok → (f w.env).HooksUse ok) : Moves ok current w (w.modifyEnv f)
  | edit {current : Option ObjectId} {w w' : World} : Edit w w' → Moves ok current w w'
  | touch (w : World) (o : ObjectId) (f : Window → Window)
      (hf : ∀ win, (f win).host = win.host ∧ (f win).native = win.native ∧
        (f win).atlas = win.atlas) :
      Moves ok (some o) w (w.update o f)
  | keepAtlas (w : World) (o : ObjectId) :
      Moves ok (some o) w (keepAtlas (w.modifyEnv fun d => { d with atlas := d.atlas.retain }))
  | hold {w w₂ w₃ : World} {o : ObjectId} (ho : w.IsRegistered o) (hfree : w.isBorrowed o = false)
      (hbody : Moves ok (some o) (w.borrow o) w₂) (hafter : Moves ok none (w₂.setBorrowed o false) w₃)
      (howned : w₃.cells[o]?.any (·.owners ≤ 1) = false) : Moves ok none w (w₃.letGo o)
  | holdLast {w w₂ w₃ w₄ : World} {o : ObjectId} (ho : w.IsRegistered o)
      (hfree : w.isBorrowed o = false) (hbody : Moves ok (some o) (w.borrow o) w₂)
      (hafter : Moves ok none (w₂.setBorrowed o false) w₃)
      (hlast : w₃.cells[o]?.any (·.owners ≤ 1) = true)
      (hdrop : Moves ok (some o) (unlisten o (w₃.letGo o)) w₄) : Moves ok none w (discharge w₄)
  | leave {w w₁ : World} {o : ObjectId} (hforget : Forgets o w w₁)
      (howned : w₁.cells[o]?.any (·.owners ≤ 1) = false) : Moves ok none w (w₁.letGo o)
  | leaveLast {w w₁ w₂ : World} {o : ObjectId} (hforget : Forgets o w w₁)
      (hlast : w₁.cells[o]?.any (·.owners ≤ 1) = true)
      (hdrop : Moves ok (some o) (unlisten o (w₁.letGo o)) w₂) : Moves ok none w (discharge w₂)
  | unindex {w : World} {native : NativeHandle} {key : Key}
      (hindex : w.env.index.lookup native = some key)
      (hkey : Registry.find? w (some ()) key = none) : Moves ok none w (indexErase native w)
  | openFailed {w w₁ w₂ : World} {h : Nat} (hh : h < w.env.bundles.length)
      (hbefore : Moves ok none (equip h w) w₁) (hafter : Moves ok none (releaseAtlas w₁) w₂) :
      Moves ok none w (releaseWatchdog (releaseAtlas w₂))
  | opened {w w₁ w₂ : World} (win : Window) (hh : win.host < w.env.bundles.length)
      (hbefore : Moves ok none (equip win.host w) w₁)
      (hnative : win.native = (host w₁ win.host).freshHandle)
      (view : NativeHandle → View)
      (hview : ∀ handle, (view handle).handle = handle ∧ (view handle).parent = none)
      (hafter : Moves ok none (modifyHost win.host (·.addView view) w₁) w₂)
      (hatlas : win.atlas = w₂.env.atlas.generation) : Moves ok none w (install win w₂)

inductive Opens (ok : WindowStep → Prop) (w : World) : World → Prop
  | failed {w₁ w₂ : World} {h : Nat} (hh : h < w.env.bundles.length)
      (hbefore : Moves ok none (equip h w) w₁) (hafter : Moves ok none (releaseAtlas w₁) w₂) :
      Opens ok w (releaseWatchdog (releaseAtlas w₂))
  | opened {w₁ w₂ : World} (win : Window) (hh : win.host < w.env.bundles.length)
      (hbefore : Moves ok none (equip win.host w) w₁)
      (hnative : win.native = (host w₁ win.host).freshHandle)
      (view : NativeHandle → View)
      (hview : ∀ handle, (view handle).handle = handle ∧ (view handle).parent = none)
      (hafter : Moves ok none (modifyHost win.host (·.addView view) w₁) w₂)
      (hatlas : win.atlas = w₂.env.atlas.generation) (r : LogRecord) (i : Nat) (c : Call) :
      Opens ok w (note r (call i c (install win w₂)))

/-- The relation `R` allows the small changes that the frames of a window are made of, and what
happens at callbacks. None of them has to do with its place, its buttons or the capture. -/
structure Inner (k : Reentry) (o : ObjectId) (R : World → World → Prop) : Prop where
  refl : ∀ w, R w w
  trans : ∀ {w₁ w₂ w₃}, R w₁ w₂ → R w₂ w₃ → R w₁ w₃
  reentry : ∀ h p w, R w (k h p w)
  note : ∀ w r, R w (note r w)
  call : ∀ w h (c : Call), c.isCaptureCall = false → R w (call h c w)
  report : ∀ w h text, R w (modifyHost h (·.reportError text) w)
  modifyGui : ∀ w h f, R w (modifyGui h f w)
  modifyStats : ∀ w h f, R w (modifyStats h f w)
  touch : ∀ w (f : Window → Window), (∀ win, (f win).stance = win.stance) → R w (w.update o f)

namespace Inner

variable {k : Reentry} {o : ObjectId} {R : World → World → Prop}

theorem renderFrame (hr : Inner k o R) (w : World) : R w (renderFrame o w).2 := by
  unfold World.renderFrame
  dsimp only
  refine hr.trans ?_ (hr.modifyGui _ _ _)
  refine hr.trans ?_ (hr.touch _ _ fun _ ↦ rfl)
  exact hr.call w _ _ rfl

theorem discardFrame (hr : Inner k o R) (w : World) : R w (discardFrame o w) := by
  unfold World.discardFrame
  refine hr.trans ?_ (hr.modifyGui _ _ _)
  refine hr.trans ?_ (hr.touch _ _ fun _ ↦ rfl)
  exact hr.call w _ _ rfl

theorem newFrame (hr : Inner k o R) (w : World) : R w (newFrame k o w).2 := by
  have hcall : R w (k (window w o).host .newFrame (World.call (window w o).host .newFrame w)) :=
    hr.trans (hr.call w _ _ rfl) (hr.reentry _ _ _)
  unfold World.newFrame
  dsimp only
  split
  · exact hcall
  · exact hr.trans hcall (hr.touch _ (fun win => { win with context := win.context.begin _ })
      fun _ ↦ rfl)

theorem beginFrame (hr : Inner k o R) (w : World) : R w (beginFrame k o w).2 := by
  unfold World.beginFrame
  refine hr.trans ?_ (hr.newFrame _)
  refine hr.trans ?_ (hr.touch _ _ fun win ↦ win.stance_readInput _)
  refine hr.trans ?_ (hr.modifyStats _ _ _)
  refine hr.trans ?_ (hr.reentry _ _ _)
  refine hr.trans ?_ (hr.call _ _ _ rfl)
  exact hr.touch w _ fun _ ↦ rfl

theorem recoverErrors (hr : Inner k o R) (w : World) : R w (recoverErrors k o w) := by
  have hreport (h : Nat) (native : NativeHandle) (errors : List String) (w : World) :
      R w (errors.foldl (fun w e => World.note (.recovered native e)
        (modifyHost h (·.reportError e) (World.call h (.reportError e) w))) w) := by
    induction errors generalizing w with
    | nil => exact hr.refl w
    | cons e errors ih =>
      refine hr.trans ?_ (ih _)
      refine hr.trans ?_ (hr.note _ _)
      exact hr.trans (hr.call w _ _ rfl) (hr.report _ _ _)
  unfold World.recoverErrors
  refine hr.trans ?_ (hreport _ _ _ _)
  refine hr.trans ?_ (hr.modifyGui _ _ _)
  exact hr.trans (hr.call w _ _ rfl) (hr.reentry _ _ _)

theorem presentFrame (hr : Inner k o R) (w : World) : R w (presentFrame k o w) := by
  unfold World.presentFrame
  refine hr.trans ?_ (hr.modifyStats _ _ _)
  refine hr.trans ?_ (hr.reentry _ _ _)
  exact hr.trans (hr.renderFrame w) (hr.call _ _ _ rfl)

theorem endFrame (hr : Inner k o R) (w : World) (render : Bool) : R w (endFrame k o render w) := by
  unfold World.endFrame
  dsimp only
  split
  · refine hr.trans ?_ (hr.touch _ (fun win => { win with inFrame := false }) fun _ ↦ rfl)
    refine hr.trans ?_ (hr.modifyStats _ _ _)
    refine hr.trans ?_ (hr.reentry _ _ _)
    refine hr.trans ?_ (hr.call _ _ _ rfl)
    refine hr.trans (hr.recoverErrors w) ?_
    split
    · exact hr.presentFrame _
    · exact hr.discardFrame _
  · exact hr.note w _

theorem closeFrame (hr : Inner k o R) (w : World) : R w (closeFrame k o w) := by
  unfold World.closeFrame
  split
  · exact hr.endFrame w false
  · exact hr.refl w

end Inner

section Moves

variable {ok : WindowStep → Prop} {current : Option ObjectId} {k : Reentry}

theorem Moves.note (w : World) (r : LogRecord) : Moves ok current w (note r w) := .silent w _ rfl id

theorem Moves.call (w : World) (h : Nat) (c : Call) : Moves ok current w (call h c w) :=
  .silent w (fun d => { d with trace := d.trace ++ [.call h c] }) rfl id

theorem Moves.modifyBundle (w : World) (h : Nat) (f : Bundle → Bundle)
    (houtline : ∀ b, (f b).outline = b.outline)
    (hhooks : ∀ b, (f b).hooks = b.hooks) :
    Moves ok current w (modifyBundle h f w) := by
  refine .silent w _ ?_ fun hw ↦ hw.modify fun b hook hhook ↦ .inl (hhooks b ▸ hhook)
  simp only [Desk.outline, map_modify_of_eq houtline]

theorem Moves.modifyStats (w : World) (h : Nat) (f : RenderStats → RenderStats) :
    Moves ok current w (modifyStats h f w) := .modifyBundle w h _ (fun _ ↦ rfl) fun _ ↦ rfl

theorem Moves.modifyGui (w : World) (h : Nat) (f : GuiState → GuiState) :
    Moves ok current w (modifyGui h f w) := .modifyBundle w h _ (fun _ ↦ rfl) fun _ ↦ rfl

theorem Moves.modifyHost (w : World) (h : Nat) (f : Host → Host)
    (hf : ∀ s, (f s).outline = s.outline) :
    Moves ok current w (modifyHost h f w) :=
  .modifyBundle w h _ (fun b ↦ by simp [Bundle.outline, hf]) fun _ ↦ rfl

theorem Opens.moves {w w' : World} (h : Opens ok w w') : Moves ok none w w' := by
  cases h with
  | failed hh hbefore hafter => exact .openFailed hh hbefore hafter
  | opened win hh hbefore hnative view hview hafter hatlas r i c =>
    exact .trans (.opened win hh hbefore hnative view hview hafter hatlas)
      (.trans (.call _ i c) (.note _ r))

section Frames

variable (w : World) (o : ObjectId)

theorem Moves.mouseDown (button : MouseButton) : Moves ok (some o) w (mouseDown o button w) := by
  unfold World.mouseDown
  refine .trans ?_ (.touch _ o _ fun _ ↦ ⟨rfl, rfl, rfl⟩)
  split
  · exact .trans (.call w _ _) (.modifyHost _ _ _ fun _ ↦ rfl)
  · exact .refl _ w

theorem Moves.mouseUp (button : MouseButton) : Moves ok (some o) w (mouseUp o button w) := by
  have hup : Moves ok (some o) w
      (w.update o fun win => { win with buttons := win.buttons.release button }) :=
    .touch w o _ fun _ ↦ ⟨rfl, rfl, rfl⟩
  unfold World.mouseUp
  dsimp only
  split
  · exact hup.trans (.trans (.call _ _ _) (.modifyHost _ _ _ fun _ ↦ rfl))
  · exact hup

variable (hk : ∀ h p w, Moves ok none w (k h p w))

include hk

theorem Moves.inner : Inner k o (Moves ok (some o)) where
  refl := .refl (some o)
  trans := .trans
  reentry h p w := .nested o (hk h p w)
  note := .note
  call w h c _ := .call w h c
  report w h text := .modifyHost w h _ fun _ ↦ rfl
  modifyGui := .modifyGui
  modifyStats := .modifyStats
  touch w f hf := .touch w o f fun win ↦ by
    simp only [Window.stance, Prod.mk.injEq] at hf
    exact ⟨(hf win).1, (hf win).2.1, (hf win).2.2.2.1⟩

theorem Moves.closeFrame : Moves ok (some o) w (closeFrame k o w) := (Moves.inner o hk).closeFrame w

omit hk in
theorem Moves.freeCapture (h : Nat) (native : NativeHandle) :
    Moves ok current w (freeCapture h native w) := by
  unfold World.freeCapture
  split
  · exact .trans (.call w _ _) (.modifyHost _ _ _ fun _ ↦ rfl)
  · exact .refl _ w

/-- The end of a window: after it has left the accelerators and before it gives back what it held,
there are only moves that keep its place. -/
theorem Moves.dropWindow :
    ∃ w', Moves ok (some o) (unlisten o w) w' ∧ World.dropWindow k o w = discharge w' := by
  refine ⟨_, ?_, dropWindow_eq k o w⟩
  refine .trans ?_ (.call _ _ _)
  refine .trans ?_ (.modifyStats _ _ _)
  refine .trans ?_ (.nested o (hk _ _ _))
  refine .trans ?_ (.call _ _ _)
  refine .trans ?_ (.freeCapture _ _ _)
  refine .trans ?_ (.closeFrame _ o hk)
  exact .call (unlisten o w) _ (.unregisterAccelerator (window w o).native)

omit hk in
theorem Moves.prepare (h : Nat) (style : GuiStyle) :
    Moves ok none (equip h w) (prepare h style w) := by
  refine .trans ?_ (.call _ _ _)
  exact .trans (.call _ _ _) (.modifyGui _ _ _)

/-- Every opening goes one of two ways. -/
theorem opens_openWindow (h : Nat) (hh : h < w.env.bundles.length) (config : ContextConfig)
    (title : String) (x y width height : Int32)
    (hdestroy : ∀ native w, Moves ok none w (requestDestroy k h native w)) :
    Opens ok w (openWindow k h config title x y width height w).2 := by
  have hprepare : Moves ok none (equip h w) (World.prepare h config.style w) :=
    .prepare w h config.style
  rw [openWindow_eq]
  dsimp only
  generalize World.prepare h config.style w = w₁ at hprepare ⊢
  split
  · refine .failed hh (hprepare.trans ?_) (.refl none _)
    exact .trans (.call _ _ _) (.call _ _ _)
  · have hbuild : Moves ok none
        (World.modifyHost h (·.addWindow title (.ofPosSize x y width height)) w₁)
        (build k h (host w₁ h).freshHandle title (.ofPosSize x y width height) w₁) := by
      refine .trans ?_ (hk _ _ _)
      exact .trans (.call _ _ _) (.call _ _ _)
    have hview : Moves ok none w₁
        (World.modifyHost h (·.addWindow title (.ofPosSize x y width height)) w₁) :=
      .edit (.addView w₁ h _ fun _ ↦ rfl)
    generalize build k h (host w₁ h).freshHandle title _ w₁ = w₂ at hbuild ⊢
    split
    · refine .failed hh (hprepare.trans (hview.trans (hbuild.trans ?_))) (hdestroy _ _)
      exact .trans (.note _ _) (.call _ _ _)
    · refine .opened (newWindow h (host w₁ h).freshHandle config (host w h).platform
        (host w₁ h).background _) hh hprepare rfl _ (fun _ ↦ ⟨rfl, rfl⟩) (hbuild.trans ?_) rfl _ _ _
      exact .trans (.modifyStats _ _ _) (.note _ _)

end Frames

theorem Moves.of_release {w w₁ : World} {o : ObjectId} (hk : ∀ h p w, Moves ok none w (k h p w))
    (hstay : w₁.cells[o]?.any (·.owners ≤ 1) = false → Moves ok none w (w₁.letGo o))
    (hgo : ∀ w₂, w₁.cells[o]?.any (·.owners ≤ 1) = true →
      Moves ok (some o) (unlisten o (w₁.letGo o)) w₂ → Moves ok none w (discharge w₂)) :
    Moves ok none w (Registry.release (disposal k) o w₁) := by
  rw [Registry.release_eq]
  split
  · next hlast =>
    obtain ⟨w₂, hdrop, heq⟩ := Moves.dropWindow (w₁.letGo o) o hk
    have hend : (disposal k).drop o (w₁.letGo o) = discharge w₂ := heq
    rw [hend]
    exact hgo w₂ hlast hdrop
  · next howned => exact hstay (Bool.eq_false_iff.mpr howned)

theorem Moves.unregister (hk : ∀ h p w, Moves ok none w (k h p w)) (w : World) (key : Key) :
    Moves ok none w (w.unregister (disposal k) () key).2 := by
  unfold Registry.unregister
  split
  · next o ho =>
    exact .of_release hk (.leave (.unregister ho)) fun _ ↦ .leaveLast (.unregister ho)
  · exact .refl none w

theorem Moves.destroy (hk : ∀ h p w, Moves ok none w (k h p w)) (w : World) (native : NativeHandle) :
    Moves ok none w (destroy k native w) := by
  rcases destroy_cases k native w with heq | ⟨key, hindex, ⟨ho, heq⟩ | ⟨o, ho, heq⟩⟩ <;> rw [heq]
  · exact .refl none w
  · exact .unindex hindex ho
  · refine .trans ?_ (.note _ _)
    exact .of_release hk (.leave (.destroy hindex ho)) fun _ ↦ .leaveLast (.destroy hindex ho)

/-- Evolution without frames is made of moves. -/
theorem Evolves.moves {w w' : World} (h : Evolves ok current w w') : Moves ok current w w' := by
  induction h with
  | refl current w => exact .refl current w
  | trans _ _ ih ih' => exact ih.trans ih'
  | nested o _ ih => exact .nested o ih
  | assuming _ ih => exact .assuming ih
  | unseen w f hcore hhooks =>
    refine .silent w f ?_ hhooks
    rw [← Desk.outline_core, hcore, Desk.outline_core]
  | edit h => exact .edit h
  | setCapture w h native => exact .modifyHost w h _ fun _ ↦ rfl
  | releaseCapture w h => exact .modifyHost w h _ fun _ ↦ rfl
  | report w h text => exact .modifyHost w h _ fun _ ↦ rfl
  | inject w h text => exact .modifyGui w h _
  | touch w o f hf =>
    refine .touch w o f fun win ↦ ?_
    obtain ⟨hhost, hnative, hatlas, -⟩ := Window.eq_of_core (hf win)
    exact ⟨hhost, hnative, hatlas⟩
  | keepAtlas w o => exact .keepAtlas w o
  | mouseDown w o button => exact .mouseDown w o button
  | mouseUp w o button => exact .mouseUp w o button
  | beginFrame _ w o _ hk => exact (Moves.inner o hk).beginFrame w
  | endFrame _ w o render _ hk => exact (Moves.inner o hk).endFrame w render
  | newFrame _ w o _ hk => exact (Moves.inner o hk).newFrame w
  | renderFrame w o _ => exact (Moves.inner o fun _ _ w ↦ .refl none w).renderFrame w
  | discardFrame w o _ => exact (Moves.inner o fun _ _ w ↦ .refl none w).discardFrame w
  | hold _ ho hfree _ _ hk hbody hafter =>
    exact .of_release hk (.hold ho hfree hbody hafter) fun _ ↦ .holdLast ho hfree hbody hafter
  | unregister _ w key hk => exact .unregister hk w key
  | destroy _ w native hk => exact .destroy hk w native
  | openWindow _ w h hh config title x y width height _ hk hdestroy =>
    exact (opens_openWindow w hk h hh config title x y width height hdestroy).moves

end Moves

end World

end Casement
