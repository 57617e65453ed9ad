import Casement.Proofs.World.Departures

namespace Casement.World

/-- Nothing has changed that a window depends on. -/
structure Steady (w w' : World) : Prop where
  same : SameWindows w w'
  index : w'.env.index = w.env.index
  hosts : w'.env.bundles.length = w.env.bundles.length
  standing : ∀ i, (bundle w' i).standing = (bundle w i).standing

section Steady

variable {w w' w'' : World} {key : Key} {o : ObjectId}

theorem Steady.trans (h : Steady w w') (h' : Steady w' w'') : Steady w w'' where
  same := h.same.trans h'.same
  index := h'.index.trans h.index
  hosts := h'.hosts.trans h.hosts
  standing i := (h'.standing i).trans (h.standing i)

theorem Steady.of_env (hsame : SameWindows w w') (hindex : w'.env.index = w.env.index)
    (hbundles : w'.env.bundles = w.env.bundles) : Steady w w' where
  same := hsame
  index := hindex
  hosts := congrArg List.length hbundles
  standing i := by simp [bundle, hbundles]

theorem Steady.refl (w : World) : Steady w w := .of_env ⟨rfl, rfl, rfl⟩ rfl rfl

theorem Steady.note (w : World) (r : LogRecord) : Steady w (note r w) :=
  .of_env ⟨rfl, rfl, rfl⟩ rfl rfl

theorem Steady.call (w : World) (i : Nat) (c : Call) : Steady w (call i c w) :=
  .of_env ⟨rfl, rfl, rfl⟩ rfl rfl

theorem Steady.modifyBundle (w : World) (i : Nat) (f : Bundle → Bundle)
    (hf : ∀ b, (f b).standing = b.standing) :
    Steady w (modifyBundle i f w) where
  same := ⟨rfl, rfl, rfl⟩
  index := rfl
  hosts := length_bundles_modifyBundle ..
  standing j := reading_modifyBundle w i j Bundle.standing f hf

theorem Steady.modifyHost (w : World) (i : Nat) (f : Host → Host)
    (hf : ∀ s, (f s).seats = s.seats) : Steady w (modifyHost i f w) :=
  .modifyBundle w i _ fun b ↦ congrArg (·, b.habits) (hf b.host)

theorem Steady.modifyGui (w : World) (i : Nat) (f : GuiState → GuiState) :
    Steady w (modifyGui i f w) := .modifyBundle w i _ fun _ ↦ rfl

theorem Steady.modifyStats (w : World) (i : Nat) (f : RenderStats → RenderStats) :
    Steady w (modifyStats i f w) := .modifyBundle w i _ fun _ ↦ rfl

theorem Steady.acquireAtlas (w : World) : Steady w (acquireAtlas w) where
  same := sameWindows_acquireAtlas w
  index := index_acquireAtlas w
  hosts := by simp
  standing := by simp

theorem Steady.releaseAtlas (w : World) : Steady w (releaseAtlas w) :=
  .of_env ⟨rfl, rfl, rfl⟩ rfl rfl

theorem Steady.acquireWatchdog (w : World) (i : Nat) : Steady w (acquireWatchdog i w) where
  same := sameWindows_acquireWatchdog w i
  index := index_acquireWatchdog w i
  hosts := by simp
  standing j := reading_acquireWatchdog w i j Bundle.standing fun _ ↦ rfl

theorem Steady.releaseWatchdog (w : World) : Steady w (releaseWatchdog w) where
  same := sameWindows_releaseWatchdog w
  index := index_releaseWatchdog w
  hosts := by simp
  standing i := reading_releaseWatchdog w i Bundle.standing fun _ _ ↦ rfl

theorem Steady.discharge (w : World) : Steady w (discharge w) :=
  (Steady.releaseAtlas w).trans ((Steady.releaseAtlas _).trans (.releaseWatchdog _))

theorem Steady.prepare (w : World) (i : Nat) (style : GuiStyle) : Steady w (prepare i style w) := by
  refine Steady.trans ?_ (.call _ _ _)
  refine Steady.trans ?_ (.modifyGui _ _ _)
  refine Steady.trans ?_ (.call _ _ _)
  exact (Steady.acquireWatchdog w i).trans ((Steady.acquireAtlas _).trans (.acquireAtlas _))

theorem Steady.addSlot (w : World) (s : WindowSlot) : Steady w (addSlot s w) :=
  .of_env ⟨rfl, rfl, rfl⟩ rfl rfl

theorem Steady.modifyView (w : World) (i : Nat) (native : NativeHandle) (f : View → View)
    (hf : ∀ v, (f v).handle = v.handle ∧ (f v).parent = v.parent) :
    Steady w (World.modifyHost i (·.modifyView native f) w) :=
  .modifyHost w i _ fun s ↦ s.seats_modifyView native f hf

def isPassiveOn : HostStep → Bool
  | .runTimers | .send .. | .sendAccel .. | .addChild .. | .createNative .. | .destroyNative _
  | .consume _ | .deferDestroy _ | .flushDestroy => false
  | _ => true

theorem Steady.runHostStep (w : World) (h : Nat) {step : HostStep} (hstep : isPassiveOn step = true) :
    Steady w (runHostStep (scripted 0) h step w).2 := by
  cases step with
  | setTitle target title => exact .modifyView w h _ ({ · with title }) fun _ ↦ ⟨rfl, rfl⟩
  | setRect target rect => exact .modifyView w h _ ({ · with rect }) fun _ ↦ ⟨rfl, rfl⟩
  | setVisible target on => exact .modifyView w h _ ({ · with visible := on }) fun _ ↦ ⟨rfl, rfl⟩
  | setTheme color value =>
    dsimp only [World.runHostStep]
    refine .modifyHost w h _ fun s ↦ ?_
    cases color <;> rfl
  | refuseWindows | movePointer | setKey | setCapture | releaseCapture | report =>
    dsimp only [World.runHostStep]
    exact .modifyHost w h _ fun _ ↦ rfl
  | setGuiCursor | injectError | captureKeyboard =>
    dsimp only [World.runHostStep]
    exact .modifyGui w h _
  | failCreation on =>
    dsimp only [World.runHostStep]
    exact .modifyBundle w h _ fun _ ↦ rfl
  | themeColor | viewInfo | viewAt | toClient | isChild | errors | guiState | lastFrame =>
    exact .refl w
  | runTimers | send | sendAccel | addChild | createNative | destroyNative | consume | deferDestroy
  | flushDestroy => cases hstep

def isPassive : Step → Bool
  | .contains _ | .count | .all | .find _ | .holdAtlas | .dropAtlas | .currentAtlas | .editAtlas _
  | .holdWatchdog _ | .dropWatchdog | .window .current _ => true
  | .host _ step => isPassiveOn step
  | _ => false

theorem Steady.runStep (w : World) {s : Step} (hs : isPassive s = true) :
    Steady w (runStep (scripted 0) none s w).2 := by
  cases s with
  | contains n =>
    unfold World.runStep
    split <;> exact .refl w
  | holdAtlas => exact (Steady.acquireAtlas w).trans (.of_env ⟨rfl, rfl, rfl⟩ rfl rfl)
  | dropAtlas =>
    unfold World.runStep
    split
    · exact .refl w
    · exact (Steady.releaseAtlas w).trans (.of_env ⟨rfl, rfl, rfl⟩ rfl rfl)
  | editAtlas edit =>
    unfold World.runStep
    split
    · exact .refl w
    · exact .of_env ⟨rfl, rfl, rfl⟩ rfl rfl
  | holdWatchdog h =>
    unfold World.runStep
    split
    · exact (Steady.acquireWatchdog w h).trans (.of_env ⟨rfl, rfl, rfl⟩ rfl rfl)
    · exact .refl w
  | dropWatchdog =>
    unfold World.runStep
    split
    · exact .refl w
    · exact (Steady.releaseWatchdog w).trans (.of_env ⟨rfl, rfl, rfl⟩ rfl rfl)
  | host h step =>
    unfold World.runStep
    split
    · exact .runHostStep w h hs
    · exact .refl w
  | window place step =>
    cases place with
    | current => exact .refl w
    | slot => cases hs
  | count | all | find | currentAtlas => exact .refl w
  | openWindow | adopt | close | unregister | heartbeat | tick | dispatch | accel | within | hook =>
    cases hs

end Steady

structure Gains (i : Nat) (new : NativeHandle × Option NativeHandle) (w w' : World) : Prop where
  same : SameWindows w w'
  index : w'.env.index = w.env.index
  hosts : w'.env.bundles.length = w.env.bundles.length
  habits : ∀ j, (bundle w' j).habits = (bundle w j).habits
  seats : ∀ j seat, seat ∈ (host w' j).seats ↔
    seat ∈ (host w j).seats ∨ i = j ∧ seat = new

section Gains

variable {w w' w'' : World} {i : Nat} {new : NativeHandle × Option NativeHandle}

theorem Steady.seats (h : Steady w w') (j : Nat) : (host w' j).seats = (host w j).seats :=
  congrArg (·.1) (h.standing j)

theorem Steady.habits (h : Steady w w') (j : Nat) : (bundle w' j).habits = (bundle w j).habits :=
  congrArg (·.2) (h.standing j)

theorem Steady.trans_gains (h : Steady w w') (h' : Gains i new w' w'') : Gains i new w w'' where
  same := h.same.trans h'.same
  index := h'.index.trans h.index
  hosts := h'.hosts.trans h.hosts
  habits j := (h'.habits j).trans (h.habits j)
  seats j seat := by rw [h'.seats, h.seats]

theorem Gains.trans_steady (h : Gains i new w w') (h' : Steady w' w'') : Gains i new w w'' where
  same := h.same.trans h'.same
  index := h'.index.trans h.index
  hosts := h'.hosts.trans h.hosts
  habits j := (h'.habits j).trans (h.habits j)
  seats j seat := by rw [h'.seats, h.seats]

theorem Gains.addView (w : World) {i : Nat} (hi : i < w.env.bundles.length)
    (view : NativeHandle → View) {parent : Option NativeHandle}
    (hview : ∀ handle, (view handle).handle = handle ∧ (view handle).parent = parent) :
    Gains i ((host w i).freshHandle, parent) w (modifyHost i (·.addView view) w) where
  same := ⟨rfl, rfl, rfl⟩
  index := rfl
  hosts := length_bundles_modifyHost ..
  habits j := reading_modifyBundle w i j Bundle.habits _ fun _ ↦ rfl
  seats j seat := by
    rw [host_modifyHost w i j _ hi]
    by_cases heq : i = j
    · subst heq
      simp [Host.addView, Host.seats, hview]
    · simp [heq]

theorem freshHandle_prepare (w : World) (i : Nat) (style : GuiStyle) :
    (host (prepare i style w) i).freshHandle = (host w i).freshHandle := by
  have hgui := reading_modifyBundle (World.call i .createContext (equip i w)) i i
    (·.host.freshHandle) (fun b => { b with gui := { b.gui with contexts := b.gui.contexts + 1 } })
    fun _ ↦ rfl
  have hequip : (bundle (equip i w) i).host.freshHandle = (bundle w i).host.freshHandle := by
    simp only [equip, bundle_acquireAtlas]
    exact reading_acquireWatchdog w i i (·.host.freshHandle) fun _ ↦ rfl
  exact hgui.trans hequip

def requested (h : Nat) (style : GuiStyle) (title : String) (rect : Rect) (w : World) : World :=
  let prepared := prepare h style w
  build (scripted 0) h (host prepared h).freshHandle title rect prepared

theorem Gains.requested {h : Nat} (hh : h < w.env.bundles.length) (style : GuiStyle) (title : String)
    (rect : Rect) : Gains h ((host w h).freshHandle, none) w (requested h style title rect w) := by
  have hprepare := Steady.prepare w h style
  have hview := Gains.addView (World.prepare h style w) (i := h) (hprepare.hosts.symm ▸ hh)
    (fun handle => { handle, title, rect }) fun _ ↦ ⟨rfl, rfl⟩
  rw [freshHandle_prepare] at hview
  refine hprepare.trans_gains (hview.trans_steady ?_)
  exact .trans (.call _ _ _) (.call _ _ _)

theorem Lawful.requested (w : World) (h : Nat) (style : GuiStyle) (title : String) (rect : Rect) :
    Lawful (fun _ ↦ True) none w (requested h style title rect w) := by
  have hview : Lawful (fun _ ↦ True) none (World.prepare h style w)
      (World.modifyHost h (·.addWindow title rect) (World.prepare h style w)) :=
    (Edit.addView _ h _ fun _ ↦ rfl).lawful
  have hprepare : Moves (fun _ ↦ True) none (World.equip h w) (World.prepare h style w) :=
    .prepare w h style
  refine (Lawful.equip h).trans (hprepare.lawful.trans (hview.trans (Moves.lawful ?_)))
  exact .trans (.call _ _ _) (.call _ _ _)

/-- What comes of opening a window: the host refuses, or its native window is made and then given up
again, or the window is registered. -/
theorem openWindow_cases {h : Nat} (hh : h < w.env.bundles.length) (config : ContextConfig)
    (title : String) (x y width height : Int32) :
    Steady w (openWindow (scripted 0) h config title x y width height w).2 ∨
    (∃ w₁, Gains h ((host w h).freshHandle, none) w w₁ ∧ Lawful (fun _ ↦ True) none w w₁ ∧
      Steady (requestDestroy (scripted 0) h (host w h).freshHandle w₁)
        (openWindow (scripted 0) h config title x y width height w).2) ∨
    ∃ w₁ background atlas, Gains h ((host w h).freshHandle, none) w w₁ ∧ Lawful (fun _ ↦ True) none w w₁ ∧
      Steady (install (newWindow h (host w h).freshHandle config (host w h).platform background atlas)
        w₁) (openWindow (scripted 0) h config title x y width height w).2 := by
  have hprepare := Steady.prepare w h config.style
  have hgains := Gains.requested hh config.style title (.ofPosSize x y width height)
  have hlawful := Lawful.requested w h config.style title (.ofPosSize x y width height)
  rw [openWindow_eq]
  dsimp only
  dsimp only [requested] at hgains hlawful
  rw [freshHandle_prepare] at hgains hlawful ⊢
  generalize prepare h config.style w = w₀ at hprepare hgains hlawful ⊢
  split
  · left
    refine hprepare.trans (.trans ?_ (.discharge _))
    exact .trans (.call _ _ _) (.call _ _ _)
  · generalize build (scripted 0) h (host w h).freshHandle title _ w₀ = w₁ at hgains hlawful ⊢
    split
    · refine .inr (.inl ⟨_, ?_, ?_, (Steady.releaseAtlas _).trans (.releaseWatchdog _)⟩)
      · exact hgains.trans_steady (.trans (.note _ _) (.trans (.call _ _ _) (.releaseAtlas _)))
      · have hnoted : Moves (fun _ ↦ True) none w₁ (World.call h .dropContext
            (World.note (.backendFailed title ⟨(host w h).freshHandle, (host w h).platform⟩) w₁)) :=
          .trans (.note _ _) (.call _ _ _)
        exact hlawful.trans (hnoted.lawful.trans .releaseAtlas)
    · refine .inr (.inr ⟨_, _, _, ?_, ?_, .trans (.call _ _ _) (.note _ _)⟩)
      · exact hgains.trans_steady (.trans (.modifyStats _ _ _) (.note _ _))
      · exact hlawful.trans (Moves.lawful (.trans (.modifyStats _ _ _) (.note _ _)))

theorem find?_install (hw : Coherent (fun _ ↦ True) w) (win : Window) (key : Key) :
    Registry.find? (install win w) (some ()) key =
      if key = w.entries.nextKey then some w.cells.length else Registry.find? w (some ()) key := by
  rw [Registry.find?_unit, Registry.find?_unit, get?_install win w hw.sound]
  split <;> rfl

theorem standing_install (win : Window) (w : World) (i : Nat) :
    (bundle (install win w) i).standing = (bundle w i).standing :=
  reading_install win w i Bundle.standing fun _ _ ↦ rfl

theorem isNew_newWindow (h : Nat) (native : NativeHandle) (config : ContextConfig)
    (platform : Platform) (background : UInt32) (atlas : Nat) :
    (newWindow h native config platform background atlas).IsNew :=
  ⟨rfl, rfl, rfl, rfl, rfl, rfl, rfl⟩

theorem Quiet.openWindow (hw : Quiet w) {h : Nat} (hh : h < w.env.bundles.length)
    (config : ContextConfig) (title : String) (x y width height : Int32) {key : Key} {o : ObjectId}
    (hkey : Registry.find? (World.openWindow (scripted 0) h config title x y width height w).2 (some ())
      key = some o) :
    Registry.find? w (some ()) key = some o ∧
      window (World.openWindow (scripted 0) h config title x y width height w).2 o = window w o ∨
    Registry.find? w (some ()) key = none ∧ ∃ native background atlas,
      window (World.openWindow (scripted 0) h config title x y width height w).2 o =
        newWindow h native config (host w h).platform background atlas := by
  rcases openWindow_cases hh config title x y width height with
    hsteady | ⟨w₁, hgains, hlawful, hsteady⟩ | ⟨w₁, background, atlas, hgains, hlawful, hsteady⟩
  · exact .inl (hsteady.same.spares key o hkey)
  · have hend : Spares w₁ (requestDestroy (scripted 0) h (host w h).freshHandle w₁) :=
      .requestDestroy (hw.of_lawful hlawful) (hgains.hosts.symm ▸ hh) _
    exact .inl ((hgains.same.spares.trans (hend.trans hsteady.same.spares)) key o hkey)
  · have hcoherent := (hw.of_lawful hlawful).coherent
    obtain ⟨hkey₁, hwindow⟩ := hsteady.same.spares key o hkey
    rw [window_install] at hwindow
    rw [find?_install hcoherent] at hkey₁
    split at hkey₁
    · next hnext =>
      cases hkey₁
      rw [if_pos rfl] at hwindow
      refine .inr ⟨?_, _, _, _, hwindow⟩
      rw [hnext, ← hgains.same.find?, Registry.find?_unit, SlotMap.get?_nextKey hcoherent.sound.table]
      rfl
    · have hlt := (Registry.isRegistered_of_find? hkey₁).lt hcoherent.sound
      rw [if_neg hlt.ne] at hwindow
      obtain ⟨hkey₀, hsame⟩ := hgains.same.spares key o hkey₁
      exact .inl ⟨hkey₀, hwindow.trans hsame⟩

end Gains

end Casement.World
