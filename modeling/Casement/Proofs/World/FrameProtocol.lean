import Casement.Proofs.World.Amid

namespace Casement.World

variable {ok : WindowStep → Prop} {current : Option ObjectId} {k : Reentry} {w w' w₁ w₂ w₃ : World}
  {o : ObjectId}

theorem FrameLaw.of_amid
    (hwork : ∀ {inFrame}, Amid ok o w w [] inFrame inFrame 0 0 0 → ∃ calls inFrame',
      Amid ok o w w' calls inFrame' inFrame' 0 0 0 ∧
        (FrameCall.Complete (ownCalls w o) inFrame → FrameCall.Complete (ownCalls w o ++ calls) inFrame')) :
    FrameLaw ok (some o) w w' := by
  intro hw hc hi
  obtain ⟨hcontext, hcomplete⟩ := hi.settled ((hc o rfl).lt hw.sound) (.inr rfl)
  have hstart := Amid.start hw (hc o rfl) hi.weaken
  rw [hcontext] at hstart
  obtain ⟨calls, inFrame, h, hcalls⟩ := hwork hstart
  refine ⟨⟨fun {o'} ho' hor ↦ ?_, h.others.silent⟩, ?_, ?_, h.gone, ?_⟩
  · by_cases heq : o' = o
    · subst heq
      refine ⟨h.inContext_eq.trans h.inFrame_eq.symm, ?_⟩
      rw [h.own, h.inFrame_eq]
      exact hcalls hcomplete
    · exact h.others.settled ho' (.inl (hor.resolve_right fun h ↦ heq (Option.some.inj h).symm))
  · exact fun hbusy hne ↦ h.kept hbusy fun heq ↦ hne (by rw [heq])
  · exact fun hd hne ↦ h.follows.window_eq (.inr hd) hne
  · exact ⟨fun i ↦ by simpa using h.frameBalance_eq i, fun i ↦ by simpa using h.rendererBalance_eq i,
      fun i ↦ by simpa using h.guiBalance_eq i⟩

theorem FrameLaw.of_amid_same
    (hwork : ∀ {inFrame}, Amid ok o w w [] inFrame inFrame 0 0 0 →
      Amid ok o w w' [] inFrame inFrame 0 0 0) : FrameLaw ok (some o) w w' :=
  .of_amid fun h ↦ ⟨[], _, hwork h, fun hc ↦ by simpa using hc⟩

theorem FrameLaw.touch (f : Window → Window) (hf : ∀ win, (f win).core = win.core) :
    FrameLaw ok (some o) w (w.update o f) :=
  .of_amid_same fun h ↦ h.touch f fun win ↦ by
    obtain ⟨hhost, hnative, -, hframe, hcontext⟩ := Window.eq_of_core (hf win)
    exact ⟨hhost, hnative, hframe, hcontext⟩

theorem FrameLaw.mouseDown (button : MouseButton) : FrameLaw ok (some o) w (mouseDown o button w) := by
  refine .of_amid_same fun h ↦ ?_
  unfold World.mouseDown
  refine Amid.touch ?_ _ fun _ ↦ ⟨rfl, rfl, rfl, rfl⟩
  split
  · exact (h.callOther _ (.setCapture _) rfl).unframed (.modifyHost _ _ _)
      (Moves.modifyHost _ _ (·.setCapture _) fun _ ↦ rfl).lawful
  · exact h

theorem FrameLaw.mouseUp (button : MouseButton) : FrameLaw ok (some o) w (mouseUp o button w) := by
  refine .of_amid_same fun h ↦ ?_
  have hup := h.touch (fun win => { win with buttons := win.buttons.release button })
    fun _ ↦ ⟨rfl, rfl, rfl, rfl⟩
  unfold World.mouseUp
  dsimp only
  split
  · exact (hup.callOther _ .releaseCapture rfl).unframed (.modifyHost _ _ _)
      (Moves.modifyHost _ _ (·.releaseCapture) fun _ ↦ rfl).lawful
  · exact hup

theorem FrameLaw.beginFrame (hk : Tame ok k) (hidle : (window w o).inFrame = false) :
    FrameLaw ok (some o) w (beginFrame k o w).2 := by
  refine .of_amid fun {inFrame} h ↦ ?_
  obtain rfl : false = inFrame := hidle.symm.trans h.inFrame_eq
  exact ⟨_, true, h.beginFrame hk, FrameCall.Complete.begin⟩

theorem FrameLaw.endFrame (hk : Tame ok k) (render : Bool) (hopen : (window w o).inFrame = true) :
    FrameLaw ok (some o) w (endFrame k o render w) := by
  refine .of_amid fun {inFrame} h ↦ ?_
  obtain rfl : true = inFrame := hopen.symm.trans h.inFrame_eq
  exact ⟨_, false, h.endFrame hk render, fun hc ↦ hc.finish render⟩

theorem everDropped_letGo (hlast : w.cells[o]?.any (·.owners ≤ 1) = true) (i : Nat) :
    everDropped (w.letGo o) i = everDropped w i + if i = (window w o).host then 1 else 0 := by
  have hdropped : (w.letGo o).dropped = o :: w.dropped := by simp [Registry.letGo, hlast]
  simp only [everDropped, hdropped, List.countP_cons, (SameValues.letGo w o).window]
  by_cases h : (window w o).host = i
  · simp [h]
  · simp [h, Ne.symm h]

/-- A window whose last owner lets go is complete when its renderer goes. -/
theorem FrameStep.drop (hk : Tame ok k) (halive : o ∉ w.dropped)
    (hgo : Coherent ok (w.letGo o)) (ho : o < w.cells.length)
    (hlast : w.cells[o]?.any (·.owners ≤ 1) = true) (hi : FrameInv none w) :
    FrameInv none (dropWindow k o (w.letGo o)) ∧
      FrameStep none w (dropWindow k o (w.letGo o)) := by
  have hsame := SameValues.letGo w o
  have hmem (o' : ObjectId) : o' ∈ (w.letGo o).dropped ↔ o' = o ∨ o' ∈ w.dropped := by
    simp [Registry.letGo, hlast]
  have hbusy {o' : ObjectId} : (w.letGo o).IsBusy o' ↔ o' = o ∨ w.IsBusy o' := by
    simp only [Registry.IsBusy, Registry.isBorrowed_letGo, hmem]
    exact or_left_comm
  have hfree : ¬ w.IsBusy o := by
    rintro (hb | hd)
    · have hheld := hgo.sound.held (o := o) (by simpa using hb)
      exact Registry.not_mem_dropped_of_holders hgo.sound hheld ((hmem o).mpr (.inl rfl))
    · exact halive hd
  -- no call works on the window when it goes, so it goes with its frames settled
  obtain ⟨hcontext, hcomplete⟩ := hi.settled ho (.inl hfree)
  have hstart := Amid.start hgo (hbusy.mpr (.inl rfl)) (hsame.inv hi fun {o'} hor ↦
    .inl fun hb ↦ hor.elim (fun hn ↦ hn (hbusy.mpr (.inr hb))) (by simp))
  rw [hsame.window, hcontext] at hstart
  have h := hstart.dropWindow hk
  have hne {o' : ObjectId} (hb : w.IsBusy o') : o' ≠ o := by
    rintro rfl
    exact hfree hb
  refine ⟨h.others, fun {o'} hb _ ↦ ?_, fun {o'} hd _ ↦ ?_, fun {o'} hd hd₀ ↦ ?_, ?_⟩
  · exact (h.kept (hbusy.mpr (.inr hb)) (hne hb)).trans (hsame.ownCalls o')
  · rw [h.follows.window_eq (hbusy.mpr (.inr (.inr hd))) fun heq ↦
      hne (.inr hd) (Option.some.inj heq).symm, hsame.window]
  · by_cases heq : o' = o
    · subst heq
      refine ⟨h.inFrame_eq, _, ?_, h.own.trans (List.append_assoc ..).symm⟩
      rw [hsame.ownCalls, List.nil_append]
      exact hcomplete.close
    · exact h.gone hd fun hd' ↦ ((hmem o').mp hd').elim heq hd₀
  · refine ⟨fun i ↦ ?_, fun i ↦ ?_, fun i ↦ ?_⟩
    · have := h.frameBalance_eq i
      simpa [hsame.frames] using this
    · have := h.rendererBalance_eq i
      rw [hsame.renderers, everDropped_letGo hlast, hsame.window] at this
      rw [this]
      split <;> omega
    · have := h.guiBalance_eq i
      simpa [hsame.guis] using this
theorem FrameStep.release (hk : Tame ok k) (halive : o ∉ w.dropped)
    (hgo : Coherent ok (w.letGo o)) (ho : o < w.cells.length) (hi : FrameInv none w) :
    FrameInv none (w.release (disposal k) o) ∧ FrameStep none w (w.release (disposal k) o) := by
  rw [Registry.release_eq]
  split
  · next hlast => exact FrameStep.drop hk halive hgo ho hlast hi
  · next howned =>
    have hsame := SameValues.letGo w o
    have hdropped : (w.letGo o).dropped = w.dropped := by simp [Registry.letGo, howned]
    refine ⟨hsame.inv hi fun hor ↦ ?_, hsame.step hdropped⟩
    simpa [Registry.IsBusy, hdropped] using hor

theorem FrameStep.held (ho : w.IsRegistered o) (hfree : w.isBorrowed o = false)
    (hw : Coherent ok w) (h : Held ok o w w₂ w₃) (h₁ : FrameLaw ok (some o) (w.borrow o) w₂)
    (h₂ : FrameLaw ok none (w₂.setBorrowed o false) w₃) (hi : FrameInv none w) :
    FrameInv none w₃ ∧ FrameStep none w w₃ := by
  have hborrow := SameValues.borrow w o
  have hreturn := SameValues.setBorrowed w₂ o false
  -- the window was free, so whoever is busy is another one
  have hne {o' : ObjectId} (hb : w.IsBusy o') : o ≠ o' := by
    rintro rfl
    exact hw.sound.not_isBusy ho hfree hb
  have hbusy {o' : ObjectId} : (w.borrow o).IsBusy o' ↔ o = o' ∨ w.IsBusy o' :=
    Registry.isBusy_borrow_iff hw.sound ho
  obtain ⟨hi₂, hs₁⟩ := h₁ h.borrowed (fun _ heq ↦ Option.some.inj heq ▸ h.isBusy)
    (hborrow.inv hi fun {o'} hor ↦ .inl fun hb ↦ hor.elim (fun hn ↦ hn (hbusy.mpr (.inr hb)))
      fun heq ↦ hne hb (Option.some.inj heq))
  obtain ⟨hi₃, hs₂⟩ := h₂ h.returned (by simp) (hreturn.inv hi₂ fun {o'} hor ↦ by
    by_cases heq : o = o'
    · exact .inr (congrArg some heq)
    · exact .inl fun hb ↦ hor.elim (fun hn ↦ hn ((Registry.isBusy_setBorrowed heq false).mpr hb)) (by simp))
  have hstill {o' : ObjectId} (hb : w.IsBusy o') : (w₂.setBorrowed o false).IsBusy o' :=
    h.isBusy_returned hw ho (hne hb) hb
  refine ⟨hi₃, fun {o'} hb _ ↦ ?_, fun {o'} hd _ ↦ ?_, fun {o'} hd hd₀ ↦ ?_, ?_⟩
  · have hkept₁ := hs₁.kept (hbusy.mpr (.inr hb)) fun heq ↦ hne hb (Option.some.inj heq)
    rw [hs₂.kept (hstill hb) (by simp), hreturn.ownCalls, hkept₁, hborrow.ownCalls]
  · have hb := hne (.inr hd)
    have hstill₁ := hs₁.still hd fun heq ↦ hb (Option.some.inj heq)
    rw [hs₂.still (h.body_follows.keeps.dropped hd) (by simp), hreturn.window, hstill₁, hborrow.window]
  · by_cases hd₂ : o' ∈ w₂.dropped
    · have hgone := hs₁.gone hd₂ hd₀
      have hb₂ : (w₂.setBorrowed o false).IsBusy o' := .inr hd₂
      refine hgone.congr ?_ ?_
      · rw [hs₂.still hd₂ (by simp), hreturn.window]
      · rw [hs₂.kept hb₂ (by simp), hreturn.ownCalls]
    · exact hs₂.gone hd hd₂
  · exact ((hborrow.sameBalance rfl).trans hs₁.balance).trans
      ((hreturn.sameBalance rfl).trans hs₂.balance)

theorem FrameLaw.hold (hk : Tame ok k) (ho : w.IsRegistered o) (hfree : w.isBorrowed o = false)
    (hl₁ : Lawful ok (some o) (w.borrow o) w₂) (hl₂ : Lawful ok none (w₂.setBorrowed o false) w₃)
    (h₁ : FrameLaw ok (some o) (w.borrow o) w₂) (h₂ : FrameLaw ok none (w₂.setBorrowed o false) w₃) :
    FrameLaw ok none w (w₃.release (disposal k) o) := by
  intro hw _ hi
  have hheld := Lawful.held hw ho hfree hl₁ hl₂
  obtain ⟨hi₃, hs₃⟩ := FrameStep.held ho hfree hw hheld h₁ h₂ hi
  obtain ⟨hi', hs'⟩ := FrameStep.release hk hheld.alive hheld.released hheld.lt hi₃
  have hdropped {o' : ObjectId} (hd : o' ∈ w.dropped) : o' ∈ w₃.dropped :=
    hheld.after_follows.keeps.dropped (hheld.body_follows.keeps.dropped hd)
  have hbusy {o' : ObjectId} (hb : w.IsBusy o') : w₃.IsBusy o' := by
    have hk := hheld.body_follows.keeps.held ho hfree hw.sound hheld.after_follows.keeps
    exact hk.isBusy (hw.sound.retain ho) (Registry.isBusy_retain.mpr hb)
  exact ⟨hi', hs₃.trans hs' hbusy (by simp) hdropped⟩

theorem FrameLaw.leave (hk : Tame ok k) (hf : Forgets o w w₁) :
    FrameLaw ok none w (w₁.release (disposal k) o) := by
  intro hw _ hi
  have hleft := hf.left hw
  have hsame : SameValues w w₁ ∧ w₁.dropped = w.dropped ∧ ∀ o', w₁.isBorrowed o' = w.isBorrowed o' := by
    cases hf with
    | unregister => exact ⟨⟨rfl, rfl, rfl⟩, rfl, fun _ ↦ rfl⟩
    | destroy => exact ⟨⟨rfl, rfl, rfl⟩, rfl, fun _ ↦ rfl⟩
  obtain ⟨hsame, hdropped, hborrowed⟩ := hsame
  have hbusy (o' : ObjectId) : w₁.IsBusy o' ↔ w.IsBusy o' := by
    simp [Registry.IsBusy, hdropped, hborrowed]
  obtain ⟨hi', hs'⟩ := FrameStep.release hk hleft.alive hleft.released hleft.lt
    (hsame.inv hi fun {o'} hor ↦ by rwa [hbusy] at hor)
  exact ⟨hi', (hsame.step hdropped).trans hs' (hbusy _).mpr (by simp) fun hd ↦ hdropped ▸ hd⟩

theorem FrameLaw.unregister (hk : Tame ok k) (w : World) (key : Key) :
    FrameLaw ok none w (w.unregister (disposal k) () key).2 := by
  unfold Registry.unregister
  split
  · next o ho => exact .leave hk (.unregister ho)
  · exact .refl none w

theorem FrameLaw.destroy (hk : Tame ok k) (w : World) (native : NativeHandle) :
    FrameLaw ok none w (destroy k native w) := by
  rcases destroy_cases k native w with heq | ⟨key, hindex, ⟨ho, heq⟩ | ⟨o, ho, heq⟩⟩ <;> rw [heq]
  · exact .refl none w
  · exact (Unframed.modifyEnv w (fun d => { d with index := d.index.filter (·.1 ≠ native) })
      fun _ ↦ ⟨rfl, rfl⟩).law
  · exact (FrameLaw.leave hk (.destroy hindex ho)).unframed (.note _ _)

structure Installs (win : Window) (w w' : World) : Prop where
  cells : w'.cells = w.cells ++ [⟨win, 1, false⟩]
  dropped : w'.dropped = w.dropped
  trace : w'.env.trace = w.env.trace
  counts : ∀ i, (bundle w' i).counts =
    [(bundle w i).stats.created + (if win.host = i then 1 else 0), (bundle w i).stats.dropped,
      (bundle w i).stats.begun, (bundle w i).stats.ended, (bundle w i).gui.frames]

theorem Installs.of_install {win : Window} (r : LogRecord) (hh : win.host < w.env.bundles.length) :
    Installs win w (install win (note r
      (modifyStats win.host (fun s => { s with created := s.created + 1 }) w))) where
  cells := rfl
  dropped := rfl
  trace := rfl
  counts i := by
    have hcreated := bundle_modifyBundle w win.host i
      (fun b => { b with stats := { b.stats with created := b.stats.created + 1 } }) hh
    refine (reading_install win _ i Bundle.counts fun _ _ ↦ rfl).trans ?_
    refine (congrArg Bundle.counts hcreated).trans ?_
    split <;> rfl

section Installs

variable {win : Window} (h : Installs win w w')

include h

theorem Installs.lt_length : o < w'.cells.length ↔ o < w.cells.length ∨ o = w.cells.length := by
  rw [h.cells, List.length_append, List.length_singleton]
  exact Nat.lt_succ_iff_lt_or_eq

theorem Installs.window_eq (ho : o < w.cells.length) : window w' o = window w o := by
  rw [window, window, Registry.value?, Registry.value?, h.cells, List.getElem?_append_left ho]

theorem Installs.window_last : window w' w.cells.length = win := by
  rw [window, Registry.value?, h.cells]
  simp

theorem Installs.frameCalls_eq (i : Nat) (n : NativeHandle) : frameCalls w' i n = frameCalls w i n := by
  rw [frameCalls, h.trace, frameCalls]

theorem Installs.ownCalls_eq (ho : o < w.cells.length) : ownCalls w' o = ownCalls w o := by
  rw [ownCalls, h.window_eq ho, h.frameCalls_eq, ownCalls]

theorem Installs.isBusy (hb : w.IsBusy o) : w'.IsBusy o := by
  refine hb.imp (fun hborrowed ↦ ?_) fun hd ↦ h.dropped ▸ hd
  have ho := Registry.lt_of_isBorrowed hborrowed
  simpa [Registry.isBorrowed, h.cells, List.getElem?_append_left ho] using hborrowed

theorem Installs.frameInv (hi : FrameInv none w)
    (hnew : ∀ {o}, o < w.cells.length → (window w o).host = win.host →
      (window w o).native ≠ win.native)
    (hidle : win.inFrame = false) (hcontext : win.context.inFrame = false) : FrameInv none w' where
  settled {o} ho hor := by
    rcases h.lt_length.mp ho with ho | rfl
    · have hidle' : ¬ w.IsBusy o := fun hb ↦ hor.elim (fun hn ↦ hn (h.isBusy hb)) (by simp)
      exact (hi.settled ho (.inl hidle')).congr (h.window_eq ho) (h.ownCalls_eq ho)
    · refine ⟨by rw [h.window_last, hidle, hcontext], [], ?_⟩
      rw [ownCalls, h.window_last, h.frameCalls_eq, hi.silent fun o ho ↦ hnew ho, hidle]
      rfl
  silent {i n} hnone := by
    rw [h.frameCalls_eq]
    exact hi.silent fun o ho ↦ h.window_eq ho ▸ hnone o (h.lt_length.mpr (.inl ho))

theorem Installs.sameBalance (hw : w.Sound) (hidle : win.inFrame = false) : SameBalance w w' := by
  have hcounts := h.counts
  simp only [Bundle.counts, List.cons.injEq, and_true] at hcounts
  refine ⟨fun i ↦ ?_, fun i ↦ ?_, fun i ↦ ?_⟩
  · have hinFrames : inFrames w' i = inFrames w i := by
      simp [inFrames, h.cells, List.countP_append, hidle]
    simp only [frameBalance, hinFrames, hcounts i]
  · have hopened : everOpened w' i = everOpened w i + if win.host = i then 1 else 0 := by
      simp only [everOpened, h.cells, List.countP_append, List.countP_cons, List.countP_nil]
      simp
    have hgone : everDropped w' i = everDropped w i := by
      simp only [everDropped, h.dropped]
      refine List.countP_congr fun o ho ↦ ?_
      rw [h.window_eq (hw.dropped_iff.mp ho).1]
    simp only [rendererBalance, hopened, hgone, hcounts i]
    split <;> omega
  · simp only [guiBalance, hcounts i]

theorem Installs.frameStep (hw : w.Sound) (hidle : win.inFrame = false) : FrameStep none w w' where
  kept hb _ := h.ownCalls_eq (hb.lt hw)
  still hd _ := h.window_eq (hw.dropped_iff.mp hd).1
  gone hd hd₀ := absurd (h.dropped ▸ hd) hd₀
  balance := h.sameBalance hw hidle

end Installs

theorem Unframed.prepare (w : World) (h : Nat) (style : GuiStyle) : Unframed w (prepare h style w) := by
  refine Unframed.trans ?_ (.call _ _ _ rfl)
  refine Unframed.trans ?_
    (.modifyBundle _ _ (fun b => { b with gui := { b.gui with contexts := _ } }) fun _ ↦ rfl)
  refine Unframed.trans ?_ (.call _ _ _ rfl)
  exact (Unframed.acquireWatchdog w h).trans ((Unframed.acquireAtlas _).trans (.acquireAtlas _))

theorem FrameLaw.build (hk : Tame ok k) (w : World) (h : Nat) (native : NativeHandle) (title : String)
    (rect : Rect) : FrameLaw ok none w (build k h native title rect w) := by
  have hview : Unframed w (modifyHost h (·.addWindow title rect) w) := .modifyHost w h _
  have hlview : Lawful ok none w (modifyHost h (·.addWindow title rect) w) :=
    .modifyHost h _ fun _ ↦ Nat.le_succ _
  refine FrameLaw.trans ?_ ?_ (hk.frames h .createBackend _)
  · exact hlview.trans ((Moves.call _ _ _).lawful.trans (Moves.call _ _ _).lawful)
  · exact (hview.trans ((Unframed.call _ _ _ rfl).trans (.call _ _ _ rfl))).law

theorem FrameLaw.openWindow (hk : Tame ok k) (w : World) (h : Nat) (hh : h < w.env.bundles.length)
    (config : ContextConfig) (title : String) (x y width height : Int32)
    (hdestroy : ∀ native w, FrameLaw ok none w (requestDestroy k h native w)) :
    FrameLaw ok none w (openWindow k h config title x y width height w).2 := by
  have hprepared := Unframed.prepare w h config.style
  have hlprepared : Lawful ok none (equip h w) (prepare h config.style w) :=
    (Moves.prepare w h config.style).lawful
  rw [openWindow_eq]
  dsimp only
  generalize prepare h config.style w = w₁ at hprepared hlprepared ⊢
  split
  · exact (hprepared.trans (.trans (.call _ _ _ rfl) (.trans (.call _ _ _ rfl) (.discharge _)))).law
  · have hbuild := FrameLaw.build hk w₁ h (host w₁ h).freshHandle title (.ofPosSize x y width height)
    have hlview : Lawful ok none w₁
        (modifyHost h (·.addWindow title (.ofPosSize x y width height)) w₁) :=
      .modifyHost h _ fun _ ↦ Nat.le_succ _
    have hlbuild : Lawful ok none (modifyHost h (·.addWindow title (.ofPosSize x y width height)) w₁)
        (World.build k h (host w₁ h).freshHandle title (.ofPosSize x y width height) w₁) :=
      .trans (Moves.call _ _ _).lawful (.trans (Moves.call _ _ _).lawful (hk.lawful _ _ _))
    generalize World.build k h (host w₁ h).freshHandle title _ w₁ = w₂ at hbuild hlbuild ⊢
    have hbuilt : FrameLaw ok none w w₂ :=
      .trans ((Lawful.equip h).trans hlprepared) hprepared.law hbuild
    have hlbuilt : Lawful ok none w w₂ :=
      (Lawful.equip h).trans (hlprepared.trans (hlview.trans hlbuild))
    split
    · refine FrameLaw.unframed (FrameLaw.trans ?_ ?_ (hdestroy _ _))
        (.trans (.releaseAtlas _) (.releaseWatchdog _))
      · exact hlbuilt.trans ((Moves.note _ _).lawful.trans ((Moves.call _ _ _).lawful.trans
          .releaseAtlas))
      · exact hbuilt.unframed (.trans (.note _ _) (.trans (.call _ _ _ rfl) (.releaseAtlas _)))
    · refine FrameLaw.unframed (fun hw hc hi ↦ ?_) (.trans (.call _ _ _ rfl) (.note _ _))
      have hopened : Opened ok (newWindow h (host w₁ h).freshHandle config (host w h).platform
          (host w₁ h).background w₂.env.atlas.generation) _ w w₁ w₂ :=
        Lawful.openedFacts hw hh hlprepared rfl hlbuild
      obtain ⟨hi₂, hs₂⟩ := hbuilt hw hc hi
      obtain ⟨-, hf₂⟩ := hlbuilt hw hc
      have hinstalls := Installs.of_install (.backendBound (host w₁ h).freshHandle) hopened.host_lt
      exact ⟨hinstalls.frameInv hi₂ hopened.new rfl rfl,
        hs₂.trans (hinstalls.frameStep hopened.after.sound rfl) (hf₂.keeps.isBusy hw.sound) (by simp)
          hf₂.keeps.dropped⟩

/-- Everything keeps the law of frames that does not call on a GUI directly. -/
theorem Evolves.frameLaw (hnew : ¬ ok .contextNewFrame) (hrender : ¬ ok .contextRender)
    (hend : ¬ ok .contextEndFrame) (h : Evolves ok current w w') : FrameLaw ok current w w' := by
  induction h with
  | refl current w => exact .refl current w
  | trans h _ ih ih' => exact .trans h.lawful ih ih'
  | nested o h ih => exact ih.nested h.lawful o
  | assuming _ ih => exact fun hw ↦ ih hw.hooks hw
  | unseen w f hcore _ => exact (Unframed.of_core f hcore).law
  | edit h => exact h.unframed.law
  | setCapture w h native => exact (Unframed.modifyHost w h _).law
  | releaseCapture w h => exact (Unframed.modifyHost w h _).law
  | report w h text => exact (Unframed.modifyHost w h _).law
  | inject w h text =>
    exact (Unframed.modifyBundle w h (fun b => { b with gui := b.gui.inject text }) fun _ ↦ rfl).law
  | touch w o f hf => exact .touch f hf
  | keepAtlas w o =>
    refine Unframed.law (.trans (.modifyEnv w _ ?_) (.modifyEnv _ _ ?_)) <;> exact fun _ ↦ ⟨rfl, rfl⟩
  | mouseDown w o button => exact .mouseDown button
  | mouseUp w o button => exact .mouseUp button
  | beginFrame hk w o hidle ih => exact .beginFrame ⟨fun h p w ↦ (hk h p w).lawful, ih⟩ hidle
  | endFrame hk w o render hopen ih => exact .endFrame ⟨fun h p w ↦ (hk h p w).lawful, ih⟩ render hopen
  | newFrame _ _ _ hok => exact absurd hok hnew
  | renderFrame _ _ hok => exact absurd hok hrender
  | discardFrame _ _ hok => exact absurd hok hend
  | hold hk ho hfree hbody hafter ih ihbody ihafter =>
    exact .hold ⟨fun h p w ↦ (hk h p w).lawful, ih⟩ ho hfree hbody.lawful hafter.lawful ihbody ihafter
  | unregister hk w key ih => exact .unregister ⟨fun h p w ↦ (hk h p w).lawful, ih⟩ w key
  | destroy hk w native ih => exact .destroy ⟨fun h p w ↦ (hk h p w).lawful, ih⟩ w native
  | openWindow hk w h hh config title x y width height _ ih ihdestroy =>
    exact .openWindow ⟨fun h p w ↦ (hk h p w).lawful, ih⟩ w h hh config title x y width height ihdestroy

def liveWindows (w : World) : List Window := w.entries.toList.map fun entry => window w entry.2.object

theorem AtRest.perm_listening (h : AtRest w) (hw : Coherent ok w) :
    (w.entries.toList.map (·.2.object)).Perm (listening w) := by
  refine (List.perm_ext_iff_of_nodup ?_ (nodup_listening w)).mpr fun o ↦ ?_
  · refine List.pairwise_map.mpr ((List.pairwise_map.mp (SlotMap.pairwise_toList w.entries)).imp_of_mem ?_)
    intro entry entry' hmem hmem' hlt heq
    have hkey := hw.sound.key_unique (SlotMap.mem_toList.mp hmem) (SlotMap.mem_toList.mp hmem') heq
    rw [hkey] at hlt
    exact Nat.lt_irrefl _ hlt
  · rw [h.mem_listening_iff hw, List.mem_map]
    constructor
    · rintro ⟨⟨key, e⟩, hmem, rfl⟩
      exact ⟨key, by rw [Registry.find?_unit, SlotMap.mem_toList.mp hmem]; rfl⟩
    · rintro ⟨key, hkey⟩
      obtain ⟨e, he, -, rfl⟩ := Registry.find?_eq_some hkey
      exact ⟨(key, e), SlotMap.mem_toList.mpr he, rfl⟩

theorem Coherent.perm_range (hw : Coherent ok w) :
    (List.range w.cells.length).Perm (listening w ++ w.dropped) := by
  refine (List.perm_ext_iff_of_nodup List.nodup_range ?_).mpr fun o ↦ ?_
  · refine List.nodup_append.mpr ⟨nodup_listening w, hw.sound.dropped_nodup, fun o ho o' hd heq ↦ ?_⟩
    exact (mem_listening.mp ho).2 (heq ▸ hd)
  · rw [List.mem_append, mem_listening, List.mem_range]
    by_cases hd : o ∈ w.dropped
    · simp [hd, (hw.sound.dropped_iff.mp hd).1]
    · simp [hd]

theorem AtRest.countP_cells (h : AtRest w) (hw : Coherent ok w) (p : Window → Bool) :
    w.cells.countP (fun c => p c.value) =
      (liveWindows w).countP p + w.dropped.countP fun o => p (window w o) := by
  have hvalues : w.cells.map Cell.value = (List.range w.cells.length).map (window w) := by
    refine List.ext_getElem (by simp) fun o ho _ ↦ ?_
    rw [List.length_map] at ho
    simp [window, Registry.value?, ho]
  have hlive : (liveWindows w).countP p = (listening w).countP fun o => p (window w o) := by
    rw [← (h.perm_listening hw).countP_eq, List.countP_map, liveWindows, List.countP_map]
    rfl
  calc w.cells.countP (fun c => p c.value)
      = (w.cells.map Cell.value).countP p := by rw [List.countP_map]; rfl
    _ = (List.range w.cells.length).countP fun o => p (window w o) := by
      rw [hvalues, List.countP_map]
      rfl
    _ = (liveWindows w).countP p + w.dropped.countP fun o => p (window w o) := by
      rw [hw.perm_range.countP_eq, List.countP_append, hlive]

def leavesGui : WindowStep → Prop
  | .contextNewFrame | .contextRender | .contextEndFrame => False
  | _ => True

/-- A moment at which a call works on a window that is settled, whatever other calls are under way. -/
structure AtWork (o : ObjectId) (w : World) : Prop where
  coherent : Coherent leavesGui w
  busy : w.IsBusy o
  frames : FrameInv (some o) w

theorem tame_scripted (n : Nat) : Tame leavesGui (scripted n) where
  lawful h p w := (Evolves.scripted n h p w).lawful
  frames h p w := (Evolves.scripted n h p w).frameLaw id id id

theorem AtWork.amid (h : AtWork o w) :
    Amid leavesGui o w w [] (window w o).inFrame (window w o).inFrame 0 0 0 := by
  have hstart := Amid.start h.coherent h.busy h.frames.weaken
  rwa [(h.frames.settled (h.busy.lt h.coherent.sound) (.inr rfl)).1] at hstart

theorem AtWork.evolves (h : AtWork o w) (he : Evolves leavesGui (some o) w w') : AtWork o w' := by
  have hc (o' : ObjectId) (heq : some o = some o') : w.IsBusy o' := Option.some.inj heq ▸ h.busy
  obtain ⟨hw', hf⟩ := he.lawful h.coherent hc
  exact ⟨hw', hf.keeps.isBusy h.coherent.sound h.busy, (he.frameLaw id id id h.coherent hc h.frames).1⟩

theorem frameInv_empty (hosts : List HostSetup) : FrameInv none (World.empty hosts) where
  settled ho := absurd ho (Nat.not_lt_zero _)
  silent _ := rfl

theorem balance_empty (hosts : List HostSetup) (h : Nat) :
    frameBalance (World.empty hosts) h = 0 ∧ rendererBalance (World.empty hosts) h = 0 ∧
      guiBalance (World.empty hosts) h = 0 := by
  have hcounts : (bundle (World.empty hosts) h).counts = [0, 0, 0, 0, 0] := by
    simp only [bundle, World.empty, List.getD_eq_getElem?_getD, List.getElem?_map]
    cases hosts[h]? <;> rfl
  simp only [Bundle.counts, List.cons.injEq, and_true] at hcounts
  have hcells : (World.empty hosts).cells = [] := rfl
  have hdropped : (World.empty hosts).dropped = [] := rfl
  simp [frameBalance, rendererBalance, guiBalance, inFrames, everOpened, everDropped, hcounts, hcells,
    hdropped]

theorem FrameInv.atWork (hi : FrameInv none w) (hw : Coherent leavesGui w) (hrest : AtRest w)
    (ho : w.IsRegistered o) : AtWork o (w.borrow o) := by
  have hidle {o' : ObjectId} (ho' : o' < w.cells.length) (hd : o' ∉ w.dropped) : ¬ w.IsBusy o' :=
    fun hb ↦ hb.elim (fun hb ↦ by simp [hrest.free ho'] at hb) hd
  have hself := hidle (ho.lt hw.sound) (Registry.not_mem_dropped_of_isRegistered hw.sound ho)
  refine ⟨hw.borrow ho, Registry.isBusy_borrow hw.sound ho, ?_⟩
  refine (SameValues.borrow w o).inv hi fun {o'} hor ↦ .inl ?_
  rcases hor with hfree | heq
  · rintro (hb | hd)
    · rw [hrest.free (Registry.lt_of_isBorrowed hb)] at hb
      cases hb
    · exact hfree (.inr hd)
  · cases heq
    exact hself

/-- Between the steps of a script, whatever its steps leave to callbacks: the calls on the renderer
of a window that lives are complete frames, and one that has begun if the window is in a frame; on
one that has gone, complete frames and one drop. A frame is drawn exactly if it is ended to be
presented; one that is open when its window goes is ended without. -/
theorem frames_follow_protocol (hosts : List HostSetup) (n : Nat) (steps : List Step)
    (hsteps : Step.UsesAll leavesGui steps) :
    let w := (Session.runFrom n none (World.empty hosts) steps).2
    (∀ key o, Registry.find? w (some ()) key = some o →
      FrameCall.Complete (ownCalls w o) (window w o).inFrame ∧ AtWork o (w.borrow o)) ∧
    (∀ o, o < w.cells.length → (∀ key, Registry.find? w (some ()) key ≠ some o) →
      ∃ calls, FrameCall.Complete calls false ∧ ownCalls w o = calls ++ [.drop]) ∧
    (∀ h native, (∀ o, o < w.cells.length → (window w o).host = h → (window w o).native ≠ native) →
      frameCalls w h native = []) ∧
    (∀ o w', AtWork o w' → (window w' o).inFrame = true → ∀ render,
      AtWork o (endFrame (scripted n) o render w') ∧
      ownCalls (endFrame (scripted n) o render w') o =
        ownCalls w' o ++ if render then [.draw, .finish] else [.finish]) ∧
    (∀ o w', AtWork o w' → ownCalls (dropWindow (scripted n) o w') o =
      ownCalls w' o ++ if (window w' o).inFrame then [.finish, .drop] else [.drop]) ∧
    ∀ h, (bundle w h).stats.begun = (bundle w h).stats.ended +
        (liveWindows w).countP (fun win => win.host = h && win.inFrame) ∧
      (bundle w h).stats.created = (bundle w h).stats.dropped +
        (liveWindows w).countP (fun win => win.host = h) ∧
      (bundle w h).gui.frames = (bundle w h).stats.ended := by
  intro w
  have hrun : Evolves leavesGui none (World.empty hosts) w := .run n _ hsteps
  obtain ⟨hw, hf⟩ := hrun.lawful (coherent_empty hosts) (by simp)
  have hrest := (atRest_empty hosts).of_follows hf
  obtain ⟨hi, hs⟩ := hrun.frameLaw id id id (coherent_empty hosts) (by simp) (frameInv_empty hosts)
  have hgone {o : ObjectId} (hd : o ∈ w.dropped) : Gone w o := hs.gone hd (by simp [World.empty])
  refine ⟨fun key o hkey ↦ ?_, fun o ho hkey ↦ ?_, fun h native ↦ hi.silent, ?_, ?_, fun h ↦ ?_⟩
  · have hwork := hi.atWork hw hrest (Registry.isRegistered_of_find? hkey)
    have hsettled := hwork.frames.settled (hwork.busy.lt hwork.coherent.sound) (.inr rfl)
    have hsame := SameValues.borrow w o
    exact ⟨(hsettled.congr (hsame.window o).symm (hsame.ownCalls o).symm).2, hwork⟩
  · have hd : o ∈ w.dropped := by
      refine (hrest.mem_dropped_iff hw ho).mpr ?_
      rintro ⟨key, e, he, heq⟩
      exact hkey key (by rw [Registry.find?_unit, he, ← heq]; rfl)
    exact (hgone hd).2
  · intro o w' hwork hopen render
    have hstart := hwork.amid
    rw [hopen] at hstart
    refine ⟨hwork.evolves (.endFrame (fun h p w ↦ .scripted n h p w) w' o render hopen), ?_⟩
    exact (hstart.endFrame (tame_scripted n) render).own
  · intro o w' hwork
    rw [(hwork.amid.dropWindow (tame_scripted n)).own]
    split <;> rfl
  · obtain ⟨hframes, hrenderers, hguis⟩ := balance_empty hosts h
    rw [← hs.balance.frames] at hframes
    rw [← hs.balance.renderers] at hrenderers
    rw [← hs.balance.guis] at hguis
    have hin : inFrames w h = (liveWindows w).countP fun win => win.host = h && win.inFrame := by
      have hcount := hrest.countP_cells hw fun win => win.host = h && win.inFrame
      have hnone : w.dropped.countP (fun o => (window w o).host = h && (window w o).inFrame) = 0 := by
        refine List.countP_eq_zero.mpr fun o hd ↦ ?_
        simp [(hgone hd).1]
      rw [hnone] at hcount
      exact hcount
    have hopened : everOpened w h = (liveWindows w).countP (fun win => win.host = h) +
        everDropped w h := hrest.countP_cells hw fun win => win.host = h
    simp only [frameBalance, rendererBalance, guiBalance] at hframes hrenderers hguis
    refine ⟨?_, ?_, ?_⟩
    · omega
    · omega
    · omega

/-- A window destroyed by its own renderer while its frame is presented. -/
theorem frames_follow_protocol_reentered :
    let steps : List Step :=
      [.hook 0 .drawFrame [.host 0 (.destroyNative (.slot 0)), .heartbeat, .openWindow 0 {} "b" 0 0 9 9],
        .openWindow 0 {} "a" 0 0 9 9, .window (.slot 0) (.frame true)]
    let w := (Session.runFrom 1 none (World.empty [{}]) steps).2
    Step.UsesAll leavesGui steps ∧ w.cells.length = 2 ∧
      ∃ calls, FrameCall.Complete calls false ∧ ownCalls w 0 = calls ++ [.drop] := by
  intro steps w
  have hsteps : Step.UsesAll leavesGui steps := by simp [steps, Step.UsesAll, Step.Uses, leavesGui]
  have hlen : w.cells.length = 2 := by decide +kernel
  have hgone : ∀ entry ∈ w.entries.toList, entry.2.object ≠ 0 := by decide +kernel
  have hkey (key : Key) : Registry.find? w (some ()) key ≠ some 0 := fun hkey ↦ by
    obtain ⟨e, he, -, heq⟩ := Registry.find?_eq_some hkey
    exact hgone (key, e) (SlotMap.mem_toList.mpr he) heq
  obtain ⟨-, hdropped, -⟩ := frames_follow_protocol [{}] 1 steps hsteps
  exact ⟨hsteps, hlen, hdropped 0 (by rw [hlen]; decide) hkey⟩

end Casement.World
