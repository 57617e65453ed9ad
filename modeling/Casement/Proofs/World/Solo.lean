import Casement.Proofs.Window.Events
import Casement.Proofs.World.Places

namespace Casement

def Host.seats (s : Host) : List (NativeHandle × Option NativeHandle) :=
  s.views.map fun v => (v.handle, v.parent)

theorem Host.seats_modifyView (s : Host) (native : NativeHandle) (f : View → View)
    (hf : ∀ v, (f v).handle = v.handle ∧ (f v).parent = v.parent) :
    (s.modifyView native f).seats = s.seats := by
  simp only [seats, modifyView, List.map_map]
  refine List.map_congr_left fun v _ ↦ ?_
  simp only [Function.comp_apply]
  split
  · rw [(hf v).1, (hf v).2]
  · rfl

def Bundle.habits (b : Bundle) : List MessageKind × Bool × List NativeHandle :=
  (b.consumed, b.defers, b.deferred)

def Bundle.standing (b : Bundle) :
    List (NativeHandle × Option NativeHandle) × List MessageKind × Bool × List NativeHandle :=
  (b.host.seats, b.habits)

namespace World

def presented (w : World) (i : Nat) : Nat := (bundle w i).stats.presented

/-- The second world comes from the first by work on one window, which is now `win`; its host was
given `n` more frames. -/
structure Solo (o : ObjectId) (w₀ w : World) (win : Window) (n : Nat) : Prop where
  lt : o < w.cells.length
  length : w.cells.length = w₀.cells.length
  entries : w.entries = w₀.entries
  index : w.env.index = w₀.env.index
  hosts : w.env.bundles.length = w₀.env.bundles.length
  standing : ∀ i, (bundle w i).standing = (bundle w₀ i).standing
  others : ∀ {o'}, o' ≠ o → window w o' = window w₀ o'
  value : window w o = win
  host : win.host = (window w₀ o).host
  native : win.native = (window w₀ o).native
  host_lt : win.host < w.env.bundles.length
  presented : ∀ i, presented w i = presented w₀ i + if win.host = i then n else 0

section Solo

variable {o : ObjectId} {w₀ w w' : World} {win : Window} {n : Nat}

theorem Solo.start (ho : o < w.cells.length) (hhost : (window w o).host < w.env.bundles.length) :
    Solo o w w (window w o) 0 where
  lt := ho
  length := rfl
  entries := rfl
  index := rfl
  hosts := rfl
  standing _ := rfl
  others _ := rfl
  value := rfl
  host := rfl
  native := rfl
  host_lt := hhost
  presented i := by simp

theorem Solo.of_same (h : Solo o w₀ w win n) (hsame : SameWindows w w')
    (hindex : w'.env.index = w.env.index)
    (hosts : w'.env.bundles.length = w.env.bundles.length)
    (hstanding : ∀ i, (bundle w' i).standing = (bundle w i).standing)
    (hpresented : ∀ i, World.presented w' i = World.presented w i) : Solo o w₀ w' win n where
  lt := by rw [hsame.cells]; exact h.lt
  length := by rw [hsame.cells, h.length]
  entries := by rw [hsame.entries, h.entries]
  index := by rw [hindex, h.index]
  hosts := by rw [hosts, h.hosts]
  standing i := by rw [hstanding, h.standing]
  others hne := by rw [hsame.window, h.others hne]
  value := by rw [hsame.window, h.value]
  host := h.host
  native := h.native
  host_lt := by rw [hosts]; exact h.host_lt
  presented i := by rw [hpresented, h.presented]

theorem Solo.call (h : Solo o w₀ w win n) (i : Nat) (c : Call) : Solo o w₀ (call i c w) win n :=
  h.of_same ⟨rfl, rfl, rfl⟩ rfl rfl (fun _ ↦ rfl) fun _ ↦ rfl

theorem Solo.note (h : Solo o w₀ w win n) (r : LogRecord) : Solo o w₀ (note r w) win n :=
  h.of_same ⟨rfl, rfl, rfl⟩ rfl rfl (fun _ ↦ rfl) fun _ ↦ rfl

theorem Solo.modifyBundle (h : Solo o w₀ w win n) (i : Nat) (f : Bundle → Bundle)
    (hf : ∀ b, (f b).standing = b.standing ∧ (f b).stats.presented = b.stats.presented) :
    Solo o w₀ (modifyBundle i f w) win n :=
  h.of_same ⟨rfl, rfl, rfl⟩ rfl (length_bundles_modifyBundle ..)
    (fun j ↦ reading_modifyBundle w i j Bundle.standing f fun b ↦ (hf b).1)
    fun j ↦ reading_modifyBundle w i j (·.stats.presented) f fun b ↦ (hf b).2

theorem Solo.modifyHost (h : Solo o w₀ w win n) (i : Nat) (f : Host → Host)
    (hf : ∀ s, (f s).seats = s.seats) :
    Solo o w₀ (modifyHost i f w) win n :=
  h.modifyBundle i _ fun b ↦ ⟨congrArg (·, b.habits) (hf b.host), rfl⟩

theorem Solo.modifyGui (h : Solo o w₀ w win n) (i : Nat) (f : GuiState → GuiState) :
    Solo o w₀ (modifyGui i f w) win n := h.modifyBundle i _ fun _ ↦ ⟨rfl, rfl⟩

theorem Solo.modifyStats (h : Solo o w₀ w win n) (i : Nat) (f : RenderStats → RenderStats)
    (hf : ∀ s, (f s).presented = s.presented) :
    Solo o w₀ (modifyStats i f w) win n := h.modifyBundle i _ fun b ↦ ⟨rfl, hf b.stats⟩

theorem Solo.present (h : Solo o w₀ w win n) (f : RenderStats → RenderStats)
    (hf : ∀ s, (f s).presented = s.presented + 1) :
    Solo o w₀ (World.modifyStats win.host f w) win (n + 1) := by
  have hbundle (i : Nat) := bundle_modifyBundle w win.host i
    (fun b => { b with stats := f b.stats }) h.host_lt
  refine { h with hosts := ?_, standing := fun i ↦ ?_, host_lt := ?_, presented := fun i ↦ ?_ }
  · exact (length_bundles_modifyBundle ..).trans h.hosts
  · exact (reading_modifyBundle w win.host i Bundle.standing
      (fun b => { b with stats := f b.stats }) fun _ ↦ rfl).trans (h.standing i)
  · exact (length_bundles_modifyBundle ..).symm ▸ h.host_lt
  · have hi := h.presented i
    unfold World.presented at hi ⊢
    rw [World.modifyStats, hbundle i]
    by_cases heq : win.host = i
    · simp only [heq, if_true] at hi ⊢
      rw [hf, hi, Nat.add_assoc]
    · simpa [heq] using hi

theorem Solo.update (h : Solo o w₀ w win n) (f : Window → Window)
    (hf : (f win).host = win.host ∧ (f win).native = win.native) :
    Solo o w₀ (w.update o f) (f win) n where
  lt := by rw [Registry.length_update]; exact h.lt
  length := by rw [Registry.length_update, h.length]
  entries := h.entries
  index := h.index
  hosts := h.hosts
  standing := h.standing
  others hne := by rw [window_update w o _ f h.lt, if_neg (Ne.symm hne), h.others hne]
  value := by rw [window_update w o o f h.lt, if_pos rfl, h.value]
  host := hf.1.trans h.host
  native := hf.2.trans h.native
  host_lt := hf.1.symm ▸ h.host_lt
  presented i := by
    rw [hf.1]
    exact h.presented i

theorem Solo.foldl {α : Type} {f : World → α → World}
    (hf : ∀ {w} a, Solo o w₀ w win n → Solo o w₀ (f w a) win n) (l : List α)
    (h : Solo o w₀ w win n) : Solo o w₀ (l.foldl f w) win n := by
  induction l generalizing w with
  | nil => exact h
  | cons a l ih => exact ih (hf a h)

theorem Solo.newFrame (h : Solo o w₀ w win n) :
    ∃ captures, Solo o w₀ (newFrame (scripted 0) o w).2
      (if win.context.inFrame then win else { win with context := win.context.begin captures }) n := by
  have hcall := h.call win.host .newFrame
  unfold World.newFrame
  dsimp only [scripted]
  rw [h.value, hcall.value]
  by_cases hopen : win.context.inFrame = true
  · rw [if_pos hopen]
    exact ⟨false, by rw [if_pos hopen]; exact hcall⟩
  · rw [if_neg hopen]
    refine ⟨(bundle (World.call win.host .newFrame w) win.host).gui.capturesKeyboard, ?_⟩
    rw [if_neg hopen]
    exact hcall.update (fun win => { win with context := win.context.begin _ }) ⟨rfl, rfl⟩

theorem Solo.beginFrame (h : Solo o w₀ w { win with keepAlive := true } n) :
    ∃ host host' scale captures, Solo o w₀ (beginFrame (scripted 0) o w).2
      (win.begun host host' scale captures) n := by
  unfold World.beginFrame
  dsimp only [scripted]
  rw [h.value]
  have hinfo := h.update (fun win' =>
    { win' with inFrame := true }.readFrameInfo (bundle w win.host).host (bundle w win.host).scale)
    ⟨rfl, rfl⟩
  have hbegun := (hinfo.call win.host (.beginFrame win.native)).modifyStats win.host
    (fun s => { s with begun := s.begun + 1 }) fun _ ↦ rfl
  obtain ⟨captures, hnew⟩ :=
    (hbegun.update (fun win' => win'.readInput (World.host _ win.host)) ⟨rfl, rfl⟩).newFrame
  exact ⟨_, _, _, captures, hnew⟩

theorem Solo.enterFrame (h : Solo o w₀ w win n) (spared : Bool) :
    ∃ win', win.Reacts spared win.entry win' ∧ Solo o w₀ (enterFrame (scripted 0) o w).2 win' n := by
  have hkept := h.update (fun win => { win with keepAlive := true }) ⟨rfl, rfl⟩
  unfold World.enterFrame Window.entry
  dsimp only
  rw [hkept.value]
  by_cases hopen : win.inFrame = true
  · rw [if_pos hopen, if_pos hopen]
    exact ⟨_, .enter hopen, hkept⟩
  · rw [if_neg hopen, if_neg hopen]
    obtain ⟨host, host', scale, captures, hbegun⟩ := hkept.beginFrame
    exact ⟨_, .begin host host' scale captures (Bool.eq_false_iff.mpr hopen), hbegun⟩

theorem Solo.recoverErrors (h : Solo o w₀ w win n) : Solo o w₀ (recoverErrors (scripted 0) o w) win n := by
  unfold World.recoverErrors
  dsimp only [scripted]
  refine .foldl (fun e h ↦ ?_) _ ((h.call _ _).modifyGui _ _)
  exact ((h.call _ _).modifyHost _ _ fun _ ↦ by rfl).note _

theorem Solo.renderFrame (h : Solo o w₀ w win n) :
    Solo o w₀ (renderFrame o w).2 { win with context := win.context.finish } n := by
  unfold World.renderFrame
  dsimp only
  exact ((h.call _ _).update (fun win => { win with context := win.context.finish })
    ⟨rfl, rfl⟩).modifyGui _ _

theorem Solo.discardFrame (h : Solo o w₀ w win n) :
    Solo o w₀ (discardFrame o w) { win with context := win.context.finish } n := by
  unfold World.discardFrame
  exact ((h.call _ _).update (fun win => { win with context := win.context.finish })
    ⟨rfl, rfl⟩).modifyGui _ _

theorem Solo.presentFrame (h : Solo o w₀ w win n) :
    Solo o w₀ (presentFrame (scripted 0) o w) { win with context := win.context.finish } (n + 1) := by
  unfold World.presentFrame
  dsimp only [scripted]
  rw [h.value]
  exact (h.renderFrame.call win.host (.drawFrame win.native)).present _ fun _ ↦ by rfl

theorem Solo.endFrame (h : Solo o w₀ w win n) (render : Bool) :
    Solo o w₀ (endFrame (scripted 0) o render w) win.ended
      (n + if win.inFrame && render then 1 else 0) := by
  have hend {w : World} {n : Nat} (h : Solo o w₀ w { win with context := win.context.finish } n) :
      Solo o w₀ ((World.modifyStats win.host (fun s => { s with ended := s.ended + 1 })
        (World.call win.host (.endFrame win.native) w)).update o
          fun win => { win with inFrame := false })
        { win with inFrame := false, context := win.context.finish } n :=
    ((h.call _ _).modifyStats _ _ fun _ ↦ by rfl).update (fun win => { win with inFrame := false })
      ⟨rfl, rfl⟩
  unfold World.endFrame Window.ended
  dsimp only [scripted]
  rw [h.value]
  by_cases hopen : win.inFrame = true
  · rw [if_pos hopen, if_pos hopen, hopen]
    cases render with
    | true => exact hend h.recoverErrors.presentFrame
    | false => exact hend h.recoverErrors.discardFrame
  · rw [if_neg hopen, if_neg hopen, Bool.eq_false_iff.mpr hopen]
    exact h.note _

theorem Solo.mouseDown (h : Solo o w₀ w win n) (button : MouseButton) :
    Solo o w₀ (mouseDown o button w) { win with buttons := win.buttons.press button } n := by
  unfold World.mouseDown
  dsimp only
  refine Solo.update ?_ (fun win => { win with buttons := win.buttons.press button }) ⟨rfl, rfl⟩
  split
  · exact (h.call _ _).modifyHost _ _ fun _ ↦ by rfl
  · exact h

theorem Solo.mouseUp (h : Solo o w₀ w win n) (button : MouseButton) :
    Solo o w₀ (mouseUp o button w) { win with buttons := win.buttons.release button } n := by
  have hup := h.update (fun win => { win with buttons := win.buttons.release button }) ⟨rfl, rfl⟩
  unfold World.mouseUp
  dsimp only
  split
  · exact (hup.call _ _).modifyHost _ _ fun _ ↦ by rfl
  · exact hup

theorem Solo.updateCursor (h : Solo o w₀ w win n) : Solo o w₀ (updateCursor o w) win n := by
  unfold World.updateCursor
  exact (h.call _ _).modifyHost _ _ fun _ ↦ by rfl

theorem Solo.charInput (h : Solo o w₀ w win n) (codepoint : UInt32) :
    Solo o w₀ (w.update o (·.charInput codepoint)) (win.charInput codepoint) n := by
  refine h.update (·.charInput codepoint) ?_
  unfold Window.charInput
  split <;> exact ⟨rfl, rfl⟩

theorem Solo.receive (h : Solo o w₀ w win n) (m : Message) :
    Solo o w₀ (receive o m w).2 (win.received m) n := by
  cases m with
  | close => exact h.update (fun win => { win with closeRequested := true }) ⟨rfl, rfl⟩
  | mouseMove => exact h.updateCursor
  | setCursor client =>
    cases client with
    | true => exact h.updateCursor
    | false => exact h
  | mouseWheel axis delta => exact h.update (·.turnWheel axis delta) ⟨rfl, rfl⟩
  | buttonDown button => exact h.mouseDown button
  | buttonUp button => exact h.mouseUp button
  | key code down => exact h.update (·.keyInput code down) ⟨rfl, rfl⟩
  | char codepoint => exact h.charInput codepoint
  | destroy | other => exact h

def consumes (w : World) (o : ObjectId) (m : Message) : Bool :=
  (bundle w (window w o).host).consumed.contains m.kind

theorem Solo.deliver (h : Solo o w₀ w win n) (m : Message) :
    Solo o w₀ (deliver (scripted 0) o m w).2
      (if consumes w o m then win else win.received m) n := by
  unfold World.deliver consumes
  dsimp only [scripted]
  split
  · exact h
  · exact h.receive m

theorem deliver_destroy (w : World) (o : ObjectId) :
    (deliver (scripted 0) o .destroy w).1 =
      if consumes w o .destroy then .answered .handled else .destroys := by
  unfold World.deliver consumes
  dsimp only [scripted]
  split <;> rfl

/-- A heartbeat presents the frame of a window that stays, and not that of one to be retired. -/
theorem Solo.beat (h : Solo o w₀ w win n) :
    (beat (scripted 0) o w).1 = win.retires ∧
      Solo o w₀ (beat (scripted 0) o w).2 win.beaten
        (n + if win.inFrame && !win.retires then 1 else 0) := by
  have hlast (retires : Bool) {w : World} {win' : Window} {n : Nat} (h : Solo o w₀ w win' n) :
      Solo o w₀ (if retires then World.note (.retiring win.native)
          (w.update o fun win => { win with keepAlive := false })
        else w.update o fun win => { win with keepAlive := false }) { win' with keepAlive := false } n := by
    have hlapsed := h.update (fun win => { win with keepAlive := false }) ⟨rfl, rfl⟩
    split
    · exact hlapsed.note _
    · exact hlapsed
  unfold World.beat
  dsimp only
  rw [h.value]
  -- a request to close comes first, then the open frame, then whether it was kept alive
  by_cases hclose : win.closeRequested = true
  · have hretires : win.retires = true := by simp [Window.retires, hclose]
    rw [if_pos hclose, Window.beaten, if_pos hretires, hretires]
    simp only [Bool.not_true, Bool.and_false, Bool.false_eq_true, if_false]
    exact ⟨trivial, hlast true
      (h.update (fun win => { win with closeRequested := false }) ⟨rfl, rfl⟩)⟩
  · rw [if_neg hclose]
    by_cases hopen : win.inFrame = true
    · have hretires : win.retires = false := by simp [Window.retires, hclose, hopen]
      have hended := h.endFrame true
      rw [hopen] at hended
      rw [if_pos hopen, Window.beaten_of_stays hretires, hretires, hopen]
      exact ⟨rfl, hlast false hended⟩
    · have hretires : win.retires = !win.keepAlive := by simp [Window.retires, hclose, hopen]
      have hbeaten : win.beaten = { win with keepAlive := false } := by
        unfold Window.beaten
        split
        · rw [← Bool.eq_false_iff.mpr hclose]
        · rw [Window.ended_of_idle (Bool.eq_false_iff.mpr hopen)]
      have hnone : (if win.inFrame && !win.retires then 1 else 0) = 0 := by simp [hopen]
      rw [if_neg hopen, hbeaten, hnone, hretires]
      exact ⟨rfl, hlast (!win.keepAlive) h⟩

theorem Solo.releaseAtlas (h : Solo o w₀ w win n) : Solo o w₀ (releaseAtlas w) win n :=
  h.of_same (sameWindows_releaseAtlas w) rfl rfl (fun _ ↦ rfl) fun _ ↦ rfl

theorem Solo.releaseWatchdog (h : Solo o w₀ w win n) : Solo o w₀ (releaseWatchdog w) win n :=
  h.of_same (sameWindows_releaseWatchdog w) (index_releaseWatchdog w)
    (length_bundles_releaseWatchdog w)
    (fun i ↦ reading_releaseWatchdog w i Bundle.standing fun _ _ ↦ rfl)
    fun i ↦ reading_releaseWatchdog w i (·.stats.presented) fun _ _ ↦ rfl

theorem Solo.closeFrame (h : Solo o w₀ w win n) : Solo o w₀ (closeFrame (scripted 0) o w) win.ended n := by
  unfold World.closeFrame
  rw [h.value]
  split
  · simpa using h.endFrame false
  · next hidle => exact (Window.ended_of_idle (Bool.eq_false_iff.mpr hidle)).symm ▸ h

theorem Solo.freeCapture (h : Solo o w₀ w win n) (i : Nat) (native : NativeHandle) :
    Solo o w₀ (freeCapture i native w) win n := by
  unfold World.freeCapture
  split
  · exact (h.call _ _).modifyHost _ _ fun _ ↦ by rfl
  · exact h

theorem Solo.dropWindow (h : Solo o w₀ w win n) :
    Solo o w₀ (dropWindow (scripted 0) o w) win.ended n := by
  rw [dropWindow_eq]
  have hleft := (h.modifyHost win.host (·.removeAccelerator win.native) fun _ ↦ rfl).call win.host
    (.unregisterAccelerator win.native)
  dsimp only [scripted, unlisten, discharge]
  rw [h.value]
  have hclosed := (hleft.closeFrame.freeCapture win.host win.native).call win.host
    (.dropBackend win.native)
  exact ((hclosed.modifyStats _ _ fun _ ↦ by rfl).call _ _).releaseAtlas.releaseAtlas.releaseWatchdog

end Solo

end World

end Casement
