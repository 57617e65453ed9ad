import Casement.Proofs.World.Access
import Casement.Proofs.World.Grip

namespace Casement.World

variable {ok : WindowStep → Prop} {may : HostStep → Prop} {current actor : Option ObjectId}
  {k : Reentry} {w w' w'' : World} {o : ObjectId} {native : NativeHandle}

structure CaptureInvariant (ok : WindowStep → Prop) (may : HostStep → Prop)
    (current : Option ObjectId) (w : World) : Prop where
  coherent : Coherent ok w
  busy : ∀ o, current = some o → w.IsBusy o
  alone : w.env.bundles.length = 1
  asks : w.env.HooksAsk may
  ranked : Ranked w
  rooted : ∃ R, Rooted R w

theorem CaptureInvariant.of_moves (h : CaptureInvariant ok may current w)
    (hm : Moves ok current w w')
    (hasks : w'.env.HooksAsk may) : CaptureInvariant ok may current w' := by
  obtain ⟨hw', hf⟩ := hm.lawful h.coherent h.busy
  obtain ⟨R, hrooted⟩ := h.rooted
  exact
    { coherent := hw'
      busy := fun o ho ↦ hf.keeps.isBusy h.coherent.sound (h.busy o ho)
      alone := hf.hosts.trans h.alone
      asks := hasks
      ranked := hm.ranked h.coherent h.busy h.ranked
      rooted := ⟨R, hm.rooted h.coherent h.busy hrooted⟩ }

theorem CaptureInvariant.unowned (h : CaptureInvariant ok may current w) :
    CaptureInvariant ok may none w :=
  { h with busy := by simp }

theorem CaptureInvariant.distinct (h : CaptureInvariant ok may current w) : (grip w).Distinct := by
  intro i j u v hu hv heq
  have hi : i < w.cells.length := length_hands w ▸ (List.getElem?_eq_some_iff.mp hu).1
  have hj : j < w.cells.length := length_hands w ▸ (List.getElem?_eq_some_iff.mp hv).1
  rw [getElem?_hands hi] at hu
  rw [getElem?_hands hj] at hv
  cases hu
  cases hv
  exact h.coherent.native_inj h.alone hi hj heq

theorem CaptureInvariant.native_ne_freshHandle (h : CaptureInvariant ok may current w) :
    ∀ v ∈ (grip w).hands, v.native ≠ (host w 0).freshHandle := by
  intro v hv heq
  obtain ⟨o, hv⟩ := List.mem_iff_getElem?.mp hv
  have ho : o < w.cells.length := length_hands w ▸ (List.getElem?_eq_some_iff.mp hv).1
  rw [getElem?_hands ho] at hv
  cases hv
  have hlt := h.coherent.native_lt ho
  rw [h.coherent.host_eq_zero h.alone ho, show (window w o).native = _ from heq] at hlt
  exact Nat.lt_irrefl _ hlt

/-- What becomes of the capture in a call: it keeps to the rules, the buttons pressed are those of
windows that act, and a window that goes does not hold the capture. -/
structure KeepsGripRules (may : HostStep → Prop) (acts : ObjectId → Prop) (w w' : World) :
    Prop where
  asks : w'.env.HooksAsk may
  run : Grip.Run may acts (grip w) (grip w')
  freed : ∀ {o}, o ∈ w'.dropped → o ∉ w.dropped → ¬ (grip w').Holds may o

/-- The windows that may be worked on: those that nobody works on, and `actor`. -/
def Free (actor : Option ObjectId) (w : World) (o : ObjectId) : Prop := w.IsBusy o → actor = some o

theorem Untouched.asks (h : Untouched w w') (hasks : w.env.HooksAsk may) : w'.env.HooksAsk may :=
  hooks_of_bundle h.hooks hasks

theorem Untouched.keepsGripRules {acts : ObjectId → Prop} (h : Untouched w w')
    (hasks : w.env.HooksAsk may) :
    KeepsGripRules may acts w w' where
  asks := h.asks hasks
  run := by
    rw [h.grip_eq]
  freed hd hd₀ := absurd (h.dropped ▸ hd) hd₀

namespace KeepsGripRules

variable {acts acts' : ObjectId → Prop}

theorem mono (h : KeepsGripRules may acts w w') (hsub : ∀ o, acts o → acts' o) :
    KeepsGripRules may acts' w w' :=
  { h with run := Grip.Run.mono hsub h.run }

theorem of_step (hasks : w.env.HooksAsk may) (hhooks : ∀ i, (bundle w' i).hooks = (bundle w i).hooks)
    (hdropped : w'.dropped = w.dropped) (hstep : Grip.Step may acts (grip w) (grip w')) :
    KeepsGripRules may acts w w' where
  asks := hooks_of_bundle hhooks hasks
  run := .single hstep
  freed hd hd₀ := absurd (hdropped ▸ hd) hd₀

theorem trans (h : KeepsGripRules may acts w w') (h' : KeepsGripRules may acts' w' w'')
    (hsub : ∀ o, acts' o → acts o)
    (hlt : ∀ o ∈ w'.dropped, o < w'.cells.length)
    (hnew : ∀ o ∈ w'.dropped, o ∉ w.dropped → ¬ acts' o) (hinj : (grip w'').Distinct) :
    KeepsGripRules may acts w w'' where
  asks := h'.asks
  run := h.run.trans (Grip.Run.mono hsub h'.run)
  freed {o} hd hd₀ hheld := by
    by_cases hd' : o ∈ w'.dropped
    · refine h.freed hd' hd₀ (h'.run.holds ?_ (hnew o hd' hd₀) hinj hheld)
      rw [length_hands]
      exact hlt o hd'
    · exact h'.freed hd hd' hheld

theorem trans_idle (h : KeepsGripRules may (Free none w) w w')
    (h' : KeepsGripRules may (Free none w') w' w'')
    (hw' : Coherent ok w') (hbusy : ∀ o, w.IsBusy o → w'.IsBusy o) (hinj : (grip w'').Distinct) :
    KeepsGripRules may (Free none w) w w'' := by
  refine h.trans h' (fun o hfree hb ↦ hfree (hbusy o hb))
    (fun o hgone ↦ (hw'.sound.dropped_iff.mp hgone).1) (fun o hgone _ hfree ↦ ?_) hinj
  cases hfree (.inr hgone)

theorem before (h : KeepsGripRules may acts w' w'') (hu : Untouched w w') :
    KeepsGripRules may acts w w'' where
  asks := h.asks
  run := hu.grip_eq ▸ h.run
  freed hd hd₀ := h.freed hd (hu.dropped ▸ hd₀)

theorem after (h : KeepsGripRules may acts w w') (hu : Untouched w' w'') :
    KeepsGripRules may acts w w'' where
  asks := hu.asks h.asks
  run := hu.grip_eq ▸ h.run
  freed hd hd₀ := by
    rw [hu.grip_eq]
    exact h.freed (hu.dropped ▸ hd) hd₀

end KeepsGripRules

/-- The window that is worked on does not go meanwhile, as it is borrowed. -/
theorem CaptureInvariant.not_mem_dropped (hp : CaptureInvariant ok may current w)
    (hm : Moves ok current w w') (hcurrent : current = some o) (hlive : o ∉ w.dropped) :
    o ∉ w'.dropped := by
  obtain ⟨hw', hf⟩ := hm.lawful hp.coherent hp.busy
  have hborrowed : w.isBorrowed o = true := (hp.busy o hcurrent).resolve_right hlive
  have hborrowed' : w'.isBorrowed o = true :=
    (hf.keeps.borrowed ((hp.busy o hcurrent).lt hp.coherent.sound)).trans hborrowed
  exact Registry.not_mem_dropped_of_holders hw'.sound (hw'.sound.held hborrowed')

theorem CaptureInvariant.keepsGripRules_trans (hp : CaptureInvariant ok may current w)
    (hactor : ∀ o, actor = some o → current = some o) (hm : Moves ok current w w')
    (hd : KeepsGripRules may (Free actor w) w w') (hm' : Moves ok current w' w'')
    (hd' : KeepsGripRules may (Free actor w') w' w'') :
    KeepsGripRules may (Free actor w) w w'' := by
  have hp' := hp.of_moves hm hd.asks
  have hkeeps := (hm.lawful hp.coherent hp.busy).2.keeps
  refine hd.trans hd' (fun o hfree hbusy ↦ hfree (hkeeps.isBusy hp.coherent.sound hbusy))
    (fun o hgone ↦ (hp'.coherent.sound.dropped_iff.mp hgone).1) ?_ (hp'.of_moves hm' hd'.asks).distinct
  intro o hgone hgone₀ hfree
  exact hp.not_mem_dropped hm (hactor o (hfree (.inr hgone))) hgone₀ hgone

def MovesKeepingGrip (ok : WindowStep → Prop) (may : HostStep → Prop)
    (current actor : Option ObjectId) (w w' : World) : Prop :=
  Moves ok current w w' ∧ (CaptureInvariant ok may current w → (∀ o, actor = some o → o ∉ w.dropped) →
    KeepsGripRules may (Free actor w) w w')

namespace MovesKeepingGrip

theorem rules (h : MovesKeepingGrip ok may current none w w') (hp : CaptureInvariant ok may current w) :
    KeepsGripRules may (Free none w) w w' := h.2 hp (by simp)

theorem of_untouched (hm : Moves ok current w w') (h : Untouched w w') :
    MovesKeepingGrip ok may current actor w w' := ⟨hm, fun hp _ ↦ h.keepsGripRules hp.asks⟩

theorem refl (w : World) : MovesKeepingGrip ok may current actor w w :=
  .of_untouched (.refl current w) (.refl w)

theorem call (w : World) (i : Nat) (c : Call) (hc : c.isCaptureCall = false) :
    MovesKeepingGrip ok may current actor w (call i c w) :=
  .of_untouched (.call w i c) (.call w i c hc)

theorem trans (hactor : ∀ o, actor = some o → current = some o)
    (h : MovesKeepingGrip ok may current actor w w')
    (h' : MovesKeepingGrip ok may current actor w' w'') :
    MovesKeepingGrip ok may current actor w w'' := by
  refine ⟨h.1.trans h'.1, fun hp hlive ↦ ?_⟩
  have hd := h.2 hp hlive
  refine hp.keepsGripRules_trans hactor h.1 hd h'.1 (h'.2 (hp.of_moves h.1 hd.asks) fun o ho ↦ ?_)
  exact hp.not_mem_dropped h.1 (hactor o ho) (hlive o ho)

theorem nested (o : ObjectId) (h : MovesKeepingGrip ok may none none w w') :
    MovesKeepingGrip ok may (some o) actor w w' := by
  refine ⟨.nested o h.1, fun hp _ ↦ (h.rules hp.unowned).mono fun o' hfree hbusy ↦ ?_⟩
  cases hfree hbusy

theorem of_hostStep (i : Nat) (f : Host → Host) (hm : Moves ok none w (World.modifyHost i f w))
    (hstep : CaptureInvariant ok may none w →
      Grip.Step may (Free none w) (grip w) (grip (World.modifyHost 0 f w))) :
    MovesKeepingGrip ok may none none w (World.modifyHost i f w) := by
  refine ⟨hm, fun hp _ ↦ ?_⟩
  have hhooks (j : Nat) : (bundle (World.modifyHost i f w) j).hooks = (bundle w j).hooks :=
    reading_modifyBundle w i j (·.hooks) _ fun _ ↦ rfl
  by_cases hi : i = 0
  · subst hi
    exact .of_step hp.asks hhooks rfl (hstep hp)
  · -- there is no such host
    have hnone : World.modifyHost i f w = w := by
      have hout : w.env.bundles.length ≤ i := by
        rw [hp.alone]
        exact Nat.one_le_iff_ne_zero.mpr hi
      simp [World.modifyHost, World.modifyBundle, Registry.modifyEnv, List.modify_eq_self hout]
    rw [hnone]
    exact (Untouched.refl w).keepsGripRules hp.asks

theorem addView (w : World) (i : Nat) (view : NativeHandle → View)
    (hview : ∀ handle, (view handle).handle = handle) :
    MovesKeepingGrip ok may none none w (World.modifyHost i (·.addView view) w) := by
  refine .of_hostStep i _ (.edit (.addView w i view hview)) fun hp ↦ ?_
  rw [grip_modifyHost hp.alone]
  simp only [Host.addView, List.map_append, List.map_cons, List.map_nil, hview]
  exact .shows _ _ hp.native_ne_freshHandle

theorem aside (h : Aside ok may w w') : MovesKeepingGrip ok may none none w w' := by
  have hmoves := h.evolves.moves
  cases h with
  | unseen f hcore hdealings huse hask =>
    refine ⟨.silent w f (by rw [← Desk.outline_core, hcore, Desk.outline_core]) huse, fun hp _ ↦ ?_⟩
    refine ⟨hask hp.asks, ?_, fun hd hd₀ ↦ absurd hd hd₀⟩
    rw [grip_of_core hcore hdealings]
  | editView i native f hf =>
    exact .of_untouched hmoves
      (.modifyHost w i _ fun s ↦ s.grasp_modifyView native f fun v ↦ (hf v).1)
  | addView i view hview => exact .addView w i view hview
  | setCapture i native hmay =>
    refine .of_hostStep i _ (.modifyHost w i _ fun _ ↦ rfl) fun hp ↦ ?_
    rw [grip_modifyHost hp.alone]
    exact .given _ hmay
  | releaseCapture i hmay =>
    refine .of_hostStep i _ (.modifyHost w i _ fun _ ↦ rfl) fun hp ↦ ?_
    rw [grip_modifyHost hp.alone]
    exact .freed _ hmay
  | report i text =>
    exact .of_untouched (.modifyHost w i _ fun _ ↦ rfl) (.modifyHost w i _ fun _ ↦ rfl)
  | inject i text => exact .of_untouched (.modifyGui w i _) (.modifyGui w i _)

theorem inner (hk : ∀ h p w, MovesKeepingGrip ok may none none w (k h p w))
    (hactor : ∀ o', actor = some o' → some o = some o') :
    Inner k o (MovesKeepingGrip ok may (some o) actor) where
  refl := .refl
  trans := .trans hactor
  reentry h p w := .nested o (hk h p w)
  note w r := .of_untouched (.note w r) (.note w r)
  call := .call
  report w h text := .of_untouched (.modifyHost w h _ fun _ ↦ rfl) (.modifyHost w h _ fun _ ↦ rfl)
  modifyGui w h f := .of_untouched (.modifyGui w h f) (.modifyGui w h f)
  modifyStats w h f := .of_untouched (.modifyStats w h f) (.modifyStats w h f)
  touch w f hf := by
    simp only [Window.stance, Prod.mk.injEq] at hf
    refine .of_untouched (.touch w o f fun win ↦ ⟨(hf win).1, (hf win).2.1, (hf win).2.2.2.1⟩)
      (.update w o f fun win ↦ ?_)
    obtain ⟨-, hnative, hplatform, -, hdown⟩ := hf win
    simp only [Window.hand, hnative, hplatform, hdown]

end MovesKeepingGrip

theorem CaptureInvariant.lt (hp : CaptureInvariant ok may (some o) w) : o < w.cells.length :=
  (hp.busy o rfl).lt hp.coherent.sound

theorem CaptureInvariant.host_eq_zero (hp : CaptureInvariant ok may current w)
    (ho : o < w.cells.length) :
    (window w o).host = 0 := hp.coherent.host_eq_zero hp.alone ho

theorem CaptureInvariant.step_mouseDown (hp : CaptureInvariant ok may (some o) w) (hlive : o ∉ w.dropped)
    (button : MouseButton) :
    Grip.Step may (Free (some o) w) (grip w) (grip (mouseDown o button w)) := by
  have ho := hp.lt
  have hhand : Window.hand { window w o with buttons := (window w o).buttons.press button } =
      { (window w o).hand with down := true } := by
    simp [Window.hand, MouseButtons.anyDown_press]
  have hacts : Free (some o) w o := fun _ ↦ rfl
  unfold mouseDown
  dsimp only
  rw [hp.host_eq_zero ho]
  split
  · next hfirst =>
    simp only [Window.usesCapture, ne_eq, Bool.and_eq_true, decide_eq_true_eq, Bool.not_eq_true',
      Option.isNone_iff_eq_none] at hfirst
    obtain ⟨⟨hplatform, hidle⟩, hfree⟩ := hfirst
    rw [grip_update (by exact ho), grip_setCapture hp.alone]
    exact hhand ▸ .takes hacts hlive (getElem?_hands ho) hplatform hidle hfree
  · next hlater =>
    rw [grip_update ho, hhand]
    refine .presses hacts hlive (getElem?_hands ho) ?_
    simp only [Window.usesCapture, ne_eq, Bool.and_eq_true, decide_eq_true_eq, Bool.not_eq_true',
      Option.isNone_iff_eq_none, not_and] at hlater
    by_cases hmac : (window w o).platform = .macOs
    · exact .inl hmac
    · cases hdown : (window w o).buttons.anyDown with
      | true => exact .inr (.inl hdown)
      | false => exact .inr (.inr (hlater ⟨hmac, hdown⟩))

theorem CaptureInvariant.step_mouseUp (hp : CaptureInvariant ok may (some o) w) (hlive : o ∉ w.dropped)
    (button : MouseButton) :
    Grip.Step may (Free (some o) w) (grip w) (grip (mouseUp o button w)) := by
  have ho := hp.lt
  have hacts : Free (some o) w o := fun _ ↦ rfl
  have hdown : ((window w o).buttons.release button).anyDown = true → (window w o).hand.down = true :=
    MouseButtons.anyDown_of_release
  have hgrip := grip_update ho fun win => { win with buttons := win.buttons.release button }
  have hwindow := window_update w o o (fun win => { win with buttons := win.buttons.release button }) ho
  have hhost : host (w.update o fun win => { win with buttons := win.buttons.release button }) 0 =
    host w 0 := rfl
  have hone : (w.update o fun win => { win with buttons := win.buttons.release button }).env.bundles.length
    = 1 := hp.alone
  rw [if_pos rfl] at hwindow
  unfold mouseUp
  dsimp only
  generalize (w.update o fun win => { win with buttons := win.buttons.release button }) = w₁
    at hgrip hwindow hhost hone ⊢
  rw [hwindow, hp.host_eq_zero ho, hhost]
  split
  · next hlast =>
    simp only [Window.usesCapture, Bool.and_eq_true, decide_eq_true_eq, Bool.not_eq_true'] at hlast
    have hhand : Window.hand { window w o with buttons := (window w o).buttons.release button } =
        { (window w o).hand with down := false } := by
      simp only [Window.hand, hlast.1.2]
    rw [grip_releaseCapture hone, hgrip, hhand]
    exact .yields hacts hlive (getElem?_hands ho) hlast.2
  · next hkept =>
    rw [hgrip]
    refine .lifts hacts hlive (getElem?_hands ho) hdown ?_
    simp only [Window.usesCapture, ne_eq, Bool.and_eq_true, decide_eq_true_eq, Bool.not_eq_true',
      not_and] at hkept
    by_cases hmac : (window w o).platform = .macOs
    · exact .inl hmac
    · cases hup : ((window w o).buttons.release button).anyDown with
      | true => exact .inr (.inl rfl)
      | false => exact .inr (.inr (hkept ⟨hmac, hup⟩))

theorem hooks_mouseDown (w : World) (o : ObjectId) (button : MouseButton) (i : Nat) :
    (bundle (mouseDown o button w) i).hooks = (bundle w i).hooks := by
  unfold mouseDown
  dsimp only
  split
  · exact reading_modifyBundle _ _ i (·.hooks) _ fun _ ↦ rfl
  · rfl

theorem hooks_mouseUp (w : World) (o : ObjectId) (button : MouseButton) (i : Nat) :
    (bundle (mouseUp o button w) i).hooks = (bundle w i).hooks := by
  unfold mouseUp
  dsimp only
  split
  · exact reading_modifyBundle _ _ i (·.hooks) _ fun _ ↦ rfl
  · rfl

theorem MovesKeepingGrip.mouseDown (w : World) (o : ObjectId) (button : MouseButton) :
    MovesKeepingGrip ok may (some o) (some o) w (mouseDown o button w) := by
  refine ⟨.mouseDown w o button, fun hp hlive ↦ ?_⟩
  refine .of_step hp.asks (hooks_mouseDown w o button) ?_ (hp.step_mouseDown (hlive o rfl) button)
  unfold World.mouseDown
  dsimp only
  split <;> rfl

theorem MovesKeepingGrip.mouseUp (w : World) (o : ObjectId) (button : MouseButton) :
    MovesKeepingGrip ok may (some o) (some o) w (mouseUp o button w) := by
  refine ⟨.mouseUp w o button, fun hp hlive ↦ ?_⟩
  refine .of_step hp.asks (hooks_mouseUp w o button) ?_ (hp.step_mouseUp (hlive o rfl) button)
  unfold World.mouseUp
  dsimp only
  split <;> rfl

theorem CaptureInvariant.keepsGripRules_freeCapture (hp : CaptureInvariant ok may (some o) w)
    (hgone : o ∈ w.dropped) :
    KeepsGripRules may (Free none w) w (freeCapture 0 (window w o).native w) ∧
      (grip (freeCapture 0 (window w o).native w)).holder ≠ some (window w o).native := by
  unfold World.freeCapture
  split
  · next hheld =>
    have hgrip := grip_releaseCapture hp.alone
    refine ⟨.of_step hp.asks (fun i ↦ reading_modifyBundle _ 0 i (·.hooks) _ fun _ ↦ rfl) rfl ?_, ?_⟩
    · rw [hgrip]
      exact .ends (getElem?_hands hp.lt) hgone hheld
    · rw [hgrip]
      intro hheld
      cases hheld
  · next hother => exact ⟨(Untouched.refl w).keepsGripRules hp.asks, hother⟩

theorem CaptureInvariant.keepsGripRules_dropWindow
    (hp : CaptureInvariant ok may (some o) (call 0 (.unregisterAccelerator (window w o).native) (unlisten o w)))
    (hgone : o ∈ w.dropped) (hk : ∀ h p w, MovesKeepingGrip ok may none none w (k h p w)) :
    KeepsGripRules may (Free none (unlisten o w))
      (call 0 (.unregisterAccelerator (window w o).native) (unlisten o w)) (dropWindow k o w) ∧
      ¬ (grip (dropWindow k o w)).Holds may o := by
  have hin : Inner k o (MovesKeepingGrip ok may (some o) none) :=
    MovesKeepingGrip.inner hk (by simp)
  have hzero : (window w o).host = 0 := hp.host_eq_zero hp.lt
  rw [dropWindow_eq]
  dsimp only
  rw [hzero]
  obtain ⟨hm₁, h₁⟩ := hin.closeFrame (call 0 (.unregisterAccelerator (window w o).native) (unlisten o w))
  generalize closeFrame k o _ = w₁ at hm₁ h₁ ⊢
  have hd₁ := h₁ hp (by simp)
  have hp₁ := hp.of_moves hm₁ hd₁.asks
  obtain ⟨-, hf₁⟩ := hm₁.lawful hp.coherent hp.busy
  have hnative : (window w₁ o).native = (window w o).native := (hf₁.place hp.lt).2
  obtain ⟨hd₂, hfree⟩ := hp₁.keepsGripRules_freeCapture (hf₁.keeps.dropped hgone)
  rw [hnative] at hd₂ hfree
  have hm₂ : Moves ok (some o) w₁ (freeCapture 0 (window w o).native w₁) := .freeCapture _ _ _
  have hp₂ := hp₁.of_moves hm₂ hd₂.asks
  obtain ⟨-, hf₂⟩ := hm₂.lawful hp₁.coherent hp₁.busy
  have hnative₂ : (window (freeCapture 0 (window w o).native w₁) o).native = (window w o).native :=
    (hf₂.place hp₁.lt).2.trans hnative
  generalize freeCapture 0 (window w o).native w₁ = w₂ at hd₂ hfree hm₂ hp₂ hnative₂ ⊢
  obtain ⟨hm₃, h₃⟩ := hin.trans (hin.call w₂ 0 (.dropBackend (window w o).native) rfl)
    (hin.trans (hin.reentry 0 .drop _) (hin.trans
      (hin.modifyStats _ 0 fun s => { s with dropped := s.dropped + 1 }) (hin.call _ 0 .dropContext rfl)))
  have hd₃ := h₃ hp₂ (by simp)
  have hp₃ := hp₂.of_moves hm₃ hd₃.asks
  have hend := Untouched.discharge (call 0 .dropContext (modifyStats 0
    (fun s => { s with dropped := s.dropped + 1 }) (k 0 .drop (call 0 (.dropBackend (window w o).native) w₂))))
  refine ⟨?_, fun hheld ↦ ?_⟩
  · exact (hp.keepsGripRules_trans (by simp) hm₁ hd₁ (hm₂.trans hm₃)
      (hp₁.keepsGripRules_trans (by simp) hm₂ hd₂ hm₃ hd₃)).after hend
  · rw [hend.grip_eq] at hheld
    -- collaborators do not press buttons of a window that is busy
    have hidle : ¬ Free none w₂ o := fun hacts ↦ by cases hacts (hp₂.busy o rfl)
    obtain ⟨v, hv, hholder, -⟩ := hd₃.run.holds (length_hands w₂ ▸ hp₂.lt) hidle hp₃.distinct hheld
    rw [getElem?_hands hp₂.lt] at hv
    cases hv
    exact hfree (hholder.trans (congrArg some hnative₂))

theorem step_goes {acts : ObjectId → Prop} (ho : o < w.cells.length) (hreleased : Coherent ok (w.letGo o))
    (hlast : w.cells[o]?.any (·.owners ≤ 1) = true) :
    Grip.Step may acts (grip w)
      (grip (call 0 (.unregisterAccelerator (window (w.letGo o) o).native) (unlisten o (w.letGo o)))) := by
  have hlive : o ∉ w.dropped := by
    have hnodup := hreleased.sound.dropped_nodup
    rw [show (w.letGo o).dropped = o :: w.dropped from if_pos hlast] at hnodup
    exact (List.nodup_cons.mp hnodup).1
  rw [grip_call 0 rfl, (Untouched.unlisten _ o).grip_eq, grip_letGo_of_last hlast, window_letGo]
  exact .goes hlive (getElem?_hands ho)

theorem CaptureInvariant.ending (hp : CaptureInvariant ok may none w) (hreleased : Coherent ok (w.letGo o))
    (hbusy : (w.letGo o).IsBusy o) :
    CaptureInvariant ok may (some o)
      (call 0 (.unregisterAccelerator (window (w.letGo o) o).native) (unlisten o (w.letGo o))) := by
  obtain ⟨hw', hcurrent⟩ := unlisten_busy hreleased hbusy
  obtain ⟨R, hrooted⟩ := hp.rooted
  have hunlisten : Untouched (w.letGo o) (unlisten o (w.letGo o)) := .unlisten _ o
  have hp' : CaptureInvariant ok may (some o) (unlisten o (w.letGo o)) :=
    { coherent := hw'
      busy := hcurrent
      alone := (length_bundles_modifyHost ..).trans hp.alone
      asks := hunlisten.asks hp.asks
      ranked := (hp.ranked.letGo o).modifyHost _ _
      rooted := ⟨R, (hrooted.letGo o).modifyHost _ (·.removeAccelerator _) fun _ ↦ rfl⟩ }
  exact hp'.of_moves (.call _ 0 _) hp'.asks

/-- Letting go of a window. Its own buttons are not touched on the way. -/
theorem CaptureInvariant.keepsGripRules_release (hp : CaptureInvariant ok may none w)
    (hk : ∀ h p w, MovesKeepingGrip ok may none none w (k h p w)) (ho : o < w.cells.length)
    (hreleased : Coherent ok (w.letGo o))
    (hending : w.cells[o]?.any (·.owners ≤ 1) = true → (w.letGo o).IsBusy o) :
    KeepsGripRules may (fun o' ↦ Free none w o' ∧ o' ≠ o) w
      (Registry.release (disposal k) o w) := by
  rw [Registry.release_eq]
  split
  · next hlast =>
    have hp' := hp.ending hreleased (hending hlast)
    have hgone : o ∈ (w.letGo o).dropped :=
      (Registry.mem_dropped_letGo ho o).mpr (.inl ⟨rfl, (Registry.any_owners_le_one ho).mp hlast⟩)
    obtain ⟨hd, hfree⟩ := hp'.keepsGripRules_dropWindow hgone hk
    have hrun := hd.run.head (step_goes ho hreleased hlast)
    have hothers : ∀ o', Free none (unlisten o (w.letGo o)) o' → Free none w o' ∧ o' ≠ o := by
      intro o' hfree'
      refine ⟨fun hb ↦ hfree' (hb.letGo ho), ?_⟩
      rintro rfl
      cases hfree' (hp'.busy o' rfl)
    refine ⟨hd.asks, Grip.Run.mono hothers hrun, fun {o'} hd' hd₀ ↦ ?_⟩
    by_cases heq : o' = o
    · exact heq ▸ hfree
    · refine hd.freed hd' fun hgone' ↦ ?_
      rcases (Registry.mem_dropped_letGo ho o').mp hgone' with h | h
      · exact heq h.1
      · exact hd₀ h
  · next howned => exact (Untouched.letGo w (Bool.eq_false_iff.mpr howned)).keepsGripRules hp.asks

theorem CaptureInvariant.borrow (hp : CaptureInvariant ok may none w) (ho : w.IsRegistered o) :
    CaptureInvariant ok may (some o) (w.borrow o) := by
  obtain ⟨R, hrooted⟩ := hp.rooted
  refine ⟨hp.coherent.borrow ho, fun o' heq ↦ ?_, hp.alone, hp.asks, ?_, R, ?_⟩
  · cases heq
    exact Registry.isBusy_borrow hp.coherent.sound ho
  · exact hp.ranked.of_eq rfl rfl (by simp) (by simp)
  · exact hrooted.of_env rfl (by simp) fun _ ↦ window_borrow ..

theorem CaptureInvariant.unborrow (hp : CaptureInvariant ok may (some o) w) :
    CaptureInvariant ok may none (w.setBorrowed o false) := by
  obtain ⟨R, hrooted⟩ := hp.rooted
  refine ⟨hp.coherent.unborrow o, by simp, hp.alone, hp.asks, ?_, R, ?_⟩
  · exact hp.ranked.of_eq rfl rfl (by simp) (by simp)
  · exact hrooted.of_env rfl (by simp) fun _ ↦ window_setBorrowed ..

theorem CaptureInvariant.forget (hp : CaptureInvariant ok may none w) (hf : Forgets o w w') :
    CaptureInvariant ok may none w' := by
  obtain ⟨R, hrooted⟩ := hp.rooted
  have henv : w'.env.bundles = w.env.bundles := by cases hf <;> rfl
  refine ⟨(hf.left hp.coherent).forgotten, by simp, ?_, ?_, hp.ranked.forget hf, R, hrooted.forget hf⟩
  · rw [henv]
    exact hp.alone
  · rw [Desk.HooksAsk, henv]
    exact hp.asks

theorem CaptureInvariant.equip (hp : CaptureInvariant ok may none w) (i : Nat) :
    CaptureInvariant ok may none (equip i w) := by
  have hlawful : Lawful ok none w (World.equip i w) := .equip i
  obtain ⟨hw', hf⟩ := hlawful hp.coherent (by simp)
  obtain ⟨R, hrooted⟩ := hp.rooted
  refine ⟨hw', by simp, hf.hosts.trans hp.alone, (Untouched.equip w i).asks hp.asks, ?_, R, hrooted.equip i⟩
  exact hp.ranked.of_same (sameWindows_equip i w) (by simp [World.equip])

theorem CaptureInvariant.releaseAtlas (hp : CaptureInvariant ok may none w) :
    CaptureInvariant ok may none (releaseAtlas w) := by
  have hlawful : Lawful ok none w (World.releaseAtlas w) := .releaseAtlas
  obtain ⟨hw', hf⟩ := hlawful hp.coherent (by simp)
  obtain ⟨R, hrooted⟩ := hp.rooted
  exact ⟨hw', by simp, hf.hosts.trans hp.alone, (Untouched.releaseAtlas w).asks hp.asks,
    hp.ranked.releaseAtlas, R, hrooted.releaseAtlas⟩

theorem Forgets.untouched (hf : Forgets o w w') : Untouched w w' := by
  cases hf <;> exact ⟨rfl, rfl, rfl, fun _ ↦ rfl, rfl⟩

theorem CaptureInvariant.keepsGripRules_leave (hp : CaptureInvariant ok may none w)
    (hk : ∀ h p w, MovesKeepingGrip ok may none none w (k h p w)) (hf : Forgets o w w') :
    KeepsGripRules may (fun o' ↦ Free none w o' ∧ o' ≠ o) w
      (Registry.release (disposal k) o w') := by
  have hleft := hf.left hp.coherent
  have hd := (hp.forget hf).keepsGripRules_release hk hleft.lt hleft.released hleft.ending
  have hbusy : ∀ o', w'.IsBusy o' ↔ w.IsBusy o' := by cases hf <;> exact fun _ ↦ Iff.rfl
  refine (hd.before hf.untouched).mono fun o' hfree ↦ ⟨fun hb ↦ ?_, hfree.2⟩
  exact hfree.1 ((hbusy o').mpr hb)

namespace MovesKeepingGrip

variable (hk : ∀ h p w, MovesKeepingGrip ok may none none w (k h p w))

include hk

theorem hold {w₂ w₃ : World} (ho : w.IsRegistered o) (hfree : w.isBorrowed o = false)
    (h₁ : MovesKeepingGrip ok may (some o) (some o) (w.borrow o) w₂)
    (h₂ : MovesKeepingGrip ok may none none (w₂.setBorrowed o false) w₃) :
    MovesKeepingGrip ok may none none w (Registry.release (disposal k) o w₃) := by
  have hm : Moves ok none w (Registry.release (disposal k) o w₃) :=
    .of_release (fun h p w ↦ (hk h p w).1) (.hold ho hfree h₁.1 h₂.1) fun _ ↦
      .holdLast ho hfree h₁.1 h₂.1
  refine ⟨hm, fun hp _ ↦ ?_⟩
  have hidle : ¬ w.IsBusy o := hp.coherent.sound.not_isBusy ho hfree
  have hheld := Lawful.held hp.coherent ho hfree h₁.1.lawful h₂.1.lawful
  have hb := hp.borrow ho
  have hd₁ := h₁.2 hb fun o' ho' hgone ↦ hidle (Option.some.inj ho' ▸ .inr hgone)
  have hp₂ := (hb.of_moves h₁.1 hd₁.asks).unborrow
  have hd₂ := h₂.rules hp₂
  have hp₃ := hp₂.of_moves h₂.1 hd₂.asks
  have hd₃ := hp₃.keepsGripRules_release hk hheld.lt hheld.released hheld.ending
  have hstart : KeepsGripRules may (Free none w) w (w₂.setBorrowed o false) := by
    refine KeepsGripRules.mono ((hd₁.before (.borrow w o)).after
      (.setBorrowed w₂ o false)) fun o' hfree' hb ↦ ?_
    cases hfree' ((Registry.isBusy_borrow_iff hp.coherent.sound ho).mpr (.inr hb))
    exact absurd hb hidle
  have hbusy : ∀ o', w.IsBusy o' → (w₂.setBorrowed o false).IsBusy o' := by
    intro o' hb
    refine hheld.isBusy_returned hp.coherent ho ?_ hb
    rintro rfl
    exact hidle hb
  have hrest := hd₂.trans_idle (hd₃.mono fun _ ↦ And.left) hp₃.coherent
    (fun _ ↦ hheld.after_follows.keeps.isBusy hheld.returned.sound) (hp.of_moves hm hd₃.asks).distinct
  exact hstart.trans_idle hrest hheld.returned hbusy (hp.of_moves hm hd₃.asks).distinct

theorem leave (hf : Forgets o w w') :
    MovesKeepingGrip ok may none none w (Registry.release (disposal k) o w') := by
  refine ⟨.of_release (fun h p w ↦ (hk h p w).1) (.leave hf) fun _ ↦ .leaveLast hf, fun hp _ ↦ ?_⟩
  exact (hp.keepsGripRules_leave hk hf).mono fun _ ↦ And.left

theorem unregister (w : World) (key : Key) :
    MovesKeepingGrip ok may none none w (w.unregister (disposal k) () key).2 := by
  unfold Registry.unregister
  split
  · next o ho => exact .leave hk (.unregister ho)
  · exact .refl w

theorem destroy (w : World) (native : NativeHandle) :
    MovesKeepingGrip ok may none none w (destroy k native w) := by
  rcases destroy_cases k native w with heq | ⟨key, hindex, ⟨ho, heq⟩ | ⟨o, ho, heq⟩⟩ <;> rw [heq]
  · exact .refl w
  · exact .of_untouched (.unindex hindex ho) ⟨rfl, rfl, rfl, fun _ ↦ rfl, rfl⟩
  · exact .trans (by simp) (.leave hk (.destroy hindex ho)) (.of_untouched (.note _ _) (.note _ _))

end MovesKeepingGrip

section Destruction

variable (hk : ∀ h p w, MovesKeepingGrip ok may none none w (k h p w))

include hk

theorem CaptureInvariant.run_destroy (hp : CaptureInvariant ok may none w) (ho : o < w.cells.length)
    (hnative : (window w o).native = native) :
    Grip.Run may (· ≠ o) (grip w) (grip (destroy k native w)) := by
  rcases destroy_cases k native w with heq | ⟨key, hindex, ⟨hkey, heq⟩ | ⟨o', hkey, heq⟩⟩
  · rw [heq]
  · rw [heq]
    exact .refl
  · rw [heq]
    obtain ⟨e, he, -, rfl⟩ := Registry.find?_eq_some hkey
    obtain ⟨hnative', -⟩ := hp.ranked.named hindex he
    obtain rfl : e.object = o := hp.coherent.native_inj hp.alone (hp.coherent.sound.object_lt he) ho
      (hnative'.trans hnative.symm)
    rw [(Untouched.note _ (.destroyed native)).grip_eq]
    exact (hp.keepsGripRules_leave hk (.destroy hindex hkey)).run.mono fun _ ↦ And.right

theorem CaptureInvariant.run_hold (hp : CaptureInvariant ok may none w) (ho : w.IsRegistered o)
    (hfree : w.isBorrowed o = false) (h : MovesKeepingGrip ok may none none (w.borrow o) w') :
    Grip.Run may (· ≠ o) (grip w)
      (grip (Registry.release (disposal k) o (w'.setBorrowed o false))) := by
  have hb := hp.borrow ho
  have hd := h.rules hb.unowned
  have hp' := (hb.of_moves (.nested o h.1) hd.asks).unborrow
  have hrefl : Moves ok none (w'.setBorrowed o false) (w'.setBorrowed o false) := .refl none _
  have hheld := Lawful.held hp.coherent ho hfree (Moves.nested o h.1).lawful hrefl.lawful
  have hrules := hp'.keepsGripRules_release hk hheld.lt hheld.released hheld.ending
  have hend := hrules.run.mono fun _ ↦ And.right
  have hbody : Grip.Run may (· ≠ o) (grip (w.borrow o)) (grip w') := by
    refine hd.run.mono fun o' hacts ↦ ?_
    rintro rfl
    cases hacts (hb.busy o' rfl)
  rw [(Untouched.borrow w o).grip_eq] at hbody
  rw [(Untouched.setBorrowed w' o false).grip_eq] at hend
  exact hbody.trans hend

omit hk in
theorem deliver_destroy_snd (k : Reentry) (o : ObjectId) (w : World) :
    (deliver k o .destroy w).2 = k (window w o).host .handleMessage w := by
  unfold deliver
  dsimp only
  split <;> rfl

theorem CaptureInvariant.run_access (hp : CaptureInvariant ok may none w) {key : Key}
    (hkey : Registry.find? w (some ()) key = some o) :
    let w' := (withWindow k key (fun o w => deliver k o .destroy w) w).2
    CaptureInvariant ok may none w' ∧
      o < w'.cells.length ∧ (window w' o).native = (window w o).native ∧
      Grip.Run may (· ≠ o) (grip w) (grip w') := by
  intro w'
  obtain ⟨hm, hd, hrun⟩ : Moves ok none w w' ∧ KeepsGripRules may (Free none w) w w' ∧
      Grip.Run may (· ≠ o) (grip w) (grip w') := by
    cases hb : w.isBorrowed o with
    | true =>
      have heq : w' = w.modifyEnv (World.busy .use key) := congrArg Prod.snd (withWindow_busy _ hkey hb)
      rw [heq]
      exact ⟨.silent w _ rfl id,
        Untouched.keepsGripRules ⟨rfl, rfl, rfl, fun _ ↦ rfl, rfl⟩ hp.asks, .refl⟩
    | false =>
      have hreg := Registry.isRegistered_of_find? hkey
      have heq : w' = Registry.release (disposal k) o
          ((k (window (w.borrow o) o).host .handleMessage (w.borrow o)).setBorrowed o false) := by
        simp only [w', withWindow, Registry.access, hkey, hb, Bool.false_eq_true, if_false]
        exact congrArg (fun w₂ : World ↦ Registry.release (disposal k) o (w₂.setBorrowed o false))
          (deliver_destroy_snd k o (w.borrow o))
      have hbody := hk (window (w.borrow o) o).host .handleMessage (w.borrow o)
      obtain ⟨hm, hd⟩ := MovesKeepingGrip.hold hk hreg hb (.nested o hbody) (.refl _)
      rw [heq]
      exact ⟨hm, hd hp (by simp), hp.run_hold hk hreg hb hbody⟩
  have hlt : o < w.cells.length := (Registry.isRegistered_of_find? hkey).lt hp.coherent.sound
  obtain ⟨-, hf⟩ := hm.lawful hp.coherent hp.busy
  exact ⟨hp.of_moves hm hd.asks, hlt.trans_le hf.length_le, (hf.place hlt).2, hrun⟩

theorem CaptureInvariant.run_dispatch (hp : CaptureInvariant ok may none w)
    (native : NativeHandle) :
    (dispatch k native .destroy w).2 = w ∨ ∃ o < w.cells.length, (window w o).native = native ∧
      Grip.Run may (· ≠ o) (grip w) (grip (dispatch k native .destroy w).2) := by
  unfold dispatch
  split
  · exact .inl rfl
  · next key hfind =>
    obtain ⟨hindex, hopen⟩ := Option.filter_eq_some_iff.mp hfind
    obtain ⟨o, ho⟩ := Option.isSome_iff_exists.mp hopen
    obtain ⟨e, he, -, rfl⟩ := Registry.find?_eq_some ho
    obtain ⟨hnative, -⟩ := hp.ranked.named hindex he
    have hlt := hp.coherent.sound.object_lt he
    refine .inr ⟨e.object, hlt, hnative, ?_⟩
    have hp₀ : CaptureInvariant ok may none (note (.dispatching .destroy native) w) :=
      hp.of_moves (.note w _) hp.asks
    obtain ⟨hp₁, hlt₁, hkept, hrun⟩ := hp₀.run_access hk (by exact ho)
    replace hkept := hkept.trans hnative
    dsimp only
    generalize withWindow k key _ _ = result at hp₁ hlt₁ hkept hrun ⊢
    obtain ⟨answer, w₁⟩ := result
    rcases answer with _ | (answered | _)
    · have hp₂ := hp₁.of_moves (.note w₁ (.destroyedBusy native)) hp₁.asks
      exact hrun.trans (hp₂.run_destroy hk (by exact hlt₁) hkept)
    · exact hrun
    · exact hrun.trans (hp₁.run_destroy hk hlt₁ hkept)

/-- When its native window goes, a window that holds the capture had its view until then. -/
theorem CaptureInvariant.view_kept (hp : CaptureInvariant ok may none w)
    (hviews : native ∈ (grip w).views)
    (hp' : CaptureInvariant ok may none (dispatch k native .destroy w).2)
    (hheld : (grip (dispatch k native .destroy w).2).holder = some native) :
    native ∈ (grip (dispatch k native .destroy w).2).views ∨
      (grip (dispatch k native .destroy w).2).Forged may native := by
  rcases hp.run_dispatch hk native with heq | ⟨o, ho, hnative, hrun⟩
  · rw [heq]
    exact .inl hviews
  · obtain ⟨v, hv, hkept⟩ := Option.map_eq_some_iff.mp (hrun.native_kept (getElem?_hands ho))
    subst hnative
    refine (hrun.still (getElem?_hands ho) (by simp) (fun i u hu heq ↦ ?_) hheld).symm.imp_left ?_
    · exact hp'.distinct hu hv (heq.trans hkept.symm)
    · exact fun hstill ↦ hstill.2 hviews

omit hk in
theorem CaptureInvariant.step_removeView (hp : CaptureInvariant ok may none w)
    (hheld : (grip w).holder = some native → native ∈ (grip w).views ∨ (grip w).Forged may native) :
    Grip.Step may (Free none w) (grip w) (grip (modifyHost 0 (·.removeView native) w)) := by
  have hviews (m : NativeHandle) : m ∈ ((host w 0).removeView native).views.map (·.handle) ↔
      ∃ v ∈ (host w 0).views, (v.handle ≠ native ∧ v.parent ≠ some native) ∧ v.handle = m := by
    simp [Host.removeView, and_assoc]
  rw [grip_modifyHost hp.alone]
  refine .destroys hheld ?_ (fun m hm ↦ ?_) fun v hv hother hview ↦ ?_
  · rw [hviews]
    rintro ⟨v, -, hne, heq⟩
    exact hne.1 heq
  · obtain ⟨v, hv, -, heq⟩ := (hviews m).mp hm
    exact List.mem_map.mpr ⟨v, hv, heq⟩
  · -- the view of a window is in no other view
    obtain ⟨view, hmem, heq⟩ := List.mem_map.mp hview
    obtain ⟨o, hv⟩ := List.mem_iff_getElem?.mp hv
    have ho : o < w.cells.length := length_hands w ▸ (List.getElem?_eq_some_iff.mp hv).1
    rw [getElem?_hands ho] at hv
    cases hv
    obtain ⟨R, hrooted⟩ := hp.rooted
    have hroot : view.parent = none :=
      hrooted.roots (.inr ⟨o, ho, hp.host_eq_zero ho, rfl⟩) _ (List.mem_map_of_mem hmem) heq
    exact (hviews _).mpr ⟨view, hmem, ⟨heq ▸ hother, by simp [hroot]⟩, heq⟩

theorem MovesKeepingGrip.removeView (w : World) (i : Nat) (native : NativeHandle)
    (hwindow : (host w i).isWindow native = true)
    (h : MovesKeepingGrip ok may none none w (dispatch k native .destroy w).2) :
    MovesKeepingGrip ok may none none w
      (modifyHost i (·.removeView native) (dispatch k native .destroy w).2) := by
  have hedit : Moves ok none (dispatch k native .destroy w).2
      (modifyHost i (·.removeView native) (dispatch k native .destroy w).2) := .edit (.removeView _ i native)
  refine ⟨h.1.trans hedit, fun hp _ ↦ ?_⟩
  have hd := h.rules hp
  have hp' := hp.of_moves h.1 hd.asks
  have hzero : i = 0 := by
    have hlt := lt_of_isWindow hwindow
    have hone := hp.alone
    omega
  subst hzero
  have hviews : native ∈ (grip w).views := by
    obtain ⟨v, hv⟩ := Option.isSome_iff_exists.mp hwindow
    exact List.mem_map.mpr ⟨v, List.mem_of_find?_eq_some hv, by simpa using List.find?_some hv⟩
  refine hp.keepsGripRules_trans (by simp) h.1 hd hedit ?_
  refine .of_step hp'.asks (fun j ↦ reading_modifyBundle _ 0 j (·.hooks) _ fun _ ↦ rfl) rfl ?_
  exact hp'.step_removeView (hp.view_kept hk hviews hp')

end Destruction

namespace MovesKeepingGrip

variable (hk : ∀ h p w, MovesKeepingGrip ok may none none w (k h p w))

include hk

theorem calls
    (hresolves : ∀ n native, may (.setCapture (.slot n)) → may (.setCapture (.handle native))) :
    Calls ok may k fun current ↦ MovesKeepingGrip ok may current current where
  resolves := hresolves
  reentry o h p w := .nested o (hk h p w)
  trans h h' := h.trans (fun _ ↦ id) h'
  nested o h := .nested o h
  aside h := .aside h
  touch w o f hf := by
    have hkept (win : Window) := congrArg Window.hand (hf win)
    refine .of_untouched (.touch w o f fun win ↦ ?_) (.update w o f hkept)
    obtain ⟨hhost, hnative, hatlas, -⟩ := Window.eq_of_core (hf win)
    exact ⟨hhost, hnative, hatlas⟩
  keepAtlas w o := .of_untouched (.keepAtlas w o) (.of_same ⟨rfl, rfl, rfl⟩ (fun _ ↦ rfl) rfl)
  mouseDown := .mouseDown
  mouseUp := .mouseUp
  beginFrame w o _ := (inner hk fun _ ↦ id).beginFrame w
  endFrame w o render _ := (inner hk fun _ ↦ id).endFrame w render
  newFrame w o _ := (inner hk fun _ ↦ id).newFrame w
  renderFrame w o _ := (inner hk fun _ ↦ id).renderFrame w
  discardFrame w o _ := (inner hk fun _ ↦ id).discardFrame w
  hold := .hold hk
  unregister := .unregister hk
  destroy := .destroy hk
  removeView := .removeView hk

theorem build (w : World) (i : Nat) (native : NativeHandle) (title : String) (rect : Rect) :
    MovesKeepingGrip ok may none none w (build k i native title rect w) := by
  have hview : MovesKeepingGrip ok may none none w (modifyHost i (·.addWindow title rect) w) :=
    .addView w i _ fun _ ↦ rfl
  refine .trans (by simp) hview ?_
  refine .trans (by simp) (.call _ i (.createWindow (some native)) rfl) ?_
  exact .trans (by simp) (.call _ i (.createBackend native) rfl) (hk _ _ _)

omit hk in
theorem keepsGripRules_install {acts : ObjectId → Prop} (win : Window) (hasks : w.env.HooksAsk may)
    (hidle : win.hand.down = false) (hplatform : win.platform = (grip w).platform) :
    KeepsGripRules may acts w (install win w) := by
  refine .of_step hasks (fun j ↦ reading_modifyBundle _ win.host j (·.hooks) _ fun _ ↦ rfl) rfl ?_
  rw [grip_install]
  exact .opens _ _ hidle hplatform

theorem openWindow (w : World) (i : Nat) (hi : i < w.env.bundles.length) (config : ContextConfig)
    (title : String) (x y width height : Int32)
    (hdestroy : ∀ native w, MovesKeepingGrip ok may none none w (requestDestroy k i native w)) :
    MovesKeepingGrip ok may none none w (openWindow k i config title x y width height w).2 := by
  have hm := (opens_openWindow w (fun h p w ↦ (hk h p w).1) i hi config title x y width height
    fun native w ↦ (hdestroy native w).1).moves
  refine ⟨hm, fun hp _ ↦ ?_⟩
  have hzero : i = 0 := by
    have hone := hp.alone
    omega
  subst hzero
  have hu : Untouched w (prepare 0 config.style w) := .prepare w 0 config.style
  have hsame : SameWindows w (prepare 0 config.style w) := (sameWindows_equip 0 w).trans ⟨rfl, rfl, rfl⟩
  have hp₁ : CaptureInvariant ok may none (prepare 0 config.style w) :=
    (hp.equip 0).of_moves (.prepare w 0 config.style) (hu.asks hp.asks)
  rw [openWindow_eq] at hm ⊢
  dsimp only at hm ⊢
  generalize prepare 0 config.style w = w₁ at hu hp₁ hsame hm ⊢
  -- what is prepared touches no capture, so what follows may start later
  have hstart {w' : World} (hd : KeepsGripRules may (Free none w₁) w₁ w') :
      KeepsGripRules may (Free none w) w w' := by
    refine (hd.before hu).mono fun o hfree hb ↦ hfree ?_
    simpa only [Registry.IsBusy, Registry.isBorrowed, hsame.cells, hsame.dropped] using hb
  split
  · refine hstart (Untouched.keepsGripRules ?_ hp₁.asks)
    exact .trans (.call w₁ 0 (.createWindow none) rfl) (.trans (.call _ 0 .dropContext rfl) (.discharge _))
  · next hgranted =>
    rw [if_neg hgranted] at hm
    have hbuild : MovesKeepingGrip ok may none none w₁
        (World.build k 0 (host w₁ 0).freshHandle title _ w₁) :=
      .build hk w₁ 0 (host w₁ 0).freshHandle title (.ofPosSize x y width height)
    generalize World.build k 0 (host w₁ 0).freshHandle title _ w₁ = w₂ at hbuild hm ⊢
    have hon {w₃ : World} (hm₃ : Moves ok none w₂ w₃) (hu₃ : Untouched w₂ w₃) :
        MovesKeepingGrip ok may none none w₁ w₃ := hbuild.trans (by simp) (.of_untouched hm₃ hu₃)
    have hbusy {w₃ : World} (h₃ : MovesKeepingGrip ok may none none w₁ w₃) (o : ObjectId)
        (hb : w₁.IsBusy o) :
        w₃.IsBusy o :=
      (h₃.1.lawful hp₁.coherent (by simp)).2.keeps.isBusy hp₁.coherent.sound hb
    split
    · have h₃ := hon (.trans (.note w₂ _) (.call _ 0 .dropContext)) (.trans (.note w₂ (.backendFailed title
        ⟨(host w₁ 0).freshHandle, (host w 0).platform⟩)) (.call _ 0 .dropContext rfl))
      have hd₃ := h₃.rules hp₁
      have hp₃ := (hp₁.of_moves h₃.1 hd₃.asks).releaseAtlas
      obtain ⟨hm₄, h₄⟩ := hdestroy (host w₁ 0).freshHandle (World.releaseAtlas _)
      have hd₄ := h₄ hp₃ (by simp)
      refine hstart (.after ?_ ((Untouched.releaseAtlas _).trans (.releaseWatchdog _)))
      exact (hd₃.after (.releaseAtlas _)).trans_idle hd₄ hp₃.coherent (fun o hb ↦ hbusy h₃ o hb)
        (hp₃.of_moves hm₄ hd₄.asks).distinct
    · next hmade =>
      rw [if_neg hmade] at hm
      have h₃ := hon (.trans (.modifyStats w₂ 0 fun s => { s with created := s.created + 1 })
        (.note _ (.backendBound (host w₁ 0).freshHandle))) (.trans (.modifyStats w₂ 0 _) (.note _ _))
      have hd₃ := h₃.rules hp₁
      have hp₃ := hp₁.of_moves h₃.1 hd₃.asks
      generalize note (.backendBound (host w₁ 0).freshHandle) _ = w₃ at h₃ hd₃ hp₃ hm ⊢
      have hplatform : (host w 0).platform = (grip w₃).platform := by
        have hrun := hd₃.run.platform_eq
        rw [hu.grip_eq] at hrun
        exact hrun.symm
      have hd₄ : KeepsGripRules may (Free none w₃) w₃ _ :=
        keepsGripRules_install (newWindow 0 (host w₁ 0).freshHandle config
        (host w 0).platform (host w₁ 0).background w₃.env.atlas.generation) hp₃.asks rfl hplatform
      have hd₅ := hd₄.after (.trans (.call _ 0 (.registerAccelerator (host w₁ 0).freshHandle) rfl)
        (.note _ (.opened (host w₁ 0).freshHandle title x y width height)))
      exact hstart (hd₃.trans_idle hd₅ hp₃.coherent (hbusy h₃) (hp.of_moves hm hd₅.asks).distinct)

omit hk

theorem walk (hresolves : ∀ n native, may (.setCapture (.slot n)) → may (.setCapture (.handle native))) :
    Walk ok may fun current ↦ MovesKeepingGrip ok may current current where
  refl := .refl
  calls hk := MovesKeepingGrip.calls hk hresolves
  holding h := .of_untouched (.edit h.edit) (.holding _ h)
  openWindow hk w i hi := .openWindow hk w i hi

theorem scripted
    (hresolves : ∀ n native, may (.setCapture (.slot n)) → may (.setCapture (.handle native)))
    (n i : Nat) (point : HookPoint) (w : World) :
    MovesKeepingGrip ok may none none w (scripted n i point w) := by
  refine (walk hresolves).scripted (fun n i point w h ↦ ?_) n i point w
  exact ⟨(Evolves.scripted n i point w).moves, fun hp ↦ (h hp.coherent.hooks hp.asks).2 hp⟩

end MovesKeepingGrip

theorem captureInvariant_empty (setup : HostSetup) :
    CaptureInvariant ok may none (World.empty [setup]) where
  coherent := coherent_empty [setup]
  busy := by simp
  alone := rfl
  asks := by simp [Desk.HooksAsk, World.empty]
  ranked := ranked_empty [setup]
  rooted := ⟨[], rooted_empty [setup]⟩

theorem fair_empty (setup : HostSetup) : Grip.Fair may (grip (World.empty [setup])) := by
  refine ⟨fun hn ↦ ?_, fun v hv ↦ ?_, fun _ n hn ↦ ?_⟩
  · cases hn
  · cases hv
  · cases hn

/-- Every script moves the capture by the rules. -/
theorem MovesKeepingGrip.run (hslots : ∀ m, ¬ may (.setCapture (.slot m))) (n : Nat)
    {steps : List Step}
    (hasks : Step.AsksAll may steps) (w : World) :
    MovesKeepingGrip (fun _ ↦ True) may none none w
      (runSteps (World.scripted n) none steps w).2 := by
  have hresolves (m : Nat) (native : NativeHandle) (hm : may (.setCapture (.slot m))) :
      may (.setCapture (.handle native)) := absurd hm (hslots m)
  exact (walk hresolves).runSteps (.scripted hresolves n) none steps
    (Step.usesAll_of_forall (fun _ ↦ trivial) steps) hasks w

end Casement.World
