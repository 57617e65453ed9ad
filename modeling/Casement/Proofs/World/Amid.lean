import Casement.Proofs.World.Frames

namespace Casement.World

variable {ok : WindowStep → Prop} {current : Option ObjectId} {k : Reentry} {w₀ w w' : World}
  {o : ObjectId} {calls : List FrameCall} {inFrame inContext : Bool} {frames renderers guis : Int}

/-- In the midst of work on a window `o`, begun at `w₀`: the calls recorded for it since then, its
flags, and how far the counts of its host are out of balance. -/
structure Amid (ok : WindowStep → Prop) (o : ObjectId) (w₀ w : World) (calls : List FrameCall)
    (inFrame inContext : Bool) (frames renderers guis : Int) : Prop where
  origin : Coherent ok w₀
  origin_busy : w₀.IsBusy o
  coherent : Coherent ok w
  follows : Follows (some o) w₀ w
  others : FrameInv none w
  kept : ∀ {o'}, w₀.IsBusy o' → o' ≠ o → ownCalls w o' = ownCalls w₀ o'
  gone : ∀ {o'}, o' ∈ w.dropped → o' ∉ w₀.dropped → Gone w o'
  own : ownCalls w o = ownCalls w₀ o ++ calls
  inFrame_eq : (window w o).inFrame = inFrame
  inContext_eq : (window w o).context.inFrame = inContext
  frameBalance_eq : ∀ h, frameBalance w h =
    frameBalance w₀ h + if h = (window w₀ o).host then frames else 0
  rendererBalance_eq : ∀ h, rendererBalance w h =
    rendererBalance w₀ h + if h = (window w₀ o).host then renderers else 0
  guiBalance_eq : ∀ h, guiBalance w h = guiBalance w₀ h + if h = (window w₀ o).host then guis else 0

theorem Amid.start (hw : Coherent ok w) (hbusy : w.IsBusy o) (hi : FrameInv none w) :
    Amid ok o w w [] (window w o).inFrame (window w o).context.inFrame 0 0 0 where
  origin := hw
  origin_busy := hbusy
  coherent := hw
  follows := .refl _ w
  others := hi
  kept _ _ := rfl
  gone h h' := absurd h h'
  own := (List.append_nil _).symm
  inFrame_eq := rfl
  inContext_eq := rfl
  frameBalance_eq h := by simp
  rendererBalance_eq h := by simp
  guiBalance_eq h := by simp

section Update

variable {f : Window → Window} (hf : ∀ win, (f win).host = win.host ∧ (f win).native = win.native)

include hf

theorem place_update (ho : o < w.cells.length) (o' : ObjectId) :
    (window (w.update o f) o').host = (window w o').host ∧
      (window (w.update o f) o').native = (window w o').native := by
  rw [window_update w o o' f ho]
  split
  · exact hf _
  · exact ⟨rfl, rfl⟩

theorem ownCalls_update (ho : o < w.cells.length) (o' : ObjectId) :
    ownCalls (w.update o f) o' = ownCalls w o' := by
  unfold ownCalls
  rw [(place_update hf ho o').1, (place_update hf ho o').2]
  rfl

theorem inFrames_update (ho : o < w.cells.length) (i : Nat) :
    (inFrames (w.update o f) i : Int) = inFrames w i + if i = (window w o).host then
      ((f (window w o)).inFrame.toNat - (window w o).inFrame.toNat : Int) else 0 := by
  obtain ⟨c, hc⟩ : ∃ c, w.cells[o]? = some c := ⟨_, List.getElem?_eq_getElem ho⟩
  have hvalue : window w o = c.value := by simp [window, Registry.value?, hc]
  have hcount := countP_modify_add (fun c : Cell Window => c.value.host = i && c.value.inFrame)
    (fun c => { c with value := f c.value }) hc
  simp only [← hvalue, (hf _).1] at hcount
  change inFrames (w.update o f) i + _ = inFrames w i + _ at hcount
  by_cases heq : i = (window w o).host
  · simp only [heq, decide_true, Bool.true_and, if_true] at hcount ⊢
    omega
  · simp only [Ne.symm heq, decide_false, Bool.false_and, if_neg heq] at hcount ⊢
    omega

theorem frameBalance_update (ho : o < w.cells.length) (i : Nat) :
    frameBalance (w.update o f) i = frameBalance w i - if i = (window w o).host then
      ((f (window w o)).inFrame.toNat - (window w o).inFrame.toNat : Int) else 0 := by
  rw [frameBalance, inFrames_update hf ho, ← Int.sub_sub]
  rfl

theorem rendererBalance_update (ho : o < w.cells.length) (i : Nat) :
    rendererBalance (w.update o f) i = rendererBalance w i := by
  have hopened : everOpened (w.update o f) i = everOpened w i :=
    countP_modify_of_eq (fun c ↦ by simp [(hf _).1]) _ _
  have hdropped : everDropped (w.update o f) i = everDropped w i := by
    simp [everDropped, (place_update hf ho _).1]
  rw [rendererBalance, hopened, hdropped]
  rfl

end Update

theorem balance_modifyBundle {i : Nat} {f : Bundle → Bundle} {begun ended dropped guiFrames : Nat}
    (hi : i < w.env.bundles.length)
    (hf : ∀ b, (f b).counts = [b.stats.created, b.stats.dropped + dropped, b.stats.begun + begun,
      b.stats.ended + ended, b.gui.frames + guiFrames]) (j : Nat) :
    frameBalance (modifyBundle i f w) j =
      frameBalance w j + (if j = i then (begun - ended : Int) else 0) ∧
    rendererBalance (modifyBundle i f w) j =
      rendererBalance w j + (if j = i then (-dropped : Int) else 0) ∧
    guiBalance (modifyBundle i f w) j =
      guiBalance w j + if j = i then (guiFrames - ended : Int) else 0 := by
  have hcells : inFrames (modifyBundle i f w) j = inFrames w j ∧
      everOpened (modifyBundle i f w) j = everOpened w j ∧
      everDropped (modifyBundle i f w) j = everDropped w j := ⟨rfl, rfl, rfl⟩
  have hcounts := congrArg Bundle.counts (bundle_modifyBundle w i j f hi)
  simp only [frameBalance, rendererBalance, guiBalance, hcells]
  by_cases hj : j = i
  · rw [if_pos hj.symm, hf] at hcounts
    simp only [if_pos hj, Bundle.counts, List.cons.injEq] at hcounts ⊢
    omega
  · rw [if_neg (Ne.symm hj)] at hcounts
    simp only [if_neg hj, Bundle.counts, List.cons.injEq] at hcounts ⊢
    omega

section Steps

variable (h : Amid ok o w₀ w calls inFrame inContext frames renderers guis)

include h

theorem Amid.isBusy : w.IsBusy o := h.follows.keeps.isBusy h.origin.sound h.origin_busy

theorem Amid.lt : o < w.cells.length := h.isBusy.lt h.coherent.sound

theorem Amid.ne_of_idle {o' : ObjectId} (hor : ¬ w.IsBusy o' ∨ none = some o') : o' ≠ o := by
  rintro rfl
  exact hor.elim (fun hb ↦ hb h.isBusy) (by simp)

theorem Amid.ne_of_dropped {o' : ObjectId} (hd : o' ∈ w.dropped) (hd₀ : o' ∉ w₀.dropped) :
    o' ≠ o := by
  rintro rfl
  exact hd₀ (h.follows.mem_dropped h.origin h.origin_busy hd h.coherent)

theorem Amid.place : (window w o).host = (window w₀ o).host ∧
    (window w o).native = (window w₀ o).native :=
  h.follows.place (h.origin_busy.lt h.origin.sound)

theorem Amid.lawful (hl : Lawful ok (some o) w w') : Coherent ok w' ∧ Follows (some o) w w' :=
  hl h.coherent fun _ heq ↦ by
    cases heq
    exact h.isBusy

theorem Amid.unframed (hu : Unframed w w') (hl : Lawful ok (some o) w w') :
    Amid ok o w₀ w' calls inFrame inContext frames renderers guis := by
  obtain ⟨hw', hf⟩ := h.lawful hl
  exact
    { h with
      coherent := hw'
      follows := h.follows.trans h.origin hf
      others := hu.inv h.others
      kept := fun hb hne ↦ (hu.ownCalls _).trans (h.kept hb hne)
      gone := fun hd hd₀ ↦ (h.gone (hu.windows.dropped ▸ hd) hd₀).congr (hu.windows.window _)
        (hu.ownCalls _)
      own := (hu.ownCalls o).trans h.own
      inFrame_eq := by rw [hu.windows.window, h.inFrame_eq]
      inContext_eq := by rw [hu.windows.window, h.inContext_eq]
      frameBalance_eq := fun i ↦ by rw [hu.sameBalance.frames, h.frameBalance_eq]
      rendererBalance_eq := fun i ↦ by rw [hu.sameBalance.renderers, h.rendererBalance_eq]
      guiBalance_eq := fun i ↦ by rw [hu.sameBalance.guis, h.guiBalance_eq] }

theorem Amid.reenter (hl : Lawful ok none w w') (hk : FrameLaw ok none w w') :
    Amid ok o w₀ w' calls inFrame inContext frames renderers guis := by
  obtain ⟨hw', hf⟩ := h.lawful hl.of_none
  obtain ⟨-, hf'⟩ := hl h.coherent (by simp)
  obtain ⟨hi, hs⟩ := hk h.coherent (by simp) h.others
  have hwindow : window w' o = window w o := hf'.window_eq h.isBusy (by simp)
  refine
    { h with
      coherent := hw'
      follows := h.follows.trans h.origin hf
      others := hi
      kept := fun hb hne ↦ (hs.kept (h.follows.keeps.isBusy h.origin.sound hb) (by simp)).trans
        (h.kept hb hne)
      gone := fun {o'} hd hd₀ ↦ ?_
      own := (hs.kept h.isBusy (by simp)).trans h.own
      inFrame_eq := by rw [hwindow, h.inFrame_eq]
      inContext_eq := by rw [hwindow, h.inContext_eq]
      frameBalance_eq := fun i ↦ by rw [hs.balance.frames, h.frameBalance_eq]
      rendererBalance_eq := fun i ↦ by rw [hs.balance.renderers, h.rendererBalance_eq]
      guiBalance_eq := fun i ↦ by rw [hs.balance.guis, h.guiBalance_eq] }
  by_cases hd' : o' ∈ w.dropped
  · exact (h.gone hd' hd₀).congr (hf'.window_eq (.inr hd') (by simp)) (hs.kept (.inr hd') (by simp))
  · exact hs.gone hd hd'

theorem Amid.call {i : Nat} {native : NativeHandle} {c : Call} {fc : FrameCall}
    (hi : i = (window w₀ o).host) (hn : native = (window w₀ o).native)
    (hc : ∀ n, c.frameCall? n = if native = n then some fc else none) :
    Amid ok o w₀ (World.call i c w) (calls ++ [fc]) inFrame inContext frames renderers guis := by
  obtain ⟨hw', hf⟩ := h.lawful (Moves.call w i c).lawful
  have hcalls (j : Nat) (n : NativeHandle) : frameCalls (World.call i c w) j n =
      frameCalls w j n ++ if i = j ∧ native = n then [fc] else [] := by
    simp only [frameCalls, World.call, World.traced, Registry.env_modifyEnv, List.filterMap_append,
      List.filterMap_cons, List.filterMap_nil, TraceEvent.frameCall?, hc]
    split <;> split <;> simp_all
  rw [← h.place.1] at hi
  rw [← h.place.2] at hn
  -- places are unique, so the call is recorded for no other window
  have hother {o' : ObjectId} (ho' : o' < w.cells.length) (hne : o' ≠ o) :
      ownCalls (World.call i c w) o' = ownCalls w o' := by
    refine (hcalls (window w o').host (window w o').native).trans ?_
    rw [hi, hn, if_neg fun heq ↦ hne (h.coherent.place_inj ho' h.lt heq.1.symm heq.2.symm),
      List.append_nil]
    rfl
  exact
    { h with
      coherent := hw'
      follows := h.follows.trans h.origin hf
      others :=
        { settled := fun {o'} ho' hor ↦ by
            exact (h.others.settled ho' hor).congr rfl (hother ho' (h.ne_of_idle hor))
          silent := fun {j n} hnone ↦ by
            rw [hcalls, if_neg fun heq ↦ hnone o h.lt (hi ▸ heq.1) (hn ▸ heq.2), List.append_nil]
            exact h.others.silent hnone }
      kept := fun hb hne ↦
        (hother ((h.follows.keeps.isBusy h.origin.sound hb).lt h.coherent.sound) hne).trans
          (h.kept hb hne)
      gone := fun {o'} hd hd₀ ↦ by
        have hlt := (h.coherent.sound.dropped_iff.mp hd).1
        exact (h.gone hd hd₀).congr rfl (hother hlt (h.ne_of_dropped hd hd₀))
      own := by
        refine (hcalls (window w o).host (window w o).native).trans ?_
        rw [if_pos ⟨hi, hn⟩]
        exact (congrArg (· ++ [fc]) h.own).trans (List.append_assoc ..) }

theorem Amid.tally {i : Nat} {f : Bundle → Bundle} (begun ended dropped guiFrames : Nat)
    (hi : i = (window w₀ o).host) (hl : Lawful ok (some o) w (World.modifyBundle i f w))
    (hf : ∀ b, (f b).counts = [b.stats.created, b.stats.dropped + dropped, b.stats.begun + begun,
      b.stats.ended + ended, b.gui.frames + guiFrames]) :
    Amid ok o w₀ (World.modifyBundle i f w) calls inFrame inContext
      (frames + begun - ended) (renderers - dropped) (guis + guiFrames - ended) := by
  obtain ⟨hw', hfo⟩ := h.lawful hl
  have hlt : i < w.env.bundles.length := by
    rw [hi, ← h.place.1]
    exact h.coherent.host_lt h.lt
  have hbalance := balance_modifyBundle hlt hf
  exact
    { h with
      coherent := hw'
      follows := h.follows.trans h.origin hfo
      others := ⟨fun ho' hor ↦ h.others.settled ho' hor, fun hnone ↦ h.others.silent hnone⟩
      frameBalance_eq := fun j ↦ by
        rw [(hbalance j).1, h.frameBalance_eq, hi]
        split <;> omega
      rendererBalance_eq := fun j ↦ by
        rw [(hbalance j).2.1, h.rendererBalance_eq, hi]
        split <;> omega
      guiBalance_eq := fun j ↦ by
        rw [(hbalance j).2.2, h.guiBalance_eq, hi]
        split <;> omega }

theorem Amid.update {f : Window → Window} {a b : Bool}
    (hf : ∀ win, (f win).host = win.host ∧ (f win).native = win.native)
    (ha : (f (window w o)).inFrame = a) (hb : (f (window w o)).context.inFrame = b) :
    Amid ok o w₀ (w.update o f) calls a b (frames + inFrame.toNat - a.toNat) renderers guis := by
  obtain ⟨hw', hfo⟩ := h.lawful (.update o f hf)
  have hcalls (o' : ObjectId) : ownCalls (w.update o f) o' = ownCalls w o' := ownCalls_update hf h.lt o'
  have hbusy (o' : ObjectId) : (w.update o f).IsBusy o' ↔ w.IsBusy o' := by
    simp [Registry.IsBusy, Registry.isBorrowed_update]
  -- only this window changes
  have hother {o' : ObjectId} (hne : o' ≠ o) : window (w.update o f) o' = window w o' := by
    rw [window_update w o o' f h.lt, if_neg hne.symm]
  have hself : window (w.update o f) o = f (window w o) := by
    rw [window_update w o o f h.lt, if_pos rfl]
  exact
    { h with
      coherent := hw'
      follows := h.follows.trans h.origin hfo
      others :=
        { settled := fun {o'} ho' hor ↦ by
            rw [hbusy] at hor
            exact (h.others.settled (by simpa using ho') hor).congr (hother (h.ne_of_idle hor))
              (hcalls o')
          silent := fun hnone ↦ h.others.silent fun o' ho' ↦ by
            have hplace := place_update hf h.lt o'
            rw [← hplace.1, ← hplace.2]
            exact hnone o' (by simpa using ho') }
      kept := fun hb hne ↦ (hcalls _).trans (h.kept hb hne)
      gone := fun {o'} hd hd₀ ↦
        (h.gone hd hd₀).congr (hother (h.ne_of_dropped hd hd₀)) (hcalls o')
      own := (hcalls o).trans h.own
      inFrame_eq := by rw [hself, ha]
      inContext_eq := by rw [hself, hb]
      frameBalance_eq := fun i ↦ by
        rw [frameBalance_update hf h.lt, h.frameBalance_eq, ha, h.inFrame_eq, h.place.1]
        split <;> omega
      rendererBalance_eq := fun i ↦ by rw [rendererBalance_update hf h.lt, h.rendererBalance_eq] }

theorem Amid.setFrame (a : Bool) (f : Window → Window)
    (hf : ∀ win, (f win).host = win.host ∧ (f win).native = win.native ∧ (f win).inFrame = a ∧
      (f win).context.inFrame = win.context.inFrame) :
    Amid ok o w₀ (w.update o f) calls a inContext (frames + inFrame.toNat - a.toNat) renderers guis :=
  h.update (fun win ↦ ⟨(hf win).1, (hf win).2.1⟩) (hf _).2.2.1 ((hf _).2.2.2.trans h.inContext_eq)

theorem Amid.setContext (b : Bool) (f : Window → Window)
    (hf : ∀ win, (f win).host = win.host ∧ (f win).native = win.native ∧
      (f win).inFrame = win.inFrame ∧ (f win).context.inFrame = b) :
    Amid ok o w₀ (w.update o f) calls inFrame b frames renderers guis := by
  simpa using h.update (fun win ↦ ⟨(hf win).1, (hf win).2.1⟩) ((hf _).2.2.1.trans h.inFrame_eq)
    (hf _).2.2.2

theorem Amid.touch (f : Window → Window)
    (hf : ∀ win, (f win).host = win.host ∧ (f win).native = win.native ∧
      (f win).inFrame = win.inFrame ∧ (f win).context.inFrame = win.context.inFrame) :
    Amid ok o w₀ (w.update o f) calls inFrame inContext frames renderers guis := by
  simpa using h.update (fun win ↦ ⟨(hf win).1, (hf win).2.1⟩) ((hf _).2.2.1.trans h.inFrame_eq)
    ((hf _).2.2.2.trans h.inContext_eq)

end Steps

structure Tame (ok : WindowStep → Prop) (k : Reentry) : Prop where
  lawful : ∀ h p w, Lawful ok none w (k h p w)
  frames : ∀ h p w, FrameLaw ok none w (k h p w)

section Frames

variable (hk : Tame ok k)

include hk

theorem Amid.reentry (h : Amid ok o w₀ w calls inFrame inContext frames renderers guis) (i : Nat)
    (p : HookPoint) : Amid ok o w₀ (k i p w) calls inFrame inContext frames renderers guis :=
  h.reenter (hk.lawful i p w) (hk.frames i p w)

omit hk in
theorem Amid.callOther (h : Amid ok o w₀ w calls inFrame inContext frames renderers guis) (i : Nat)
    (c : Call) (hc : c.isFrameCall = false) :
    Amid ok o w₀ (World.call i c w) calls inFrame inContext frames renderers guis :=
  h.unframed (.call w i c hc) (Moves.call w i c).lawful

theorem Amid.newFrame (h : Amid ok o w₀ w calls inFrame false frames renderers guis) :
    Amid ok o w₀ (newFrame k o w).2 calls inFrame true frames renderers guis := by
  have hcalled := (h.callOther (window w o).host .newFrame rfl).reentry hk (window w o).host .newFrame
  unfold World.newFrame
  dsimp only
  rw [if_neg (by simp [hcalled.inContext_eq])]
  exact hcalled.setContext true (fun win => { win with context := win.context.begin _ })
    fun _ ↦ ⟨rfl, rfl, rfl, rfl⟩

theorem Amid.beginFrame (h : Amid ok o w₀ w calls false false frames renderers guis) :
    Amid ok o w₀ (beginFrame k o w).2 (calls ++ [.begin]) true true frames renderers guis := by
  have hset := h.setFrame true (fun win => Window.readFrameInfo (bundle w (window w o).host).host
    (bundle w (window w o).host).scale { win with inFrame := true }) fun _ ↦ ⟨rfl, rfl, rfl, rfl⟩
  have hcalled := (hset.call (c := .beginFrame (window w o).native) h.place.1 h.place.2
    fun _ ↦ rfl).reentry hk (window w o).host .beginFrame
  have hcounted := hcalled.tally 1 0 0 0 h.place.1
    (Moves.modifyStats _ _ fun s => { s with begun := s.begun + 1 }).lawful fun _ ↦ rfl
  refine Amid.newFrame hk (Amid.touch ?_ _ fun _ ↦ ⟨rfl, rfl, rfl, rfl⟩)
  simpa [modifyStats] using hcounted

theorem Amid.recoverErrors (h : Amid ok o w₀ w calls inFrame inContext frames renderers guis) :
    Amid ok o w₀ (recoverErrors k o w) calls inFrame inContext frames renderers guis := by
  have hcalled := (h.callOther (window w o).host .recover rfl).reentry hk (window w o).host .recover
  have hcleared : Amid ok o w₀ (modifyGui (window w o).host (fun g => { g with pendingErrors := [] })
      (k (window w o).host .recover (World.call (window w o).host .recover w)))
      calls inFrame inContext frames renderers guis :=
    hcalled.unframed (.modifyBundle _ _ _ fun _ ↦ rfl) (Moves.modifyGui _ _ _).lawful
  unfold World.recoverErrors
  dsimp only
  generalize (bundle (k _ _ _) _).gui.pendingErrors = errors
  generalize World.modifyGui _ _ _ = w₁ at hcleared ⊢
  induction errors generalizing w₁ with
  | nil => exact hcleared
  | cons e errors ih =>
    have hcalled := hcleared.callOther (window w o).host (.reportError e) rfl
    have hreported := hcalled.unframed (.modifyHost _ (window w o).host (·.reportError e))
      (Moves.modifyHost _ _ (·.reportError e) fun _ ↦ rfl).lawful
    exact ih _ (hreported.unframed (.modifyEnv _ _ fun _ ↦ ⟨rfl, rfl⟩) (Moves.note _ _).lawful)

omit hk in
theorem Amid.finishContext (h : Amid ok o w₀ w calls inFrame inContext frames renderers guis)
    {i : Nat} (hi : i = (window w₀ o).host) (c : Call) (hc : c.isFrameCall = false)
    (f : GuiState → GuiState) (hf : ∀ g, (f g).frames = g.frames + 1) :
    Amid ok o w₀ (modifyGui i f ((World.call i c w).update o fun win =>
      { win with context := win.context.finish })) calls inFrame false frames renderers (guis + 1) := by
  have hfinished := (h.callOther i c hc).setContext false (fun win =>
    { win with context := win.context.finish }) fun _ ↦ ⟨rfl, rfl, rfl, rfl⟩
  have hcounted := hfinished.tally (f := fun b => { b with gui := f b.gui }) 0 0 0 1 hi
    (Moves.modifyGui _ _ f).lawful fun b ↦ by simp [Bundle.counts, hf]
  simpa [modifyGui] using hcounted

theorem Amid.presentFrame (h : Amid ok o w₀ w calls inFrame inContext frames renderers guis) :
    Amid ok o w₀ (presentFrame k o w) (calls ++ [.draw]) inFrame false frames renderers
      (guis + 1) := by
  have hfinished := h.finishContext h.place.1 .render rfl
    (fun g => { g with frames := g.frames + 1, rendered := g.rendered + 1 }) fun _ ↦ rfl
  have hdrawn := (hfinished.call (c := .drawFrame (window w o).native) h.place.1 h.place.2
    fun _ ↦ rfl).reentry hk (window w o).host .drawFrame
  unfold World.presentFrame
  exact hdrawn.unframed (.modifyBundle _ _ _ fun _ ↦ rfl) (Moves.modifyStats _ _ _).lawful

omit hk in
theorem Amid.discardFrame (h : Amid ok o w₀ w calls inFrame inContext frames renderers guis) :
    Amid ok o w₀ (discardFrame o w) calls inFrame false frames renderers (guis + 1) :=
  h.finishContext h.place.1 .endContextFrame rfl (fun g => { g with frames := g.frames + 1 })
    fun _ ↦ rfl

theorem Amid.endFrame (h : Amid ok o w₀ w calls true inContext frames renderers guis)
    (render : Bool) :
    Amid ok o w₀ (endFrame k o render w) (calls ++ if render then [.draw, .finish] else [.finish])
      false false frames renderers guis := by
  have hcounts {w₁ : World} {calls : List FrameCall}
      (h₁ : Amid ok o w₀ w₁ calls true false frames renderers (guis + 1)) :
      Amid ok o w₀ ((modifyStats (window w o).host (fun s => { s with ended := s.ended + 1 })
          (k (window w o).host .endFrame (World.call (window w o).host
            (.endFrame (window w o).native) w₁))).update o fun win => { win with inFrame := false })
        (calls ++ [.finish]) false false frames renderers guis := by
    have hended := (h₁.call (c := .endFrame (window w o).native) h.place.1 h.place.2
      fun _ ↦ rfl).reentry hk (window w o).host .endFrame
    have hcounted := hended.tally 0 1 0 0 h.place.1
      (Moves.modifyStats _ _ fun s => { s with ended := s.ended + 1 }).lawful fun _ ↦ rfl
    simpa [modifyStats] using hcounted.setFrame false (fun win => { win with inFrame := false })
      fun _ ↦ ⟨rfl, rfl, rfl, rfl⟩
  unfold World.endFrame
  dsimp only
  rw [if_pos h.inFrame_eq]
  cases render with
  | true => simpa using hcounts ((h.recoverErrors hk).presentFrame hk)
  | false => exact hcounts (h.recoverErrors hk).discardFrame

theorem Amid.closeFrame (h : Amid ok o w₀ w calls inFrame inFrame frames renderers guis) :
    Amid ok o w₀ (closeFrame k o w) (calls ++ if inFrame then [.finish] else []) false false
      frames renderers guis := by
  unfold World.closeFrame
  rw [h.inFrame_eq]
  cases inFrame with
  | true => exact h.endFrame hk false
  | false => simpa using h

omit hk in
theorem Amid.freeCapture (h : Amid ok o w₀ w calls inFrame inContext frames renderers guis) (i : Nat)
    (native : NativeHandle) :
    Amid ok o w₀ (freeCapture i native w) calls inFrame inContext frames renderers guis := by
  unfold World.freeCapture
  split
  · exact (h.callOther i .releaseCapture rfl).unframed (.modifyHost _ i _)
      (Moves.modifyHost _ i (·.releaseCapture) fun _ ↦ rfl).lawful
  · exact h

/-- A window that goes ends a frame that is open, without presenting it, and then its renderer
goes. -/
theorem Amid.dropWindow (h : Amid ok o w₀ w calls inFrame inFrame frames renderers guis) :
    Amid ok o w₀ (dropWindow k o w) (calls ++ (if inFrame then [.finish] else []) ++ [.drop])
      false false frames (renderers - 1) guis := by
  have hunlisted := h.unframed (.modifyHost w _ _) (.unlisten o)
  have hclosed := (hunlisted.callOther (window w o).host
    (.unregisterAccelerator (window w o).native) rfl).closeFrame hk
  have hfreed := hclosed.freeCapture (window w o).host (window w o).native
  have hdropped := (hfreed.call (c := .dropBackend (window w o).native) h.place.1 h.place.2
    fun _ ↦ rfl).reentry hk (window w o).host .drop
  have hcounted := hdropped.tally 0 0 1 0 h.place.1
    (Moves.modifyStats _ _ fun s => { s with dropped := s.dropped + 1 }).lawful fun _ ↦ rfl
  have hended := (hcounted.callOther (window w o).host .dropContext rfl).unframed
    (.discharge _) .discharge
  rw [dropWindow_eq]
  simpa [modifyStats, unlisten] using hended

end Frames

end Casement.World
