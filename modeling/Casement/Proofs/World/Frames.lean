import Casement.Proofs.World.Places

namespace Casement

inductive FrameCall where
  | begin
  | draw
  | finish
  | drop
  deriving DecidableEq, Repr

def Call.frameCall? (native : NativeHandle) : Call → Option FrameCall
  | .beginFrame n => if n = native then some .begin else none
  | .drawFrame n => if n = native then some .draw else none
  | .endFrame n => if n = native then some .finish else none
  | .dropBackend n => if n = native then some .drop else none
  | _ => none

def TraceEvent.frameCall? (h : Nat) (native : NativeHandle) : TraceEvent → Option FrameCall
  | .call i c => if i = h then c.frameCall? native else none
  | .hook .. => none

def FrameCall.group (presented : Bool) : List FrameCall :=
  if presented then [.begin, .draw, .finish] else [.begin, .finish]

/-- The calls are those of complete frames, but for one that may be open. -/
def FrameCall.Complete (calls : List FrameCall) (inFrame : Bool) : Prop :=
  ∃ rs : List Bool, calls = rs.flatMap FrameCall.group ++ if inFrame then [.begin] else []

theorem FrameCall.Complete.begin {calls : List FrameCall} (h : Complete calls false) :
    Complete (calls ++ [.begin]) true := by
  obtain ⟨rs, rfl⟩ := h
  exact ⟨rs, by simp⟩

theorem FrameCall.Complete.finish {calls : List FrameCall} (h : Complete calls true)
    (render : Bool) : Complete (calls ++ if render then [.draw, .finish] else [.finish]) false := by
  obtain ⟨rs, rfl⟩ := h
  refine ⟨rs ++ [render], ?_⟩
  cases render <;> simp [FrameCall.group]

theorem FrameCall.Complete.close {calls : List FrameCall} {inFrame : Bool}
    (h : Complete calls inFrame) : Complete (calls ++ if inFrame then [.finish] else []) false := by
  cases inFrame with
  | true => exact h.finish false
  | false => simpa using h

theorem TraceEvent.frameCall?_eq_none {e : TraceEvent} (he : e.isFrameCall = false) (h : Nat)
    (native : NativeHandle) : e.frameCall? h native = none := by
  cases e with
  | hook => rfl
  | call i c =>
    have hc : c.frameCall? native = none := by
      cases c with
      | beginFrame | drawFrame | endFrame | dropBackend => cases he
      | _ => rfl
    simp [TraceEvent.frameCall?, hc]

def Bundle.counts (b : Bundle) : List Nat :=
  [b.stats.created, b.stats.dropped, b.stats.begun, b.stats.ended, b.gui.frames]

theorem countP_modify_add {α : Type} (p : α → Bool) (f : α → α) {l : List α} {i : Nat} {a : α}
    (ha : l[i]? = some a) :
    (l.modify i f).countP p + (p a).toNat = l.countP p + (p (f a)).toNat := by
  induction l generalizing i with
  | nil => cases ha
  | cons b l ih =>
    cases i with
    | zero =>
      simp only [List.getElem?_cons_zero, Option.some.injEq] at ha
      subst ha
      simp only [List.modify_zero_cons, List.countP_cons]
      cases p b <;> cases p (f b) <;> simp
    | succ i =>
      have := ih ha
      simp only [List.modify_succ_cons, List.countP_cons]
      omega

theorem countP_modify_of_eq {α : Type} {p : α → Bool} {f : α → α} (hf : ∀ a, p (f a) = p a)
    (l : List α) (i : Nat) : (l.modify i f).countP p = l.countP p := by
  have hcount (l : List α) : l.countP p = (l.map p).countP id := by rw [List.countP_map]; rfl
  rw [hcount, map_modify_of_eq hf, ← hcount]

namespace World

variable {ok : WindowStep → Prop} {current : Option ObjectId} {w w' w'' : World} {o : ObjectId}

def frameCalls (w : World) (h : Nat) (native : NativeHandle) : List FrameCall :=
  w.env.trace.filterMap (TraceEvent.frameCall? h native)

theorem frameCalls_of_filter
    (htrace : w'.env.trace.filter TraceEvent.isFrameCall = w.env.trace.filter TraceEvent.isFrameCall)
    (h : Nat) (native : NativeHandle) : frameCalls w' h native = frameCalls w h native := by
  have hfilter (l : List TraceEvent) : (l.filter TraceEvent.isFrameCall).filterMap
      (TraceEvent.frameCall? h native) = l.filterMap (TraceEvent.frameCall? h native) := by
    rw [List.filterMap_filter]
    congr 1
    funext e
    split
    · rfl
    · next he => exact (TraceEvent.frameCall?_eq_none (Bool.eq_false_iff.mpr he) h native).symm
  rw [frameCalls, ← hfilter, htrace, hfilter, frameCalls]

def ownCalls (w : World) (o : ObjectId) : List FrameCall :=
  frameCalls w (window w o).host (window w o).native

/-- The frames of a window are complete but for one that is open, and its GUI is in step. -/
def Settled (w : World) (o : ObjectId) : Prop :=
  (window w o).context.inFrame = (window w o).inFrame ∧
    FrameCall.Complete (ownCalls w o) (window w o).inFrame

def Gone (w : World) (o : ObjectId) : Prop :=
  (window w o).inFrame = false ∧
    ∃ calls, FrameCall.Complete calls false ∧ ownCalls w o = calls ++ [.drop]

def inFrames (w : World) (h : Nat) : Nat :=
  w.cells.countP fun c => c.value.host = h && c.value.inFrame

def everOpened (w : World) (h : Nat) : Nat := w.cells.countP fun c => c.value.host = h

def everDropped (w : World) (h : Nat) : Nat := w.dropped.countP fun o => (window w o).host = h

def frameBalance (w : World) (h : Nat) : Int :=
  (bundle w h).stats.begun - (bundle w h).stats.ended - inFrames w h

def rendererBalance (w : World) (h : Nat) : Int :=
  (bundle w h).stats.created - (bundle w h).stats.dropped - (everOpened w h - everDropped w h)

def guiBalance (w : World) (h : Nat) : Int := (bundle w h).gui.frames - (bundle w h).stats.ended

structure SameBalance (w w' : World) : Prop where
  frames : ∀ h, frameBalance w' h = frameBalance w h
  renderers : ∀ h, rendererBalance w' h = rendererBalance w h
  guis : ∀ h, guiBalance w' h = guiBalance w h

theorem SameBalance.refl (w : World) : SameBalance w w := ⟨fun _ ↦ rfl, fun _ ↦ rfl, fun _ ↦ rfl⟩

theorem SameBalance.trans (h : SameBalance w w') (h' : SameBalance w' w'') : SameBalance w w'' :=
  ⟨fun i ↦ (h'.frames i).trans (h.frames i), fun i ↦ (h'.renderers i).trans (h.renderers i),
    fun i ↦ (h'.guis i).trans (h.guis i)⟩

/-- Every window that no call works on is settled, and so is the one this call works on. No calls
are recorded for places without a window. -/
structure FrameInv (current : Option ObjectId) (w : World) : Prop where
  settled : ∀ {o}, o < w.cells.length → ¬ w.IsBusy o ∨ current = some o → Settled w o
  silent : ∀ {h native}, (∀ o, o < w.cells.length → (window w o).host = h →
    (window w o).native ≠ native) → frameCalls w h native = []

theorem FrameInv.weaken (hi : FrameInv current w) : FrameInv none w :=
  ⟨fun ho hor ↦ hi.settled ho (.inl (by simpa using hor)), hi.silent⟩

/-- Renderers of windows that other calls work on are left alone and so are windows that have gone,
those that go are complete, and the counts stay in balance. -/
structure FrameStep (current : Option ObjectId) (w w' : World) : Prop where
  kept : ∀ {o}, w.IsBusy o → current ≠ some o → ownCalls w' o = ownCalls w o
  still : ∀ {o}, o ∈ w.dropped → current ≠ some o → window w' o = window w o
  gone : ∀ {o}, o ∈ w'.dropped → o ∉ w.dropped → Gone w' o
  balance : SameBalance w w'

def FrameLaw (ok : WindowStep → Prop) (current : Option ObjectId) (w w' : World) : Prop :=
  Coherent ok w → (∀ o, current = some o → w.IsBusy o) → FrameInv current w →
    FrameInv current w' ∧ FrameStep current w w'

theorem Follows.window_eq (hf : Follows current w w') (hbusy : w.IsBusy o)
    (hne : current ≠ some o) : window w' o = window w o :=
  window_eq_of_value? (hf.keeps.value hbusy hne)

theorem Follows.mem_dropped (hw : Coherent ok w) (hf : Follows current w w') (hbusy : w.IsBusy o)
    (h : o ∈ w'.dropped) (hw' : Coherent ok w') : o ∈ w.dropped := by
  rcases hbusy with hb | hd
  · have hheld := hw.sound.held hb
    rw [← hf.keeps.holders (Registry.lt_of_isBorrowed hb)] at hheld
    exact absurd h (Registry.not_mem_dropped_of_holders hw'.sound hheld)
  · exact hd

theorem Settled.congr (h : Settled w o) (hwindow : window w' o = window w o)
    (hcalls : ownCalls w' o = ownCalls w o) : Settled w' o := by
  unfold Settled at h ⊢
  rwa [hwindow, hcalls]

theorem Gone.congr (h : Gone w o) (hwindow : window w' o = window w o)
    (hcalls : ownCalls w' o = ownCalls w o) : Gone w' o := by
  unfold Gone at h ⊢
  rwa [hwindow, hcalls]

theorem FrameStep.trans (h : FrameStep current w w') (h' : FrameStep current w' w'')
    (hbusy : ∀ {o}, w.IsBusy o → w'.IsBusy o)
    (halive : ∀ {o}, current = some o → o ∈ w'.dropped → o ∈ w.dropped)
    (hdropped : ∀ {o}, o ∈ w.dropped → o ∈ w'.dropped) : FrameStep current w w'' where
  kept hb hne := (h'.kept (hbusy hb) hne).trans (h.kept hb hne)
  still hd hne := (h'.still (hdropped hd) hne).trans (h.still hd hne)
  gone {o} hd hd₀ := by
    by_cases hd' : o ∈ w'.dropped
    · have hne : current ≠ some o := fun heq ↦ hd₀ (halive heq hd')
      exact (h.gone hd' hd₀).congr (h'.still hd' hne) (h'.kept (.inr hd') hne)
    · exact h'.gone hd hd'
  balance := h.balance.trans h'.balance

theorem FrameLaw.refl (current : Option ObjectId) (w : World) : FrameLaw ok current w w :=
  fun _ _ hi ↦ ⟨hi, fun _ _ ↦ rfl, fun _ _ ↦ rfl, fun h h' ↦ absurd h h', .refl w⟩

theorem FrameLaw.trans (hl : Lawful ok current w w') (h : FrameLaw ok current w w')
    (h' : FrameLaw ok current w' w'') : FrameLaw ok current w w'' := by
  intro hw hc hi
  obtain ⟨hw', hf⟩ := hl hw hc
  obtain ⟨hi', hs⟩ := h hw hc hi
  obtain ⟨hi'', hs'⟩ := h' hw' (fun o ho ↦ hf.keeps.isBusy hw.sound (hc o ho)) hi'
  exact ⟨hi'', hs.trans hs' (hf.keeps.isBusy hw.sound)
    (fun heq hd ↦ hf.mem_dropped hw (hc _ heq) hd hw') hf.keeps.dropped⟩

theorem FrameLaw.nested (hl : Lawful ok none w w') (h : FrameLaw ok none w w') (o : ObjectId) :
    FrameLaw ok (some o) w w' := by
  intro hw hc hi
  obtain ⟨hw', hf⟩ := hl hw (by simp)
  obtain ⟨hi', hs⟩ := h hw (by simp) hi.weaken
  refine ⟨⟨fun {o'} ho' hor ↦ ?_, hi'.silent⟩, fun hb _ ↦ hs.kept hb (by simp),
    fun hd _ ↦ hs.still hd (by simp), hs.gone, hs.balance⟩
  rcases hor with hfree | heq
  · exact hi'.settled ho' (.inl hfree)
  · cases heq
    have hbusy := hc o rfl
    exact (hi.settled (hbusy.lt hw.sound) (.inr rfl)).congr (hf.window_eq hbusy (by simp))
      (hs.kept hbusy (by simp))

structure Unframed (w w' : World) : Prop where
  windows : SameWindows w w'
  trace : w'.env.trace.filter TraceEvent.isFrameCall = w.env.trace.filter TraceEvent.isFrameCall
  counts : ∀ h, (bundle w' h).counts = (bundle w h).counts

theorem Unframed.trans (h : Unframed w w') (h' : Unframed w' w'') : Unframed w w'' :=
  ⟨h.windows.trans h'.windows, h'.trace.trans h.trace, fun i ↦ (h'.counts i).trans (h.counts i)⟩

theorem Unframed.ownCalls (h : Unframed w w') (o : ObjectId) : ownCalls w' o = ownCalls w o := by
  unfold World.ownCalls
  rw [h.windows.window, frameCalls_of_filter h.trace]

theorem Unframed.sameBalance (h : Unframed w w') : SameBalance w w' := by
  have hcounts := h.counts
  simp only [Bundle.counts, List.cons.injEq, and_true] at hcounts
  have hwindow (o : ObjectId) : window w' o = window w o := h.windows.window o
  refine ⟨fun i ↦ ?_, fun i ↦ ?_, fun i ↦ ?_⟩
  · simp only [frameBalance, inFrames, h.windows.cells, hcounts i]
  · simp only [rendererBalance, everOpened, everDropped, h.windows.cells, h.windows.dropped, hwindow,
      hcounts i]
  · simp only [guiBalance, hcounts i]

theorem Unframed.inv (h : Unframed w w') (hi : FrameInv current w) : FrameInv current w' where
  settled {o} ho hor := by
    rw [h.windows.cells] at ho
    have hbusy : w'.IsBusy o ↔ w.IsBusy o := by
      simp [Registry.IsBusy, Registry.isBorrowed, h.windows.cells, h.windows.dropped]
    rw [hbusy] at hor
    exact (hi.settled ho hor).congr (h.windows.window o) (h.ownCalls o)
  silent {i native} hnone := by
    rw [frameCalls_of_filter h.trace]
    refine hi.silent fun o ho ↦ ?_
    rw [← h.windows.window]
    exact hnone o (by rwa [h.windows.cells])

theorem Unframed.law (h : Unframed w w') : FrameLaw ok current w w' := fun _ _ hi ↦
  ⟨h.inv hi, fun _ _ ↦ h.ownCalls _, fun _ _ ↦ h.windows.window _, fun hd hd' ↦ absurd (h.windows.dropped ▸ hd) hd', h.sameBalance⟩

theorem FrameLaw.unframed (h : FrameLaw ok current w w') (hu : Unframed w' w'') :
    FrameLaw ok current w w'' := by
  intro hw hc hi
  obtain ⟨hi', hs⟩ := h hw hc hi
  refine ⟨hu.inv hi', fun hb hne ↦ (hu.ownCalls _).trans (hs.kept hb hne),
    fun hd hne ↦ (hu.windows.window _).trans (hs.still hd hne), fun {o} hd hd₀ ↦ ?_,
    hs.balance.trans hu.sameBalance⟩
  exact (hs.gone (hu.windows.dropped ▸ hd) hd₀).congr (hu.windows.window o) (hu.ownCalls o)

structure SameValues (w w' : World) : Prop where
  values : w'.cells.map Cell.value = w.cells.map Cell.value
  trace : w'.env.trace = w.env.trace
  bundles : w'.env.bundles = w.env.bundles

theorem SameValues.trans (h : SameValues w w') (h' : SameValues w' w'') : SameValues w w'' :=
  ⟨h'.values.trans h.values, h'.trace.trans h.trace, h'.bundles.trans h.bundles⟩

theorem SameValues.modifyCell (w : World) (o : ObjectId) (f : Cell Window → Cell Window)
    (hf : ∀ c, (f c).value = c.value) : SameValues w (w.modifyCell o f) :=
  ⟨map_modify_of_eq hf _ _, rfl, rfl⟩

theorem SameValues.setBorrowed (w : World) (o : ObjectId) (b : Bool) :
    SameValues w (w.setBorrowed o b) := .modifyCell w o _ fun _ ↦ rfl

theorem SameValues.borrow (w : World) (o : ObjectId) : SameValues w (w.borrow o) :=
  .trans (.modifyCell w o (fun c => { c with owners := c.owners + 1 }) fun _ ↦ rfl)
    (.setBorrowed _ o true)

theorem SameValues.letGo (w : World) (o : ObjectId) : SameValues w (w.letGo o) :=
  ⟨(SameValues.modifyCell w o (fun c => { c with owners := c.owners - 1 }) fun _ ↦ rfl).values,
    rfl, rfl⟩

section SameValues

variable (h : SameValues w w')

include h

theorem SameValues.length : w'.cells.length = w.cells.length := by
  simpa using congrArg List.length h.values

theorem SameValues.window (o : ObjectId) : window w' o = window w o := by
  have hvalue := congrArg (·[o]?) h.values
  simp only [List.getElem?_map] at hvalue
  rw [World.window, Registry.value?, hvalue]
  rfl

theorem SameValues.ownCalls (o : ObjectId) : ownCalls w' o = ownCalls w o := by
  unfold World.ownCalls frameCalls
  rw [h.window, h.trace]

theorem SameValues.countP (p : Window → Bool) :
    w'.cells.countP (fun c => p c.value) = w.cells.countP fun c => p c.value := by
  have := congrArg (List.countP p) h.values
  simpa [List.countP_map, Function.comp_def] using this

theorem SameValues.frames (i : Nat) : frameBalance w' i = frameBalance w i := by
  have hcount : inFrames w' i = inFrames w i := h.countP fun win => win.host = i && win.inFrame
  simp only [frameBalance, hcount, bundle, h.bundles]

theorem SameValues.guis (i : Nat) : guiBalance w' i = guiBalance w i := by
  simp only [guiBalance, bundle, h.bundles]

theorem SameValues.renderers (i : Nat) :
    rendererBalance w' i = rendererBalance w i + everDropped w' i - everDropped w i := by
  have hcount : everOpened w' i = everOpened w i := h.countP fun win => win.host = i
  simp only [rendererBalance, hcount, bundle, h.bundles]
  omega

theorem SameValues.sameBalance (hdropped : w'.dropped = w.dropped) : SameBalance w w' := by
  refine ⟨h.frames, fun i ↦ ?_, h.guis⟩
  have hcount : everDropped w' i = everDropped w i := by
    simp only [everDropped, hdropped]
    exact List.countP_congr fun o _ ↦ by simp only [h.window]
  rw [h.renderers, hcount]
  omega

theorem SameValues.inv {current' : Option ObjectId} (hi : FrameInv current w)
    (hbusy : ∀ {o}, ¬ w'.IsBusy o ∨ current' = some o → ¬ w.IsBusy o ∨ current = some o) :
    FrameInv current' w' where
  settled {o} ho hor :=
    (hi.settled (h.length ▸ ho) (hbusy hor)).congr (h.window o) (h.ownCalls o)
  silent {i native} hnone := by
    have hsilent : frameCalls w i native = [] := hi.silent fun o ho ↦ by
      rw [← h.window]
      exact hnone o (h.length ▸ ho)
    rwa [frameCalls, h.trace]

theorem SameValues.step (hdropped : w'.dropped = w.dropped) : FrameStep current w w' :=
  ⟨fun _ _ ↦ h.ownCalls _, fun _ _ ↦ h.window _, fun hd hd₀ ↦ absurd (hdropped ▸ hd) hd₀,
    h.sameBalance hdropped⟩

end SameValues

theorem Unframed.modifyEnv (w : World) (f : Desk → Desk)
    (hf : ∀ d, (f d).bundles = d.bundles ∧ (f d).trace = d.trace) : Unframed w (w.modifyEnv f) where
  windows := ⟨rfl, rfl, rfl⟩
  trace := by simp [(hf _).2]
  counts h := by simp [bundle, (hf _).1]

theorem Unframed.note (w : World) (r : LogRecord) : Unframed w (note r w) :=
  .modifyEnv w _ fun _ ↦ ⟨rfl, rfl⟩

theorem Unframed.call (w : World) (h : Nat) (c : Call) (hc : c.isFrameCall = false) :
    Unframed w (call h c w) where
  windows := ⟨rfl, rfl, rfl⟩
  trace := by simp [World.call, World.traced, TraceEvent.isFrameCall, hc]
  counts _ := rfl

theorem Unframed.modifyBundle (w : World) (h : Nat) (f : Bundle → Bundle)
    (hf : ∀ b, (f b).counts = b.counts) : Unframed w (modifyBundle h f w) where
  windows := ⟨rfl, rfl, rfl⟩
  trace := rfl
  counts i := reading_modifyBundle w h i Bundle.counts f hf

theorem Unframed.modifyHost (w : World) (h : Nat) (f : Host → Host) :
    Unframed w (modifyHost h f w) := .modifyBundle w h _ fun _ ↦ rfl

theorem Unframed.of_core (f : Desk → Desk) (hcore : (f w.env).core = w.env.core) :
    Unframed w (w.modifyEnv f) where
  windows := ⟨rfl, rfl, rfl⟩
  trace := by
    have htrace : (f w.env).core.trace = w.env.core.trace := by rw [hcore]
    exact htrace
  counts i := by
    have hb : (f w.env).bundles.map Bundle.core = w.env.bundles.map Bundle.core :=
      congrArg Desk.bundles hcore
    have hcount (b : Bundle) : b.core.counts = b.counts := rfl
    have hi : ((f w.env).bundles.map Bundle.counts)[i]? = (w.env.bundles.map Bundle.counts)[i]? := by
      have := congrArg (List.map Bundle.counts) hb
      simp only [List.map_map, Function.comp_def, hcount] at this
      rw [this]
    simp only [List.getElem?_map] at hi
    simp only [bundle, Registry.env_modifyEnv, List.getD_eq_getElem?_getD]
    cases h : w.env.bundles[i]? <;> cases h' : (f w.env).bundles[i]? <;> simp_all

theorem Unframed.acquireAtlas (w : World) : Unframed w (acquireAtlas w) := by
  unfold World.acquireAtlas
  split
  · exact .modifyEnv w _ fun _ ↦ ⟨rfl, rfl⟩
  · exact (Unframed.note w _).trans (.modifyEnv _ _ fun _ ↦ ⟨rfl, rfl⟩)

theorem Unframed.releaseAtlas (w : World) : Unframed w (releaseAtlas w) :=
  .modifyEnv w _ fun _ ↦ ⟨rfl, rfl⟩

theorem Unframed.acquireWatchdog (w : World) (h : Nat) : Unframed w (acquireWatchdog h w) := by
  unfold World.acquireWatchdog
  split
  · exact .modifyEnv w _ fun _ ↦ ⟨rfl, rfl⟩
  · refine Unframed.trans ?_ (.modifyEnv _ _ fun _ ↦ ⟨rfl, rfl⟩)
    refine Unframed.trans ?_ (.modifyEnv _ _ fun _ ↦ ⟨rfl, rfl⟩)
    exact (Unframed.modifyHost w h _).trans (.call _ _ _ rfl)

theorem Unframed.releaseWatchdog (w : World) : Unframed w (releaseWatchdog w) := by
  have hrelease : Unframed w (w.modifyEnv fun d => { d with watchdog := d.watchdog.release }) :=
    .modifyEnv w _ fun _ ↦ ⟨rfl, rfl⟩
  unfold World.releaseWatchdog
  dsimp only
  split
  · split
    · refine Unframed.trans ?_ (.modifyEnv _ _ fun _ ↦ ⟨rfl, rfl⟩)
      exact hrelease.trans ((Unframed.call _ _ _ rfl).trans (.modifyHost _ _ _))
    · exact hrelease
  · exact hrelease

theorem Unframed.discharge (w : World) : Unframed w (discharge w) :=
  (Unframed.releaseAtlas w).trans ((Unframed.releaseAtlas _).trans (.releaseWatchdog _))

theorem Edit.unframed (h : Edit w w') : Unframed w w' := by
  cases h with
  | addView h view => exact .modifyHost w h _
  | removeView h native => exact .modifyHost w h _
  | holdAtlas => exact (Unframed.acquireAtlas w).trans (.modifyEnv _ _ fun _ ↦ ⟨rfl, rfl⟩)
  | dropAtlas => exact (Unframed.releaseAtlas w).trans (.modifyEnv _ _ fun _ ↦ ⟨rfl, rfl⟩)
  | editAtlas a => exact .modifyEnv w _ fun _ ↦ ⟨rfl, rfl⟩
  | holdWatchdog h => exact (Unframed.acquireWatchdog w h).trans (.modifyEnv _ _ fun _ ↦ ⟨rfl, rfl⟩)
  | dropWatchdog => exact (Unframed.releaseWatchdog w).trans (.modifyEnv _ _ fun _ ↦ ⟨rfl, rfl⟩)

end World

end Casement
