import Casement.Proofs.World.Basic
import Casement.Script.Session

namespace Casement

mutual

def Step.Uses (ok : WindowStep → Prop) : Step → Prop
  | .window _ step => ok step
  | .within _ steps => Step.UsesAll ok steps
  | .hook _ _ steps => Step.UsesAll ok steps
  | _ => True

def Step.UsesAll (ok : WindowStep → Prop) : List Step → Prop
  | [] => True
  | s :: rest => s.Uses ok ∧ Step.UsesAll ok rest

end

mutual

theorem Step.uses_of_forall {ok : WindowStep → Prop} (h : ∀ step, ok step) (s : Step) : s.Uses ok := by
  cases s with
  | window place step => exact h step
  | within n steps => exact Step.usesAll_of_forall h steps
  | hook i point steps => exact Step.usesAll_of_forall h steps
  | _ => trivial

theorem Step.usesAll_of_forall {ok : WindowStep → Prop} (h : ∀ step, ok step) (steps : List Step) :
    Step.UsesAll ok steps := by
  cases steps with
  | nil => trivial
  | cons s rest => exact ⟨Step.uses_of_forall h s, Step.usesAll_of_forall h rest⟩

end

mutual

def Step.Asks (may : HostStep → Prop) : Step → Prop
  | .host _ step => may step
  | .within _ steps => Step.AsksAll may steps
  | .hook _ _ steps => Step.AsksAll may steps
  | _ => True

def Step.AsksAll (may : HostStep → Prop) : List Step → Prop
  | [] => True
  | s :: rest => s.Asks may ∧ Step.AsksAll may rest

end

mutual

theorem Step.asks_of_forall {may : HostStep → Prop} (h : ∀ step, may step) (s : Step) : s.Asks may := by
  cases s with
  | host i step => exact h step
  | within n steps => exact Step.asksAll_of_forall h steps
  | hook i point steps => exact Step.asksAll_of_forall h steps
  | _ => trivial

theorem Step.asksAll_of_forall {may : HostStep → Prop} (h : ∀ step, may step) (steps : List Step) :
    Step.AsksAll may steps := by
  cases steps with
  | nil => trivial
  | cons s rest => exact ⟨Step.asks_of_forall h s, Step.asksAll_of_forall h rest⟩

end

theorem Step.asksAll_append {may : HostStep → Prop} {steps rest : List Step} :
    Step.AsksAll may (steps ++ rest) ↔ Step.AsksAll may steps ∧ Step.AsksAll may rest := by
  induction steps with
  | nil => exact ⟨fun h ↦ ⟨trivial, h⟩, And.right⟩
  | cons s steps ih => exact (and_congr_right fun _ ↦ ih).trans and_assoc.symm

def Window.core (win : Window) : Window where
  host := win.host
  native := win.native
  platform := win.platform
  inFrame := win.inFrame
  clearColor := default
  buttons := win.buttons
  notch := .zero
  context := { inFrame := win.context.inFrame }
  atlas := win.atlas

theorem Window.eq_of_core {win win' : Window} (h : win'.core = win.core) :
    win'.host = win.host ∧ win'.native = win.native ∧ win'.atlas = win.atlas ∧
      win'.inFrame = win.inFrame ∧ win'.context.inFrame = win.context.inFrame := by
  simp only [Window.core, Window.mk.injEq, Context.mk.injEq] at h
  obtain ⟨hhost, hnative, -, hframe, -, -, -, -, -, -, -, ⟨-, -, hcontext⟩, hatlas⟩ := h
  exact ⟨hhost, hnative, hatlas, hframe, hcontext⟩

def Host.core (s : Host) : Host where
  nextHandle := s.nextHandle
  nextTimer := s.nextTimer
  views := s.views.map fun v => { handle := v.handle, rect := .empty, parent := v.parent }
  timers := s.timers
  accelerators := s.accelerators
  capture := s.capture
  errors := s.errors

def Bundle.core (b : Bundle) : Bundle where
  host := b.host.core
  gui :=
    { pendingErrors := b.gui.pendingErrors
      injected := b.gui.injected
      frames := b.gui.frames }
  stats :=
    { created := b.stats.created
      dropped := b.stats.dropped
      begun := b.stats.begun
      presented := b.stats.presented
      ended := b.stats.ended }

def Call.isFrameCall : Call → Bool
  | .beginFrame _ | .drawFrame _ | .endFrame _ | .dropBackend _ => true
  | _ => false

def TraceEvent.isFrameCall : TraceEvent → Bool
  | .call _ c => c.isFrameCall
  | .hook .. => false

/-- Calls on a host about its capture, and the one that the end of a window begins with. -/
def Call.isCaptureCall : Call → Bool
  | .setCapture _ | .releaseCapture | .unregisterAccelerator _ => true
  | _ => false

def TraceEvent.isCaptureCall : TraceEvent → Bool
  | .call _ c => c.isCaptureCall
  | .hook .. => false

def Call.isReport : Call → Bool
  | .reportError _ => true
  | _ => false

def TraceEvent.report? (h : Nat) : TraceEvent → Option String
  | .call i (.reportError text) => if i = h then some text else none
  | _ => none

def TraceEvent.isDealing : TraceEvent → Bool
  | .call _ c => c.isCaptureCall || c.isReport
  | .hook .. => false

/-- The part of a desk that later calls depend on. -/
def Desk.core (d : Desk) : Desk :=
  { d with
    bundles := d.bundles.map Bundle.core
    trace := d.trace.filter TraceEvent.isFrameCall
    log := []
    slots := [] }

def HostStep.editsViews : HostStep → Bool
  | .addChild .. | .createNative .. | .setTitle .. | .setRect .. | .setVisible .. => true
  | _ => false

def WindowStep.editsViews : WindowStep → Bool
  | .setTitle _ | .setRect _ | .setVisible _ => true
  | _ => false

def Host.display (s : Host) : Platform × List View := (s.platform, s.views)

def Desk.dealings (d : Desk) : List (Platform × List View) × List TraceEvent :=
  (d.bundles.map (·.host.display), d.trace.filter TraceEvent.isDealing)

theorem filterMap_of_dealings {α : Type} {read : TraceEvent → Option α} {trace trace' : List TraceEvent}
    (hread : ∀ e, (read e).isSome = true → e.isDealing = true)
    (h : trace'.filter TraceEvent.isDealing = trace.filter TraceEvent.isDealing) :
    trace'.filterMap read = trace.filterMap read := by
  have hkept (events : List TraceEvent) :
      (events.filter TraceEvent.isDealing).filterMap read = events.filterMap read := by
    induction events with
    | nil => rfl
    | cons e events ih =>
      by_cases he : e.isDealing = true
      · rw [List.filter_cons_of_pos he, List.filterMap_cons, List.filterMap_cons, ih]
      · have hnone : read e = none := Option.not_isSome_iff_eq_none.mp fun hsome ↦ he (hread e hsome)
        rw [List.filter_cons_of_neg he, List.filterMap_cons_none hnone, ih]
  rw [← hkept, h, hkept]

def Desk.HooksUse (ok : WindowStep → Prop) (d : Desk) : Prop :=
  ∀ b ∈ d.bundles, ∀ hook ∈ b.hooks, Step.UsesAll ok hook.2

def Desk.HooksAsk (may : HostStep → Prop) (d : Desk) : Prop :=
  ∀ b ∈ d.bundles, ∀ hook ∈ b.hooks, Step.AsksAll may hook.2

theorem map_modify_of_eq {α β : Type} {read : α → β} {f : α → α} (hf : ∀ a, read (f a) = read a)
    (l : List α) (i : Nat) : (l.modify i f).map read = l.map read :=
  List.ext_getElem? fun j ↦ by
    simp only [List.getElem?_map, List.getElem?_modify]
    split <;> cases l[j]? <;> simp [hf]

theorem hooks_modify {P : List Step → Prop} {bundles : List Bundle} {f : Bundle → Bundle} {h : Nat}
    (hall : ∀ b ∈ bundles, ∀ hook ∈ b.hooks, P hook.2)
    (hf : ∀ b, ∀ hook ∈ (f b).hooks, hook ∈ b.hooks ∨ P hook.2) :
    ∀ b ∈ bundles.modify h f, ∀ hook ∈ b.hooks, P hook.2 := by
  intro b hb hook hhook
  obtain ⟨i, hi⟩ := List.mem_iff_getElem?.mp hb
  rw [List.getElem?_modify] at hi
  split at hi
  · obtain ⟨b', hb', rfl⟩ := Option.map_eq_some_iff.mp hi
    rcases hf b' hook hhook with hold | huses
    · exact hall b' (List.mem_of_getElem? hb') hook hold
    · exact huses
  · exact hall b (List.mem_of_getElem? (by simpa using hi)) hook hhook

theorem Desk.HooksUse.modify {ok : WindowStep → Prop} {d : Desk} {f : Bundle → Bundle} {h : Nat}
    (hd : d.HooksUse ok)
    (hf : ∀ b, ∀ hook ∈ (f b).hooks, hook ∈ b.hooks ∨ Step.UsesAll ok hook.2) :
    Desk.HooksUse ok { d with bundles := d.bundles.modify h f } := hooks_modify hd hf

namespace World

inductive Edit : World → World → Prop
  | addView (w : World) (h : Nat) (view : NativeHandle → View)
      (hview : ∀ handle, (view handle).handle = handle) :
      Edit w (modifyHost h (·.addView view) w)
  | removeView (w : World) (h : Nat) (native : NativeHandle) :
      Edit w (modifyHost h (·.removeView native) w)
  | holdAtlas (w : World) : Edit w (keepAtlas (acquireAtlas w))
  | dropAtlas (w : World) (hkept : w.env.keptAtlases ≠ 0) :
      Edit w ((releaseAtlas w).modifyEnv fun d => { d with keptAtlases := d.keptAtlases - 1 })
  | editAtlas (w : World) (a : FontAtlas) (e : FontAtlas.Edit) (halive : w.env.atlas.value = some a) :
      Edit w (w.modifyEnv fun d =>
        { d with atlas := { d.atlas with value := some (a.edit e).2 }, edits := d.edits ++ [e] })
  | holdWatchdog (w : World) (h : Nat) (hh : h < w.env.bundles.length) :
      Edit w ((acquireWatchdog h w).modifyEnv fun d => { d with keptWatchdogs := d.keptWatchdogs + 1 })
  | dropWatchdog (w : World) (hkept : w.env.keptWatchdogs ≠ 0) :
      Edit w ((releaseWatchdog w).modifyEnv fun d => { d with keptWatchdogs := d.keptWatchdogs - 1 })

/-- What a call can do to a world, `current` being the window it works on, if any. A callback `k`
may do whatever a call without a window can. -/
inductive Evolves (ok : WindowStep → Prop) : Option ObjectId → World → World → Prop
  | refl (current : Option ObjectId) (w : World) : Evolves ok current w w
  | trans {current : Option ObjectId} {w₁ w₂ w₃ : World} :
      Evolves ok current w₁ w₂ → Evolves ok current w₂ w₃ → Evolves ok current w₁ w₃
  | nested {w w' : World} (o : ObjectId) : Evolves ok none w w' → Evolves ok (some o) w w'
  | assuming {current : Option ObjectId} {w w' : World} :
      (w.env.HooksUse ok → Evolves ok current w w') → Evolves ok current w w'
  | unseen {current : Option ObjectId} (w : World) (f : Desk → Desk)
      (hcore : (f w.env).core = w.env.core) (hhooks : w.env.HooksUse ok → (f w.env).HooksUse ok) :
      Evolves ok current w (w.modifyEnv f)
  | edit {current : Option ObjectId} {w w' : World} : Edit w w' → Evolves ok current w w'
  | setCapture {current : Option ObjectId} (w : World) (h : Nat) (native : NativeHandle) :
      Evolves ok current w (modifyHost h (·.setCapture native) w)
  | releaseCapture {current : Option ObjectId} (w : World) (h : Nat) :
      Evolves ok current w (modifyHost h .releaseCapture w)
  | report {current : Option ObjectId} (w : World) (h : Nat) (text : String) :
      Evolves ok current w (modifyHost h (·.reportError text) w)
  | inject {current : Option ObjectId} (w : World) (h : Nat) (text : String) :
      Evolves ok current w (modifyGui h (·.inject text) w)
  | touch (w : World) (o : ObjectId) (f : Window → Window)
      (hf : ∀ win, (f win).core = win.core) :
      Evolves ok (some o) w (w.update o f)
  | keepAtlas (w : World) (o : ObjectId) :
      Evolves ok (some o) w (keepAtlas (w.modifyEnv fun d => { d with atlas := d.atlas.retain }))
  | mouseDown (w : World) (o : ObjectId) (button : MouseButton) :
      Evolves ok (some o) w (mouseDown o button w)
  | mouseUp (w : World) (o : ObjectId) (button : MouseButton) :
      Evolves ok (some o) w (mouseUp o button w)
  | beginFrame {k : Reentry} (hk : ∀ h p w, Evolves ok none w (k h p w)) (w : World) (o : ObjectId)
      (hidle : (window w o).inFrame = false) : Evolves ok (some o) w (beginFrame k o w).2
  | endFrame {k : Reentry} (hk : ∀ h p w, Evolves ok none w (k h p w)) (w : World) (o : ObjectId)
      (render : Bool) (hopen : (window w o).inFrame = true) :
      Evolves ok (some o) w (endFrame k o render w)
  | newFrame {k : Reentry} (hk : ∀ h p w, Evolves ok none w (k h p w)) (w : World) (o : ObjectId)
      (hok : ok .contextNewFrame) : Evolves ok (some o) w (newFrame k o w).2
  | renderFrame (w : World) (o : ObjectId) (hok : ok .contextRender) :
      Evolves ok (some o) w (renderFrame o w).2
  | discardFrame (w : World) (o : ObjectId) (hok : ok .contextEndFrame) :
      Evolves ok (some o) w (discardFrame o w)
  | hold {k : Reentry} (hk : ∀ h p w, Evolves ok none w (k h p w)) {w w₂ w₃ : World} {o : ObjectId}
      (ho : w.IsRegistered o) (hfree : w.isBorrowed o = false)
      (hbody : Evolves ok (some o) (w.borrow o) w₂)
      (hafter : Evolves ok none (w₂.setBorrowed o false) w₃) :
      Evolves ok none w (w₃.release (disposal k) o)
  | unregister {k : Reentry} (hk : ∀ h p w, Evolves ok none w (k h p w)) (w : World) (key : Key) :
      Evolves ok none w (w.unregister (disposal k) () key).2
  | destroy {k : Reentry} (hk : ∀ h p w, Evolves ok none w (k h p w)) (w : World)
      (native : NativeHandle) : Evolves ok none w (destroy k native w)
  | openWindow {k : Reentry} (hk : ∀ h p w, Evolves ok none w (k h p w)) (w : World) (h : Nat)
      (hh : h < w.env.bundles.length) (config : ContextConfig) (title : String)
      (x y width height : Int32)
      (hdestroy : ∀ native w, Evolves ok none w (requestDestroy k h native w)) :
      Evolves ok none w (openWindow k h config title x y width height w).2

inductive Holding : World → World → Prop
  | holdAtlas (w : World) : Holding w (keepAtlas (acquireAtlas w))
  | dropAtlas (w : World) (hkept : w.env.keptAtlases ≠ 0) :
      Holding w ((releaseAtlas w).modifyEnv fun d => { d with keptAtlases := d.keptAtlases - 1 })
  | editAtlas (w : World) (a : FontAtlas) (e : FontAtlas.Edit) (halive : w.env.atlas.value = some a) :
      Holding w (w.modifyEnv fun d =>
        { d with atlas := { d.atlas with value := some (a.edit e).2 }, edits := d.edits ++ [e] })
  | holdWatchdog (w : World) (h : Nat) (hh : h < w.env.bundles.length) :
      Holding w ((acquireWatchdog h w).modifyEnv fun d => { d with keptWatchdogs := d.keptWatchdogs + 1 })
  | dropWatchdog (w : World) (hkept : w.env.keptWatchdogs ≠ 0) :
      Holding w ((releaseWatchdog w).modifyEnv fun d => { d with keptWatchdogs := d.keptWatchdogs - 1 })

theorem Holding.edit {w w' : World} (h : Holding w w') : Edit w w' := by
  cases h with
  | holdAtlas => exact .holdAtlas w
  | dropAtlas hkept => exact .dropAtlas w hkept
  | editAtlas a e halive => exact .editAtlas w a e halive
  | holdWatchdog h hh => exact .holdWatchdog w h hh
  | dropWatchdog hkept => exact .dropWatchdog w hkept

/-- What is done beside windows and beside what they share. -/
inductive Aside (ok : WindowStep → Prop) (may : HostStep → Prop) : World → World → Prop
  | unseen (w : World) (f : Desk → Desk) (hcore : (f w.env).core = w.env.core)
      (hdealings : (f w.env).dealings = w.env.dealings)
      (huse : w.env.HooksUse ok → (f w.env).HooksUse ok)
      (hask : w.env.HooksAsk may → (f w.env).HooksAsk may) : Aside ok may w (w.modifyEnv f)
  | addView (w : World) (h : Nat) (view : NativeHandle → View)
      (hview : ∀ handle, (view handle).handle = handle)
      (hmay : ∃ step, may step ∧ step.editsViews = true) :
      Aside ok may w (modifyHost h (·.addView view) w)
  | editView (w : World) (h : Nat) (native : NativeHandle) (f : View → View)
      (hf : ∀ v, (f v).handle = v.handle ∧ (f v).parent = v.parent)
      (hmay : (∃ step, ok step ∧ step.editsViews = true) ∨ ∃ step, may step ∧ step.editsViews = true) :
      Aside ok may w (modifyHost h (·.modifyView native f) w)
  | setCapture (w : World) (h : Nat) (native : NativeHandle)
      (hmay : may (.setCapture (.handle native))) : Aside ok may w (modifyHost h (·.setCapture native) w)
  | releaseCapture (w : World) (h : Nat) (hmay : may .releaseCapture) :
      Aside ok may w (modifyHost h .releaseCapture w)
  | report (w : World) (h : Nat) (text : String) (hmay : may (.report text)) :
      Aside ok may w (modifyHost h (·.reportError text) w)
  | inject (w : World) (h : Nat) (text : String) : Aside ok may w (modifyGui h (·.inject text) w)

/-- The relation `R` allows what calls are made of, `k` being what happens at callbacks. It is indexed
by the window that is worked on, if any. -/
structure Calls (ok : WindowStep → Prop) (may : HostStep → Prop) (k : Reentry)
    (R : Option ObjectId → World → World → Prop) : Prop where
  resolves : ∀ n native, may (.setCapture (.slot n)) → may (.setCapture (.handle native))
  reentry : ∀ o h p w, R (some o) w (k h p w)
  trans : ∀ {current w₁ w₂ w₃}, R current w₁ w₂ → R current w₂ w₃ → R current w₁ w₃
  nested : ∀ {w w'} o, R none w w' → R (some o) w w'
  aside : ∀ {w w'}, Aside ok may w w' → R none w w'
  touch : ∀ w o (f : Window → Window), (∀ win, (f win).core = win.core) → R (some o) w (w.update o f)
  keepAtlas : ∀ w o,
    R (some o) w (keepAtlas (w.modifyEnv fun d => { d with atlas := d.atlas.retain }))
  mouseDown : ∀ w o button, R (some o) w (mouseDown o button w)
  mouseUp : ∀ w o button, R (some o) w (mouseUp o button w)
  beginFrame : ∀ w o, (window w o).inFrame = false → R (some o) w (beginFrame k o w).2
  endFrame : ∀ w o render, (window w o).inFrame = true → R (some o) w (endFrame k o render w)
  newFrame : ∀ w o, ok .contextNewFrame → R (some o) w (newFrame k o w).2
  renderFrame : ∀ w o, ok .contextRender → R (some o) w (renderFrame o w).2
  discardFrame : ∀ w o, ok .contextEndFrame → R (some o) w (discardFrame o w)
  hold : ∀ {w w₂ w₃ : World} {o : ObjectId}, w.IsRegistered o → w.isBorrowed o = false →
    R (some o) (w.borrow o) w₂ → R none (w₂.setBorrowed o false) w₃ →
    R none w (w₃.release (disposal k) o)
  unregister : ∀ w key, R none w (w.unregister (disposal k) () key).2
  destroy : ∀ w native, R none w (destroy k native w)
  removeView : ∀ w h native, (host w h).isWindow native = true →
    R none w (dispatch k native .destroy w).2 →
    R none w (modifyHost h (·.removeView native) (dispatch k native .destroy w).2)

structure Walk (ok : WindowStep → Prop) (may : HostStep → Prop)
    (R : Option ObjectId → World → World → Prop) : Prop where
  refl : ∀ w, R none w w
  calls : ∀ {k : Reentry}, (∀ h p w, R none w (k h p w)) → Calls ok may k R
  holding : ∀ {w w'}, Holding w w' → R none w w'
  openWindow : ∀ {k : Reentry}, (∀ h p w, R none w (k h p w)) → ∀ w h, h < w.env.bundles.length →
    ∀ config title x y width height, (∀ native w, R none w (requestDestroy k h native w)) →
    R none w (openWindow k h config title x y width height w).2

section Calls

variable {ok : WindowStep → Prop} {may : HostStep → Prop} {current : Option ObjectId} {k : Reentry}
  {R : Option ObjectId → World → World → Prop}

namespace Aside

theorem note (w : World) (r : LogRecord) : Aside ok may w (note r w) := .unseen w _ rfl rfl id id

theorem traced (w : World) (e : TraceEvent) (hframe : e.isFrameCall = false)
    (hdealing : e.isDealing = false) : Aside ok may w (traced e w) :=
  .unseen w _ (by simp [Desk.core, hframe]) (by simp [Desk.dealings, hdealing]) id id

theorem call (w : World) (h : Nat) (c : Call) (hframe : c.isFrameCall = false)
    (hdealing : (TraceEvent.call h c).isDealing = false) : Aside ok may w (call h c w) :=
  .traced w _ hframe hdealing

theorem addSlot (w : World) (s : WindowSlot) : Aside ok may w (addSlot s w) :=
  .unseen w _ rfl rfl id id

theorem modifyBundle (w : World) (h : Nat) (f : Bundle → Bundle) (hcore : ∀ b, (f b).core = b.core)
    (hdisplay : ∀ b, (f b).host.display = b.host.display)
    (hhooks : ∀ b, ∀ hook ∈ (f b).hooks, hook ∈ b.hooks ∨ Step.UsesAll ok hook.2 ∧ Step.AsksAll may hook.2) :
    Aside ok may w (modifyBundle h f w) := by
  refine .unseen w _ ?_ ?_ (fun hw ↦ hooks_modify hw ?_) fun hw ↦ hooks_modify hw ?_
  · simp only [Desk.core, map_modify_of_eq hcore]
  · simp only [Desk.dealings]
    rw [map_modify_of_eq hdisplay]
  · exact fun b hook hhook ↦ (hhooks b hook hhook).imp_right And.left
  · exact fun b hook hhook ↦ (hhooks b hook hhook).imp_right And.right

theorem modifyHost (w : World) (h : Nat) (f : Host → Host)
    (hf : ∀ s, (f s).core = s.core ∧ (f s).display = s.display) :
    Aside ok may w (modifyHost h f w) :=
  .modifyBundle w h _ (fun b ↦ by simp [Bundle.core, hf]) (fun b ↦ (hf b.host).2) fun _ _ ↦ .inl

theorem modifyGui (w : World) (h : Nat) (f : GuiState → GuiState)
    (hf : ∀ g, (f g).pendingErrors = g.pendingErrors ∧ (f g).injected = g.injected ∧
      (f g).frames = g.frames) :
    Aside ok may w (modifyGui h f w) :=
  .modifyBundle w h _ (fun b ↦ by simp [Bundle.core, hf]) (fun _ ↦ rfl) fun _ _ ↦ .inl

end Aside

theorem Host.core_modifyView (s : Host) (native : NativeHandle) (f : View → View)
    (hf : ∀ v, (f v).handle = v.handle ∧ (f v).parent = v.parent) :
    (s.modifyView native f).core = s.core := by
  simp only [Host.core, Host.modifyView, List.map_map]
  congr 1
  refine List.map_congr_left fun v _ ↦ ?_
  simp only [Function.comp_apply]
  split <;> simp [hf]

theorem Window.core_charInput (codepoint : UInt32) (win : Window) :
    (win.charInput codepoint).core = win.core := by
  unfold Window.charInput
  split <;> rfl

namespace Calls

theorem of_none (hc : Calls ok may k R) {w w' : World} (h : R none w w') : R current w w' := by
  cases current with
  | none => exact h
  | some o => exact hc.nested o h

theorem beside (hc : Calls ok may k R) {w w' : World} (h : Aside ok may w w') : R current w w' :=
  hc.of_none (hc.aside h)

theorem refl (hc : Calls ok may k R) (w : World) : R current w w :=
  hc.beside (.unseen w id rfl rfl id id)

theorem note (hc : Calls ok may k R) (w : World) (r : LogRecord) : R current w (note r w) :=
  hc.beside (.note w r)

theorem foldl {α : Type} {f : World → α → World} (hc : Calls ok may k R)
    (hf : ∀ w a, R current w (f w a)) (l : List α) (w : World) : R current w (l.foldl f w) := by
  induction l generalizing w with
  | nil => exact hc.refl w
  | cons a l ih => exact hc.trans (hf w a) (ih _)

theorem access (hc : Calls ok may k R) (w : World) (key : Key) {β : Type}
    {body : ObjectId → World → β × World} (hbody : ∀ o w, R (some o) w (body o w).2) :
    R none w (withWindow k key body w).2 := by
  unfold withWindow Registry.access
  split
  · exact hc.refl w
  · next o ho =>
    split
    · exact hc.aside (.unseen w _ rfl rfl id id)
    · next hfree =>
      exact hc.hold (Registry.isRegistered_of_find? ho) (Bool.eq_false_iff.mpr hfree) (hbody o _)
        (hc.refl _)

theorem endFrame_any (hc : Calls ok may k R) (w : World) (o : ObjectId) (render : Bool) :
    R (some o) w (World.endFrame k o render w) := by
  by_cases hopen : (window w o).inFrame = true
  · exact hc.endFrame w o render hopen
  · rw [World.endFrame, if_neg hopen]
    exact hc.note w _

theorem enterFrame (hc : Calls ok may k R) (w : World) (o : ObjectId) :
    R (some o) w (enterFrame k o w).2 := by
  unfold World.enterFrame
  dsimp only
  refine hc.trans (hc.touch w o (fun win => { win with keepAlive := true }) fun _ ↦ rfl) ?_
  split
  · exact hc.refl _
  · next hidle => exact hc.beginFrame _ o (Bool.eq_false_iff.mpr hidle)

theorem updateCursor (hc : Calls ok may k R) (w : World) (o : ObjectId) :
    R current w (updateCursor o w) := by
  unfold World.updateCursor
  exact hc.trans (hc.beside (.call w _ _ rfl rfl)) (hc.beside (.modifyHost _ _ _ fun _ ↦ ⟨rfl, rfl⟩))

theorem receive (hc : Calls ok may k R) (w : World) (o : ObjectId) (message : Message) :
    R (some o) w (receive o message w).2 := by
  unfold World.receive
  split
  · exact hc.touch w o (fun win => { win with closeRequested := true }) fun _ ↦ rfl
  · exact hc.refl w
  · exact hc.updateCursor w o
  · exact hc.updateCursor w o
  · exact hc.refl w
  · exact hc.touch w o _ fun _ ↦ rfl
  · exact hc.mouseDown w o _
  · exact hc.mouseUp w o _
  · exact hc.touch w o _ fun _ ↦ rfl
  · exact hc.touch w o _ (Window.core_charInput _)
  · exact hc.refl w

theorem deliver (hc : Calls ok may k R) (w : World) (o : ObjectId) (message : Message) :
    R (some o) w (deliver k o message w).2 := by
  unfold World.deliver
  dsimp only
  refine hc.trans (hc.reentry o (window w o).host .handleMessage w) ?_
  split
  · exact hc.refl _
  · exact hc.receive _ o message

theorem dispatch (hc : Calls ok may k R) (w : World) (native : NativeHandle) (message : Message) :
    R none w (dispatch k native message w).2 := by
  unfold World.dispatch
  split
  · exact hc.refl w
  · next key _ =>
    have haccess := hc.trans (hc.note w (.dispatching message native))
      (hc.access _ key fun o w ↦ hc.deliver w o message)
    dsimp only
    generalize withWindow k key _ _ = result at haccess ⊢
    obtain ⟨delivery, w'⟩ := result
    rcases delivery with _ | result | _
    · dsimp only at haccess ⊢
      split
      · exact hc.trans haccess (hc.trans (hc.note w' _) (hc.destroy _ native))
      · exact hc.trans haccess (hc.note w' _)
    · exact haccess
    · exact hc.trans haccess (hc.destroy w' native)

theorem destroyNative (hc : Calls ok may k R) (w : World) (h : Nat) (native : NativeHandle) :
    R none w (destroyNative k h native w) := by
  unfold World.destroyNative
  split
  · next hwindow => exact hc.removeView w h native hwindow (hc.dispatch w native .destroy)
  · exact hc.refl w

theorem requestDestroy (hc : Calls ok may k R) (w : World) (h : Nat) (native : NativeHandle) :
    R none w (requestDestroy k h native w) := by
  unfold World.requestDestroy
  dsimp only
  refine hc.trans (hc.aside (.call w h (.destroyWindow native) rfl rfl)) ?_
  split
  · exact hc.aside (.modifyBundle _ h _ (fun _ ↦ rfl) (fun _ ↦ rfl) fun _ _ ↦ .inl)
  · exact hc.destroyNative _ h native

theorem closeWindow (hc : Calls ok may k R) (w : World) (key : Key) :
    R none w (closeWindow k key w).2 := by
  have haccess : R none w
      (withWindow k key (fun o w => (((window w o).host, (window w o).native), w)) w).2 :=
    hc.access w key fun o w ↦ hc.refl w
  unfold World.closeWindow
  generalize withWindow k key _ w = result at haccess ⊢
  obtain ⟨place, w'⟩ := result
  cases place with
  | none => exact haccess
  | some place => exact hc.trans haccess (hc.requestDestroy w' _ _)

theorem beat (hc : Calls ok may k R) (o : ObjectId) (w : World) : R (some o) w (beat k o w).2 := by
  unfold World.beat
  dsimp only
  have hend (retires : Bool) (native : NativeHandle) (w : World) : R (some o) w
      (let w := w.update o fun win => { win with keepAlive := false }
      if retires then World.note (.retiring native) w else w) := by
    refine hc.trans (hc.touch w o (fun win => { win with keepAlive := false }) fun _ ↦ rfl) ?_
    dsimp only
    split
    · exact hc.note _ _
    · exact hc.refl _
  split
  · exact hc.trans (hc.touch w o (fun win => { win with closeRequested := false }) fun _ ↦ rfl)
      (hend true _ _)
  · split
    · exact hc.trans (hc.endFrame_any w o true) (hend false _ _)
    · exact hend _ _ w

theorem turn (hc : Calls ok may k R) (kind : Option Unit) (w : World) (key : Key) :
    R none w (Registry.turn (conduct k) kind w key) := by
  unfold Registry.turn
  split
  · exact hc.refl w
  · next o ho =>
    split
    · exact hc.aside (.unseen w _ rfl rfl id id)
    · next hfree =>
      refine hc.hold (Registry.isRegistered_of_find? ho) (Bool.eq_false_iff.mpr hfree) (hc.beat o _) ?_
      split
      · exact hc.requestDestroy _ _ _
      · exact hc.refl _

theorem heartbeat (hc : Calls ok may k R) (w : World) : R none w (heartbeat k w) :=
  hc.foldl (hc.turn none) _ w

theorem routeKey (hc : Calls ok may k R) (w : World) (registered : NativeHandle)
    (message : KeyMessage) : R none w (routeKey k registered message w).2 := by
  unfold World.routeKey
  split
  · exact hc.refl w
  · refine hc.access w _ fun o w ↦ ?_
    dsimp only
    split
    · exact hc.refl w
    · exact hc.trans (hc.beside (.call w _ _ rfl rfl)) (hc.reentry o _ _ _)

theorem offerAccel (hc : Calls ok may k R) (message : KeyMessage) (listening : List NativeHandle)
    (w : World) : R none w (offerAccel k message listening w).2 := by
  induction listening generalizing w with
  | nil => exact hc.refl w
  | cons registered rest ih =>
    have hroute := hc.routeKey w registered message
    unfold World.offerAccel
    split
    · next w' heq =>
      have hw' : R none w w' := by simpa only [heq] using hroute
      exact hc.trans hw' (ih w')
    · exact hroute

theorem runHostStep (hc : Calls ok may k R) (w : World) (h : Nat) (step : HostStep)
    (hstep : may step) : R none w (runHostStep k h step w).2 := by
  have hhost (f : Host → Host) (hf : ∀ s, (f s).core = s.core ∧ (f s).display = s.display) :
      R none w (World.modifyHost h f w) := hc.aside (.modifyHost w h f hf)
  have hview (native : NativeHandle) (f : View → View)
      (hf : ∀ v, (f v).handle = v.handle ∧ (f v).parent = v.parent) (hedits : step.editsViews = true) :
      R none w (World.modifyHost h (·.modifyView native f) w) :=
    hc.aside (.editView w h native f hf (.inr ⟨step, hstep, hedits⟩))
  have hbundle (f : Bundle → Bundle) (hcore : ∀ b, (f b).core = b.core)
      (hdisplay : ∀ b, (f b).host.display = b.host.display)
      (hhooks : ∀ b, (f b).hooks = b.hooks) : R none w (World.modifyBundle h f w) :=
    hc.aside (.modifyBundle w h f hcore hdisplay fun b _ hhook ↦ .inl (hhooks b ▸ hhook))
  unfold World.runHostStep
  cases step with
  | runTimers => exact hc.foldl (fun w _ ↦ hc.heartbeat w) _ w
  | send window message => exact hc.dispatch w _ message
  | sendAccel window code down => exact hc.offerAccel _ _ w
  | addChild parent rect => exact hc.aside (.addView w h _ (fun _ ↦ rfl) ⟨_, hstep, rfl⟩)
  | createNative title rect =>
    dsimp only
    split
    · exact hc.refl w
    · exact hc.aside (.addView w h _ (fun _ ↦ rfl) ⟨_, hstep, rfl⟩)
  | destroyNative window => exact hc.destroyNative w h _
  | refuseWindows on => exact hhost ({ · with refusesWindows := on }) fun _ ↦ ⟨rfl, rfl⟩
  | movePointer pos => exact hhost ({ · with pointer := pos }) fun _ ↦ ⟨rfl, rfl⟩
  | setKey code down => exact hhost (·.setKey code down) fun _ ↦ ⟨rfl, rfl⟩
  | setTheme color value =>
    exact hhost (·.setThemeColor value color) fun s ↦ by cases color <;> exact ⟨rfl, rfl⟩
  | setCapture target =>
    cases target with
    | handle native => exact hc.aside (.setCapture w h native hstep)
    | slot n => exact hc.aside (.setCapture w h _ (hc.resolves n _ hstep))
  | releaseCapture => exact hc.aside (.releaseCapture w h hstep)
  | setTitle window title => exact hview _ _ (fun _ ↦ ⟨rfl, rfl⟩) rfl
  | setRect window rect => exact hview _ _ (fun _ ↦ ⟨rfl, rfl⟩) rfl
  | setVisible window on => exact hview _ _ (fun _ ↦ ⟨rfl, rfl⟩) rfl
  | report text => exact hc.aside (.report w h text hstep)
  | setGuiCursor cursor => exact hc.aside (.modifyGui w h ({ · with cursor }) fun _ ↦ ⟨rfl, rfl, rfl⟩)
  | injectError text => exact hc.aside (.inject w h text)
  | captureKeyboard on =>
    exact hc.aside (.modifyGui w h ({ · with capturesKeyboard := on }) fun _ ↦ ⟨rfl, rfl, rfl⟩)
  | failCreation on =>
    exact hbundle ({ · with failsCreation := on }) (fun _ ↦ rfl) (fun _ ↦ rfl) fun _ ↦ rfl
  | consume kinds =>
    exact hbundle ({ · with consumed := kinds }) (fun _ ↦ rfl) (fun _ ↦ rfl) fun _ ↦ rfl
  | deferDestroy on =>
    exact hbundle ({ · with defers := on }) (fun _ ↦ rfl) (fun _ ↦ rfl) fun _ ↦ rfl
  | flushDestroy =>
    exact hc.trans (hbundle ({ · with deferred := [] }) (fun _ ↦ rfl) (fun _ ↦ rfl) fun _ ↦ rfl)
      (hc.foldl (fun w native ↦ hc.destroyNative w h native) _ _)
  | themeColor | viewInfo | viewAt | toClient | isChild | errors | guiState | lastFrame =>
    exact hc.refl w

theorem runWindowStep (hc : Calls ok may k R) (w : World) (o : ObjectId) (step : WindowStep)
    (hstep : ok step) : R (some o) w (runWindowStep k o step w).2 := by
  have hview (f : View → View) (hf : ∀ v, (f v).handle = v.handle ∧ (f v).parent = v.parent)
      (hedits : step.editsViews = true) :
      R (some o) w (World.modifyHost (window w o).host (·.modifyView (window w o).native f) w) :=
    hc.beside (.editView w _ _ f hf (.inl ⟨step, hstep, hedits⟩))
  unfold World.runWindowStep
  cases step with
  | enterFrame => exact hc.enterFrame w o
  | endFrame render => exact hc.endFrame_any w o render
  | frame render =>
    have henter := hc.enterFrame w o
    dsimp only
    generalize World.enterFrame k o w = result at henter ⊢
    obtain ⟨fault, w'⟩ := result
    cases fault with
    | some cause => exact henter
    | none => exact hc.trans henter (hc.endFrame_any w' o render)
  | requestClose => exact hc.touch w o (fun win => { win with closeRequested := true }) fun _ ↦ rfl
  | setClearColor color =>
    exact hc.touch w o (fun win => { win with clearColor := color }) fun _ ↦ rfl
  | setTitle title => exact hview _ (fun _ ↦ ⟨rfl, rfl⟩) rfl
  | setRect rect => exact hview _ (fun _ ↦ ⟨rfl, rfl⟩) rfl
  | setVisible on => exact hview _ (fun _ ↦ ⟨rfl, rfl⟩) rfl
  | mouseDown button => exact hc.mouseDown w o button
  | mouseUp button => exact hc.mouseUp w o button
  | mouseWheel axis delta => exact hc.touch w o (·.turnWheel axis delta) fun _ ↦ rfl
  | keyInput code down => exact hc.touch w o (·.keyInput code down) fun _ ↦ rfl
  | charInput codepoint => exact hc.touch w o _ (Window.core_charInput codepoint)
  | updateCursor => exact hc.updateCursor w o
  | keepAtlas => exact hc.keepAtlas w o
  | contextNewFrame => exact hc.newFrame w o hstep
  | contextRender => exact hc.renderFrame w o hstep
  | contextEndFrame => exact hc.discardFrame w o hstep
  | contextStyle style =>
    exact hc.trans (hc.beside (.call w (window w o).host (.setStyle style) rfl rfl))
      (hc.touch _ o (fun win => { win with context := { win.context with style } }) fun _ ↦ rfl)
  | resizeKeys count => exact hc.touch w o (·.modifyIo (·.resizeKeys count)) fun _ ↦ rfl
  | wantKeyboard on => exact hc.touch w o (·.modifyIo ({ · with wantsKeyboard := on })) fun _ ↦ rfl
  | setWheel wheel => exact hc.touch w o (·.modifyIo ({ · with wheel })) fun _ ↦ rfl
  | io => exact hc.refl w
  | keyMap => exact hc.refl w
  | isKeyDown code => exact hc.refl w
  | native => exact hc.refl w
  | clearColor => exact hc.refl w
  | title => exact hc.refl w
  | rect => exact hc.refl w
  | atlas => exact hc.refl w
  | sameAtlas => exact hc.refl w
  | unknown => exact hc.refl w

end Calls

theorem hasHost_iff {w : World} {h : Nat} : hasHost w h = true ↔ h < w.env.bundles.length :=
  decide_eq_true_iff

theorem eq_zero_of_hasHost {w : World} {h : Nat} (hone : w.env.bundles.length = 1)
    (hh : hasHost w h = true) : h = 0 :=
  Nat.lt_one_iff.mp (hone ▸ hasHost_iff.mp hh)

mutual

/-- Every step is made of moves. -/
theorem Walk.runStep (hr : Walk ok may R) (hk : ∀ h p w, R none w (k h p w))
    (current : Option ObjectId) (s : Step) (huses : s.Uses ok) (hasks : s.Asks may) (w : World) :
    R current w (runStep k current s w).2 := by
  have hc := hr.calls hk
  cases s with
  | openWindow h config title x y width height =>
    unfold World.runStep
    split
    · next hh =>
      have hopen := hr.openWindow hk w h (hasHost_iff.mp hh) config title x y width
        height fun native w ↦ hc.requestDestroy w h native
      generalize World.openWindow k h config title x y width height w = result at hopen ⊢
      obtain ⟨opening, w'⟩ := result
      cases opening with
      | opened native key => exact hc.of_none (hc.trans hopen (hc.aside (.addSlot w' _)))
      | failed cause => exact hc.of_none hopen
      | fault cause => exact hc.of_none hopen
    · exact hc.refl w
  | adopt h raw =>
    unfold World.runStep
    split
    · exact hc.of_none (hc.trans (hc.access w _ fun o w ↦ hc.refl w) (hc.aside (.addSlot _ _)))
    · exact hc.refl w
  | close n =>
    unfold World.runStep
    split
    · exact hc.refl w
    · exact hc.of_none (hc.closeWindow w _)
  | unregister n =>
    unfold World.runStep
    split
    · exact hc.refl w
    · exact hc.of_none (hc.unregister w _)
  | contains n =>
    unfold World.runStep
    split <;> exact hc.refl w
  | count => exact hc.refl w
  | all => exact hc.refl w
  | find window => exact hc.refl w
  | heartbeat | tick => exact hc.of_none (hc.heartbeat w)
  | dispatch window message => exact hc.of_none (hc.dispatch w _ message)
  | accel registered target code down => exact hc.of_none (hc.routeKey w _ _)
  | holdAtlas => exact hc.of_none (hr.holding (.holdAtlas w))
  | dropAtlas =>
    unfold World.runStep
    split
    · exact hc.refl w
    · next hkept => exact hc.of_none (hr.holding (.dropAtlas w hkept))
  | currentAtlas => exact hc.refl w
  | editAtlas edit =>
    unfold World.runStep
    split
    · exact hc.refl w
    · next a ha => exact hc.of_none (hr.holding (.editAtlas w a edit ha))
  | holdWatchdog h =>
    unfold World.runStep
    split
    · next hh => exact hc.of_none (hr.holding (.holdWatchdog w h (hasHost_iff.mp hh)))
    · exact hc.refl w
  | dropWatchdog =>
    unfold World.runStep
    split
    · exact hc.refl w
    · next hkept => exact hc.of_none (hr.holding (.dropWatchdog w hkept))
  | host h step =>
    unfold World.runStep
    split
    · exact hc.of_none (hc.runHostStep w h step hasks)
    · exact hc.refl w
  | window place step =>
    cases place with
    | current =>
      unfold World.runStep
      cases current with
      | none => exact hc.refl w
      | some o => exact hc.runWindowStep w o step huses
    | slot n =>
      unfold World.runStep
      split
      · exact hc.refl w
      · exact hc.of_none (hc.access w _ fun o w ↦ hc.runWindowStep w o step huses)
  | within n steps =>
    unfold World.runStep
    split
    · exact hc.refl w
    · exact hc.of_none (hc.access w _ fun o w ↦ hr.runSteps hk (some o) steps huses hasks w)
  | hook h point steps =>
    unfold World.runStep
    split
    · refine hc.beside (.modifyBundle w h (fun b => { b with hooks := b.hooks ++ [(point, steps)] })
        (fun _ ↦ rfl) (fun _ ↦ rfl) fun b hook hhook ↦ ?_)
      rcases List.mem_append.mp hhook with hhook | hhook
      · exact .inl hhook
      · rw [List.mem_singleton.mp hhook]
        exact .inr ⟨huses, hasks⟩
    · exact hc.refl w

theorem Walk.runSteps (hr : Walk ok may R) (hk : ∀ h p w, R none w (k h p w))
    (current : Option ObjectId) (steps : List Step) (huses : Step.UsesAll ok steps)
    (hasks : Step.AsksAll may steps) (w : World) : R current w (runSteps k current steps w).2 := by
  cases steps with
  | nil => exact (hr.calls hk).refl w
  | cons s rest =>
    exact (hr.calls hk).trans (hr.runStep hk current s huses.1 hasks.1 w)
      (hr.runSteps hk current rest huses.2 hasks.2 _)

end

theorem mem_of_takeHook {point : HookPoint} {hooks rest : List (HookPoint × List Step)}
    {steps : List Step} (h : takeHook point hooks = some (steps, rest)) :
    (point, steps) ∈ hooks ∧ ∀ hook ∈ rest, hook ∈ hooks := by
  induction hooks generalizing rest with
  | nil => cases h
  | cons hook hooks ih =>
    obtain ⟨p, steps'⟩ := hook
    rw [takeHook] at h
    split at h
    · next hp =>
      cases h
      exact ⟨hp ▸ .head _, fun _ ↦ .tail _⟩
    · obtain ⟨⟨found, others⟩, hfound, heq⟩ := Option.map_eq_some_iff.mp h
      cases heq
      obtain ⟨hmem, hrest⟩ := ih hfound
      refine ⟨.tail _ hmem, fun hook hhook ↦ ?_⟩
      rcases List.mem_cons.mp hhook with rfl | hhook
      · exact .head _
      · exact .tail _ (hrest hook hhook)

theorem hooks_bundle {P : List Step → Prop} {w : World}
    (hw : ∀ b ∈ w.env.bundles, ∀ hook ∈ b.hooks, P hook.2) (h : Nat) :
    ∀ hook ∈ (bundle w h).hooks, P hook.2 := by
  intro hook hhook
  by_cases hh : h < w.env.bundles.length
  · exact hw _ (List.getElem_mem hh) hook (by simpa [bundle, hh] using hhook)
  · simp [bundle, hh] at hhook

theorem hooksUse_bundle {w : World} (hw : w.env.HooksUse ok) (h : Nat) :
    ∀ hook ∈ (bundle w h).hooks, Step.UsesAll ok hook.2 := hooks_bundle hw h

theorem Walk.scripted (hr : Walk ok may R)
    (hassuming : ∀ n h point w, (w.env.HooksUse ok → w.env.HooksAsk may →
      R none w (scripted n h point w)) → R none w (scripted n h point w))
    (n : Nat) (h : Nat) (point : HookPoint) (w : World) : R none w (scripted n h point w) := by
  induction n generalizing h point w with
  | zero => exact hr.refl w
  | succ n ih =>
    have hc := hr.calls fun h p w ↦ ih h p w
    refine hassuming (n + 1) h point w fun hhooks hasks ↦ ?_
    unfold World.scripted
    split
    · exact hc.refl w
    · next steps rest htake =>
      obtain ⟨hmem, hrest⟩ := mem_of_takeHook htake
      have huse := hooksUse_bundle hhooks h
      have hask := hooks_bundle hasks h
      refine hc.trans (hc.aside (.modifyBundle w h (fun b => { b with hooks := rest }) (fun _ ↦ rfl)
        (fun _ ↦ rfl) fun b hook hhook ↦ .inr ⟨huse hook (hrest hook hhook), hask hook (hrest hook hhook)⟩)) ?_
      exact hc.trans (hr.runSteps (fun h p w ↦ ih h p w) none steps (huse _ hmem) (hask _ hmem) _)
        (hc.aside (.traced _ _ rfl rfl))

section Evolution

theorem Evolves.note (w : World) (r : LogRecord) : Evolves ok current w (note r w) :=
  .unseen w _ rfl id

theorem Evolves.call (w : World) (h : Nat) (c : Call) (hc : c.isFrameCall = false) :
    Evolves ok current w (call h c w) :=
  .unseen w (fun d => { d with trace := d.trace ++ [.call h c] })
    (by simp [Desk.core, TraceEvent.isFrameCall, hc]) id

theorem Evolves.modifyBundle (w : World) (h : Nat) (f : Bundle → Bundle)
    (hcore : ∀ b, (f b).core = b.core)
    (hhooks : ∀ b, ∀ hook ∈ (f b).hooks, hook ∈ b.hooks ∨ Step.UsesAll ok hook.2) :
    Evolves ok current w (modifyBundle h f w) := by
  refine .unseen w _ ?_ fun hw ↦ hw.modify hhooks
  simp only [Desk.core, map_modify_of_eq hcore]

theorem Aside.evolves {w w' : World} (h : Aside ok may w w') : Evolves ok none w w' := by
  cases h with
  | unseen f hcore hdealings huse hask => exact .unseen w f hcore huse
  | addView h view hview => exact .edit (.addView w h view hview)
  | editView h native f hf =>
    exact .modifyBundle w h _ (fun b ↦ by simp [Bundle.core, Host.core_modifyView _ native f hf])
      fun _ _ ↦ .inl
  | setCapture h native => exact .setCapture w h native
  | releaseCapture h => exact .releaseCapture w h
  | report h text => exact .report w h text
  | inject h text => exact .inject w h text

variable (hk : ∀ h p w, Evolves ok none w (k h p w))

include hk

theorem Evolves.calls : Calls ok (fun _ ↦ True) k (Evolves ok) where
  resolves _ _ := id
  reentry o h p w := .nested o (hk h p w)
  trans := .trans
  nested := .nested
  aside h := h.evolves
  touch := .touch
  keepAtlas := .keepAtlas
  mouseDown := .mouseDown
  mouseUp := .mouseUp
  beginFrame := .beginFrame hk
  endFrame := .endFrame hk
  newFrame := .newFrame hk
  renderFrame := .renderFrame
  discardFrame := .discardFrame
  hold := .hold hk
  unregister := .unregister hk
  destroy := .destroy hk
  removeView _ h native _ hdispatch := .trans hdispatch (.edit (.removeView _ h native))

omit hk in
theorem Evolves.walk : Walk ok (fun _ ↦ True) (Evolves ok) where
  refl := .refl none
  calls := Evolves.calls
  holding h := .edit h.edit
  openWindow := .openWindow

theorem Evolves.access (w : World) (key : Key) {β : Type} {body : ObjectId → World → β × World}
    (hbody : ∀ o w, Evolves ok (some o) w (body o w).2) :
    Evolves ok none w (withWindow k key body w).2 := (Evolves.calls hk).access w key hbody

theorem Evolves.deliver (w : World) (o : ObjectId) (message : Message) :
    Evolves ok (some o) w (deliver k o message w).2 := (Evolves.calls hk).deliver w o message

theorem Evolves.destroyNative (w : World) (h : Nat) (native : NativeHandle) :
    Evolves ok none w (destroyNative k h native w) := (Evolves.calls hk).destroyNative w h native

theorem Evolves.requestDestroy (w : World) (h : Nat) (native : NativeHandle) :
    Evolves ok none w (requestDestroy k h native w) := (Evolves.calls hk).requestDestroy w h native

theorem Evolves.beat (o : ObjectId) (w : World) : Evolves ok (some o) w (beat k o w).2 :=
  (Evolves.calls hk).beat o w

theorem Evolves.routeKey (w : World) (registered : NativeHandle) (message : KeyMessage) :
    Evolves ok none w (routeKey k registered message w).2 :=
  (Evolves.calls hk).routeKey w registered message

theorem Evolves.runWindowStep (w : World) (o : ObjectId) (step : WindowStep) (hstep : ok step) :
    Evolves ok (some o) w (runWindowStep k o step w).2 :=
  (Evolves.calls hk).runWindowStep w o step hstep

theorem Evolves.runStep (current : Option ObjectId) (s : Step) (hs : s.Uses ok) (w : World) :
    Evolves ok current w (runStep k current s w).2 :=
  Evolves.walk.runStep hk current s hs (Step.asks_of_forall (fun _ ↦ trivial) s) w

theorem Evolves.runSteps (current : Option ObjectId) (steps : List Step) (hs : Step.UsesAll ok steps)
    (w : World) : Evolves ok current w (runSteps k current steps w).2 :=
  Evolves.walk.runSteps hk current steps hs (Step.asksAll_of_forall (fun _ ↦ trivial) steps) w

omit hk in
/-- What collaborators do is made of moves, however deep they run within one another. -/
theorem Evolves.scripted (n : Nat) (h : Nat) (point : HookPoint) (w : World) :
    Evolves ok none w (scripted n h point w) := by
  refine Evolves.walk.scripted (fun n h point w hscripted ↦ .assuming fun hhooks ↦ ?_) n h point w
  exact hscripted hhooks fun b _ hook _ ↦ Step.asksAll_of_forall (fun _ ↦ trivial) hook.2

end Evolution

theorem runSteps_append (k : Reentry) (current : Option ObjectId) (steps rest : List Step) (w : World) :
    (World.runSteps k current (steps ++ rest) w).2 =
      (World.runSteps k current rest (World.runSteps k current steps w).2).2 := by
  induction steps generalizing w with
  | nil => rfl
  | cons s steps ih => exact ih _

theorem runSteps_snoc (k : Reentry) (current : Option ObjectId) (steps : List Step) (s : Step)
    (w : World) :
    (World.runSteps k current (steps ++ [s]) w).2 =
      (World.runStep k current s (World.runSteps k current steps w).2).2 :=
  runSteps_append k current steps [s] w

end Calls

end World

theorem Session.runFrom_snd (n : Nat) (previous : Option WorldView) (w : World) (steps : List Step) :
    (Session.runFrom n previous w steps).2 = (World.runSteps (World.scripted n) none steps w).2 := by
  induction steps generalizing previous w with
  | nil => rfl
  | cons s rest ih => exact ih _ _

end Casement
