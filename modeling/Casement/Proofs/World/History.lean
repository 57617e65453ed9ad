import Casement.Proofs.World.Arrivals
import Casement.Proofs.World.Watchdog

namespace Casement

def WindowStep.writesIo : WindowStep → Bool
  | .resizeKeys _ | .wantKeyboard _ | .setWheel _ => true
  | _ => false

def Step.isInner : Step → Bool
  | .window .current step => !step.writesIo
  | _ => false

/-- A step that is not nested: calls on a window do nothing but work on it, and nothing is left
with collaborators. Nor does it write to the input of a GUI. -/
def Step.isPlain : Step → Bool
  | .window _ step => !step.writesIo
  | .within _ steps => steps.all Step.isInner
  | .hook .. => false
  | _ => true

/-- The event that a step is to a window; a `frame` is two. -/
def WindowStep.event? (win : Window) : WindowStep → Option WindowEvent
  | .enterFrame => some win.entry
  | .endFrame render => some (.finish render)
  | .requestClose => some .ask
  | .mouseDown button => some (.message (.buttonDown button))
  | .mouseUp button => some (.message (.buttonUp button))
  | .mouseWheel axis delta => some (.message (.mouseWheel axis delta))
  | .keyInput code down => some (.message (.key code down))
  | .charInput codepoint => some (.message (.char codepoint))
  | .setClearColor _ | .contextNewFrame | .contextRender | .contextEndFrame | .contextStyle _ =>
    some .redraw
  | _ => none

namespace World

def recordStep (o : ObjectId) (w : World) : WindowStep → List (WindowEvent × Window)
  | .frame render =>
    let (fault, w₁) := enterFrame (scripted 0) o w
    ((window w o).entry, window w₁ o) ::
      if fault.isSome then []
      else [(.finish render, window (endFrame (scripted 0) o render w₁) o)]
  | step =>
    (step.event? (window w o)).toList.map fun e =>
      (e, window (runWindowStep (scripted 0) o step w).2 o)

def recordSteps (o : ObjectId) (w : World) : List Step → List (WindowEvent × Window)
  | [] => []
  | s :: rest =>
    (match s with
      | .window .current step => recordStep o w step
      | _ => []) ++ recordSteps o (runStep (scripted 0) (some o) s w).2 rest

/-- The message is for the window of a key, and its renderer leaves it to the window. -/
def hears (w : World) (key : Key) (o : ObjectId) (native : NativeHandle) (m : Message) : Bool :=
  find? w native = some key && !consumes w o m

def marks (key : Key) (o : ObjectId) (w w' : World) : Step → List (WindowEvent × Window)
  | .openWindow h config .. =>
    if isOpen w key then [] else [(.opened config (host w h).platform, window w' o)]
  | .dispatch target m =>
    if hears w key o (resolve w target) m then [(.message m, window w' o)] else []
  | .host h (.send target m) =>
    if hasHost w h && hears w key o (resolve w target) m then [(.message m, window w' o)] else []
  | .heartbeat | .tick => [(.tick, window w' o)]
  | .host h .runTimers => if (host w h).timers.isEmpty then [] else [(.tick, window w' o)]
  | .window (.slot n) step =>
    if (slot? w n).any (·.key = key) then recordStep o (w.borrow o) step else []
  | .within n steps =>
    if (slot? w n).any (·.key = key) then recordSteps o (w.borrow o) steps else []
  | _ => []

def record (key : Key) (w : World) (s : Step) : List (WindowEvent × Window) :=
  let w' := (runStep (scripted 0) none s w).2
  match Registry.find? w' (some ()) key with
  | none => []
  | some o => marks key o w w' s

/-- All that the window of a key goes through in a script: events, each with the window after it. -/
def chronicle (key : Key) (w : World) : List Step → List (WindowEvent × Window)
  | [] => []
  | s :: rest => record key w s ++ chronicle key (runStep (scripted 0) none s w).2 rest

section Steps

variable {o : ObjectId} {w₀ w w' : World} {win : Window} {n : Nat} {spared : Bool}

theorem Solo.lives_one {e : WindowEvent} {c : List (WindowEvent × Window)} {win' : Window}
    (h : Solo o w₀ w' win' n) (hc : c = [(e, window w' o)]) (hr : win.Reacts spared e win') :
    ∃ win' n', win.Lives spared c win' ∧ Solo o w₀ w' win' n' :=
  ⟨win', n, by rw [hc, h.value]; exact .one hr, h⟩

theorem Solo.lives_nil (h : Solo o w₀ w' win n) :
    ∃ win' n', win.Lives spared [] win' ∧ Solo o w₀ w' win' n' := ⟨win, n, .nil win, h⟩

theorem Solo.modifyView (h : Solo o w₀ w win n) (i : Nat) (native : NativeHandle) (f : View → View)
    (hf : ∀ v, (f v).handle = v.handle ∧ (f v).parent = v.parent) :
    Solo o w₀ (World.modifyHost i (·.modifyView native f) w) win n :=
  h.modifyHost i _ fun s ↦ s.seats_modifyView native f hf

theorem Solo.runWindowStep (h : Solo o w₀ w win n) (spared : Bool) {step : WindowStep}
    (hstep : step.writesIo = false) :
    ∃ win' n', win.Lives spared (recordStep o w step) win' ∧
      Solo o w₀ (runWindowStep (scripted 0) o step w).2 win' n' := by
  have hvalue := h.value
  subst hvalue
  cases step with
  | enterFrame =>
    obtain ⟨win', hr, hsolo⟩ := h.enterFrame spared
    exact hsolo.lives_one rfl hr
  | endFrame render => exact (h.endFrame render).lives_one rfl (.finish render)
  | frame render =>
    obtain ⟨win', hr, hsolo⟩ := h.enterFrame spared
    simp only [recordStep, World.runWindowStep]
    generalize World.enterFrame (scripted 0) o w = result at hsolo ⊢
    obtain ⟨fault, w₁⟩ := result
    dsimp only at hsolo
    rw [hsolo.value]
    cases fault with
    | some cause => exact ⟨win', _, .one hr, hsolo⟩
    | none =>
      have hended := hsolo.endFrame render
      simp only [Option.isSome_none, Bool.false_eq_true, if_false]
      rw [hended.value]
      exact ⟨_, _, .cons hr (.one (.finish render)), hended⟩
  | requestClose =>
    exact (h.update (fun win => { win with closeRequested := true }) ⟨rfl, rfl⟩).lives_one rfl .ask
  | setClearColor color =>
    exact (h.update (fun win => { win with clearColor := color }) ⟨rfl, rfl⟩).lives_one rfl
      (.redraw color _ (.inl rfl))
  | setTitle title => exact (h.modifyView _ _ ({ · with title }) fun _ ↦ ⟨rfl, rfl⟩).lives_nil
  | setRect rect => exact (h.modifyView _ _ ({ · with rect }) fun _ ↦ ⟨rfl, rfl⟩).lives_nil
  | setVisible on =>
    exact (h.modifyView _ _ ({ · with visible := on }) fun _ ↦ ⟨rfl, rfl⟩).lives_nil
  | mouseDown button => exact (h.mouseDown button).lives_one rfl (.message (.buttonDown button))
  | mouseUp button => exact (h.mouseUp button).lives_one rfl (.message (.buttonUp button))
  | mouseWheel axis delta =>
    exact (h.update (·.turnWheel axis delta) ⟨rfl, rfl⟩).lives_one rfl
      (.message (.mouseWheel axis delta))
  | keyInput code down =>
    exact (h.update (·.keyInput code down) ⟨rfl, rfl⟩).lives_one rfl (.message (.key code down))
  | charInput codepoint => exact (h.charInput codepoint).lives_one rfl (.message (.char codepoint))
  | updateCursor => exact h.updateCursor.lives_nil
  | keepAtlas =>
    have hkept : Solo o w₀ (keepAtlas (w.modifyEnv fun d => { d with atlas := d.atlas.retain }))
        (window w o) n := h.of_same ⟨rfl, rfl, rfl⟩ rfl rfl (fun _ ↦ rfl) fun _ ↦ rfl
    exact hkept.lives_nil
  | contextNewFrame =>
    obtain ⟨captures, hsolo⟩ := h.newFrame
    refine hsolo.lives_one rfl ?_
    split
    · exact .redraw _ _ (.inl rfl)
    · exact .redraw _ _ (.inl rfl)
  | contextRender => exact h.renderFrame.lives_one rfl (.redraw _ _ (.inr rfl))
  | contextEndFrame => exact h.discardFrame.lives_one rfl (.redraw _ _ (.inr rfl))
  | contextStyle style =>
    exact ((h.call _ _).update (fun win => { win with context := { win.context with style } })
      ⟨rfl, rfl⟩).lives_one
      rfl (.redraw _ _ (.inl rfl))
  | resizeKeys | wantKeyboard | setWheel => cases hstep
  | io | keyMap | isKeyDown | native | clearColor | title | rect | atlas | sameAtlas | unknown =>
    exact h.lives_nil

theorem Solo.runSteps (h : Solo o w₀ w win n) (spared : Bool) {steps : List Step}
    (hsteps : steps.all Step.isInner = true) :
    ∃ win' n', win.Lives spared (recordSteps o w steps) win' ∧
      Solo o w₀ (runSteps (scripted 0) (some o) steps w).2 win' n' := by
  induction steps generalizing w win n with
  | nil => exact ⟨win, n, .nil win, h⟩
  | cons s rest ih =>
    rw [List.all_cons, Bool.and_eq_true] at hsteps
    obtain ⟨hs, hrest⟩ := hsteps
    cases s with
    | window place step =>
      cases place with
      | current =>
        have hstep : step.writesIo = false := by simpa [Step.isInner] using hs
        obtain ⟨win₁, n₁, hlives, hsolo⟩ := h.runWindowStep spared hstep
        obtain ⟨win₂, n₂, hlives', hsolo'⟩ := ih hsolo hrest
        exact ⟨win₂, n₂, hlives.append hlives', hsolo'⟩
      | slot => cases hs
    | _ => cases hs

end Steps

inductive Carries (spared : Bool) (key : Key) (o : ObjectId) (w w' : World)
    (c : List (WindowEvent × Window)) : Prop
  | lives (hkey : Registry.find? w (some ()) key = some o)
      (hlives : (window w o).Lives spared c (window w' o))
  | opened (config : ContextConfig) (platform : Platform)
      (hkey : Registry.find? w (some ()) key = none)
      (hc : c = [(.opened config platform, window w' o)]) (hnew : (window w' o).IsNew)
      (hnotch : (window w' o).notch = config.wheelDelta.getD platform.wheelNotch)

section Carries

variable {spared : Bool} {key k : Key} {o o₁ : ObjectId} {w w' : World} {win : Window} {n : Nat}
  {c : List (WindowEvent × Window)}

theorem Spares.carries (h : Spares w w') (hkey : Registry.find? w' (some ()) key = some o) :
    Carries spared key o w w' [] := by
  obtain ⟨hkey₀, hwindow⟩ := h key o hkey
  refine .lives hkey₀ ?_
  rw [hwindow]
  exact .nil _

theorem Carries.one {e : WindowEvent} (hkey : Registry.find? w (some ()) key = some o)
    (hr : (window w o).Reacts spared e (window w' o)) :
    Carries spared key o w w' [(e, window w' o)] := .lives hkey (.one hr)

theorem Solo.window_eq (h : Solo o₁ w w' win n) (hw : Quiet w)
    (hk : Registry.find? w (some ()) k = some o₁)
    (hkey : Registry.find? w' (some ()) key = some o) :
    Registry.find? w (some ()) key = some o ∧
      (k = key → o₁ = o) ∧ window w' o = if k = key then win else window w o := by
  have hkey₀ : Registry.find? w (some ()) key = some o := by
    simpa [Registry.find?, h.entries] using hkey
  have hsame : k = key → o₁ = o := by
    rintro rfl
    rw [hkey₀, Option.some.injEq] at hk
    exact hk.symm
  refine ⟨hkey₀, hsame, ?_⟩
  split
  · next heq => rw [← hsame heq, h.value]
  · next heq =>
    refine h.others ?_
    rintro rfl
    exact heq (hw.coherent.find?_inj hk hkey₀)

theorem Quiet.withWindow_carries {β : Type} (hw : Quiet w)
    (body : ObjectId → World → β × World) (rec : ObjectId → List (WindowEvent × Window))
    (hevolves : ∀ o, Evolves (fun _ ↦ True) (some o) (w.borrow o) (body o (w.borrow o)).2)
    (hbody : ∀ {o win}, Solo o (w.borrow o) (w.borrow o) win 0 → ∃ win' n,
      win.Lives spared (rec o) win' ∧ Solo o (w.borrow o) (body o (w.borrow o)).2 win' n)
    (hkey : Registry.find? (withWindow (scripted 0) k body w).2 (some ()) key = some o) :
    Carries spared key o w (withWindow (scripted 0) k body w).2 (if k = key then rec o else []) := by
  cases hk : Registry.find? w (some ()) k with
  | none =>
    have hsame : (withWindow (scripted 0) k body w).2 = w := by simp [withWindow, Registry.access, hk]
    rw [hsame] at hkey ⊢
    rw [if_neg]
    · exact Spares.carries (.refl w) hkey
    · rintro rfl
      rw [hk] at hkey
      cases hkey
  | some o₁ =>
    obtain ⟨win', n, hlives, hsolo⟩ := hbody (hw.solo hk)
    obtain ⟨-, hafter⟩ := hw.withWindow_solo hk body (hevolves o₁) hsolo
    obtain ⟨hkey₀, hsame, hwindow⟩ := hafter.window_eq hw hk hkey
    refine .lives hkey₀ ?_
    rw [hwindow]
    split
    · next heq =>
      obtain rfl := hsame heq
      exact hlives
    · exact .nil _

theorem deliver_answered (w : World) (o : ObjectId) {m : Message} (hm : m ≠ .destroy) :
    ∃ result, (deliver (scripted 0) o m w).1 = .answered result := by
  unfold deliver
  dsimp only [scripted]
  split
  · exact ⟨_, rfl⟩
  · cases m with
    | destroy => exact absurd rfl hm
    | setCursor client => cases client <;> exact ⟨_, rfl⟩
    | _ => exact ⟨_, rfl⟩

theorem Quiet.dispatch_solo (hw : Quiet w) {native : NativeHandle} {m : Message}
    (hm : m ≠ .destroy) (hfind : World.find? w native = some k)
    (hk : Registry.find? w (some ()) k = some o₁) :
    Solo o₁ w (World.dispatch (scripted 0) native m w).2
      (if consumes w o₁ m then window w o₁ else (window w o₁).received m) 0 := by
  have hnoted : Quiet (World.note (.dispatching m native) w) := hw.of_evolves (.note w _)
  obtain ⟨hreply, hsolo, -⟩ := hnoted.deliver (o := o₁) hk m
  obtain ⟨answer, hanswer⟩ :=
    deliver_answered ((World.note (.dispatching m native) w).borrow o₁) o₁ hm
  unfold World.dispatch
  rw [hfind]
  dsimp only
  generalize withWindow (scripted 0) k (fun o w => World.deliver (scripted 0) o m w)
    (World.note (.dispatching m native) w) = result at hreply hsolo ⊢
  obtain ⟨reply, w₁⟩ := result
  dsimp only at hreply hsolo
  rw [hanswer] at hreply
  subst hreply
  exact ⟨hsolo.lt, hsolo.length, hsolo.entries, hsolo.index, hsolo.hosts, hsolo.standing, hsolo.others,
    hsolo.value, hsolo.host, hsolo.native, hsolo.host_lt, hsolo.presented⟩

/-- A message reaches the window it is for, and no other. -/
theorem Quiet.dispatch (hw : Quiet w) (native : NativeHandle) (m : Message)
    (hkey : Registry.find? (World.dispatch (scripted 0) native m w).2 (some ()) key = some o) :
    Registry.find? w (some ()) key = some o ∧
      window (World.dispatch (scripted 0) native m w).2 o =
        if hears w key o native m then (window w o).received m else window w o := by
  by_cases hm : m = .destroy
  · subst hm
    obtain ⟨hkey₀, hwindow⟩ := (Loses.dispatch_destroy hw native).spares key o hkey
    exact ⟨hkey₀, hwindow.trans (ite_self _).symm⟩
  · cases hfind : World.find? w native with
    | none =>
      simp only [World.dispatch, hfind] at hkey ⊢
      exact ⟨hkey, by simp [hears, hfind]⟩
    | some k =>
      obtain ⟨-, o₁, hk⟩ := find?_isOpen hfind
      obtain ⟨hkey₀, hsame, hwindow⟩ := (hw.dispatch_solo hm hfind hk).window_eq hw hk hkey
      refine ⟨hkey₀, hwindow.trans ?_⟩
      by_cases heq : k = key
      · obtain rfl := hsame heq
        rw [if_pos heq, hears, hfind, heq]
        cases consumes w o₁ m <;> simp
      · rw [if_neg heq, hears, hfind]
        simp [heq]

theorem Quiet.withWindow_loses {β : Type} (hw : Quiet w) (body : ObjectId → World → β × World)
    (hevolves : ∀ o, Evolves (fun _ ↦ True) (some o) (w.borrow o) (body o (w.borrow o)).2)
    (hbody : ∀ {o win}, Solo o (w.borrow o) (w.borrow o) win 0 →
      Solo o (w.borrow o) (body o (w.borrow o)).2 win 0) :
    Loses [] [] w (withWindow (scripted 0) k body w).2 := by
  cases hk : Registry.find? w (some ()) k with
  | none =>
    have hsame : (withWindow (scripted 0) k body w).2 = w := by simp [withWindow, Registry.access, hk]
    rw [hsame]
    exact .refl w
  | some o₁ =>
    obtain ⟨-, hsolo⟩ := hw.withWindow_solo hk body (hevolves o₁) (hbody (hw.solo hk))
    exact .of_solo hsolo fun _ ↦ rfl

theorem Quiet.routeKey (hw : Quiet w) (registered : NativeHandle) (message : KeyMessage) :
    Loses [] [] w (routeKey (scripted 0) registered message w).2 := by
  unfold World.routeKey
  split
  · exact .refl w
  · refine hw.withWindow_loses _ (fun o ↦ ?_) fun {o win} h ↦ ?_
    · dsimp only [scripted]
      split
      · exact .refl _ _
      · exact .call _ _ _ rfl
    · dsimp only [scripted]
      split
      · exact h
      · exact h.call _ _

theorem Quiet.offerAccel (hw : Quiet w) (message : KeyMessage) (listening : List NativeHandle) :
    Loses [] [] w (offerAccel (scripted 0) message listening w).2 := by
  induction listening generalizing w with
  | nil => exact .refl w
  | cons registered rest ih =>
    have hroute := hw.routeKey registered message
    have hquiet := hw.of_evolves (.routeKey evolves_alone w registered message)
    unfold World.offerAccel
    generalize World.routeKey (scripted 0) registered message w = result at hroute hquiet ⊢
    obtain ⟨answer, w₁⟩ := result
    cases answer with
    | notOurs => exact hroute.trans (ih hquiet)
    | eat | passToHost => exact hroute

theorem Quiet.destroyNative (hw : Quiet w) {h : Nat} (hh : h < w.env.bundles.length)
    (native : NativeHandle) : Spares w (World.destroyNative (scripted 0) h native w) := by
  rcases Loses.destroyNative hw hh native with ⟨heq, -⟩ | hend
  · rw [heq]
    exact .refl w
  · exact hend.spares

theorem Quiet.destroyNatives (hw : Quiet w) {h : Nat} (hh : h < w.env.bundles.length)
    (natives : List NativeHandle) :
    Spares w (natives.foldl (fun w native => World.destroyNative (scripted 0) h native w) w) := by
  induction natives generalizing w with
  | nil => exact .refl w
  | cons native rest ih =>
    have hevolves : Evolves (fun _ ↦ True) none w (World.destroyNative (scripted 0) h native w) :=
      .destroyNative evolves_alone w h native
    have hhosts := (hevolves.lawful hw.coherent (by simp)).2.hosts
    exact (hw.destroyNative hh native).trans (ih (hw.of_evolves hevolves) (hhosts.symm ▸ hh))

theorem Quiet.runHostStep (hw : Quiet w) {h : Nat} (hh : h < w.env.bundles.length) {step : HostStep}
    (hsend : ∀ target m, step ≠ .send target m) (htimers : step ≠ .runTimers) :
    Spares w (runHostStep (scripted 0) h step w).2 := by
  cases step with
  | runTimers => exact absurd rfl htimers
  | send target m => exact absurd rfl (hsend target m)
  | sendAccel target code down => exact (hw.offerAccel _ _).spares
  | createNative title rect =>
    simp only [World.runHostStep]
    split
    · exact .refl w
    · exact SameWindows.spares ⟨rfl, rfl, rfl⟩
  | destroyNative target => exact hw.destroyNative hh (resolve w target)
  | flushDestroy =>
    have hemptied : Quiet (modifyBundle h ({ · with deferred := [] }) w) :=
      hw.of_evolves (.modifyBundle w h _ (fun _ ↦ rfl) fun _ _ ↦ .inl)
    have hsame : SameWindows w (modifyBundle h ({ · with deferred := [] }) w) := ⟨rfl, rfl, rfl⟩
    exact hsame.spares.trans
      (hemptied.destroyNatives ((length_bundles_modifyBundle ..).symm ▸ hh) (bundle w h).deferred)
  | _ => exact SameWindows.spares ⟨rfl, rfl, rfl⟩

def Mortal (spared : Bool) (w : World) : Prop := ∀ key o,
  Registry.find? (heartbeat (scripted 0) w) (some ()) key = some o →
    (window w o).retires = true → spared = true

theorem Quiet.heartbeat (hw : Quiet w) (hmortal : Mortal spared w)
    (hkey : Registry.find? (World.heartbeat (scripted 0) w) (some ()) key = some o) :
    Carries spared key o w (World.heartbeat (scripted 0) w)
      [(.tick, window (World.heartbeat (scripted 0) w) o)] := by
  obtain ⟨hkey₀, hwindow⟩ := hw.heartbeat_spares hkey
  exact .one hkey₀ (hwindow ▸ .tick (hmortal key o hkey))

theorem Quiet.carries_dispatch (hw : Quiet w) (native : NativeHandle) (m : Message)
    (hkey : Registry.find? (World.dispatch (scripted 0) native m w).2 (some ()) key = some o) :
    Carries spared key o w (World.dispatch (scripted 0) native m w).2
      (if hears w key o native m then
        [(.message m, window (World.dispatch (scripted 0) native m w).2 o)] else []) := by
  obtain ⟨hkey₀, hwindow⟩ := hw.dispatch native m hkey
  split
  · next hhears =>
    rw [if_pos hhears] at hwindow
    exact .one hkey₀ (hwindow ▸ .message m)
  · next hdeaf =>
    rw [if_neg hdeaf] at hwindow
    exact .lives hkey₀ (hwindow ▸ .nil _)

theorem Quiet.carries_openWindow (hw : Quiet w) (h : Nat) (config : ContextConfig) (title : String)
    (x y width height : Int32)
    (hkey : Registry.find? (runStep (scripted 0) none
      (.openWindow h config title x y width height) w).2 (some ()) key = some o) :
    Carries spared key o w
      (runStep (scripted 0) none (.openWindow h config title x y width height) w).2
      (if isOpen w key then [] else [(.opened config (host w h).platform,
        window (runStep (scripted 0) none (.openWindow h config title x y width height) w).2 o)]) := by
  have hopen {o' : ObjectId} (hkey : Registry.find? w (some ()) key = some o') :
      isOpen w key = true := by simp [isOpen, Registry.contains, hkey]
  by_cases hh : hasHost w h = true
  · have hsteady : Steady (World.openWindow (scripted 0) h config title x y width height w).2
        (runStep (scripted 0) none (.openWindow h config title x y width height) w).2 := by
      unfold runStep
      rw [if_pos hh]
      generalize World.openWindow (scripted 0) h config title x y width height w = result
      obtain ⟨opening, w₁⟩ := result
      cases opening with
      | opened native key => exact .addSlot w₁ _
      | failed | fault => exact .refl w₁
    obtain ⟨hkey₁, hwindow⟩ := hsteady.same.spares key o hkey
    rcases hw.openWindow (hasHost_iff.mp hh) config title x y width height hkey₁ with
      ⟨hkey₀, hsame⟩ | ⟨hnone, native, background, atlas, hnew⟩
    · rw [if_pos (hopen hkey₀)]
      exact .lives hkey₀ (hwindow.trans hsame ▸ .nil _)
    · have hclosed : ¬ isOpen w key = true := by simp [isOpen, Registry.contains, hnone]
      rw [if_neg hclosed]
      refine .opened config (host w h).platform hnone rfl ?_ ?_
      · exact hwindow.trans hnew ▸ isNew_newWindow ..
      · rw [hwindow, hnew]
        rfl
  · have hsame : (runStep (scripted 0) none (.openWindow h config title x y width height) w).2 = w := by
      unfold runStep
      rw [if_neg hh]
    rw [hsame] at hkey ⊢
    rw [if_pos (hopen hkey)]
    exact Spares.carries (.refl w) hkey

def isSilent : Step → Bool
  | .openWindow .. | .dispatch .. | .heartbeat | .tick | .window .. | .within .. | .hook .. => false
  | .host _ (.send ..) | .host _ .runTimers => false
  | _ => true

theorem Quiet.isSilent (hw : Quiet w) {s : Step} (hs : World.isSilent s = true) :
    Spares w (runStep (scripted 0) none s w).2 := by
  cases s with
  | adopt h raw =>
    have hasked : Loses [] [] w
        (withWindow (scripted 0) (.ofRaw raw) (fun o w => ((window w o).native, w)) w).2 :=
      hw.withWindow_loses _ (fun o ↦ .refl _ _) fun h ↦ h
    unfold runStep
    split
    · exact hasked.spares.trans (Steady.addSlot _ _).same.spares
    · exact .refl w
  | close n =>
    unfold runStep
    split
    · exact .refl w
    · next slot _ =>
      exact .closeWindow hw slot.key
  | unregister n =>
    unfold runStep
    split
    · exact .refl w
    · exact (Loses.unregister hw.coherent _).spares
  | accel registered target code down => exact (hw.routeKey _ _).spares
  | host h step =>
    unfold runStep
    split
    · next hh =>
      refine hw.runHostStep (hasHost_iff.mp hh) (fun target m heq ↦ ?_) fun heq ↦ ?_
      · subst heq
        cases hs
      · subst heq
        cases hs
    · exact .refl w
  | openWindow | dispatch | heartbeat | tick | window | within | hook => cases hs
  | contains | count | all | find | holdAtlas | dropAtlas | currentAtlas | editAtlas | holdWatchdog
  | dropWatchdog => exact (Steady.runStep w rfl).same.spares

theorem Quiet.carries_runTimers (hw : Quiet w) (hwatched : Watched 0 w)
    (hmortal : Mortal spared w) (h : Nat)
    (hkey : Registry.find? (runStep (scripted 0) none (.host h .runTimers) w).2 (some ()) key =
      some o) :
    Carries spared key o w (runStep (scripted 0) none (.host h .runTimers) w).2
      (if (host w h).timers.isEmpty then []
      else [(.tick, window (runStep (scripted 0) none (.host h .runTimers) w).2 o)]) := by
  have htimers := Guarded.timers hwatched h
  by_cases hh : hasHost w h = true
  · have hrun : (runStep (scripted 0) none (.host h .runTimers) w).2 =
        (host w h).timers.foldl (fun w _ => World.heartbeat (scripted 0) w) w := by
      unfold runStep
      rw [if_pos hh]
      rfl
    rw [hrun] at hkey ⊢
    unfold watchdogTimers at htimers
    split at htimers
    · split at htimers
      · rw [htimers] at hkey ⊢
        exact hw.heartbeat hmortal hkey
      · rw [htimers] at hkey ⊢
        exact Spares.carries (.refl w) hkey
    · rw [htimers] at hkey ⊢
      exact Spares.carries (.refl w) hkey
  · have hsame : (runStep (scripted 0) none (.host h .runTimers) w).2 = w := by
      unfold runStep
      rw [if_neg hh]
    have hnone : (host w h).timers = [] := by
      simp [host, bundle, List.getElem?_eq_none (Nat.le_of_not_lt (hh ∘ hasHost_iff.mpr))]
    rw [hsame] at hkey ⊢
    rw [hnone]
    exact Spares.carries (.refl w) hkey

theorem Quiet.carries_send (hw : Quiet w) (h : Nat) (target : Target) (m : Message)
    (hkey : Registry.find? (runStep (scripted 0) none (.host h (.send target m)) w).2 (some ()) key =
      some o) :
    Carries spared key o w (runStep (scripted 0) none (.host h (.send target m)) w).2
      (World.marks key o w (runStep (scripted 0) none (.host h (.send target m)) w).2
        (.host h (.send target m))) := by
  by_cases hh : hasHost w h = true
  · have hsame : (runStep (scripted 0) none (.host h (.send target m)) w).2 =
        (World.dispatch (scripted 0) (resolve w target) m w).2 := by
      unfold runStep
      rw [if_pos hh]
      rfl
    rw [hsame] at hkey ⊢
    simpa [World.marks, hh] using hw.carries_dispatch (resolve w target) m hkey
  · have hsame : (runStep (scripted 0) none (.host h (.send target m)) w).2 = w := by
      unfold runStep
      rw [if_neg hh]
    rw [hsame] at hkey ⊢
    simpa [World.marks, hh] using Spares.carries (.refl w) hkey

theorem Quiet.marks (hw : Quiet w) (hwatched : Watched 0 w) (hmortal : Mortal spared w)
    {s : Step} (hs : s.isPlain = true)
    (hkey : Registry.find? (runStep (scripted 0) none s w).2 (some ()) key = some o) :
    Carries spared key o w (runStep (scripted 0) none s w).2
      (World.marks key o w (runStep (scripted 0) none s w).2 s) := by
  cases s with
  | openWindow h config title x y width height => exact hw.carries_openWindow _ _ _ _ _ _ _ hkey
  | dispatch target m => exact hw.carries_dispatch (resolve w target) m hkey
  | heartbeat | tick => exact hw.heartbeat hmortal hkey
  | host h step =>
    cases step with
    | runTimers => exact hw.carries_runTimers hwatched hmortal h hkey
    | send target m => exact hw.carries_send h target m hkey
    | _ => exact (hw.isSilent rfl).carries hkey
  | window place step =>
    cases place with
    | current => exact Spares.carries (.refl w) hkey
    | slot n =>
      have hstep : step.writesIo = false := by simpa [Step.isPlain] using hs
      unfold runStep at hkey ⊢
      cases hslot : slot? w n with
      | none =>
        rw [hslot] at hkey
        simpa [World.marks, hslot] using Spares.carries (.refl w) hkey
      | some slot =>
        rw [hslot] at hkey
        have hcarries := hw.withWindow_carries (fun o w => World.runWindowStep (scripted 0) o step w)
          (fun o => recordStep o (w.borrow o) step)
          (fun o ↦ .runWindowStep evolves_alone _ o step trivial)
          (fun h ↦ h.runWindowStep spared hstep) hkey
        simpa [World.marks, hslot] using hcarries
  | within n steps =>
    unfold runStep at hkey ⊢
    cases hslot : slot? w n with
    | none =>
      rw [hslot] at hkey
      simpa [World.marks, hslot] using Spares.carries (.refl w) hkey
    | some slot =>
      rw [hslot] at hkey
      have hcarries := hw.withWindow_carries (fun o w => World.runSteps (scripted 0) (some o) steps w)
        (fun o => recordSteps o (w.borrow o) steps)
        (fun o ↦ .runSteps evolves_alone (some o) steps
          (Step.usesAll_of_forall (fun _ ↦ trivial) steps) _)
        (fun h ↦ h.runSteps spared hs) hkey
      simpa [World.marks, hslot] using hcarries
  | hook => cases hs
  | _ => exact (hw.isSilent rfl).carries hkey

end Carries

/-- The chronicle of a key: of the window it finds, if it does; of one that has gone; or empty if
the key was never used. -/
structure Annals (spared : Bool) (key : Key) (w : World) (c : List (WindowEvent × Window)) : Prop where
  live : ∀ {o}, Registry.find? w (some ()) key = some o → Window.Chronicle spared c (window w o)
  told : c ≠ [] → ∃ win, Window.Chronicle spared c win
  fresh : Registry.find? w (some ()) key = none → ¬ w.entries.Stale key → c = []

section Annals

variable {spared : Bool} {key : Key} {w : World} {c : List (WindowEvent × Window)}

theorem annals_empty (spared : Bool) (key : Key) (hosts : List HostSetup) :
    Annals spared key (World.empty hosts) [] where
  live h := by simp [World.empty, Registry.find?, SlotMap.get?, SlotMap.slot?] at h
  told h := absurd rfl h
  fresh _ _ := rfl

theorem find?_eq_none_iff : Registry.find? w (some ()) key = none ↔ w.entries.get? key = none := by
  rw [Registry.find?_unit, Option.map_eq_none_iff]

theorem Annals.step (h : Annals spared key w c) (hw : Quiet w) (hwatched : Watched 0 w)
    (hmortal : Mortal spared w) {s : Step} (hs : s.isPlain = true) :
    Annals spared key (runStep (scripted 0) none s w).2 (c ++ record key w s) := by
  have hevolves : Evolves (fun _ ↦ True) none w (runStep (scripted 0) none s w).2 :=
    .runStep evolves_alone none s (Step.uses_of_forall (fun _ ↦ trivial) s) w
  have hadvances := (hevolves.lawful hw.coherent (by simp)).2.keeps.advances
  have hlive {o : ObjectId}
      (hkey : Registry.find? (runStep (scripted 0) none s w).2 (some ()) key = some o) :
      Window.Chronicle spared (c ++ record key w s) (window (runStep (scripted 0) none s w).2 o) := by
    have hrecord : record key w s = marks key o w (runStep (scripted 0) none s w).2 s := by
      simp only [record, hkey]
    rw [hrecord]
    cases hw.marks hwatched hmortal hs hkey with
    | lives hkey₀ hlives => exact (h.live hkey₀).append hlives
    | opened config platform hnone hc hnew hnotch =>
      have hfresh : ¬ w.entries.Stale key := fun hstale ↦ by
        have hgone := (hstale.of_advances hadvances).get?_eq_none
        rw [find?_eq_none_iff.mpr hgone] at hkey
        cases hkey
      rw [h.fresh hnone hfresh, hc]
      exact .opened config platform hnew hnotch
  have hsilent (hnone : Registry.find? (runStep (scripted 0) none s w).2 (some ()) key = none) :
      record key w s = [] := by simp only [record, hnone]
  refine ⟨hlive, fun htold ↦ ?_, fun hnone hfresh ↦ ?_⟩
  · cases hkey : Registry.find? (runStep (scripted 0) none s w).2 (some ()) key with
    | some o => exact ⟨_, hlive hkey⟩
    | none =>
      rw [hsilent hkey, List.append_nil] at htold ⊢
      exact h.told htold
  · rw [hsilent hnone, List.append_nil]
    refine h.fresh (find?_eq_none_iff.mpr ?_) fun hstale ↦ hfresh (hstale.of_advances hadvances)
    cases hget : w.entries.get? key with
    | none => rfl
    | some e =>
      rcases hadvances.get?_or_stale hget with hget' | hstale
      · rw [find?_eq_none_iff.mp hnone] at hget'
        cases hget'
      · exact absurd hstale hfresh

/-- A condition on worlds that steps of some kind keep, and under which windows are mortal. -/
theorem annals_run {P : World → Prop} {ok : Step → Prop} (hplain : ∀ {s}, ok s → s.isPlain = true)
    (hP : ∀ {w}, P w → Quiet w ∧ Watched 0 w ∧ Mortal spared w)
    (hstep : ∀ {w s}, ok s → P w → P (runStep (scripted 0) none s w).2) {steps : List Step}
    (hsteps : ∀ s ∈ steps, ok s) (hw : P w) (h : Annals spared key w c) :
    P (runSteps (scripted 0) none steps w).2 ∧
      Annals spared key (runSteps (scripted 0) none steps w).2 (c ++ chronicle key w steps) := by
  induction steps generalizing w c with
  | nil => exact ⟨hw, by rw [chronicle, List.append_nil]; exact h⟩
  | cons s rest ih =>
    obtain ⟨hs, hrest⟩ := List.forall_mem_cons.mp hsteps
    obtain ⟨hquiet, hwatched, hmortal⟩ := hP hw
    have hannals := h.step hquiet hwatched hmortal (hplain hs)
    rw [chronicle, ← List.append_assoc]
    exact ih hrest (hstep hs hw) hannals

theorem quiet_empty (hosts : List HostSetup) : Quiet (World.empty hosts) :=
  ⟨coherent_empty hosts, (atRest_empty hosts).free⟩

theorem Quiet.runStep (hw : Quiet w) (hwatched : Watched 0 w) (s : Step) :
    Quiet (runStep (scripted 0) none s w).2 ∧ Watched 0 (World.runStep (scripted 0) none s w).2 := by
  have hevolves : Evolves (fun _ ↦ True) none w (World.runStep (scripted 0) none s w).2 :=
    .runStep evolves_alone none s (Step.uses_of_forall (fun _ ↦ trivial) s) w
  exact ⟨hw.of_evolves hevolves, hevolves.moves.watched hw.coherent (by simp) hwatched⟩

end Annals

theorem hooksAll_eq_zero {steps : List Step} (h : ∀ s ∈ steps, s.hooks = 0) :
    Step.hooksAll steps = 0 := by
  induction steps with
  | nil => rfl
  | cons s rest ih =>
    obtain ⟨hs, hrest⟩ := List.forall_mem_cons.mp h
    rw [Step.hooksAll, hs, ih hrest]

theorem run_of_hooks (hosts : List HostSetup) {steps : List Step} (h : ∀ s ∈ steps, s.hooks = 0) :
    (Session.run hosts steps).2 = (runSteps (scripted 0) none steps (World.empty hosts)).2 := by
  rw [Session.run, hooksAll_eq_zero h, Session.runFrom_snd]

theorem hooks_of_isPlain {s : Step} (h : s.isPlain = true) : s.hooks = 0 := by
  cases s with
  | within n steps =>
    refine hooksAll_eq_zero fun s hs ↦ ?_
    have hinner := List.all_eq_true.mp h s hs
    cases s with
    | window => rfl
    | _ => cases hinner
  | hook => cases h
  | _ => rfl

theorem run_of_isPlain (hosts : List HostSetup) {steps : List Step}
    (h : ∀ s ∈ steps, s.isPlain = true) :
    (Session.run hosts steps).2 = (runSteps (scripted 0) none steps (World.empty hosts)).2 :=
  run_of_hooks hosts fun s hs ↦ hooks_of_isPlain (h s hs)

end World

end Casement
