import Casement.Proofs.World.Lots

namespace Casement

/-- What is done to a window: it gets a message, is worked on, closed or unregistered, or its native
window is destroyed. The others are for all windows at once: a tick, the host does what it has
deferred, and it and the renderers are told how to behave. -/
inductive Dealing where
  | message (m : Message)
  | work (steps : List WindowStep)
  | close
  | unregister
  | destroy
  | tick
  | flush
  | consume (kinds : List MessageKind)
  | defer (on : Bool)
  deriving DecidableEq

namespace Lot

inductive Meets (l : Lot) : Dealing → Option Lot → Prop
  | message (m : Message) : Meets l (.message m) (l.received m)
  | work {steps : List WindowStep} {win : Window} (hworks : l.window.Works steps win) :
      Meets l (.work steps) (some { l with window := win })
  | close : Meets l .close l.dismissed
  | unregister : Meets l .unregister none
  | destroy : Meets l .destroy l.unseated
  | tick : Meets l .tick l.beaten
  | flush : Meets l .flush l.flushed
  | consume (kinds : List MessageKind) : Meets l (.consume kinds) (some { l with consumed := kinds })
  | defer (on : Bool) : Meets l (.defer on) (some { l with defers := on })

/-- What becomes of a window in the end; one that has gone stays gone. -/
def Fate : List Dealing → Option Lot → Option Lot → Prop
  | [], before, after => after = before
  | _ :: _, none, after => after = none
  | d :: ds, some l, after => ∃ mid, l.Meets d mid ∧ Fate ds mid after

/-- What a window and its host have in common with others of the same fate. -/
def inner (l : Lot) : Interior × Bool × List MessageKind × Bool × Bool :=
  (l.window.interior, l.seated, l.consumed, l.defers, l.pending)

variable {l l' : Lot} {d : Dealing} {ds ds' : List Dealing} {before mid after before' after' : Option Lot}

theorem inner_eq_iff : l.inner = l'.inner ↔ l.window.interior = l'.window.interior ∧
    l.seated = l'.seated ∧ l.consumed = l'.consumed ∧ l.defers = l'.defers ∧ l.pending = l'.pending := by
  simp [inner]

theorem inner_unseated (h : l.inner = l'.inner) : l.unseated.map inner = l'.unseated.map inner := by
  obtain ⟨hinterior, hseated, hconsumed, hdefers, hpending⟩ := inner_eq_iff.mp h
  unfold unseated
  rw [hseated, hconsumed]
  split
  · split
    · exact congrArg some (inner_eq_iff.mpr ⟨hinterior, rfl, rfl, hdefers, hpending⟩)
    · rfl
  · exact congrArg some h

theorem inner_dismissed (h : l.inner = l'.inner) : l.dismissed.map inner = l'.dismissed.map inner := by
  obtain ⟨hinterior, hseated, hconsumed, hdefers, -⟩ := inner_eq_iff.mp h
  unfold dismissed
  rw [hdefers]
  split
  · exact congrArg some (inner_eq_iff.mpr ⟨hinterior, hseated, hconsumed, rfl, rfl⟩)
  · exact inner_unseated h

theorem inner_flushed (h : l.inner = l'.inner) : l.flushed.map inner = l'.flushed.map inner := by
  obtain ⟨hinterior, hseated, hconsumed, hdefers, hpending⟩ := inner_eq_iff.mp h
  unfold flushed
  rw [hpending]
  split
  · exact inner_unseated (inner_eq_iff.mpr ⟨hinterior, hseated, hconsumed, hdefers, rfl⟩)
  · exact congrArg some h

theorem inner_received (h : l.inner = l'.inner) (m : Message) :
    (l.received m).map inner = (l'.received m).map inner := by
  obtain ⟨hinterior, hseated, hconsumed, hdefers, hpending⟩ := inner_eq_iff.mp h
  unfold received
  rw [hconsumed]
  split
  · exact congrArg some h
  · split
    · rfl
    · exact congrArg some (inner_eq_iff.mpr
        ⟨Window.interior_received hinterior m, hseated, rfl, hdefers, hpending⟩)

theorem inner_beaten (h : l.inner = l'.inner) : l.beaten.map inner = l'.beaten.map inner := by
  obtain ⟨hinterior, hseated, hconsumed, hdefers, hpending⟩ := inner_eq_iff.mp h
  have hafter : { l with window := l.window.beaten }.inner = { l' with window := l'.window.beaten }.inner :=
    inner_eq_iff.mpr ⟨Window.interior_beaten hinterior, hseated, hconsumed, hdefers, hpending⟩
  unfold beaten
  rw [Window.retires_congr hinterior]
  split
  · exact inner_dismissed hafter
  · exact congrArg some hafter

/-- Windows that are alike and are dealt with alike stay alike. -/
theorem Meets.inner_eq (h : l.Meets d after) (h' : l'.Meets d after') (hl : l.inner = l'.inner) :
    after.map inner = after'.map inner := by
  obtain ⟨hinterior, hseated, hconsumed, hdefers, hpending⟩ := inner_eq_iff.mp hl
  cases h with
  | message m =>
    cases h'
    exact inner_received hl m
  | work hworks =>
    cases h' with
    | work hworks' =>
      have hinterior' := Window.interior_works hworks hworks' hinterior
      exact congrArg some (inner_eq_iff.mpr ⟨hinterior', hseated, hconsumed, hdefers, hpending⟩)
  | close =>
    cases h'
    exact inner_dismissed hl
  | unregister =>
    cases h'
    rfl
  | destroy =>
    cases h'
    exact inner_unseated hl
  | tick =>
    cases h'
    exact inner_beaten hl
  | flush =>
    cases h'
    exact inner_flushed hl
  | consume kinds =>
    cases h'
    exact congrArg some (inner_eq_iff.mpr ⟨hinterior, hseated, rfl, hdefers, hpending⟩)
  | defer on =>
    cases h'
    exact congrArg some (inner_eq_iff.mpr ⟨hinterior, hseated, hconsumed, rfl, hpending⟩)

theorem Fate.inner_eq (h : Fate ds before after) (h' : Fate ds before' after')
    (hl : before.map inner = before'.map inner) : after.map inner = after'.map inner := by
  induction ds generalizing before before' with
  | nil =>
    rw [h, h']
    exact hl
  | cons d ds ih =>
    cases before with
    | none =>
      cases before' with
      | none =>
        rw [h, h']
      | some l' => cases hl
    | some l =>
      cases before' with
      | none => cases hl
      | some l' =>
        obtain ⟨mid, hmeets, hrest⟩ := h
        obtain ⟨mid', hmeets', hrest'⟩ := h'
        exact ih hrest hrest' (hmeets.inner_eq hmeets' (Option.some.inj hl))

theorem Fate.one (h : l.Meets d after) : Fate [d] (some l) after := ⟨after, h, rfl⟩

theorem Fate.gone (ds : List Dealing) : Fate ds none none := by
  cases ds with
  | nil => rfl
  | cons => rfl

theorem Fate.eq_none (h : Fate ds none after) : after = none := by
  cases ds with
  | nil => exact h
  | cons => exact h

theorem Fate.append (h : Fate ds before mid) (h' : Fate ds' mid after) :
    Fate (ds ++ ds') before after := by
  induction ds generalizing before with
  | nil => exact h ▸ h'
  | cons d ds ih =>
    cases before with
    | none =>
      rw [h.eq_none] at h'
      exact h'.eq_none
    | some l =>
      obtain ⟨mid', hmeets, hrest⟩ := h
      exact ⟨mid', hmeets, ih hrest⟩

end Lot

def Step.onCurrent? : Step → Option WindowStep
  | .window .current step => some step
  | _ => none

/-- A step that is not nested: calls on a window do nothing but work on it, and nothing is left with
collaborators. -/
def Step.isFlat : Step → Bool
  | .within _ steps => steps.all (·.onCurrent?.isSome)
  | .hook .. => false
  | _ => true

namespace World

def hostDealing? (key : Key) (w : World) : HostStep → Option Dealing
  | .runTimers => some .tick
  | .flushDestroy => some .flush
  | .send target m => if native? w key = some (resolve w target) then some (.message m) else none
  | .destroyNative target => if native? w key = some (resolve w target) then some .destroy else none
  | .consume kinds => some (.consume kinds)
  | .deferDestroy on => some (.defer on)
  | _ => none

/-- What a step does to the window of a key: messages are for its handle, and calls for the key. -/
def dealing? (key : Key) (w : World) : Step → Option Dealing
  | .heartbeat | .tick => some .tick
  | .dispatch target m => if native? w key = some (resolve w target) then some (.message m) else none
  | .host h step => if hasHost w h then hostDealing? key w step else none
  | .window (.slot n) step => if (slot? w n).any (·.key = key) then some (.work [step]) else none
  | .within n steps =>
    if (slot? w n).any (·.key = key) then some (.work (steps.filterMap Step.onCurrent?)) else none
  | .close n => if (slot? w n).any (·.key = key) then some .close else none
  | .unregister n => if (slot? w n).any (·.key = key) then some .unregister else none
  | _ => none

def dealings (key : Key) (w : World) : List Step → List Dealing
  | [] => []
  | s :: rest => (dealing? key w s).toList ++ dealings key (runStep (scripted 0) none s w).2 rest

section Work

variable {o : ObjectId} {w₀ w : World} {win : Window} {n : Nat}

theorem Solo.fault_newFrame (h : Solo o w₀ w win n) :
    (World.newFrame (scripted 0) o w).1.isSome = win.context.inFrame := by
  unfold World.newFrame
  dsimp only [scripted]
  rw [(h.call _ _).value]
  cases win.context.inFrame <;> rfl

theorem Solo.fault_beginFrame (h : Solo o w₀ w win n) :
    (World.beginFrame (scripted 0) o w).1.isSome = win.context.inFrame := by
  have hinfo := h.update (fun win' =>
    { win' with inFrame := true }.readFrameInfo (bundle w win.host).host (bundle w win.host).scale)
    ⟨rfl, rfl⟩
  have hbegun := (hinfo.call win.host (.beginFrame win.native)).modifyStats win.host
    (fun s => { s with begun := s.begun + 1 }) fun _ ↦ rfl
  unfold World.beginFrame
  dsimp only [scripted]
  rw [h.value]
  exact (hbegun.update (fun win' => win'.readInput (World.host _ win.host)) ⟨rfl, rfl⟩).fault_newFrame

theorem Solo.fault_enterFrame (h : Solo o w₀ w win n) :
    (World.enterFrame (scripted 0) o w).1.isSome = win.faults := by
  have hkept := h.update (fun win => { win with keepAlive := true }) ⟨rfl, rfl⟩
  unfold World.enterFrame Window.faults
  dsimp only
  rw [hkept.value]
  cases win.inFrame with
  | true => rfl
  | false => exact hkept.fault_beginFrame

theorem Solo.entered (h : Solo o w₀ w win n) :
    ∃ s, Solo o w₀ (World.enterFrame (scripted 0) o w).2 (win.entered s) n := by
  obtain ⟨win', hreacts, hsolo⟩ := h.enterFrame true
  unfold Window.entry at hreacts
  unfold Window.entered
  split at hreacts
  · next hopen =>
    cases hreacts
    exact ⟨default, by rwa [if_pos hopen]⟩
  · next hidle =>
    cases hreacts with
    | begin host host' scale captures =>
      exact ⟨⟨host, host', scale, captures⟩, by rwa [if_neg hidle]⟩

theorem Solo.effect (h : Solo o w₀ w win n) (step : WindowStep) :
    ∃ s n', Solo o w₀ (World.runWindowStep (scripted 0) o step w).2 (step.effect s win) n' := by
  cases step with
  | enterFrame =>
    obtain ⟨s, hsolo⟩ := h.entered
    exact ⟨s, n, hsolo⟩
  | endFrame render => exact ⟨default, _, h.endFrame render⟩
  | frame render =>
    obtain ⟨s, hsolo⟩ := h.entered
    have hfault := h.fault_enterFrame
    unfold WindowStep.effect
    simp only [World.runWindowStep, ← hfault]
    generalize World.enterFrame (scripted 0) o w = result at hsolo ⊢
    obtain ⟨fault, w₁⟩ := result
    cases fault with
    | some cause => exact ⟨s, n, hsolo⟩
    | none => exact ⟨s, _, hsolo.endFrame render⟩
  | requestClose => exact ⟨default, n, h.update (fun win => { win with closeRequested := true }) ⟨rfl, rfl⟩⟩
  | setClearColor color =>
    exact ⟨default, n, h.update (fun win => { win with clearColor := color }) ⟨rfl, rfl⟩⟩
  | setTitle title => exact ⟨default, n, h.modifyView _ _ ({ · with title }) fun _ ↦ ⟨rfl, rfl⟩⟩
  | setRect rect => exact ⟨default, n, h.modifyView _ _ ({ · with rect }) fun _ ↦ ⟨rfl, rfl⟩⟩
  | setVisible on =>
    exact ⟨default, n, h.modifyView _ _ ({ · with visible := on }) fun _ ↦ ⟨rfl, rfl⟩⟩
  | mouseDown button => exact ⟨default, n, h.mouseDown button⟩
  | mouseUp button => exact ⟨default, n, h.mouseUp button⟩
  | mouseWheel axis delta => exact ⟨default, n, h.update (·.turnWheel axis delta) ⟨rfl, rfl⟩⟩
  | keyInput code down => exact ⟨default, n, h.update (·.keyInput code down) ⟨rfl, rfl⟩⟩
  | charInput codepoint => exact ⟨default, n, h.charInput codepoint⟩
  | updateCursor => exact ⟨default, n, h.updateCursor⟩
  | keepAtlas => exact ⟨default, n, h.of_same ⟨rfl, rfl, rfl⟩ rfl rfl (fun _ ↦ rfl) fun _ ↦ rfl⟩
  | contextNewFrame =>
    obtain ⟨captures, hsolo⟩ := h.newFrame
    exact ⟨{ (default : Surroundings) with captures }, n, hsolo⟩
  | contextRender => exact ⟨default, n, h.renderFrame⟩
  | contextEndFrame => exact ⟨default, n, h.discardFrame⟩
  | contextStyle style =>
    exact ⟨default, n, (h.call _ _).update (fun win => { win with context := { win.context with style } })
      ⟨rfl, rfl⟩⟩
  | resizeKeys count => exact ⟨default, n, h.update (·.modifyIo (·.resizeKeys count)) ⟨rfl, rfl⟩⟩
  | wantKeyboard on =>
    exact ⟨default, n, h.update (·.modifyIo ({ · with wantsKeyboard := on })) ⟨rfl, rfl⟩⟩
  | setWheel wheel => exact ⟨default, n, h.update (·.modifyIo ({ · with wheel })) ⟨rfl, rfl⟩⟩
  | io | keyMap | isKeyDown | native | clearColor | title | rect | atlas | sameAtlas | unknown =>
    exact ⟨default, n, h⟩

theorem Solo.works (h : Solo o w₀ w win n) {steps : List Step}
    (hsteps : steps.all (·.onCurrent?.isSome) = true) :
    ∃ win' n', win.Works (steps.filterMap Step.onCurrent?) win' ∧
      Solo o w₀ (World.runSteps (scripted 0) (some o) steps w).2 win' n' := by
  induction steps generalizing w win n with
  | nil => exact ⟨win, n, rfl, h⟩
  | cons s rest ih =>
    rw [List.all_cons, Bool.and_eq_true] at hsteps
    obtain ⟨hs, hrest⟩ := hsteps
    obtain ⟨step, hstep⟩ := Option.isSome_iff_exists.mp hs
    have hs' : s = .window .current step := by
      unfold Step.onCurrent? at hstep
      split at hstep
      · rw [Option.some.inj hstep]
      · cases hstep
    subst hs'
    obtain ⟨surroundings, n₁, hsolo⟩ := h.effect step
    obtain ⟨win₂, n₂, hworks, hsolo'⟩ := ih hsolo hrest
    exact ⟨win₂, n₂, ⟨surroundings, hworks⟩, hsolo'⟩

end Work

section Scripts

open Lot

variable {w : World} {key : Key} {l : Lot}

theorem DeskInStep.fate_message (hw : DeskInStep w) (hl : lot? w key = some l)
    (native : NativeHandle) (m : Message) :
    Fate (if native? w key = some native then some (Dealing.message m) else none).toList (some l)
      (lot? (dispatch (scripted 0) native m w).2 key) := by
  rw [hw.quiet.lot?_dispatch hw.sited, hl, Option.bind_some]
  simp only [hw.sited.find?_eq_some_iff]
  split
  · exact .one (.message m)
  · rfl

theorem DeskInStep.fate_work {β : Type} (hw : DeskInStep w) (hl : lot? w key = some l) (k : Key)
    (steps : List WindowStep) (body : ObjectId → World → β × World)
    (hevolves : ∀ o w, Evolves (fun _ ↦ True) (some o) w (body o w).2)
    (hbody : ∀ {o w₀ w win n}, Solo o w₀ w win n →
      ∃ win' n', win.Works steps win' ∧ Solo o w₀ (body o w).2 win' n') :
    Fate (if k = key then some (Dealing.work steps) else none).toList (some l)
      (lot? (withWindow (scripted 0) k body w).2 key) := by
  cases hk : Registry.find? w (some ()) k with
  | none =>
    have hne : k ≠ key := by
      rintro rfl
      rw [lot?_eq_none.mpr hk] at hl
      cases hl
    have hsame : (withWindow (scripted 0) k body w).2 = w := by
      simp [withWindow, Registry.access, hk]
    rw [if_neg hne, hsame, hl]
    rfl
  | some o =>
    obtain ⟨win, n, hworks, hsolo⟩ := hbody (hw.quiet.solo hk)
    obtain ⟨-, hafter⟩ := hw.quiet.withWindow_solo hk body (hevolves o _) hsolo
    rw [hafter.lot?_eq hw.quiet hk]
    split
    · next heq =>
      subst heq
      rw [lot?_of_find? hk, Option.some.injEq] at hl
      subst hl
      exact .one (.work hworks)
    · exact hl

theorem DeskInStep.fate_hostStep (hw : DeskInStep w) (hl : lot? w key = some l) (step : HostStep) :
    Fate (hostDealing? key w step).toList (some l) (lot? (runHostStep (scripted 0) 0 step w).2 key) := by
  have hhost : 0 < w.env.bundles.length := hw.one.symm ▸ Nat.one_pos
  have hfresh := hw.sited.native?_ne_fresh hw.quiet key
  have hsame {w' : World} (h : lot? w' key = lot? w key) : Fate [] (some l) (lot? w' key) := h.trans hl
  cases step with
  | runTimers =>
    dsimp only [runHostStep]
    rw [hw.quiet.runTimers_eq hw.watched hw.one, hw.lot?_heartbeat, hl]
    exact .one .tick
  | flushDestroy =>
    rw [hw.lot?_flush, hl]
    exact .one .flush
  | send target m => exact hw.fate_message hl _ m
  | sendAccel target code down =>
    exact hsame ((hw.quiet.offerAccel _ _).lot?_kept List.not_mem_nil (by simp))
  | addChild parent rect =>
    have hgains : Gains 0 _ w (runHostStep (scripted 0) 0 (.addChild parent rect) w).2 :=
      .addView w hhost _ fun _ ↦ ⟨rfl, rfl⟩
    exact hsame (hgains.lot?_eq hfresh)
  | createNative title rect =>
    simp only [runHostStep]
    split
    · exact hl
    · have hgains : Gains 0 _ w (modifyHost 0 (·.addWindow title rect) w) :=
        .addView w hhost _ fun _ ↦ ⟨rfl, rfl⟩
      exact hsame (hgains.lot?_eq hfresh)
  | destroyNative target =>
    dsimp only [runHostStep, hostDealing?]
    rw [hw.quiet.lot?_destroyNative hw.sited, hl]
    split
    · exact .one .destroy
    · rfl
  | consume kinds =>
    obtain ⟨o, hkey, rfl⟩ := Option.map_eq_some_iff.mp hl
    have hlot := lotOf_modifyHabits hw.one ({ · with consumed := kinds }) (fun _ ↦ rfl) o
    exact ((lot?_of_find? (by exact hkey)).trans (congrArg some hlot)) ▸ .one (.consume kinds)
  | deferDestroy on =>
    obtain ⟨o, hkey, rfl⟩ := Option.map_eq_some_iff.mp hl
    have hlot := lotOf_modifyHabits hw.one ({ · with defers := on }) (fun _ ↦ rfl) o
    exact ((lot?_of_find? (by exact hkey)).trans (congrArg some hlot)) ▸ .one (.defer on)
  | _ => exact hsame ((Steady.runHostStep w 0 rfl).lot?_eq key)

theorem fate_slot {n : Nat} {w' : World} (hl : lot? w key = some l) (d : Dealing)
    (hnone : slot? w n = none → w' = w)
    (hsome : ∀ s, slot? w n = some s →
      Fate (if s.key = key then some d else none).toList (some l) (lot? w' key)) :
    Fate (if (slot? w n).any (·.key = key) then some d else none).toList (some l) (lot? w' key) := by
  cases hn : slot? w n with
  | none =>
    rw [hnone hn]
    exact hl
  | some s => simpa using hsome s hn

theorem DeskInStep.fate_close (hw : DeskInStep w) (hl : lot? w key = some l) (key' : Key) :
    Fate (if key' = key then some Dealing.close else none).toList (some l)
      (lot? (closeWindow (scripted 0) key' w).2 key) := by
  rw [hw.quiet.lot?_closeWindow hw.sited key' key, hl]
  split
  · exact .one .close
  · rfl

theorem DeskInStep.fate_unregister (hw : DeskInStep w) (hl : lot? w key = some l) (key' : Key) :
    Fate (if key' = key then some Dealing.unregister else none).toList (some l)
      (lot? (Registry.unregister (disposal (scripted 0)) () key' w).2 key) := by
  rw [hw.quiet.lot?_unregister hw.sited key' key, hl]
  split
  · exact .one .unregister
  · rfl

theorem DeskInStep.lot?_opened (hw : DeskInStep w) (hl : lot? w key = some l) (h : Nat)
    (config : ContextConfig)
    (title : String) (x y width height : Int32) :
    lot? (runStep (scripted 0) none (.openWindow h config title x y width height) w).2 key = some l := by
  unfold runStep
  split
  · next hh =>
    obtain rfl := eq_zero_of_hasHost hw.one hh
    have hopened := hw.quiet.lot?_openWindow hw.sited config title x y width height hl
    generalize openWindow (scripted 0) 0 config title x y width height w = result at hopened ⊢
    obtain ⟨opening, w₁⟩ := result
    cases opening with
    | opened native key' => exact ((Steady.addSlot w₁ _).lot?_eq key).trans hopened
    | failed | fault => exact hopened
  · exact hl

theorem DeskInStep.lot?_adopted (hw : DeskInStep w) (hl : lot? w key = some l) (h : Nat)
    (raw : UInt64) :
    lot? (runStep (scripted 0) none (.adopt h raw) w).2 key = some l := by
  unfold runStep
  split
  · have hasked : Loses [] [] w
        (withWindow (scripted 0) (.ofRaw raw) (fun o w => ((window w o).native, w)) w).2 :=
      hw.quiet.withWindow_loses _ (fun o ↦ .refl _ _) fun h ↦ h
    exact ((Steady.addSlot _ _).lot?_eq key).trans ((hasked.lot?_kept List.not_mem_nil (by simp)).trans hl)
  · exact hl

/-- What becomes of a window in one step. -/
theorem DeskInStep.fate_step (hw : DeskInStep w) (hl : lot? w key = some l) {s : Step}
    (hs : s.isFlat = true) :
    Fate (dealing? key w s).toList (some l) (lot? (runStep (scripted 0) none s w).2 key) := by
  cases s with
  | heartbeat | tick =>
    have hbeaten : lot? (heartbeat (scripted 0) w) key = l.beaten := by
      rw [hw.lot?_heartbeat, hl, Option.bind_some]
    exact hbeaten ▸ Fate.one .tick
  | dispatch target m => exact hw.fate_message hl _ m
  | host h step =>
    unfold runStep
    dsimp only [dealing?]
    split
    · next hh =>
      obtain rfl := eq_zero_of_hasHost hw.one hh
      exact hw.fate_hostStep hl step
    · exact hl
  | window place step =>
    cases place with
    | current => exact hl
    | slot n =>
      refine fate_slot hl _ (fun hn ↦ by simp [runStep, hn]) fun s hn ↦ ?_
      have hwork := hw.fate_work hl s.key [step] (fun o w => runWindowStep (scripted 0) o step w)
        (fun o w ↦ .runWindowStep evolves_alone w o step trivial) fun h ↦ by
          obtain ⟨surroundings, n', hsolo⟩ := h.effect step
          exact ⟨_, n', ⟨surroundings, rfl⟩, hsolo⟩
      simpa [runStep, hn] using hwork
  | within n steps =>
    refine fate_slot hl _ (fun hn ↦ by simp [runStep, hn]) fun s hn ↦ ?_
    have hwork := hw.fate_work hl s.key (steps.filterMap Step.onCurrent?)
      (fun o w => runSteps (scripted 0) (some o) steps w)
      (fun o w ↦ .runSteps evolves_alone (some o) steps
        (Step.usesAll_of_forall (fun _ ↦ trivial) steps) w) fun h ↦ h.works hs
    simpa [runStep, hn] using hwork
  | close n =>
    refine fate_slot hl _ (fun hn ↦ by simp [runStep, hn]) fun s hn ↦ ?_
    simpa [runStep, hn] using hw.fate_close hl s.key
  | unregister n =>
    refine fate_slot hl _ (fun hn ↦ by simp [runStep, hn]) fun s hn ↦ ?_
    simpa [runStep, hn] using hw.fate_unregister hl s.key
  | openWindow h config title x y width height => exact hw.lot?_opened hl h config title x y width height
  | adopt h raw => exact hw.lot?_adopted hl h raw
  | accel registered target code down =>
    exact ((hw.quiet.routeKey _ _).lot?_kept List.not_mem_nil (by simp)).trans hl
  | hook => cases hs
  | contains | count | all | find | holdAtlas | dropAtlas | currentAtlas | editAtlas | holdWatchdog
  | dropWatchdog => exact ((Steady.runStep w rfl).lot?_eq key).trans hl

theorem lot?_of_stale (h : w.entries.Stale key) : lot? w key = none := by
  rw [lot?_eq_none, Registry.find?_unit, h.get?_eq_none]
  rfl

theorem DeskInStep.fate (hw : DeskInStep w) {steps : List Step}
    (hsteps : ∀ s ∈ steps, s.isFlat = true)
    (hkey : (lot? w key).isSome ∨ w.entries.Stale key) :
    Fate (dealings key w steps) (lot? w key) (lot? (runSteps (scripted 0) none steps w).2 key) := by
  induction steps generalizing w with
  | nil => rfl
  | cons s rest ih =>
    have hevolves : Evolves (fun _ ↦ True) none w (runStep (scripted 0) none s w).2 :=
      .runStep evolves_alone none s (Step.uses_of_forall (fun _ ↦ trivial) s) w
    have hadvances := (hevolves.lawful hw.quiet.coherent (by simp)).2.keeps.advances
    have hrest := ih (hw.of_evolves hevolves) fun s' hs' ↦ hsteps s' (List.mem_cons_of_mem s hs')
    cases hl : lot? w key with
    | none =>
      have hstale : w.entries.Stale key := by
        rw [hl] at hkey
        simpa using hkey
      have hafter := hrest (.inr (hstale.of_advances hadvances))
      rw [lot?_of_stale (hstale.of_advances hadvances)] at hafter
      exact Fate.append (Fate.gone _) hafter
    | some l =>
      refine Fate.append (hw.fate_step hl (hsteps s List.mem_cons_self)) (hrest ?_)
      obtain ⟨o, ho, -⟩ := Option.map_eq_some_iff.mp hl
      obtain ⟨e, he, -, -⟩ := Registry.find?_eq_some ho
      rcases hadvances.get?_or_stale he with hstays | hstale
      · left
        rw [lot?, Registry.find?_unit, hstays]
        rfl
      · exact .inr hstale

end Scripts

def inner? (w : World) (key : Key) : Option (Interior × Bool × List MessageKind × Bool × Bool) :=
  (lot? w key).map Lot.inner

/-- Windows of two worlds on one host that are alike stay alike in scripts that are not nested and
that do the same to both, in the same order: then both are there or neither is, and if they are, the
frame, the requests, the input that waits and the input their GUIs were given are the same. Whatever
led to the two worlds, and whatever else the scripts do with other windows, has no part in it. -/
theorem windows_do_not_interfere (setup setup' : HostSetup) (before before' : List Step)
    {steps steps' : List Step} (hsteps : ∀ s ∈ steps, s.isFlat = true)
    (hsteps' : ∀ s ∈ steps', s.isFlat = true) {key key' : Key} :
    let w := (Session.run [setup] before).2
    let w' := (Session.run [setup'] before').2
    (inner? w key).isSome = true → inner? w key = inner? w' key' →
    dealings key w steps = dealings key' w' steps' →
    inner? (runSteps (scripted 0) none steps w).2 key =
      inner? (runSteps (scripted 0) none steps' w').2 key' := by
  intro w w' hlive halike hdealings
  have hlive' : (inner? w' key').isSome = true := halike ▸ hlive
  have hw : DeskInStep w := deskInStep_run setup _ before
  have hw' : DeskInStep w' := deskInStep_run setup' _ before'
  have hfate := hw.fate hsteps (.inl (Option.isSome_map .. ▸ hlive))
  have hfate' := hw'.fate hsteps' (.inl (Option.isSome_map .. ▸ hlive'))
  rw [← hdealings] at hfate'
  exact hfate.inner_eq hfate' halike

/-- In one script the window is alone; in the other, a second window is opened, worked on and closed,
and a third cannot be opened. -/
theorem windows_do_not_interfere_neighbours :
    let before : List Step := [.openWindow 0 {} "a" 0 0 9 9]
    let steps : List Step :=
      [.dispatch (.slot 0) (.char 97), .window (.slot 0) .enterFrame,
        .dispatch (.slot 0) (.buttonDown .left), .host 0 .runTimers]
    let steps' : List Step :=
      [.openWindow 0 {} "b" 0 0 9 9, .dispatch (.slot 0) (.char 97), .dispatch (.slot 1) (.char 98),
        .window (.slot 1) .enterFrame, .dispatch (.slot 1) .close, .window (.slot 0) .enterFrame,
        .dispatch (.slot 0) (.buttonDown .left), .host 0 (.failCreation true),
        .openWindow 0 {} "c" 0 0 9 9, .close 1, .host 0 .runTimers]
    let w := (Session.run [{}] before).2
    (∀ s ∈ steps ++ steps', s.isFlat = true) ∧ dealings ⟨1, 1⟩ w steps = dealings ⟨1, 1⟩ w steps' ∧
      (dealings ⟨1, 1⟩ w steps).length = 4 ∧ (inner? w ⟨1, 1⟩).isSome = true ∧
      inner? (runSteps (scripted 0) none steps w).2 ⟨1, 1⟩ =
        inner? (runSteps (scripted 0) none steps' w).2 ⟨1, 1⟩ ∧
      (inner? (runSteps (scripted 0) none steps w).2 ⟨1, 1⟩).isSome = true := by
  intro before steps steps' w
  have hsteps : ∀ s ∈ steps ++ steps', s.isFlat = true := by decide
  have hdealings : dealings ⟨1, 1⟩ w steps = dealings ⟨1, 1⟩ w steps' := by decide +kernel
  have hlive : (inner? w ⟨1, 1⟩).isSome = true := by decide +kernel
  refine ⟨hsteps, hdealings, by decide +kernel, hlive, ?_, by decide +kernel⟩
  exact windows_do_not_interfere {} {} before before (fun s hs ↦ hsteps s (List.mem_append_left _ hs))
    (fun s hs ↦ hsteps s (List.mem_append_right _ hs)) hlive rfl hdealings

end World

end Casement
