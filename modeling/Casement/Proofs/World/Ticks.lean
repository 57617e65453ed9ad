import Casement.Proofs.World.Independence

namespace Casement

/-- A step that neither has a renderer keep messages of destruction nor has a host defer it. -/
def Step.isPrompt : Step → Bool
  | .host _ (.consume kinds) => !kinds.contains .destroy
  | .host _ (.deferDestroy on) => !on
  | _ => true

def Step.isTick : Step → Bool
  | .heartbeat | .tick => true
  | .host h .runTimers => h = 0
  | _ => false

theorem Step.isFlat_of_isPlain {s : Step} (h : s.isPlain = true) : s.isFlat = true := by
  cases s with
  | within n steps =>
    refine List.all_eq_true.mpr fun s hs ↦ ?_
    have hinner := List.all_eq_true.mp h s hs
    cases s with
    | window place step =>
      cases place with
      | current => rfl
      | slot => cases hinner
    | _ => cases hinner
  | hook => cases h
  | _ => rfl

namespace World

section Prompt

variable {w w' : World} {k key : Key} {o : ObjectId} {m : Message}

theorem Prompt.install (h : Prompt w) (hw : Coherent (fun _ ↦ True) w) {win : Window}
    (hseat : (win.native, none) ∈ (host w 0).seats) : Prompt (install win w) := by
  have hbundle := standing_install win w
  have hseats : (host (World.install win w) 0).seats = (host w 0).seats := congrArg (·.1) (hbundle 0)
  refine ⟨(length_bundles_modifyHost ..).trans h.one, ?_, ?_, fun {o} ho ↦ ?_⟩
  · rw [show (bundle (World.install win w) 0).consumed = _ from congrArg (·.2.1) (hbundle 0)]
    exact h.left
  · exact (congrArg (·.2.2.1) (hbundle 0)).trans h.atOnce
  · rw [hseats, window_install]
    obtain ⟨key, hkey⟩ := isRegistered_iff.mp ho
    rw [find?_install hw] at hkey
    split at hkey
    · cases hkey
      rwa [if_pos rfl]
    · have hreg := Registry.isRegistered_of_find? hkey
      rw [if_neg (hreg.lt hw.sound).ne]
      exact h.seated hreg

theorem PromptDesk.openWindow (hw : PromptDesk w) {h : Nat} (hh : h < w.env.bundles.length)
    (config : ContextConfig) (title : String) (x y width height : Int32) :
    Prompt (openWindow (scripted 0) h config title x y width height w).2 := by
  obtain rfl : h = 0 := by
    have := hw.prompt.one
    omega
  rcases openWindow_cases hh config title x y width height with
    hsteady | ⟨w₁, hgains, hlawful, hsteady⟩ | ⟨w₁, background, atlas, hgains, hlawful, hsteady⟩
  · exact hw.prompt.of_steady hsteady
  · have hlisted := hw.indexed.isListed.of_same hgains.same hgains.index
    exact ((hw.prompt.of_gains hgains).requestDestroy (hw.quiet.of_lawful hlawful) hlisted _).of_steady
      hsteady
  · refine ((hw.prompt.of_gains hgains).install (hw.quiet.of_lawful hlawful).coherent ?_).of_steady
      hsteady
    exact (hgains.seats 0 _).mpr (.inr ⟨rfl, rfl⟩)

theorem PromptDesk.closeWindow (hw : PromptDesk w) (key : Key) :
    Prompt (closeWindow (scripted 0) key w).2 := by
  rcases hw.quiet.closeWindow key with ⟨-, heq⟩ | ⟨o, w₁, hkey, hquiet, hsolo, heq⟩
  · rw [heq]
    exact hw.prompt
  · rw [heq, hw.host_eq_zero hkey]
    exact (hw.prompt.of_solo hsolo).requestDestroy hquiet (hw.indexed.isListed.of_solo hsolo) _

theorem PromptDesk.dispatch (hw : PromptDesk w) (native : NativeHandle) (m : Message) :
    Prompt (dispatch (scripted 0) native m w).2 := by
  by_cases hm : m = .destroy
  · subst hm
    exact hw.prompt.of_loses (Loses.dispatch_destroy hw.quiet native) fun _ ↦ List.not_mem_nil
  · cases hfind : World.find? w native with
    | none =>
      simp only [World.dispatch, hfind]
      exact hw.prompt
    | some k =>
      obtain ⟨-, o, hk⟩ := find?_isOpen hfind
      exact hw.prompt.of_solo (hw.quiet.dispatch_solo hm hfind hk)

theorem Prompt.withWindow {β : Type} (h : Prompt w) (hw : Quiet w)
    (body : ObjectId → World → β × World)
    (hevolves : ∀ o, Evolves (fun _ ↦ True) (some o) (w.borrow o) (body o (w.borrow o)).2)
    (hbody : ∀ {o win}, Solo o (w.borrow o) (w.borrow o) win 0 → ∃ win' n,
      Solo o (w.borrow o) (body o (w.borrow o)).2 win' n) :
    Prompt (withWindow (scripted 0) k body w).2 := by
  cases hk : Registry.find? w (some ()) k with
  | none =>
    have hsame : (World.withWindow (scripted 0) k body w).2 = w := by
      simp [World.withWindow, Registry.access, hk]
    rwa [hsame]
  | some o =>
    obtain ⟨win', n, hsolo⟩ := hbody (hw.solo hk)
    exact h.of_solo (hw.withWindow_solo hk body (hevolves o) hsolo).2

theorem PromptDesk.destroyNatives (hw : PromptDesk w) (natives : List NativeHandle) :
    PromptDesk (natives.foldl (fun w native => destroyNative (scripted 0) 0 native w) w) := by
  induction natives generalizing w with
  | nil => exact hw
  | cons native rest ih =>
    exact ih (hw.of_evolves (.destroyNative evolves_alone w 0 native)
      (hw.prompt.destroyNative hw.quiet hw.indexed.isListed native))

theorem PromptDesk.runTimers_eq (hw : PromptDesk w) :
    runTimers (scripted 0) 0 w = World.heartbeat (scripted 0) w :=
  hw.quiet.runTimers_eq hw.watched hw.prompt.one

theorem Prompt.modifyHabits (h : Prompt w) (f : Bundle → Bundle)
    (hseats : ∀ b, (f b).host.seats = b.host.seats)
    (hleft : (f (bundle w 0)).consumed.contains .destroy = false)
    (hatOnce : (f (bundle w 0)).defers = false) : Prompt (modifyBundle 0 f w) := by
  have hbundle := bundle_modifyBundle w 0 0 f (h.one.symm ▸ Nat.one_pos)
  rw [if_pos rfl] at hbundle
  refine ⟨(length_bundles_modifyBundle ..).trans h.one, ?_, ?_, fun {o} ho ↦ ?_⟩
  · rwa [hbundle]
  · rwa [hbundle]
  · rw [host, hbundle, hseats]
    exact h.seated ho

theorem PromptDesk.runHostStep (hw : PromptDesk w) {step : HostStep}
    (hstep : (Step.host 0 step).isPrompt = true) : Prompt (runHostStep (scripted 0) 0 step w).2 := by
  have hhost : 0 < w.env.bundles.length := hw.prompt.one.symm ▸ Nat.one_pos
  cases step with
  | runTimers =>
    simp only [World.runHostStep]
    rw [hw.runTimers_eq]
    exact hw.heartbeat.1.prompt
  | send target m => exact hw.dispatch _ m
  | sendAccel target code down =>
    exact hw.prompt.of_loses (hw.quiet.offerAccel _ _) fun _ ↦ List.not_mem_nil
  | addChild parent rect => exact hw.prompt.of_gains (.addView w hhost _ fun _ ↦ ⟨rfl, rfl⟩)
  | createNative title rect =>
    simp only [World.runHostStep]
    split
    · exact hw.prompt
    · exact hw.prompt.of_gains (.addView w hhost _ fun _ ↦ ⟨rfl, rfl⟩)
  | destroyNative target => exact hw.prompt.destroyNative hw.quiet hw.indexed.isListed _
  | flushDestroy =>
    have hemptied : PromptDesk (modifyBundle 0 ({ · with deferred := [] }) w) :=
      hw.of_evolves (.modifyBundle w 0 _ (fun _ ↦ rfl) fun _ _ ↦ .inl)
        (hw.prompt.modifyHabits _ (fun _ ↦ rfl) hw.prompt.left hw.prompt.atOnce)
    exact (hemptied.destroyNatives _).prompt
  | consume kinds =>
    exact hw.prompt.modifyHabits _ (fun _ ↦ rfl) (by simpa [Step.isPrompt] using hstep)
      hw.prompt.atOnce
  | deferDestroy on =>
    exact hw.prompt.modifyHabits _ (fun _ ↦ rfl) hw.prompt.left (by simpa [Step.isPrompt] using hstep)
  | _ => exact hw.prompt.of_steady (.runHostStep w 0 rfl)

theorem PromptDesk.runStep_flat (hw : PromptDesk w) {s : Step} (hflat : s.isFlat = true)
    (hprompt : s.isPrompt = true) : PromptDesk (runStep (scripted 0) none s w).2 := by
  refine hw.of_evolves
    (.runStep evolves_alone none s (Step.uses_of_forall (fun _ ↦ trivial) s) w) ?_
  cases s with
  | openWindow h config title x y width height =>
    unfold World.runStep
    split
    · next hh =>
      have hopened := hw.openWindow (hasHost_iff.mp hh) config title x y width height
      generalize World.openWindow (scripted 0) h config title x y width height w = result at hopened ⊢
      obtain ⟨opening, w₁⟩ := result
      cases opening with
      | opened native key => exact hopened.of_steady (.addSlot w₁ _)
      | failed | fault => exact hopened
    · exact hw.prompt
  | adopt h raw =>
    unfold World.runStep
    split
    · refine (hw.prompt.withWindow hw.quiet _ (fun o ↦ .refl _ _) fun h ↦ ?_).of_steady (.addSlot _ _)
      exact ⟨_, _, h⟩
    · exact hw.prompt
  | close n =>
    unfold World.runStep
    split
    · exact hw.prompt
    · exact hw.closeWindow _
  | unregister n =>
    unfold World.runStep
    split
    · exact hw.prompt
    · exact hw.prompt.of_loses (.unregister hw.quiet.coherent _) fun _ ↦ List.not_mem_nil
  | heartbeat | tick => exact hw.heartbeat.1.prompt
  | dispatch target m => exact hw.dispatch _ m
  | accel registered target code down =>
    exact hw.prompt.of_loses (hw.quiet.routeKey _ _) fun _ ↦ List.not_mem_nil
  | host h step =>
    unfold World.runStep
    split
    · next hh =>
      obtain rfl := eq_zero_of_hasHost hw.prompt.one hh
      exact hw.runHostStep hprompt
    · exact hw.prompt
  | window place step =>
    cases place with
    | current => exact hw.prompt
    | slot n =>
      unfold World.runStep
      split
      · exact hw.prompt
      · refine hw.prompt.withWindow hw.quiet (fun o w => World.runWindowStep (scripted 0) o step w)
          (fun o ↦ .runWindowStep evolves_alone _ o step trivial) fun h ↦ ?_
        obtain ⟨surroundings, n', hsolo⟩ := h.effect step
        exact ⟨_, n', hsolo⟩
  | within n steps =>
    unfold World.runStep
    split
    · exact hw.prompt
    · refine hw.prompt.withWindow hw.quiet (fun o w => World.runSteps (scripted 0) (some o) steps w)
        (fun o ↦ .runSteps evolves_alone (some o) steps
          (Step.usesAll_of_forall (fun _ ↦ trivial) steps) _) fun h ↦ ?_
      obtain ⟨win', n', -, hsolo⟩ := h.works hflat
      exact ⟨win', n', hsolo⟩
  | hook => cases hflat
  | contains | count | all | find | holdAtlas | dropAtlas | currentAtlas | editAtlas | holdWatchdog
  | dropWatchdog => exact hw.prompt.of_steady (.runStep w rfl)

theorem PromptDesk.runSteps (hw : PromptDesk w) {steps : List Step}
    (hsteps : ∀ s ∈ steps, s.isFlat = true ∧ s.isPrompt = true) :
    PromptDesk (runSteps (scripted 0) none steps w).2 := by
  induction steps generalizing w with
  | nil => exact hw
  | cons s rest ih =>
    obtain ⟨hs, hrest⟩ := List.forall_mem_cons.mp hsteps
    exact ih (hw.runStep_flat hs.1 hs.2) hrest

theorem PromptDesk.runStep (hw : PromptDesk w) {s : Step} (hplain : s.isPlain = true)
    (hprompt : s.isPrompt = true) : PromptDesk (runStep (scripted 0) none s w).2 :=
  hw.runStep_flat (Step.isFlat_of_isPlain hplain) hprompt

end Prompt

section Ticks

variable {w : World} {key : Key} {o : ObjectId} {t : Step}

theorem PromptDesk.mortal (hw : PromptDesk w) : Mortal false w := by
  intro key o hkey hretires
  obtain ⟨hkey₀, -⟩ := hw.quiet.heartbeat_spares hkey
  rw [hw.find?_heartbeat, retiring, hkey₀, Option.any_some, if_pos hretires] at hkey
  cases hkey

theorem PromptDesk.runStep_isTick (hw : PromptDesk w) (ht : t.isTick = true) :
    (World.runStep (scripted 0) none t w).2 = World.heartbeat (scripted 0) w := by
  cases t with
  | heartbeat | tick => rfl
  | host h step =>
    cases step with
    | runTimers =>
      obtain rfl : h = 0 := by simpa [Step.isTick] using ht
      unfold World.runStep
      rw [if_pos (by simp [hasHost, hw.prompt.one])]
      exact hw.runTimers_eq
    | _ => cases ht
  | _ => cases ht

theorem isPlain_of_isTick (ht : t.isTick = true) : t.isPlain = true := by
  cases t with
  | heartbeat | tick | host => rfl
  | _ => cases ht

theorem PromptDesk.idle (hw : PromptDesk w)
    (hkey : Registry.find? (World.heartbeat (scripted 0) w) (some ()) key = some o) :
    (window (World.heartbeat (scripted 0) w) o).inFrame = false ∧
      (window (World.heartbeat (scripted 0) w) o).closeRequested = false := by
  obtain ⟨-, hwindow⟩ := hw.quiet.heartbeat_spares hkey
  have hstays : (window w o).retires = false := by
    rw [Bool.eq_false_iff]
    intro hretires
    cases hw.mortal key o hkey hretires
  obtain ⟨hcalm, -⟩ := Bool.or_eq_false_iff.mp hstays
  rw [hwindow, Window.beaten_of_stays hstays]
  simp [hcalm]

theorem PromptDesk.isWindow_heartbeat (hw : PromptDesk w)
    (hkey : Registry.find? w (some ()) key = some o) (hretires : (window w o).retires = true) :
    (host (World.heartbeat (scripted 0) w) 0).isWindow (window w o).native = false := by
  rw [Bool.eq_false_iff, ne_eq, Host.isWindow_iff]
  rintro ⟨seat, hseat, hnative⟩
  exact hw.heartbeat.2.removed (mem_keys.mpr ⟨o, hkey⟩) hkey hretires seat hseat hnative

/-- The frames that a heartbeat presents are those of the windows that live through it. -/
theorem PromptDesk.presented_heartbeat (hw : PromptDesk w) :
    presented (World.heartbeat (scripted 0) w) 0 = presented w 0 + (w.keys none).countP fun key =>
      isOpen (World.heartbeat (scripted 0) w) key &&
        (Registry.find? w (some ()) key).any fun o => (window w o).inFrame := by
  rw [hw.heartbeat.2.presented]
  congr 1
  refine List.countP_congr fun key hmem ↦ ?_
  obtain ⟨o, hkey⟩ := mem_keys.mp hmem
  have hopen : isOpen (World.heartbeat (scripted 0) w) key = !(window w o).retires := by
    rw [isOpen, Registry.contains, hw.find?_heartbeat, retiring, hkey, Option.any_some]
    cases (window w o).retires <;> rfl
  rw [hopen, presenting, hkey, Option.any_some, Option.any_some, Bool.and_comm]

end Ticks

open WindowEvent

/-- In every script on one host that is not nested and leaves the destruction of windows alone, and
for every tick after it: a window goes exactly if it was asked to close since it was opened, or has
neither been opened nor entered since the last tick. Its native window goes with it. The others
have no frame open and are not asked to close, and as many frames are presented as they had open. -/
theorem ticks_follow_history (setup : HostSetup) {steps : List Step} {t : Step}
    (hsteps : ∀ s ∈ steps, s.isPlain = true ∧ s.isPrompt = true) (ht : t.isTick = true) :
    let w := (Session.run [setup] steps).2
    let w' := (Session.run [setup] (steps ++ [t])).2
    (∀ key o, Registry.find? w (some ()) key = some o →
      let es := ofChronicle (chronicle key (World.empty [setup]) steps)
      (Registry.find? w' (some ()) key = none ↔
        es.any asks = true ∨ (after isTick es).any refreshes = false) ∧
      (Registry.find? w' (some ()) key = none → (host w' 0).isWindow (window w o).native = false)) ∧
    (∀ key o, Registry.find? w' (some ()) key = some o →
      Registry.find? w (some ()) key = some o ∧ (window w' o).inFrame = false ∧
        (window w' o).closeRequested = false) ∧
    presented w' 0 = presented w 0 + (w.keys none).countP fun key =>
      isOpen w' key && (Registry.find? w (some ()) key).any fun o => (window w o).inFrame := by
  intro w w'
  have hrun (key : Key) := annals_run (P := PromptDesk) (fun hs ↦ hs.1)
    (fun hw ↦ ⟨hw.quiet, hw.watched, hw.mortal⟩) (fun hs hw ↦ hw.runStep hs.1 hs.2) hsteps
    (promptDesk_empty setup) (annals_empty false key [setup])
  have hplain : ∀ s ∈ steps, s.isPlain = true := fun s hs ↦ (hsteps s hs).1
  rw [← run_of_isPlain [setup] hplain] at hrun
  have hw : PromptDesk w := (hrun default).1
  have hw' : w' = heartbeat (scripted 0) w := by
    have hall : ∀ s ∈ steps ++ [t], s.isPlain = true := by
      rw [List.forall_mem_append, List.forall_mem_singleton]
      exact ⟨hplain, isPlain_of_isTick ht⟩
    rw [← hw.runStep_isTick ht]
    dsimp only [w, w']
    rw [run_of_isPlain [setup] hall, run_of_isPlain [setup] hplain, runSteps_snoc]
  rw [hw']
  refine ⟨fun key o hkey ↦ ?_, fun key o hkey ↦ ⟨(hw.quiet.heartbeat_spares hkey).1, hw.idle hkey⟩,
    hw.presented_heartbeat⟩
  have hretires := ((hrun key).2.live hkey).retires_eq
  rw [List.nil_append] at hretires
  have hgone : Registry.find? (heartbeat (scripted 0) w) (some ()) key = none ↔
      (window w o).retires = true := by
    rw [hw.find?_heartbeat, retiring, hkey, Option.any_some]
    cases (window w o).retires <;> simp
  refine ⟨?_, fun hnone ↦ hw.isWindow_heartbeat hkey (hgone.mp hnone)⟩
  rw [hgone, hretires, Bool.or_eq_true, Bool.not_eq_true']

/-- Of three windows one was entered, one asked to close while a frame is open, and one left alone. -/
theorem ticks_follow_history_timers :
    let steps : List Step :=
      [.openWindow 0 {} "a" 0 0 9 9, .openWindow 0 {} "b" 0 0 9 9, .openWindow 0 {} "c" 0 0 9 9, .tick,
        .window (.slot 0) .enterFrame,
        .within 1 [.window .current .enterFrame, .window .current .requestClose]]
    let w := (Session.run [{}] steps).2
    let w' := (Session.run [{}] (steps ++ [.host 0 .runTimers])).2
    (∀ s ∈ steps, s.isPlain = true ∧ s.isPrompt = true) ∧
      (Step.host 0 .runTimers).isTick = true ∧ w.keys none = [⟨1, 1⟩, ⟨2, 1⟩, ⟨3, 1⟩] ∧
      Registry.find? w' (some ()) ⟨1, 1⟩ ≠ none ∧ Registry.find? w' (some ()) ⟨2, 1⟩ = none ∧
      Registry.find? w' (some ()) ⟨3, 1⟩ = none ∧ presented w' 0 = presented w 0 + 1 := by
  intro steps w w'
  have hsteps : ∀ s ∈ steps, s.isPlain = true ∧ s.isPrompt = true := by decide
  have hkeys : w.keys none = [⟨1, 1⟩, ⟨2, 1⟩, ⟨3, 1⟩] := by decide +kernel
  obtain ⟨hlive, -, hpresented⟩ := ticks_follow_history {} hsteps (t := .host 0 .runTimers) rfl
  have hopen {key : Key} (hmem : key ∈ w.keys none) := mem_keys.mp hmem
  obtain ⟨o₁, hkey₁⟩ := hopen (hkeys ▸ by simp : (⟨1, 1⟩ : Key) ∈ w.keys none)
  obtain ⟨o₂, hkey₂⟩ := hopen (hkeys ▸ by simp : (⟨2, 1⟩ : Key) ∈ w.keys none)
  obtain ⟨o₃, hkey₃⟩ := hopen (hkeys ▸ by simp : (⟨3, 1⟩ : Key) ∈ w.keys none)
  have hone : ((w.keys none).countP fun key => isOpen w' key &&
      (Registry.find? w (some ()) key).any fun o => (window w o).inFrame) = 1 := by decide +kernel
  refine ⟨hsteps, rfl, hkeys, ?_, ?_, ?_, hpresented.trans (congrArg _ hone)⟩
  · rw [ne_eq, (hlive _ _ hkey₁).1]
    decide +kernel
  · rw [(hlive _ _ hkey₂).1]
    decide +kernel
  · rw [(hlive _ _ hkey₃).1]
    decide +kernel

end World

end Casement
