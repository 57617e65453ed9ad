import Casement.Proofs.World.Hosts
import Casement.Proofs.World.Sharing
import Casement.Proofs.World.Views

namespace Casement

def Host.spent (s : Host) (handles timers : Nat) : Host :=
  { s with nextHandle := s.nextHandle + handles, nextTimer := s.nextTimer + timers }

def Host.uncaptured (s : Host) (h : NativeHandle) : Host :=
  { s with capture := if s.capture = some h then none else s.capture }

theorem Host.removeView_addWindow {s : Host} (hissued : ∀ seat ∈ s.seats, seat.1.val < s.nextHandle)
    (hs : s.Grounded) (title : String) (rect : Rect) :
    (s.addWindow title rect).removeView s.freshHandle = (s.spent 1 0).uncaptured s.freshHandle := by
  have hkept : s.views.filter (fun v => v.handle ≠ s.freshHandle ∧ v.parent ≠ some s.freshHandle) =
      s.views := by
    refine List.filter_eq_self.mpr fun v hv ↦ decide_eq_true ⟨fun heq ↦ ?_, fun heq ↦ ?_⟩
    · have hlt := hissued _ (List.mem_map_of_mem hv)
      rw [heq] at hlt
      exact Nat.lt_irrefl _ hlt
    · have hlt := hissued _ (List.mem_map_of_mem hv)
      exact Nat.lt_asymm hlt (hs _ (List.mem_map_of_mem hv) _ heq)
  have hviews : ((s.addWindow title rect).removeView s.freshHandle).views = s.views := by
    simp only [removeView, addWindow, addView, List.filter_append, hkept]
    simp
  exact congrArg (fun views ↦ { (s.spent 1 0).uncaptured s.freshHandle with views }) hviews

theorem Host.removeTimer_addTimer {s : Host} (h : s.timers = []) :
    s.addTimer.removeTimer s.freshTimer = s.spent 0 1 := by
  simp [removeTimer, addTimer, spent, h]

theorem Shared.release_retain {α : Type} {s : Shared α} (h : 0 < s.owners) : s.retain.release = s := by
  simp [release, retain, Nat.not_le_of_lt h]

namespace World

variable {w v : World} {native : NativeHandle} {h : Nat}

theorem atlas_acquireAtlas (w : World) : (acquireAtlas w).env.atlas =
    if w.env.atlas.isAlive then w.env.atlas.retain else w.env.atlas.start {} := by
  unfold acquireAtlas
  split <;> rfl

theorem watchdog_acquireAtlas (w : World) : (acquireAtlas w).env.watchdog = w.env.watchdog := by
  unfold acquireAtlas
  split <;> rfl

theorem watchdog_acquireWatchdog (w : World) (h : Nat) : (acquireWatchdog h w).env.watchdog =
    if w.env.watchdog.isAlive then w.env.watchdog.retain
    else w.env.watchdog.start ⟨h, (host w h).freshTimer⟩ := by
  unfold acquireWatchdog
  split <;> rfl

/-- Who takes two shares of an atlas and gives them back leaves it as it was. -/
theorem atlas_discharge {n : Nat} (hcounted : w.env.atlas.Counted n)
    (hv : v.env.atlas = (equip h w).env.atlas) :
    (discharge v).env.atlas.value = w.env.atlas.value := by
  have hstock : (discharge v).env.atlas = v.env.atlas.release.release :=
    congrArg (·.1) (stock_releaseWatchdog _)
  have hatlas : (acquireWatchdog h w).env.atlas = w.env.atlas := congrArg (·.1) (stock_acquireWatchdog w h)
  rw [hstock, hv, equip, atlas_acquireAtlas, atlas_acquireAtlas, hatlas]
  cases hvalue : w.env.atlas.value with
  | some a =>
    have halive : w.env.atlas.isAlive = true := by simp [Shared.isAlive, hvalue]
    have howned : 0 < w.env.atlas.owners := by
      rw [hcounted.owners]
      exact hcounted.pos (by simp [hvalue])
    have hretained : w.env.atlas.retain.isAlive = true := halive
    rw [if_pos halive, if_pos hretained, Shared.release_retain (Nat.succ_pos _),
      Shared.release_retain howned, hvalue]
  | none =>
    have hdead : w.env.atlas.isAlive = false := by simp [Shared.isAlive, hvalue]
    have hstarted : (w.env.atlas.start {}).isAlive = true := rfl
    rw [if_neg (Bool.eq_false_iff.mp hdead), if_pos hstarted, Shared.release_retain Nat.one_pos]
    rfl

theorem releaseWatchdog_shared (hmore : 1 < w.env.watchdog.owners) :
    releaseWatchdog w = w.modifyEnv fun d => { d with watchdog := d.watchdog.release } := by
  unfold releaseWatchdog
  dsimp only
  split
  · rw [if_neg (by simp [Shared.isLast, hmore])]
  · rfl

theorem releaseWatchdog_last {dog : Watchdog} (hvalue : w.env.watchdog.value = some dog)
    (hlast : w.env.watchdog.owners ≤ 1) :
    releaseWatchdog w = note (.watchdogStopped dog.timer) (modifyHost dog.host (·.removeTimer dog.timer)
      (call dog.host (.unregisterTimer dog.timer)
        (w.modifyEnv fun d => { d with watchdog := d.watchdog.release }))) := by
  unfold releaseWatchdog
  dsimp only
  rw [hvalue]
  exact if_pos (decide_eq_true hlast)

/-- The watchdog runs on, or has come and gone with its timer. -/
theorem watchdog_discharge (hw : Watched 0 w) (hv : v.env.watchdog = (equip h w).env.watchdog)
    (hh : h < v.env.bundles.length) :
    (discharge v).env.watchdog.value = w.env.watchdog.value ∧
      bundle (discharge v) h =
        if w.env.watchdog.isAlive then bundle v h
        else { bundle v h with host := (host v h).removeTimer (host w h).freshTimer } := by
  rw [equip, watchdog_acquireAtlas, watchdog_acquireAtlas, watchdog_acquireWatchdog] at hv
  unfold discharge
  -- a watchdog that ran before runs on, and one that was started is stopped again
  cases hvalue : w.env.watchdog.value with
  | some dog =>
    have halive : w.env.watchdog.isAlive = true := by simp [Shared.isAlive, hvalue]
    have howned : 0 < w.env.watchdog.owners := by
      have hrunning := Guarded.running hw
      rw [hvalue, Option.isSome_some] at hrunning
      rw [Guarded.owners hw]
      exact of_decide_eq_true hrunning.symm
    rw [if_pos halive] at hv ⊢
    have hmore : 1 < (releaseAtlas (releaseAtlas v)).env.watchdog.owners := by
      change 1 < v.env.watchdog.owners
      rw [hv]
      exact Nat.succ_lt_succ howned
    rw [releaseWatchdog_shared hmore]
    refine ⟨?_, rfl⟩
    change v.env.watchdog.release.value = some dog
    rw [hv, Shared.release_retain howned, hvalue]
  | none =>
    have hdead : w.env.watchdog.isAlive = false := by simp [Shared.isAlive, hvalue]
    rw [if_neg (Bool.eq_false_iff.mp hdead)] at hv ⊢
    have hstarted : (releaseAtlas (releaseAtlas v)).env.watchdog =
        w.env.watchdog.start ⟨h, (host w h).freshTimer⟩ := hv
    have hdog : (releaseAtlas (releaseAtlas v)).env.watchdog.value = some ⟨h, (host w h).freshTimer⟩ := by
      rw [hstarted]
      rfl
    rw [releaseWatchdog_last hdog (by rw [hstarted]; rfl)]
    refine ⟨?_, ?_⟩
    · change v.env.watchdog.release.value = none
      rw [hv]
      rfl
    · rw [bundle_note, modifyHost, bundle_modifyBundle _ h h _ (by exact hh), if_pos rfl, bundle_call]
      rfl

theorem bundle_equip (hh : h < w.env.bundles.length) : bundle (equip h w) h =
    if w.env.watchdog.isAlive then bundle w h
    else { bundle w h with host := (host w h).addTimer } := by
  rw [equip, bundle_acquireAtlas, bundle_acquireAtlas, acquireWatchdog]
  split
  · rfl
  · exact (bundle_modifyBundle w h h _ hh).trans (if_pos rfl)

theorem bundle_prepare (hh : h < w.env.bundles.length) (style : GuiStyle) :
    bundle (prepare h style w) h =
      { bundle (equip h w) h with
        gui := { (bundle (equip h w) h).gui with contexts := (bundle (equip h w) h).gui.contexts + 1 } } := by
  have hequipped : h < (equip h w).env.bundles.length := by
    simpa [equip] using hh
  rw [prepare, bundle_call, modifyGui, bundle_modifyBundle _ h h _ (by exact hequipped), if_pos rfl,
    bundle_call]

theorem reading_prepare {β : Type} (hh : h < w.env.bundles.length) (style : GuiStyle) (read : Bundle → β)
    (htimer : ∀ b : Bundle, read { b with host := b.host.addTimer } = read b)
    (hgui : ∀ (b : Bundle) (gui : GuiState), read { b with gui } = read b) :
    read (bundle (prepare h style w) h) = read (bundle w h) := by
  rw [bundle_prepare hh, hgui, bundle_equip hh]
  split
  · rfl
  · exact htimer _

theorem bundle_requested (hh : h < w.env.bundles.length) (style : GuiStyle) (title : String)
    (rect : Rect) : bundle (requested h style title rect w) h =
      { bundle (prepare h style w) h with host := (host (prepare h style w) h).addWindow title rect } := by
  have hprepared : h < (prepare h style w).env.bundles.length := (Steady.prepare w h style).hosts.symm ▸ hh
  unfold requested build scripted
  dsimp only
  rw [bundle_call, bundle_call, modifyHost, bundle_modifyBundle _ h h _ hprepared, if_pos rfl, host]

section Ends

variable (config : ContextConfig) (title : String) (x y width height : Int32)

theorem openWindow_refused (hh : h < w.env.bundles.length) (hrefuses : (host w h).refusesWindows = true) :
    openWindow (scripted 0) h config title x y width height w = (.fault .noNativeWindow,
      discharge (call h .dropContext (call h (.createWindow none) (prepare h config.style w)))) := by
  have hprepared : (host (prepare h config.style w) h).refusesWindows = true :=
    (reading_prepare hh config.style (·.host.refusesWindows) (fun _ ↦ rfl) fun _ _ ↦ rfl).trans hrefuses
  exact if_pos hprepared

theorem openWindow_unbacked (hh : h < w.env.bundles.length) (hrefuses : (host w h).refusesWindows = false)
    (hfails : (bundle w h).failsCreation = true) :
    (openWindow (scripted 0) h config title x y width height w).1 =
      .failed (.backend ⟨(host w h).freshHandle, (host w h).platform⟩) := by
  have hprepared : (host (prepare h config.style w) h).refusesWindows = false :=
    (reading_prepare hh config.style (·.host.refusesWindows) (fun _ ↦ rfl) fun _ _ ↦ rfl).trans hrefuses
  have hmade : (bundle (requested h config.style title (.ofPosSize x y width height) w) h).failsCreation =
      true := by
    rw [bundle_requested hh]
    exact (reading_prepare hh config.style (·.failsCreation) (fun _ ↦ rfl) fun _ _ ↦ rfl).trans hfails
  rw [← freshHandle_prepare w h config.style]
  unfold openWindow
  dsimp only
  rw [if_neg (by exact Bool.eq_false_iff.mp hprepared), if_pos (by exact hmade)]
  rfl

theorem openWindow_backed (hh : h < w.env.bundles.length) (hrefuses : (host w h).refusesWindows = false)
    (hfails : (bundle w h).failsCreation = false) :
    ∃ native key, (openWindow (scripted 0) h config title x y width height w).1 = .opened native key := by
  have hprepared : (host (prepare h config.style w) h).refusesWindows = false :=
    (reading_prepare hh config.style (·.host.refusesWindows) (fun _ ↦ rfl) fun _ _ ↦ rfl).trans hrefuses
  have hmade : (bundle (requested h config.style title (.ofPosSize x y width height) w) h).failsCreation =
      false := by
    rw [bundle_requested hh]
    exact (reading_prepare hh config.style (·.failsCreation) (fun _ ↦ rfl) fun _ _ ↦ rfl).trans hfails
  unfold openWindow
  dsimp only
  rw [if_neg (by exact Bool.eq_false_iff.mp hprepared), if_neg (by exact Bool.eq_false_iff.mp hmade)]
  exact ⟨_, _, rfl⟩

end Ends

def dismissed (native : NativeHandle) (b : Bundle) : Bundle :=
  if b.defers then { b with deferred := b.deferred ++ [native] }
  else { b with host := b.host.removeView native }

theorem requestDestroy_unlisted (hunlisted : find? w native = none)
    (hwindow : (host w h).isWindow native = true) : requestDestroy (scripted 0) h native w =
      modifyBundle h (dismissed native) (call h (.destroyWindow native) w) := by
  have hbundle : bundle (call h (.destroyWindow native) w) h = bundle w h := rfl
  have hdispatch : dispatch (scripted 0) native .destroy (call h (.destroyWindow native) w) =
      (.default, call h (.destroyWindow native) w) := by
    unfold dispatch
    rw [show find? (call h (.destroyWindow native) w) native = none from hunlisted]
  unfold requestDestroy
  dsimp only
  rw [hbundle]
  split
  · next hdefers => exact modifyBundle_congr (by rw [hbundle, dismissed, if_pos hdefers])
  · next hdefers =>
    rw [destroyNative, hdispatch]
    refine (if_pos hwindow).trans (modifyBundle_congr ?_)
    rw [hbundle, dismissed, if_neg hdefers]

/-- An opening that has taken its shares of the atlas and the watchdog, and registered nothing. -/
structure Pending (h : Nat) (w v : World) : Prop extends SameWindows w v where
  index : v.env.index = w.env.index
  atlas : v.env.atlas = (equip h w).env.atlas
  watchdog : v.env.watchdog = (equip h w).env.watchdog
  hosts : v.env.bundles.length = w.env.bundles.length

namespace Pending

theorem prepare (w : World) (h : Nat) (style : GuiStyle) : Pending h w (prepare h style w) where
  toSameWindows := (Steady.prepare w h style).same
  index := (Steady.prepare w h style).index
  atlas := rfl
  watchdog := rfl
  hosts := (Steady.prepare w h style).hosts

theorem note (hv : Pending h w v) (r : LogRecord) : Pending h w (note r v) :=
  ⟨⟨hv.entries, hv.cells, hv.dropped⟩, hv.index, hv.atlas, hv.watchdog, hv.hosts⟩

theorem call (hv : Pending h w v) (i : Nat) (c : Call) : Pending h w (call i c v) :=
  ⟨⟨hv.entries, hv.cells, hv.dropped⟩, hv.index, hv.atlas, hv.watchdog, hv.hosts⟩

theorem modifyBundle (hv : Pending h w v) (i : Nat) (f : Bundle → Bundle) :
    Pending h w (modifyBundle i f v) :=
  ⟨⟨hv.entries, hv.cells, hv.dropped⟩, hv.index, hv.atlas, hv.watchdog,
    (length_bundles_modifyBundle ..).trans hv.hosts⟩

theorem requested (w : World) (h : Nat) (style : GuiStyle) (title : String) (rect : Rect) :
    Pending h w (requested h style title rect w) :=
  (((Pending.prepare w h style).modifyBundle h _).call h _).call h _

theorem bundle_discharge (hv : Pending h w v) (hw : Watched 0 w) (hh : h < w.env.bundles.length)
    (style : GuiStyle) {f : Bundle → Bundle} (hbundle : bundle v h = f (bundle (World.prepare h style w) h))
    (hf : ∀ b t, { f b with host := (f b).host.removeTimer t } = f { b with host := b.host.removeTimer t }) :
    bundle (discharge v) h = f
      { bundle w h with
        gui := { (bundle w h).gui with contexts := (bundle w h).gui.contexts + 1 }
        host := (host w h).spent 0 (if w.env.watchdog.isAlive then 0 else 1) } := by
  rw [(watchdog_discharge hw hv.watchdog (hv.hosts.symm ▸ hh)).2, host, hbundle, hf, bundle_prepare hh,
    bundle_equip hh]
  split
  · rfl
  · next hdead =>
    have hstopped : w.env.watchdog.value = none := by simpa [Shared.isAlive] using hdead
    have htimers : (host w h).timers = [] := by
      rw [Guarded.timers hw, hstopped]
      rfl
    exact congrArg (fun host ↦ f { bundle w h with
      gui := { (bundle w h).gui with contexts := (bundle w h).gui.contexts + 1 }, host })
      (Host.removeTimer_addTimer htimers)

end Pending

/-- Worlds that differ in their hosts, and in what was called and logged, only. -/
structure Restored (w w' : World) : Prop extends SameWindows w w' where
  index : w'.env.index = w.env.index
  atlas : w'.env.atlas.value = w.env.atlas.value
  watchdog : w'.env.watchdog.value = w.env.watchdog.value

theorem Pending.restored {n : Nat} (hv : Pending h w v) (hatlas : w.env.atlas.Counted n)
    (hw : Watched 0 w) (hh : h < w.env.bundles.length) : Restored w (discharge v) where
  toSameWindows := hv.toSameWindows.trans ((sameWindows_releaseAtlas _).trans
    ((sameWindows_releaseAtlas _).trans (sameWindows_releaseWatchdog _)))
  index := (index_releaseWatchdog _).trans hv.index
  atlas := atlas_discharge hatlas hv.atlas
  watchdog := (watchdog_discharge hw hv.watchdog (hv.hosts.symm ▸ hh)).1

theorem GroundedAtRest.find?_freshHandle (hw : GroundedAtRest w) :
    find? w (host w 0).freshHandle = none := by
  refine Option.eq_none_iff_forall_ne_some.mpr fun key hkey ↦ ?_
  exact hw.sited.native?_ne_fresh hw.quiet key (hw.sited.find?_eq_some_iff.mp hkey)

theorem GroundedAtRest.openWindow_failed (hw : GroundedAtRest w) {config : ContextConfig}
    {title : String}
    {x y width height : Int32} {cause : WindowError}
    (hfailed : (World.openWindow (scripted 0) 0 config title x y width height w).1 = .failed cause) :
    (World.openWindow (scripted 0) 0 config title x y width height w).2 =
      World.discharge (modifyBundle 0 (dismissed (host w 0).freshHandle)
        (call 0 (.destroyWindow (host w 0).freshHandle) (call 0 .dropContext
          (note (.backendFailed title ⟨(host w 0).freshHandle, (host w 0).platform⟩)
            (requested 0 config.style title (.ofPosSize x y width height) w))))) := by
  have hhost : 0 < w.env.bundles.length := hw.one.symm ▸ Nat.one_pos
  have hgains := Gains.requested hhost config.style title (.ofPosSize x y width height)
  rw [World.openWindow_failed hfailed]
  generalize requested 0 config.style title (.ofPosSize x y width height) w = made at hgains ⊢
  have hunlisted : find? made (host w 0).freshHandle = none := by
    rw [← hw.find?_freshHandle, find?, find?, hgains.index]
    congr 1
    funext key
    rw [isOpen, isOpen, Registry.contains, Registry.contains, hgains.alike.find?]
  have hmade : (host made 0).isWindow (host w 0).freshHandle = true :=
    Host.isWindow_iff.mpr ⟨_, (hgains.seats 0 _).mpr (.inr ⟨rfl, rfl⟩), rfl⟩
  rw [requestDestroy_unlisted (by exact hunlisted) (by exact hmade)]
  rfl

/-- A host with an opening that failed: its native window is gone, or waits to be destroyed. -/
theorem GroundedAtRest.bundle_failed (hw : GroundedAtRest w) (hv : Pending 0 w v)
    (style : GuiStyle) (title : String)
    (rect : Rect) (hbundle : bundle v 0 = dismissed (host w 0).freshHandle
      { bundle (prepare 0 style w) 0 with host := (host (prepare 0 style w) 0).addWindow title rect }) :
    let b := { bundle w 0 with
      gui := { (bundle w 0).gui with contexts := (bundle w 0).gui.contexts + 1 } }
    let timers := if w.env.watchdog.isAlive then 0 else 1
    bundle (discharge v) 0 =
      if b.defers then
        { b with
          host := ((host w 0).addWindow title rect).spent 0 timers
          deferred := b.deferred ++ [(host w 0).freshHandle] }
      else { b with host := ((host w 0).spent 1 timers).uncaptured (host w 0).freshHandle } := by
  intro b timers
  have hhost : 0 < w.env.bundles.length := hw.one.symm ▸ Nat.one_pos
  rw [hv.bundle_discharge hw.watched hhost style
    (f := fun b ↦ dismissed (host w 0).freshHandle { b with host := b.host.addWindow title rect }) hbundle]
  · unfold dismissed
    dsimp only
    split
    · rfl
    · have hgone := Host.removeView_addWindow (s := (host w 0).spent 0 timers) (hw.rooted.issued 0)
        hw.grounded title rect
      exact congrArg (fun host ↦ { b with host }) hgone
  · intro b t
    unfold dismissed
    dsimp only
    split <;> rfl

/-- After every script on one host that is not nested and adds views only in views that are there:
an opening whose native window is refused, or whose renderer is not to be had, leaves the registry,
the index, every window, the watchdog and the atlas as they were. Of its host, numbers were used up,
and a GUI was counted. A renderer that is not to be had has the native window destroyed: a capture
that had been given to its handle is released with it, and a host that defers destruction keeps it
until then. -/
theorem failed_opening_restores (setup : HostSetup) {steps : List Step}
    (hgrows : grows (World.empty [setup]) steps = true) (config : ContextConfig) (title : String)
    (x y width height : Int32) :
    let w := (Session.run [setup] steps).2
    let out := openWindow (scripted 0) 0 config title x y width height w
    let fresh := (host w 0).freshHandle
    let b := { bundle w 0 with
      gui := { (bundle w 0).gui with contexts := (bundle w 0).gui.contexts + 1 } }
    let timers := if w.env.watchdog.isAlive then 0 else 1
    ((host w 0).refusesWindows = true →
      out.1 = .fault .noNativeWindow ∧ Restored w out.2 ∧
      bundle out.2 0 = { b with host := (host w 0).spent 0 timers }) ∧
    ((host w 0).refusesWindows = false → b.failsCreation = true →
      out.1 = .failed (.backend ⟨fresh, (host w 0).platform⟩) ∧ Restored w out.2 ∧
      bundle out.2 0 =
        if b.defers then
          { b with
            host := ((host w 0).addWindow title (.ofPosSize x y width height)).spent 0 timers
            deferred := b.deferred ++ [fresh] }
        else { b with host := ((host w 0).spent 1 timers).uncaptured fresh }) ∧
    ((host w 0).refusesWindows = false → b.failsCreation = false →
      ∃ native key, out.1 = .opened native key) := by
  intro w out fresh b timers
  have hw : GroundedAtRest w := groundedAtRest_run setup hgrows
  have hhost : 0 < w.env.bundles.length := hw.one.symm ▸ Nat.one_pos
  have hshares : Shares w := by
    have hrun : w = _ := run_of_isFlat [setup] (isFlat_of_grows hgrows)
    exact hrun ▸ shares_run [setup] 0 steps
  refine ⟨fun hrefuses ↦ ?_, fun hrefuses hfails ↦ ?_, fun hrefuses hfails ↦ ?_⟩
  · have hv : Pending 0 w _ :=
      ((Pending.prepare w 0 config.style).call 0 (.createWindow none)).call 0 .dropContext
    have hout : out = _ := openWindow_refused config title x y width height hhost hrefuses
    rw [hout]
    exact ⟨rfl, hv.restored hshares.supplied.counted hw.watched hhost,
      hv.bundle_discharge hw.watched hhost config.style (f := id) rfl fun _ _ ↦ rfl⟩
  · have hcause : out.1 = _ := openWindow_unbacked config title x y width height hhost hrefuses hfails
    have hv : Pending 0 w _ := ((((Pending.requested w 0 config.style title
      (.ofPosSize x y width height)).note (.backendFailed title ⟨fresh, (host w 0).platform⟩)).call 0
        .dropContext).call 0 (.destroyWindow fresh)).modifyBundle 0 (dismissed fresh)
    refine ⟨hcause, ?_⟩
    have hout : out.2 = _ := hw.openWindow_failed hcause
    rw [hout]
    refine ⟨hv.restored hshares.supplied.counted hw.watched hhost,
      hw.bundle_failed hv config.style title (.ofPosSize x y width height) ?_⟩
    have hhosts := (Pending.requested w 0 config.style title (.ofPosSize x y width height)).hosts
    rw [bundle_modifyBundle _ 0 0 _ (by exact hhosts.symm ▸ hhost), if_pos rfl, bundle_call, bundle_call,
      bundle_note, bundle_requested hhost]
  · exact openWindow_backed config title x y width height hhost hrefuses hfails

/-- A second window, with a view in the first and the capture elsewhere. -/
theorem failed_opening_restores_second :
    let steps : List Step := [.openWindow 0 {} "a" 0 0 10 10,
      .host 0 (.addChild (.handle ⟨1⟩) (.ofPosSize 0 0 5 5)), .host 0 (.setCapture (.handle ⟨2⟩)),
      .host 0 (.failCreation true)]
    let w := (Session.run [{}] steps).2
    let out := openWindow (scripted 0) 0 {} "b" 0 0 10 10 w
    out.1 = .failed (.backend ⟨⟨3⟩, .fallback⟩) ∧ Restored w out.2 ∧
      host out.2 0 = { host w 0 with nextHandle := 4 } := by
  intro steps w out
  have hgrows : grows (World.empty [{}]) steps = true := by decide +kernel
  have hbundle : (bundle w 0).defers = false := by decide +kernel
  have halive : w.env.watchdog.isAlive = true := by decide +kernel
  have hspent : ((host w 0).spent 1 0).uncaptured (host w 0).freshHandle =
      { host w 0 with nextHandle := 4 } := by decide +kernel
  have hfresh : (⟨(host w 0).freshHandle, (host w 0).platform⟩ : BackendError) = ⟨⟨3⟩, .fallback⟩ := by
    decide +kernel
  obtain ⟨-, hfails, -⟩ := failed_opening_restores {} hgrows {} "b" 0 0 10 10
  obtain ⟨hcause, hrestored, hleft⟩ := hfails (by decide +kernel) (by decide +kernel)
  refine ⟨hfresh ▸ hcause, hrestored, ?_⟩
  rw [host, hleft, if_neg (by rw [hbundle]; decide), if_pos halive]
  exact hspent

/-- The handle of the window to be opened already has the capture, and loses it as the opening fails. -/
theorem failed_opening_releases_capture :
    let w := (Session.run [{}] [.host 0 (.setCapture (.handle ⟨1⟩)), .host 0 (.failCreation true)]).2
    let out := openWindow (scripted 0) 0 {} "a" 0 0 10 10 w
    out.1 = .failed (.backend ⟨⟨1⟩, .fallback⟩) ∧ (host w 0).capture = some ⟨1⟩ ∧
      (host out.2 0).capture = none := by
  decide +kernel

end World

end Casement
