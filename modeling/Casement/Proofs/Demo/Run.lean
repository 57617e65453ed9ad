import Casement.Proofs.Demo.Opening
import Casement.Proofs.World.FrameProtocol
import Casement.Proofs.World.Sharing
import Mathlib.Algebra.Order.Ring.Nat
import Mathlib.Order.Lattice.Nat

namespace Casement

namespace Demo

open World

variable {w₀ w w' w'' : World} {key : Key} {o : ObjectId} {shown : List Shown} {t : Nat}

/-- The windows as the demo has them after `t` ticks. -/
structure Stage (w₀ : World) (shown : List Shown) (t : Nat) (w : World) : Prop where
  reached : ∀ ok, Evolves ok none w₀ w
  promptDesk : PromptDesk w
  kept : w.env.keptWatchdogs = 0
  found : ∀ key, isOpen w key = true ↔ ∃ s ∈ shown, s.key = key ∧ t ≤ max s.frames.toNat 1
  pose : ∀ {key o}, Registry.find? w (some ()) key = some o → (window w o).pose = (false, decide (t = 0), false, false)
  presented : presented w 0 = (shown.map fun s => min s.frames.toNat t).sum
  roomy : ∀ first ∈ shown.head?, Roomy first.key w

theorem isOpen_start (platform : Platform) (key : Key) : isOpen (start platform) key = false := by
  simp [start, isOpen, Registry.contains, Registry.find?, SlotMap.get?, SlotMap.slot?]

theorem Opened.stage {platform : Platform} (h : Opened shown (start platform) w)
    (hroomy : ∀ first ∈ shown.head?, Roomy first.key w) : Stage (start platform) shown 0 w where
  reached := h.evolves
  promptDesk := h.hospitable.toPromptDesk
  kept := h.kept
  found key := by simp [h.found, isOpen_start]
  pose {key o} hkey := by
    have hopen := (h.found key).mp (isOpen_iff.mpr ⟨o, hkey⟩)
    rw [isOpen_start, or_iff_right Bool.false_ne_true] at hopen
    obtain ⟨s, hs, rfl⟩ := hopen
    exact h.pose hs hkey
  presented := by
    rw [h.presented]
    simp [start, World.presented, bundle]
  roomy := hroomy

theorem key_mem_filter (hnodup : (shown.map (·.key)).Nodup) (p : Shown → Bool) {s : Shown} (hs : s ∈ shown) :
    s.key ∈ (shown.filter p).map (·.key) ↔ p s = true := by
  constructor
  · intro hmem
    obtain ⟨s', hs', heq⟩ := List.mem_map.mp hmem
    obtain ⟨hs', hp⟩ := List.mem_filter.mp hs'
    rwa [List.inj_on_of_nodup_map hnodup hs' hs heq] at hp
  · intro hp
    exact List.mem_map.mpr ⟨s, List.mem_filter.mpr ⟨hs, hp⟩, rfl⟩

theorem Roomy.of_abides (hroomy : Roomy key w) (habides : Abides w w')
    (hkept : ∀ o, Registry.find? w' (some ()) key = some o →
      Registry.find? w (some ()) key = some o ∧ (window w' o).native = (window w o).native) : Roomy key w' := by
  intro o hkey v hv hhandle
  obtain ⟨hkey₀, hnative⟩ := hkept o hkey
  exact hroomy o hkey₀ v (habides.views 0 v hv) (hhandle.trans hnative)

theorem Stage.composed (h : Stage w₀ shown t w) : Composed w := by
  intro key o hkey
  have hpose := h.pose hkey
  simp only [Window.pose, Prod.mk.injEq] at hpose
  rw [hpose.2.2.1, hpose.2.2.2]

theorem perm_keys (hnodup : (shown.map (·.key)).Nodup)
    (hfound : ∀ key, isOpen w key = true ↔ ∃ s ∈ shown, s.key = key ∧ t ≤ max s.frames.toNat 1) :
    (w.keys none).Perm ((shown.filter (t ≤ max ·.frames.toNat 1)).map (·.key)) := by
  refine (List.perm_ext_iff_of_nodup (w.nodup_keys none) (hnodup.sublist (List.filter_sublist.map _))).mpr fun key ↦ ?_
  rw [mem_keys, ← isOpen_iff, hfound, List.mem_map]
  simp only [List.mem_filter, decide_eq_true_eq]
  constructor
  · rintro ⟨s, hs, hkey, hlasts⟩
    exact ⟨s, ⟨hs, hlasts⟩, hkey⟩
  · rintro ⟨s, ⟨hs, hlasts⟩, hkey⟩
    exact ⟨s, hs, hkey, hlasts⟩

theorem count_eq_length_keys (w : World) : w.count () = (w.keys none).length := by
  simp [Registry.count, Registry.keys, Registry.matchesKind]

theorem Stage.count (h : Stage w₀ shown t w) (hnodup : (shown.map (·.key)).Nodup) :
    w.count () = shown.countP (t ≤ max ·.frames.toNat 1) := by
  rw [count_eq_length_keys, (perm_keys hnodup h.found).length_eq, List.length_map, List.countP_eq_length_filter]

theorem replayed (h : Stage w₀ shown t w) (tick : Nat) :
    ∃ w', replayFirst shown tick w = .ok w' ∧ Enters [] w w' := by
  unfold replayFirst
  cases hfirst : shown.head? with
  | none => exact ⟨w, rfl, .refl h.promptDesk⟩
  | some first => exact replay_enters h.promptDesk (h.roomy first hfirst) tick

theorem Stage.driven (h : Stage w₀ shown t w) (hnodup : (shown.map (·.key)).Nodup)
    (henters : Enters ((shown.filter (t < ·.frames.toNat)).map (·.key)) w w') {s : Shown} (hs : s ∈ shown)
    (hkey : Registry.find? w' (some ()) s.key = some o) :
    (window w' o).pose = (false, decide (t < s.frames.toNat) || decide (t = 0),
      decide (t < s.frames.toNat), decide (t < s.frames.toNat)) := by
  rw [henters.found] at hkey
  have hidle := h.pose hkey
  have hasked : (window w o).closeRequested = false := congrArg Prod.fst hidle
  rw [henters.pose hkey, hidle, hasked]
  simp only [key_mem_filter hnodup _ hs, decide_eq_true_eq]
  by_cases hlt : t < s.frames.toNat
  · simp [hlt]
  · simp [hlt]

theorem pose_beaten {win : Window} (h : win.retires = false) (hgui : win.context.inFrame = win.inFrame) :
    win.beaten.pose = (false, false, false, false) := by
  obtain ⟨hcalm, -⟩ := Bool.or_eq_false_iff.mp h
  rw [Window.beaten_of_stays h, Window.pose, Window.ended]
  cases hopen : win.inFrame with
  | false => simp [hcalm, hopen, hgui]
  | true => simp [hcalm, Context.finish]

theorem native_beaten (win : Window) : win.beaten.native = win.native := by
  unfold Window.beaten Window.ended
  split
  · rfl
  · split <;> rfl

theorem sum_min_succ (shown : List Shown) (t : Nat) :
    (shown.map fun s => min s.frames.toNat (t + 1)).sum =
      (shown.map fun s => min s.frames.toNat t).sum + shown.countP (t < ·.frames.toNat) := by
  induction shown with
  | nil => rfl
  | cons s shown ih =>
    rw [List.map_cons, List.map_cons, List.sum_cons, List.sum_cons, List.countP_cons, ih]
    split
    · next hlt =>
      have := of_decide_eq_true hlt
      omega
    · next hge =>
      have : ¬ t < s.frames.toNat := fun hlt ↦ hge (decide_eq_true hlt)
      omega

section Heartbeat

variable (h : Stage w₀ shown t w) (hnodup : (shown.map (·.key)).Nodup)
  (henters : Enters ((shown.filter (t < ·.frames.toNat)).map (·.key)) w w')

include h henters in
theorem Stage.isOpen_entered (key : Key) :
    isOpen w' key = true ↔ ∃ s ∈ shown, s.key = key ∧ t ≤ max s.frames.toNat 1 := by
  rw [← h.found, isOpen_iff, isOpen_iff, henters.found]

include h hnodup henters in
theorem Stage.retires_entered {s : Shown} (hs : s ∈ shown) (hkey : Registry.find? w' (some ()) s.key = some o) :
    (window w' o).retires = !(decide (t < s.frames.toNat) || decide (t = 0)) ∧
      (window w' o).inFrame = decide (t < s.frames.toNat) ∧
      (window w' o).context.inFrame = (window w' o).inFrame := by
  have hpose := h.driven hnodup henters hs hkey
  simp only [Window.pose, Prod.mk.injEq] at hpose
  obtain ⟨hasked, hkeep, hframe, hgui⟩ := hpose
  refine ⟨?_, hframe, hgui.trans hframe.symm⟩
  rw [Window.retires, hasked, hkeep, hframe]
  by_cases hlt : t < s.frames.toNat
  · simp [hlt]
  · simp [hlt]

include h hnodup henters in
theorem Stage.presenting_entered {s : Shown} (hs : s ∈ shown) :
    (presenting w' s.key && decide (t ≤ max s.frames.toNat 1)) = decide (t < s.frames.toNat) := by
  by_cases hlasts : t ≤ max s.frames.toNat 1
  · obtain ⟨o, hkey⟩ := isOpen_iff.mp ((h.isOpen_entered henters s.key).mpr ⟨s, hs, rfl, hlasts⟩)
    obtain ⟨hretires, hframe, -⟩ := h.retires_entered hnodup henters hs hkey
    rw [presenting, hkey, Option.any_some, hretires, hframe, decide_eq_true hlasts, Bool.and_true]
    cases decide (t < s.frames.toNat) <;> rfl
  · rw [decide_eq_false hlasts, Bool.and_false, eq_comm, decide_eq_false_iff_not]
    omega

include h hnodup henters in
/-- A heartbeat retires the windows that have shown their frames, and presents those of the others. -/
theorem Stage.heartbeat : Stage w₀ shown (t + 1) (World.heartbeat (scripted 0) w') where
  reached ok := ((h.reached ok).trans (henters.evolves ok)).trans ((Evolves.calls (evolves_quiet ok)).heartbeat w')
  promptDesk := henters.promptDesk.heartbeat.1
  kept := (Abides.calls.heartbeat w').kept.trans (henters.abides.kept.trans h.kept)
  found key := by
    rw [isOpen_iff, henters.promptDesk.find?_heartbeat]
    constructor
    · rintro ⟨o, hkey⟩
      split at hkey
      · cases hkey
      · next hstays =>
        obtain ⟨s, hs, rfl, -⟩ := (h.isOpen_entered henters key).mp (isOpen_iff.mpr ⟨o, hkey⟩)
        rw [retiring, hkey, Option.any_some, (h.retires_entered hnodup henters hs hkey).1] at hstays
        simp only [Bool.not_eq_true', Bool.not_eq_false, Bool.or_eq_true, decide_eq_true_eq] at hstays
        exact ⟨s, hs, rfl, by omega⟩
    · rintro ⟨s, hs, rfl, hlasts⟩
      obtain ⟨o, hkey⟩ := isOpen_iff.mp ((h.isOpen_entered henters s.key).mpr ⟨s, hs, rfl, by omega⟩)
      refine ⟨o, ?_⟩
      rw [if_neg, hkey]
      rw [retiring, hkey, Option.any_some, (h.retires_entered hnodup henters hs hkey).1]
      simp only [Bool.not_eq_true', Bool.not_eq_false, Bool.or_eq_true, decide_eq_true_eq]
      omega
  pose {key o} hkey := by
    obtain ⟨hkey', hwindow⟩ := henters.promptDesk.quiet.heartbeat_spares hkey
    obtain ⟨s, hs, rfl, -⟩ := (h.isOpen_entered henters key).mp (isOpen_iff.mpr ⟨o, hkey'⟩)
    obtain ⟨-, -, hgui⟩ := h.retires_entered hnodup henters hs hkey'
    rw [hwindow, pose_beaten _ hgui]
    · rfl
    · rw [Bool.eq_false_iff]
      intro hretires
      cases henters.promptDesk.mortal _ o hkey hretires
  presented := by
    rw [henters.promptDesk.heartbeat.2.presented, henters.presented, h.presented, sum_min_succ,
      (perm_keys hnodup (h.isOpen_entered henters)).countP_eq, List.countP_map, List.countP_filter]
    congr 1
    exact List.countP_congr fun s hs ↦ by rw [Function.comp_apply, h.presenting_entered hnodup henters hs]
  roomy first hfirst := by
    refine (h.roomy first hfirst).of_abides (henters.abides.trans (Abides.calls.heartbeat w')) fun o hkey ↦ ?_
    obtain ⟨hkey', hwindow⟩ := henters.promptDesk.quiet.heartbeat_spares hkey
    refine ⟨(henters.found _).symm.trans hkey', ?_⟩
    rw [hwindow, native_beaten, henters.native]

end Heartbeat

theorem Stage.note (h : Stage w₀ shown t w) (r : LogRecord) : Stage w₀ shown t (World.note r w) where
  reached ok := (h.reached ok).trans (.note w r)
  promptDesk := (Enters.note h.promptDesk r).promptDesk
  kept := h.kept
  found := h.found
  pose := h.pose
  presented := h.presented
  roomy := h.roomy

/-- A tick takes one stage to the next, and no view comes. -/
theorem Stage.tick (h : Stage w₀ shown t w) (hnodup : (shown.map (·.key)).Nodup) :
    ∃ w', Demo.tick shown t w = .ok w' ∧ Stage w₀ shown (t + 1) w' ∧ Abides w w' := by
  obtain ⟨w₁, hreplayed, hinput⟩ := replayed h t
  obtain ⟨w₂, hframed, hframes⟩ := showFrames_enter hinput.promptDesk (h.composed.enters hinput) t
    (shown.filter (t < ·.frames.toNat))
  have henters := hinput.trans hframes
  rw [List.nil_append] at henters
  refine ⟨_, ?_, (h.heartbeat hnodup henters).note (.demo (.ticked t ((World.heartbeat (scripted 0) w₂).count ()))),
    henters.abides.trans ((Abides.calls.heartbeat w₂).trans (.of_views (fun _ ↦ rfl) rfl))⟩
  unfold Demo.tick
  rw [hreplayed]
  simp only [Except.bind, hframed, Except.map]
  rw [show quiet = scripted 0 from rfl, henters.promptDesk.runTimers_eq]
  rfl

theorem Stage.ticks_abide (h : Stage w₀ shown t w) (hnodup : (shown.map (·.key)).Nodup) (left : Nat) :
    ∃ w', ticks shown left t w = (none, w') ∧ Stage w₀ shown (t + left) w' ∧ Abides w w' := by
  induction left generalizing t w with
  | zero => exact ⟨w, rfl, h, .of_views (fun _ ↦ rfl) rfl⟩
  | succ left ih =>
    obtain ⟨w₁, htick, hnext, habides⟩ := h.tick hnodup
    obtain ⟨w', hticks, hlast, hrest⟩ := ih hnext
    rw [Nat.add_assoc, Nat.add_comm 1] at hlast
    refine ⟨w', ?_, hlast, habides.trans hrest⟩
    rw [Demo.ticks, htick]
    exact hticks

theorem Stage.ticks (h : Stage w₀ shown t w) (hnodup : (shown.map (·.key)).Nodup) (left : Nat) :
    ∃ w', ticks shown left t w = (none, w') ∧ Stage w₀ shown (t + left) w' := by
  obtain ⟨w', hticks, hlast, -⟩ := h.ticks_abide hnodup left
  exact ⟨w', hticks, hlast⟩

structure Closes (keys : List Key) (w w' : World) : Prop where
  evolves : ∀ ok, Evolves ok none w w'
  promptDesk : PromptDesk w'
  abides : Abides w w'
  found : ∀ key, Registry.find? w' (some ()) key = if key ∈ keys then none else Registry.find? w (some ()) key

theorem closes_one (hw : PromptDesk w) (key : Key) :
    Closes [key] w (closeWindow quiet key w).2 where
  evolves ok := (Evolves.calls (evolves_quiet ok)).closeWindow w key
  promptDesk := hw.of_evolves ((Evolves.calls evolves_alone).closeWindow w key) (hw.closeWindow key)
  abides := Abides.calls.closeWindow w key
  found k := by
    rw [show quiet = scripted 0 from rfl]
    rcases hw.quiet.closeWindow key with ⟨hnone, heq⟩ | ⟨o, w₁, hkey, hquiet, hsolo, heq⟩
    · rw [heq]
      by_cases hk : k = key
      · simp [hk, hnone]
      · simp [hk]
    · have hkey₁ : Registry.find? w₁ (some ()) key = some o := by rw [hsolo.find?_eq, hkey]
      have hend := (hw.prompt.of_solo hsolo).requestDestroy_own hquiet (hw.indexed.isListed.of_solo hsolo) hkey₁
      rw [hsolo.native_eq] at hend
      rw [heq, hw.host_eq_zero hkey, hend.found, hsolo.find?_eq]

theorem closes_all (hw : PromptDesk w) (shown : List Shown) :
    Closes (shown.map (·.key)) w (closeAll shown w) := by
  unfold closeAll
  induction shown generalizing w with
  | nil => exact ⟨fun _ ↦ .refl none w, hw, .of_views (fun _ ↦ rfl) rfl, fun _ ↦ (if_neg List.not_mem_nil).symm⟩
  | cons s shown ih =>
    have hone := closes_one hw s.key
    have hrest := ih hone.promptDesk
    rw [List.foldl_cons, List.map_cons]
    refine ⟨fun ok ↦ (hone.evolves ok).trans (hrest.evolves ok), hrest.promptDesk,
      hone.abides.trans hrest.abides,
      fun key ↦ ?_⟩
    rw [hrest.found, hone.found]
    by_cases heq : key = s.key
    · simp [heq]
    · simp [heq]

/-- Where no window is open, every renderer was dropped and no timer runs. -/
theorem nothing_left {hosts : List HostSetup} (hreached : Evolves leavesGui none (World.empty hosts) w)
    (hwatched : Watched 0 w) (hkept : w.env.keptWatchdogs = 0) (hnone : ∀ key, isOpen w key = false) :
    w.count () = 0 ∧ (∀ h, (bundle w h).stats.created = (bundle w h).stats.dropped) ∧ World.timers w = [] := by
  obtain ⟨hw, hf⟩ := hreached.lawful (coherent_empty hosts) (by simp)
  have hrest := (atRest_empty hosts).of_follows hf
  obtain ⟨-, hs⟩ := hreached.frameLaw id id id (coherent_empty hosts) (by simp) (frameInv_empty hosts)
  have hcount : w.count () = 0 := by
    rw [count_eq_length_keys, List.length_eq_zero_iff, List.eq_nil_iff_forall_not_mem]
    intro key hmem
    have hopen := hnone key
    rw [isOpen_iff.mpr (mem_keys.mp hmem)] at hopen
    cases hopen
  have hlistening := hcount
  rw [hrest.count_eq hw, List.length_eq_zero_iff] at hlistening
  refine ⟨hcount, fun h ↦ ?_, ?_⟩
  · have hlive : liveWindows w = [] := by
      have hperm := hrest.perm_listening hw
      rw [hlistening, List.perm_nil, List.map_eq_nil_iff] at hperm
      rw [liveWindows, hperm, List.map_nil]
    have hopened : everOpened w h = (liveWindows w).countP (fun win => win.host = h) + everDropped w h :=
      hrest.countP_cells hw fun win => win.host = h
    have hbalance := (hs.balance.renderers h).trans (balance_empty hosts h).2.1
    rw [hlive, List.countP_nil] at hopened
    simp only [rendererBalance] at hbalance
    omega
  · have htimers := Guarded.length_timers hwatched
    rwa [hlistening, hkept, if_neg (by simp), List.length_eq_zero_iff] at htimers

theorem Stage.closed {platform : Platform} (h : Stage (start platform) shown t w) :
    let w' := closeAll shown w
    w'.count () = 0 ∧ (bundle w' 0).stats.created = (bundle w' 0).stats.dropped ∧ World.timers w' = [] := by
  intro w'
  have hcloses := closes_all h.promptDesk shown
  have hnone (key : Key) : isOpen w' key = false := by
    rw [Bool.eq_false_iff, ne_eq, isOpen_iff, hcloses.found]
    rintro ⟨o, hkey⟩
    split at hkey
    · cases hkey
    · next hmem =>
      obtain ⟨s, hs, rfl, -⟩ := (h.found key).mp (isOpen_iff.mpr ⟨o, hkey⟩)
      exact hmem (List.mem_map.mpr ⟨s, hs, rfl⟩)
  have hreached : Evolves leavesGui none (World.empty [{ platform }]) w' := (h.reached _).trans (hcloses.evolves _)
  obtain ⟨hcount, hrenderers, htimers⟩ := nothing_left hreached hcloses.promptDesk.watched
    (hcloses.abides.kept.trans h.kept) hnone
  exact ⟨hcount, hrenderers 0, htimers⟩

/-- Every run of the demo ends well, if there is room for the pointer in its first window. After each
tick it has the windows that show more frames or have had no tick before. It presents each frame a
window is to show in the time there is, and at the end nothing is left. -/
theorem run_follows_config (c : DemoConfig) (hroom : ∀ first ∈ c.windows.head?, leavesRoom first) :
    (∀ path read, read path = .ok c → (run (some path) read).ending = .done) ∧
    ∃ shown opened last, openAll c.context c.windows (start c.platform) = (.ok shown, opened) ∧
      shown.map (fun s => (s.title, s.frames)) = c.windows.map (fun c => (c.title, c.frames)) ∧
      (∀ t, t < c.ticks.toNat → ∃ w,
        ticks shown (t + 1) 0 (note (.openedAll shown.length c.platform) opened) = (none, w) ∧
        w.count () = c.windows.countP (t < max ·.frames.toNat 1)) ∧
      ticks shown c.ticks.toNat 0 (note (.openedAll shown.length c.platform) opened) = (none, last) ∧
      presented last 0 = (c.windows.map fun c' => min c'.frames.toNat c.ticks.toNat).sum ∧
      (∀ key, isOpen last key = true ↔ ∃ s ∈ shown, s.key = key ∧ c.ticks.toNat ≤ max s.frames.toNat 1) ∧
      (let w := (perform c (start c.platform)).2
      w.count () = 0 ∧ (bundle w 0).stats.created = (bundle w 0).stats.dropped ∧ World.timers w = []) := by
  obtain ⟨shown, opened, hopen, hopened, hshown, hroomy⟩ := openAll_opened (hospitable_start c.platform) c.context
    c.windows
  have hfirst := (hopened.stage (hroomy rfl hroom)).note (.demo (.openedAll shown.length c.platform))
  have hstage (left : Nat) := hfirst.ticks hopened.nodup left
  have hframes : shown.map (·.frames.toNat) = c.windows.map (·.frames.toNat) := by
    have := congrArg (List.map fun p : String × UInt32 => p.2.toNat) hshown
    rwa [List.map_map, List.map_map] at this
  obtain ⟨last, hticks, hlast⟩ := hstage c.ticks.toNat
  have hperform : perform c (start c.platform) = (.done, closeAll shown
      (note (.summary (bundle last 0).stats.presented (bundle last 0).stats.created (last.count ())) last)) := by
    unfold perform
    rw [hopen]
    dsimp only
    rw [show ticks shown c.ticks.toNat 0 (note (.openedAll shown.length c.platform) opened) = _ from hticks]
  refine ⟨fun path read hread ↦ ?_, shown, opened, last, hopen, hshown, fun t ht ↦ ?_, hticks, ?_, ?_, ?_⟩
  · unfold run
    dsimp only
    rw [hread]
    dsimp only
    rw [hperform]
  · obtain ⟨w, hticks, hw⟩ := hstage (t + 1)
    refine ⟨w, hticks, ?_⟩
    rw [hw.count hopened.nodup, Nat.zero_add]
    have hcount := congrArg (List.countP fun frames => decide (t < max frames 1)) hframes
    rwa [List.countP_map, List.countP_map] at hcount
  · have hsum := congrArg (fun frames => (frames.map (min · c.ticks.toNat)).sum) hframes
    rw [List.map_map, List.map_map] at hsum
    rw [hlast.presented, Nat.zero_add]
    exact hsum
  · intro key
    rw [hlast.found, Nat.zero_add]
  · rw [hperform]
    exact (hlast.note _).closed

/-- A window without frames, in the farthest place there can be, and two with fewer and more frames than
there are ticks. -/
theorem run_follows_config_mixed :
    let c : DemoConfig :=
      { ticks := 3
        windows := [⟨"a", 2147483627, 2147483627, 9, 9, 0⟩, ⟨"b", 0, 0, 9, 9, 2⟩, ⟨"c", 0, 0, 9, 9, 9⟩] }
    (∀ first ∈ c.windows.head?, leavesRoom first) ∧ (run (some "demo.toml") fun _ => .ok c).ending = .done ∧
      ∃ shown opened last, openAll c.context c.windows (start c.platform) = (.ok shown, opened) ∧
        (∃ w, ticks shown 1 0 (note (.openedAll shown.length c.platform) opened) = (none, w) ∧ w.count () = 3) ∧
        (∃ w, ticks shown 2 0 (note (.openedAll shown.length c.platform) opened) = (none, w) ∧ w.count () = 2) ∧
        ticks shown 3 0 (note (.openedAll shown.length c.platform) opened) = (none, last) ∧ presented last 0 = 5 := by
  intro c
  have hroom : ∀ first ∈ c.windows.head?, leavesRoom first := by
    intro first hfirst
    cases hfirst
    unfold leavesRoom
    decide
  obtain ⟨hends, shown, opened, last, hopen, -, halive, hticks, hpresented, -⟩ := run_follows_config c hroom
  exact ⟨hroom, hends "demo.toml" _ rfl, shown, opened, last, hopen, halive 0 (by decide), halive 1 (by decide), hticks,
    hpresented⟩

end Demo

end Casement
