import Casement.Proofs.Geometry
import Casement.Proofs.Number.Magnitude
import Casement.Proofs.World.Ancestors
import Casement.Proofs.World.Capture

namespace Casement

def seenFrom (origin p : Point) : Vec2 :=
  ⟨Single.ofInt (saturated (p.x.toInt - origin.x.toInt)),
    Single.ofInt (saturated (p.y.toInt - origin.y.toInt))⟩

theorem seenFrom_ne_offscreen (origin p : Point) : seenFrom origin p ≠ .offscreen := by
  intro h
  refine Single.ofInt_ne_lowest ?_ (congrArg Vec2.x h)
  have hmin : Int32.minValue.toInt = -2147483648 := by decide
  have hmax : Int32.maxValue.toInt = 2147483647 := by decide
  unfold saturated
  omega

namespace Host

variable {s : Host} {v v' : View} {native : NativeHandle}

/-- A visible view at the pointer that has the highest handle of them. -/
structure IsFront (s : Host) (v : View) : Prop where
  mem : v ∈ s.views
  visible : v.visible = true
  contains : v.rect.contains s.pointer = true
  highest : ∀ u ∈ s.views, u.visible = true → u.rect.contains s.pointer = true →
    u.handle.val ≤ v.handle.val

theorem IsFront.unique (h : s.IsFront v) (h' : s.IsFront v') : v.handle = v'.handle :=
  congrArg NativeHandle.mk (Nat.le_antisymm (h'.highest v h.mem h.visible h.contains)
    (h.highest v' h'.mem h'.visible h'.contains))

theorem Ordered.isFront_of_viewAt? (hs : s.Ordered) (h : s.viewAt? s.pointer = some native) :
    ∃ v, s.IsFront v ∧ v.handle = native := by
  obtain ⟨v, hv, rfl⟩ := Option.map_eq_some_iff.mp h
  obtain ⟨hhit, after, before, heq, hafter⟩ := List.find?_eq_some_iff_append.mp hv
  have hviews : s.views = before.reverse ++ v :: after.reverse := by
    rw [← List.reverse_reverse s.views, heq]
    simp
  rw [Bool.and_eq_true] at hhit
  refine ⟨v, ⟨by simp [hviews], hhit.1, hhit.2, fun u hu hvisible hcontains ↦ ?_⟩, rfl⟩
  rw [hviews, List.mem_append, List.mem_cons] at hu
  rcases hu with hu | rfl | hu
  · rw [Ordered, seats, List.pairwise_map, hviews, List.pairwise_append] at hs
    exact (hs.2.2 u hu v List.mem_cons_self).le
  · exact Nat.le_refl _
  · -- what comes after is not hit
    have hmissed := hafter u (List.mem_reverse.mp hu)
    simp [hvisible, hcontains] at hmissed

/-- The view at the pointer is the one in front. -/
theorem Ordered.viewAt?_eq_some_iff (hs : s.Ordered) :
    s.viewAt? s.pointer = some native ↔ ∃ v, s.IsFront v ∧ v.handle = native := by
  refine ⟨hs.isFront_of_viewAt?, ?_⟩
  rintro ⟨v, hv, rfl⟩
  have hsome : (s.viewAt? s.pointer).isSome = true := by
    simp only [viewAt?, Option.isSome_map, List.find?_isSome, List.mem_reverse]
    exact ⟨v, hv.mem, by simp [hv.visible, hv.contains]⟩
  obtain ⟨native, hnative⟩ := Option.isSome_iff_exists.mp hsome
  obtain ⟨u, hu, rfl⟩ := hs.isFront_of_viewAt? hnative
  rw [hnative, hu.unique hv]

end Host

theorem MouseButtons.anyDown_iff {m : MouseButtons} :
    m.anyDown = true ↔ ∃ button, (m.get button).down = true := by
  rw [anyDown, Bool.or_eq_true, Bool.or_eq_true]
  constructor
  · rintro ((h | h) | h)
    · exact ⟨.left, h⟩
    · exact ⟨.right, h⟩
    · exact ⟨.middle, h⟩
  · rintro ⟨button, h⟩
    cases button with
    | left => exact .inl (.inl h)
    | right => exact .inl (.inr h)
    | middle => exact .inr h

namespace Window

variable {win win' : Window} {s : Host}

theorem pointerPos_eq : win.pointerPos s =
    if win.isUnderPointer s || win.isTracking s then seenFrom (s.rect win.native).origin s.pointer
    else .offscreen := by
  simp only [pointerPos, seenFrom, Host.toClient, Point.relativeTo, toInt_satSub]

theorem pointerPos_congr (hnative : win'.native = win.native) (hplatform : win'.platform = win.platform)
    (hdown : win'.buttons.anyDown = win.buttons.anyDown) : win'.pointerPos s = win.pointerPos s := by
  unfold pointerPos isUnderPointer isTracking
  rw [hnative, hplatform, hdown]

theorem isUnderPointer_iff (hs : s.Ordered) (hgrounded : s.Grounded) :
    win.isUnderPointer s = true ↔ ∃ v, s.IsFront v ∧ s.BelongsTo v.handle win.native := by
  rw [isUnderPointer, Option.any_eq_true]
  simp only [hs.viewAt?_eq_some_iff, Bool.or_eq_true, decide_eq_true_eq, ← hgrounded.belongsTo_iff]
  constructor
  · rintro ⟨native, ⟨v, hfront, rfl⟩, hbelongs⟩
    exact ⟨v, hfront, hbelongs⟩
  · rintro ⟨v, hfront, hbelongs⟩
    exact ⟨v.handle, ⟨v, hfront, rfl⟩, hbelongs⟩

/-- A window is told of the pointer wherever it is: on one platform while a button is down, on the
others while it holds the capture. -/
def Follows (win : Window) (platform : Platform) (s : Host) : Prop :=
  if platform = .macOs then ∃ button, (win.buttons.get button).down = true
  else s.capture = some win.native

theorem isTracking_iff : win.isTracking s = true ↔ win.Follows win.platform s := by
  unfold isTracking Follows
  cases win.platform with
  | macOs => simp only [if_true, MouseButtons.anyDown_iff]
  | windows | linux => simp

end Window

namespace World

variable {w w' : World} {o o' : ObjectId}

theorem mousePos_newFrame (ho : o < w.cells.length) :
    (window (newFrame (scripted 0) o w).2 o).context.io.mousePos = (window w o).context.io.mousePos := by
  unfold newFrame
  dsimp only [scripted]
  split
  · rfl
  · rw [window_update _ _ _ _ (by exact ho), if_pos rfl]
    rfl

theorem mousePos_beginFrame (ho : o < w.cells.length) :
    (window (beginFrame (scripted 0) o w).2 o).context.io.mousePos =
      (window w o).pointerPos (host w (window w o).host) := by
  let i := (window w o).host
  let info : Window → Window := fun win =>
    { win with inFrame := true }.readFrameInfo (bundle w i).host (bundle w i).scale
  let w₁ := modifyStats i (fun s => { s with begun := s.begun + 1 })
    (call i (.beginFrame (window w o).native) (w.update o info))
  have hbegun : beginFrame (scripted 0) o w =
      newFrame (scripted 0) o (w₁.update o fun win => win.readInput (host w₁ i)) := rfl
  have hlt : o < w₁.cells.length := (Registry.length_update w o info).symm ▸ ho
  have hwindow : window w₁ o = info (window w o) := (window_update w o o info ho).trans (if_pos rfl)
  have hhost : host w₁ i = host w i := reading_modifyBundle _ i i Bundle.host _ fun _ ↦ rfl
  rw [hbegun, mousePos_newFrame ((Registry.length_update ..).symm ▸ hlt), window_update _ _ _ _ hlt,
    if_pos rfl, hwindow, hhost]
  exact Window.pointerPos_congr rfl rfl rfl

theorem mousePos_enterFrame (ho : o < w.cells.length) (hidle : (window w o).inFrame = false) :
    (window (enterFrame (scripted 0) o w).2 o).context.io.mousePos =
      (window w o).pointerPos (host w (window w o).host) := by
  have hkept : window (w.update o fun win => { win with keepAlive := true }) o =
      { window w o with keepAlive := true } := by
    rw [window_update _ _ _ _ ho, if_pos rfl]
  unfold enterFrame
  dsimp only
  rw [hkept, if_neg (by simp [hidle]), mousePos_beginFrame ((Registry.length_update ..).symm ▸ ho),
    hkept]
  exact Window.pointerPos_congr rfl rfl rfl

/-- A window that has views in it still has its native window. -/
def Housed (w : World) : Prop :=
  ∀ o view, w.IsRegistered o → (view, some (window w o).native) ∈ (host w 0).seats →
    ((window w o).native, none) ∈ (host w 0).seats

theorem RemovesViews.housed (h : RemovesViews w w') (hw : Housed w) : Housed w' := by
  intro o view ho' hview'
  obtain ⟨ho, hnative⟩ := h.registered ho'
  obtain ⟨removed, hseats⟩ := h.seats
  rw [hnative] at hview' ⊢
  obtain ⟨hview, hkept⟩ := (hseats _).mp hview'
  refine (hseats _).mpr ⟨hw o view ho hview, fun n hn ↦ ⟨?_, by simp⟩⟩
  -- whoever goes takes along what is directly in it
  rintro rfl
  exact (hkept _ hn).2 rfl

theorem Gains.housed {parent : Option NativeHandle} (h : Gains 0 ((host w 0).freshHandle, parent) w w')
    (hw : Housed w) (hparent : ∀ o, w.IsRegistered o → parent = some (window w o).native →
      ((window w o).native, none) ∈ (host w 0).seats) : Housed w' := by
  intro o view ho' hview
  have ho := (Registry.isRegistered_congr h.same.entries o).mp ho'
  rw [h.same.window] at hview ⊢
  refine (h.seats 0 _).mpr (.inl ?_)
  rcases (h.seats 0 _).mp hview with hold | ⟨-, hnew⟩
  · exact hw o view ho hold
  · exact hparent o ho (Prod.mk.inj hnew).2.symm

theorem GroundedAtRest.housed_runStep (hw : GroundedAtRest w) (hhoused : Housed w) {s : Step}
    (hflat : s.isFlat = true)
    (hadds : addsInside w s = true) : Housed (World.runStep (scripted 0) none s w).2 := by
  cases hw.reseats hflat with
  | removes hremoves => exact hremoves.housed hhoused
  | adds hgains hremoves =>
    refine hremoves.housed (hgains.housed hhoused fun o ho hparent ↦ ?_)
    obtain ⟨key, hkey⟩ := isRegistered_iff.mp ho
    obtain ⟨⟨native, outer⟩, hseat, heq⟩ :=
      Host.isWindow_iff.mp (isWindow_of_addsInside hadds hw.one hparent)
    obtain rfl : outer = none := hw.sited.rooted hkey _ hseat heq
    exact heq ▸ hseat
  | @opens w₁ win hnative hgains hcoherent hremoves =>
    refine hremoves.housed fun o view ho hview ↦ ?_
    have hseats : (host (install win w₁) 0).seats = (host w₁ 0).seats :=
      congrArg (·.1) (standing_install win w₁ 0)
    rw [hseats, window_install] at hview ⊢
    split at hview
    · -- nothing is in a native window that is new
      exfalso
      rcases (hgains.seats 0 _).mp hview with hold | ⟨-, hnew⟩
      · have hissued := hw.rooted.issued 0 _ hold
        have hnewer := hw.grounded _ hold _ rfl
        rw [hnative] at hnewer
        exact Nat.lt_asymm hissued hnewer
      · cases hnew
    · next hold =>
      rw [if_neg hold]
      obtain ⟨key, hkey⟩ := isRegistered_iff.mp ho
      rw [find?_install hcoherent] at hkey
      split at hkey
      · exact absurd (Option.some.inj hkey).symm hold
      · exact hgains.housed hhoused (by simp) o view (isRegistered_iff.mpr ⟨key, hkey⟩) hview

theorem GroundedAtRest.housed_runSteps (hw : GroundedAtRest w) (hhoused : Housed w)
    {steps : List Step}
    (h : grows w steps = true) : Housed (World.runSteps (scripted 0) none steps w).2 := by
  induction steps generalizing w with
  | nil => exact hhoused
  | cons s rest ih =>
    simp only [grows, Bool.and_eq_true] at h
    exact ih (hw.runStep h.1.1 (hw.addsUnder h.1.2)) (hw.housed_runStep hhoused h.1.1 h.1.2) h.2

theorem housed_run (setup : HostSetup) {steps : List Step}
    (h : grows (World.empty [setup]) steps = true) : Housed (Session.run [setup] steps).2 := by
  rw [run_of_isFlat [setup] (isFlat_of_grows h)]
  refine (groundedAtRest_empty setup).housed_runSteps (fun o view _ hview ↦ ?_) h
  cases hview

theorem Housed.isWindow (hw : Housed w) (ho : w.IsRegistered o) {v : View} (hv : v ∈ (host w 0).views)
    (h : (host w 0).BelongsTo v.handle (window w o).native) :
    (host w 0).isWindow (window w o).native = true := by
  refine Host.isWindow_iff.mpr ?_
  rcases h.cases_tail with heq | ⟨view, -, hparent⟩
  · exact ⟨(v.handle, v.parent), List.mem_map_of_mem hv, heq.symm⟩
  · exact ⟨_, hw o view ho (Host.mem_seats_of_parent? hparent), rfl⟩

theorem MovesKeepingGrip.runSteps_any (n : Nat) (current : Option ObjectId) (steps : List Step)
    (w : World) :
    MovesKeepingGrip (fun _ ↦ True) (fun _ ↦ True) current current w
      (runSteps (World.scripted n) current steps w).2 :=
  (walk fun _ _ h ↦ h).runSteps (.scripted (fun _ _ h ↦ h) n) current steps
    (Step.usesAll_of_forall (fun _ ↦ trivial) steps) (Step.asksAll_of_forall (fun _ ↦ trivial) steps) w

theorem platform_window (setup : HostSetup) (n : Nat) (steps inner : List Step) {current : ObjectId} :
    let w₀ := (runSteps (scripted n) none steps (World.empty [setup])).2
    let w := (runSteps (scripted n) (some current) inner (w₀.borrow current)).2
    w₀.IsRegistered current → ∀ o < w.cells.length, (window w o).platform = setup.platform := by
  intro w₀ w hcurrent o ho
  have houter : MovesKeepingGrip _ _ none none _ w₀ := .runSteps_any n none steps (World.empty [setup])
  have hrules := houter.rules (captureInvariant_empty setup)
  have hinvariant := (captureInvariant_empty setup).of_moves houter.1 hrules.asks
  have hinner : MovesKeepingGrip _ _ (some current) (some current) _ w :=
    .runSteps_any n (some current) inner (w₀.borrow current)
  have hlive : ∀ o, some current = some o → o ∉ w₀.dropped := by
    rintro o ⟨⟩
    exact Registry.not_mem_dropped_of_isRegistered hinvariant.coherent.sound hcurrent
  have hrun := (hinner.2 (hinvariant.borrow hcurrent) hlive).run
  rw [(Untouched.borrow w₀ current).grip_eq] at hrun
  have hfair := ((fair_empty setup).run hrules.run).run hrun
  have hplatform : (grip w).platform = setup.platform :=
    hrun.platform_eq.trans hrules.run.platform_eq
  exact (hfair.platform _ (List.mem_of_getElem? (getElem?_hands ho))).trans hplatform

/-- Where the pointer is to a frame that a window begins now. -/
def pointerIn (w : World) (o : ObjectId) : Vec2 :=
  (window (enterFrame (scripted 0) o w).2 o).context.io.mousePos

def IsOver (w : World) (o : ObjectId) : Prop :=
  ∃ v, (host w 0).IsFront v ∧ (host w 0).BelongsTo v.handle (window w o).native

theorem pointerIn_cases (hordered : (host w 0).Ordered) (hgrounded : (host w 0).Grounded)
    (ho : o < w.cells.length) (hhost : (window w o).host = 0) (hidle : (window w o).inFrame = false) :
    let sees := IsOver w o ∨ (window w o).Follows (window w o).platform (host w 0)
    sees ∧ pointerIn w o = seenFrom ((host w 0).rect (window w o).native).origin (host w 0).pointer ∨
      ¬ sees ∧ pointerIn w o = .offscreen := by
  intro sees
  have hsees : (window w o).isUnderPointer (host w 0) || (window w o).isTracking (host w 0) ↔ sees := by
    rw [Bool.or_eq_true, Window.isUnderPointer_iff hordered hgrounded, Window.isTracking_iff]
    rfl
  rw [pointerIn, mousePos_enterFrame ho hidle, hhost, Window.pointerPos_eq]
  by_cases h : sees
  · exact .inl ⟨h, if_pos (hsees.mpr h)⟩
  · exact .inr ⟨h, if_neg (mt hsees.mp h)⟩

theorem Solo.host_eq {win : Window} {n : Nat} (h : Solo o w w' win n) (o' : ObjectId) :
    (window w' o').host = (window w o').host := by
  by_cases heq : o' = o
  · rw [heq, h.value, h.host]
  · rw [h.others heq]

theorem RemovesViews.borrow (w : World) (o : ObjectId) : RemovesViews w (w.borrow o) :=
  .of_seats (fun ho ↦ ⟨ho, by rw [window_borrow]⟩) rfl

theorem GroundedAtRest.solo_runSteps (hw : GroundedAtRest w) (ho : w.IsRegistered o)
    {inner : List Step}
    (hinner : inner.all (·.onCurrent?.isSome) = true) :
    ∃ win n, Solo o (w.borrow o) (World.runSteps (scripted 0) (some o) inner (w.borrow o)).2 win n := by
  obtain ⟨key, hkey⟩ := isRegistered_iff.mp ho
  have hzero := hw.sited.host_eq_zero hw.quiet hkey
  have hstart : Solo o (w.borrow o) (w.borrow o) (window (w.borrow o) o) 0 := by
    refine .start (Registry.length_borrow.symm ▸ ho.lt hw.quiet.coherent.sound) ?_
    rw [window_borrow, hzero]
    exact hw.one.symm ▸ Nat.one_pos
  obtain ⟨win, n, -, hsolo⟩ := hstart.works hinner
  exact ⟨win, n, hsolo⟩

/-- Wherever a call on a window of the only host is under way, after a script that is not nested and
adds views only in views that are there: a window that begins a frame is given the position of the
pointer exactly if the view in front there belongs to it or it follows the pointer. The position is
that of the pointer as seen from the native window, which is still there if a view in it is in front.
Of the windows that do not follow the pointer, no more than one is given its position. -/
theorem pointer_belongs_to_one_window (setup : HostSetup) {steps : List Step}
    (hsteps : grows (World.empty [setup]) steps = true) {current : ObjectId}
    (hcurrent : (Session.run [setup] steps).2.IsRegistered current) {inner : List Step}
    (hinner : inner.all (·.onCurrent?.isSome) = true) :
    let w := (runSteps (scripted 0) (some current) inner
      ((Session.run [setup] steps).2.borrow current)).2
    let s := host w 0
    (∀ o, w.IsRegistered o → (window w o).inFrame = false →
      (pointerIn w o ≠ .offscreen ↔ IsOver w o ∨ (window w o).Follows setup.platform s) ∧
      (pointerIn w o ≠ .offscreen →
        pointerIn w o = seenFrom (s.rect (window w o).native).origin s.pointer) ∧
      (IsOver w o → s.isWindow (window w o).native = true)) ∧
    ∀ o o', w.IsRegistered o → w.IsRegistered o' →
      (window w o).inFrame = false → (window w o').inFrame = false →
      ¬ (window w o).Follows setup.platform s → ¬ (window w o').Follows setup.platform s →
      pointerIn w o ≠ .offscreen → pointerIn w o' ≠ .offscreen → o = o' := by
  intro w s
  have hw₀ := groundedAtRest_run setup hsteps
  have hplatform : ∀ o < w.cells.length, (window w o).platform = setup.platform := by
    have hrun := run_of_isFlat [setup] (isFlat_of_grows hsteps)
    have hall := platform_window setup 0 steps inner (hrun ▸ hcurrent)
    rw [← hrun] at hall
    exact hall
  obtain ⟨win, n, hsolo⟩ := hw₀.solo_runSteps hcurrent hinner
  have hseats : s.seats = (host (Session.run [setup] steps).2 0).seats :=
    congrArg (·.1) (hsolo.standing 0)
  have hordered : s.Ordered := by
    rw [Host.Ordered, hseats]
    exact hw₀.rooted.ordered 0
  have hgrounded : s.Grounded := by
    rw [Host.Grounded, hseats]
    exact hw₀.grounded
  have hremoves := (RemovesViews.borrow _ current).trans hsolo.removesViews
  have hhoused := hremoves.housed (housed_run setup hsteps)
  have hlt {o : ObjectId} (ho : w.IsRegistered o) : o < w.cells.length := by
    rw [hsolo.length]
    have hlt := (hremoves.registered ho).1.lt hw₀.quiet.coherent.sound
    exact hlt.trans_eq Registry.length_borrow.symm
  have hhost {o : ObjectId} (ho : w.IsRegistered o) : (window w o).host = 0 := by
    obtain ⟨key, hkey⟩ := isRegistered_iff.mp (hremoves.registered ho).1
    rw [hsolo.host_eq, window_borrow]
    exact hw₀.sited.host_eq_zero hw₀.quiet hkey
  have hcases {o : ObjectId} (ho : w.IsRegistered o) (hidle : (window w o).inFrame = false) :=
    hplatform o (hlt ho) ▸ pointerIn_cases hordered hgrounded (hlt ho) (hhost ho) hidle
  have hsees {o : ObjectId} (ho : w.IsRegistered o) (hidle : (window w o).inFrame = false) :
      pointerIn w o ≠ .offscreen ↔ IsOver w o ∨ (window w o).Follows setup.platform s := by
    rcases hcases ho hidle with ⟨hsees, heq⟩ | ⟨hsees, heq⟩
    · exact iff_of_true (heq ▸ seenFrom_ne_offscreen _ _) hsees
    · exact iff_of_false (not_not.mpr heq) hsees
  refine ⟨fun o ho hidle ↦ ⟨hsees ho hidle, fun hne ↦ ?_, ?_⟩, ?_⟩
  · exact (hcases ho hidle).elim And.right fun h ↦ absurd h.2 hne
  · rintro ⟨v, hfront, hbelongs⟩
    exact hhoused.isWindow ho hfront.mem hbelongs
  · intro o o' ho ho' hidle hidle' hfollows hfollows' hne hne'
    obtain ⟨v, hfront, hbelongs⟩ := ((hsees ho hidle).mp hne).resolve_right hfollows
    obtain ⟨v', hfront', hbelongs'⟩ := ((hsees ho' hidle').mp hne').resolve_right hfollows'
    obtain ⟨ho₀, hnative⟩ := hremoves.registered ho
    obtain ⟨ho₀', hnative'⟩ := hremoves.registered ho'
    rw [hnative, Host.belongsTo_congr hseats] at hbelongs
    rw [hfront'.unique hfront, hnative', Host.belongsTo_congr hseats] at hbelongs'
    exact hw₀.belongsTo_unique ho₀ ho₀' hbelongs hbelongs'

/-- Two windows, one over the other, and a third that holds the capture. A view left behind by the one
it lay in hides both from the pointer, and in front of it is a view two levels down in the first window.
While the first window is worked on and moved, it sees the pointer, and so does the third. -/
theorem pointer_belongs_to_one_window_overlapping :
    let steps : List Step :=
      [.openWindow 0 {} "a" 0 0 9 9, .openWindow 0 {} "b" 0 0 9 9, .openWindow 0 {} "c" 50 50 9 9,
        .host 0 (.addChild (.slot 0) ⟨0, 0, 9, 9⟩), .host 0 (.addChild (.handle ⟨4⟩) ⟨0, 0, 9, 9⟩),
        .host 0 (.addChild (.handle ⟨5⟩) ⟨0, 0, 9, 9⟩), .host 0 (.destroyNative (.handle ⟨4⟩)),
        .host 0 (.addChild (.slot 0) ⟨0, 0, 1, 1⟩), .host 0 (.addChild (.handle ⟨7⟩) ⟨0, 0, 9, 9⟩),
        .host 0 (.movePointer ⟨5, 7⟩), .dispatch (.slot 2) (.buttonDown .left)]
    let inner : List Step := [.window .current (.setRect ⟨2, 3, 9, 9⟩)]
    let w₀ := (Session.run [{}] steps).2
    let w := (runSteps (scripted 0) (some 0) inner (w₀.borrow 0)).2
    grows (World.empty [{}]) steps = true ∧ w₀.IsRegistered 0 ∧
      inner.all (·.onCurrent?.isSome) = true ∧ (host w 0).isWindow ⟨6⟩ = true ∧
      pointerIn w 0 = ⟨Single.ofInt 3, Single.ofInt 4⟩ ∧ pointerIn w 1 = .offscreen ∧
      pointerIn w 2 = ⟨Single.ofInt (-45), Single.ofInt (-43)⟩ ∧
      IsOver w 0 ∧
      ∀ o, w.IsRegistered o → (window w o).inFrame = false →
        ¬ (window w o).Follows Platform.fallback (host w 0) → pointerIn w o ≠ .offscreen → o = 0 := by
  intro steps inner w₀ w
  have hsteps : grows (World.empty [{}]) steps = true := by decide +kernel
  have hregistered : w₀.IsRegistered 0 := isRegistered_iff.mpr ⟨⟨1, 1⟩, by decide +kernel⟩
  have hregistered' : w.IsRegistered 0 := isRegistered_iff.mpr ⟨⟨1, 1⟩, by decide +kernel⟩
  have hinner : inner.all (·.onCurrent?.isSome) = true := by decide
  have hidle : (window w 0).inFrame = false := by decide +kernel
  have hheld : (host w 0).capture ≠ some (window w 0).native := by decide +kernel
  have hfollows : ¬ (window w 0).Follows Platform.fallback (host w 0) := by
    rwa [Window.Follows, if_neg (by decide)]
  have hseen : pointerIn w 0 = ⟨Single.ofInt 3, Single.ofInt 4⟩ := by decide +kernel
  have hne : pointerIn w 0 ≠ .offscreen := by decide +kernel
  obtain ⟨heach, hunique⟩ := pointer_belongs_to_one_window {} hsteps hregistered hinner
  refine ⟨hsteps, hregistered, hinner, by decide +kernel, hseen, by decide +kernel, by decide +kernel,
    ((heach 0 hregistered' hidle).1.mp hne).resolve_right hfollows, fun o ho hidle' hfollows' hne' ↦ ?_⟩
  exact hunique o 0 ho hregistered' hidle' hidle hfollows' hfollows hne' hne

end World

end Casement
