import Casement.Proofs.World.Ancestors
import Casement.Proofs.World.Endings

namespace Casement

namespace Host

variable {s : Host} {native view : NativeHandle}

theorem Ordered.view?_removeView (hs : s.Ordered) : (s.removeView native).view? view =
    if view = native ∨ s.parent? view = some native then none else s.view? view := by
  refine Option.ext fun v ↦ ?_
  have hparent (hv : v ∈ s.views) (hview : v.handle = view) : s.parent? view = v.parent := by
    rw [parent?, hs.view?_eq_some_iff.mpr ⟨hv, hview⟩]
    rfl
  rw [(hs.removeView native).view?_eq_some_iff, Host.removeView, List.mem_filter, decide_eq_true_eq,
    Option.ite_none_left_eq_some, hs.view?_eq_some_iff, not_or]
  constructor
  · rintro ⟨⟨hv, hne, hin⟩, rfl⟩
    exact ⟨⟨hne, hparent hv rfl ▸ hin⟩, hv, rfl⟩
  · rintro ⟨⟨hne, hin⟩, hv, rfl⟩
    exact ⟨⟨hv, hne, hparent hv rfl ▸ hin⟩, rfl⟩

theorem Ordered.isWindow_removeView_iff (hs : s.Ordered) : (s.removeView native).isWindow view = true ↔
    s.isWindow view = true ∧ view ≠ native ∧ s.parent? view ≠ some native := by
  rw [isWindow, hs.view?_removeView]
  split
  · next hgone =>
    refine ⟨fun h ↦ (by cases h), ?_⟩
    rintro ⟨-, hne, hparent⟩
    exact absurd hgone (not_or.mpr ⟨hne, hparent⟩)
  · next hkept => exact ⟨fun h ↦ ⟨h, not_or.mp hkept⟩, And.left⟩

theorem isWindow_of_parent? {parent : NativeHandle} (h : s.parent? view = some parent) :
    s.isWindow view = true :=
  isWindow_iff.mpr ⟨_, mem_seats_of_parent? h, rfl⟩

theorem Ordered.isWindow_removeView_of_above (hs : s.Ordered) (hacyclic : ∀ view, ¬ s.LiesIn view view)
    (h : s.above 2 view = some native) : ∃ parent, s.parent? view = some parent ∧
      (s.removeView native).isWindow view = true ∧
      (s.removeView native).parent? view = some parent ∧
      (s.removeView native).isWindow parent = false := by
  obtain ⟨parent, hparent, houter⟩ := Option.bind_eq_some_iff.mp h
  have hin : s.parent? parent = some native := by
    obtain ⟨outer, houter, heq⟩ := Option.bind_eq_some_iff.mp houter
    rwa [← Option.some.inj heq]
  have hview : view ≠ native := by
    rintro rfl
    exact hacyclic view (liesIn_iff_above.mpr ⟨1, h⟩)
  have hne : s.parent? view ≠ some native := by
    rw [hparent, ne_eq, Option.some.injEq]
    rintro rfl
    exact hacyclic parent (.single hin)
  refine ⟨parent, hparent, hs.isWindow_removeView_iff.mpr ⟨isWindow_of_parent? hparent, hview, hne⟩,
    ?_, ?_⟩
  · rw [parent?, hs.view?_removeView, if_neg (not_or.mpr ⟨hview, hne⟩)]
    exact hparent
  · rw [Bool.eq_false_iff, ne_eq, hs.isWindow_removeView_iff]
    exact fun hleft ↦ hleft.2.2 hin

/-- All that belongs to a view goes with it exactly if nothing lies two levels down. -/
theorem Ordered.removeView_whole_iff (hs : s.Ordered) (hacyclic : ∀ view, ¬ s.LiesIn view view) :
    (∀ view, s.BelongsTo view native → (s.removeView native).isWindow view = false) ↔
      ∀ view, s.above 2 view ≠ some native := by
  constructor
  · intro hgone view h
    obtain ⟨-, -, hleft, -⟩ := hs.isWindow_removeView_of_above hacyclic h
    rw [hgone view (belongsTo_iff_above.mpr ⟨2, h⟩)] at hleft
    cases hleft
  · intro hshallow view hin
    rw [Bool.eq_false_iff, ne_eq, hs.isWindow_removeView_iff]
    rintro ⟨-, hne, hparent⟩
    obtain ⟨n, hn⟩ := belongsTo_iff_above.mp hin
    match n with
    | 0 => exact hne (Option.some.inj hn)
    | 1 =>
      obtain ⟨parent, hp, heq⟩ := Option.bind_eq_some_iff.mp hn
      exact hparent (hp.trans heq)
    | n + 2 =>
      rw [above_add] at hn
      obtain ⟨inner, -, hinner⟩ := Option.bind_eq_some_iff.mp hn
      exact hshallow inner hinner

theorem Ordered.removeView_seated_iff (hs : s.Ordered) (hacyclic : ∀ view, ¬ s.LiesIn view view)
    (hseated : ∀ view parent, s.parent? view = some parent → s.isWindow parent = true) :
    (∀ view parent, (s.removeView native).parent? view = some parent →
      (s.removeView native).isWindow parent = true) ↔ ∀ view, s.above 2 view ≠ some native := by
  constructor
  · intro hstill view h
    obtain ⟨parent, -, -, hparent, hgone⟩ := hs.isWindow_removeView_of_above hacyclic h
    rw [hstill view parent hparent] at hgone
    cases hgone
  · intro hshallow view parent h
    rw [parent?, hs.view?_removeView] at h
    split at h
    · cases h
    · next hkept =>
      have hparent : s.parent? view = some parent := h
      refine hs.isWindow_removeView_iff.mpr ⟨hseated view parent hparent, ?_, fun hin ↦ ?_⟩
      · rintro rfl
        exact hkept (.inr hparent)
      · refine hshallow view ?_
        rw [above, hparent, Option.bind_some, above, hin]
        rfl

end Host

namespace World

variable {w : World} {native : NativeHandle}

theorem DeskInStep.views_destroyNative (hw : DeskInStep w) (hrest : AtRest w)
    (hwindow : (host w 0).isWindow native = true) :
    (host (destroyNative (scripted 0) 0 native w) 0).views = ((host w 0).removeView native).views := by
  have hone : 0 < w.env.bundles.length := hw.one.symm ▸ Nat.one_pos
  have hremoved {w' : World} (hviews : (host w' 0).views = (host w 0).views)
      (hhosts : w'.env.bundles.length = w.env.bundles.length) :
      (host (modifyHost 0 (·.removeView native) w') 0).views = ((host w 0).removeView native).views := by
    rw [host_modifyHost _ _ _ _ (hhosts ▸ hone), if_pos rfl, Host.removeView, hviews]
    rfl
  cases hfind : find? w native with
  | none =>
    rw [destroyNative, if_pos hwindow, dispatch, hfind]
    exact hremoved rfl rfl
  | some key =>
    obtain ⟨hindex, o, hkey⟩ := find?_isOpen hfind
    obtain rfl : (window w o).native = native := hw.sited.named hindex hkey
    have hhost := hw.sited.host_eq_zero hw.quiet hkey
    cases hheeded : consumes w o .destroy with
    | true =>
      have hnoted : Quiet (note (.dispatching .destroy (window w o).native) w) :=
        hw.quiet.of_evolves (.note w _)
      have hasked : withWindow (scripted 0) key (fun o w => deliver (scripted 0) o .destroy w)
          (note (.dispatching .destroy (window w o).native) w) =
          (some (.answered .handled), note (.dispatching .destroy (window w o).native) w) := by
        refine hnoted.withWindow_still (by exact hkey) (f := id) ?_
        unfold deliver
        dsimp only [scripted]
        rw [if_pos]
        · rfl
        · exact (consumes_borrow w o .destroy).trans hheeded
      rw [destroyNative, if_pos hwindow, dispatch, hfind]
      dsimp only
      rw [hasked]
      exact hremoved rfl rfl
    | false =>
      have hdeparts := (hw.doomed hrest hkey hheeded).destroyNative (by rwa [hhost])
      rw [hhost] at hdeparts
      have hviews := reading_departed key o w (by rwa [hhost]) (·.host.views) fun _ _ ↦ rfl
      rw [hhost] at hviews
      rw [host, reading_of_bare hdeparts.state (fun w ↦ (bundle w 0).host.views) fun _ ↦ rfl, hviews]
      simp only [Host.removeView, Bundle.views_bereft]
      rfl

/-- After every script on one host that is not nested and adds views only in views that are there, a
view that is destroyed goes with the views directly in it, and all others stay as they are. So all
that belongs to it goes exactly if no view lies two levels down in it; and if the views of the host
all were in views that are there, they still are in that same case. -/
theorem destruction_reaches_one_level (setup : HostSetup) {steps : List Step}
    (hsteps : grows (World.empty [setup]) steps = true) {native : NativeHandle}
    (hwindow : (host (Session.run [setup] steps).2 0).isWindow native = true) :
    let w := (Session.run [setup] steps).2
    let s := host w 0
    let s' := host (destroyNative (scripted 0) 0 native w) 0
    s'.views = (s.views.filter fun v => v.handle ≠ native ∧ v.parent ≠ some native) ∧
    (∀ view, s'.view? view =
      if view = native ∨ s.parent? view = some native then none else s.view? view) ∧
    ((∀ view, s.BelongsTo view native → s'.isWindow view = false) ↔
      ∀ view, s.above 2 view ≠ some native) ∧
    ((∀ view parent, s.parent? view = some parent → s.isWindow parent = true) →
      ((∀ view parent, s'.parent? view = some parent → s'.isWindow parent = true) ↔
        ∀ view, s.above 2 view ≠ some native)) := by
  intro w s s'
  have hw : GroundedAtRest w := groundedAtRest_run setup hsteps
  have hs : s.Ordered := hw.rooted.ordered 0
  have hacyclic := hw.grounded.not_liesIn_self
  have hviews : s'.views = (s.removeView native).views := hw.views_destroyNative hw.rest hwindow
  have hview? (view : NativeHandle) : s'.view? view = (s.removeView native).view? view := by
    rw [Host.view?, hviews, Host.view?]
  have hisWindow (view : NativeHandle) : s'.isWindow view = (s.removeView native).isWindow view := by
    rw [Host.isWindow, hview?, Host.isWindow]
  have hparent? (view : NativeHandle) : s'.parent? view = (s.removeView native).parent? view := by
    rw [Host.parent?, hview?, Host.parent?]
  refine ⟨hviews, fun view ↦ (hview? view).trans hs.view?_removeView, ?_, fun hseated ↦ ?_⟩
  · simp only [hisWindow]
    exact hs.removeView_whole_iff hacyclic
  · simp only [hisWindow, hparent?]
    exact hs.removeView_seated_iff hacyclic hseated

/-- Two windows, with a view in each. The second goes with its view, and all that is left is in a view
that is there. -/
theorem destruction_reaches_one_level_beside :
    let steps : List Step :=
      [.openWindow 0 {} "a" 0 0 9 9, .openWindow 0 {} "b" 0 0 9 9,
        .host 0 (.addChild (.slot 0) .empty), .host 0 (.addChild (.slot 1) .empty)]
    let w := (Session.run [{}] steps).2
    let s := host w 0
    let s' := host (destroyNative (scripted 0) 0 ⟨2⟩ w) 0
    grows (World.empty [{}]) steps = true ∧ s.isWindow ⟨2⟩ = true ∧
      s'.views.map (·.handle) = [⟨1⟩, ⟨3⟩] ∧
      (∀ view, s.BelongsTo view ⟨2⟩ → s'.isWindow view = false) ∧
      ∀ view parent, s'.parent? view = some parent → s'.isWindow parent = true := by
  intro steps w s s'
  have hsteps : grows (World.empty [{}]) steps = true := by decide +kernel
  have hwindow : s.isWindow ⟨2⟩ = true := by decide +kernel
  have hroots : ∀ seat ∈ s.seats, ∀ parent ∈ seat.2,
      s.isWindow parent = true ∧ s.parent? parent = none := by decide +kernel
  have hparent {view parent : NativeHandle} (h : s.parent? view = some parent) :=
    hroots _ (Host.mem_seats_of_parent? h) parent rfl
  have hshallow : ∀ view, s.above 2 view ≠ some ⟨2⟩ := by
    intro view h
    obtain ⟨parent, hin, hup⟩ := Option.bind_eq_some_iff.mp h
    rw [Host.above, (hparent hin).2] at hup
    cases hup
  obtain ⟨-, -, hwhole, hseated⟩ := destruction_reaches_one_level {} hsteps hwindow
  exact ⟨hsteps, hwindow, by decide +kernel, hwhole.mpr hshallow,
    (hseated fun view parent h ↦ (hparent h).1).mpr hshallow⟩

/-- A window with a view in it, and one in that. The innermost view outlives the window. -/
theorem nested_view_left_behind :
    let steps : List Step :=
      [.host 0 (.createNative "a" .empty), .host 0 (.addChild (.handle ⟨1⟩) .empty),
        .host 0 (.addChild (.handle ⟨2⟩) .empty)]
    let w := (Session.run [{}] steps).2
    let s' := host (destroyNative (scripted 0) 0 ⟨1⟩ w) 0
    (host w 0).isChild ⟨1⟩ ⟨3⟩ = true ∧ s'.isWindow ⟨3⟩ = true ∧
      s'.parent? ⟨3⟩ = some ⟨2⟩ ∧ s'.isWindow ⟨2⟩ = false := by
  decide +kernel

end World

end Casement
