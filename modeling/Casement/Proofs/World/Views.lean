import Casement.Proofs.World.Independence
import Mathlib.Data.List.Count
import Mathlib.Logic.Relation

namespace Casement

namespace Host

/-- Every view is newer than the one it lies in. -/
def Grounded (s : Host) : Prop :=
  ∀ seat ∈ s.seats, ∀ parent, seat.2 = some parent → parent.val < seat.1.val

def BelongsTo (s : Host) (view outer : NativeHandle) : Prop :=
  Relation.ReflTransGen (fun v parent => s.parent? v = some parent) view outer

variable {s : Host} {view outer outer' parent target : NativeHandle} {n : Nat}

theorem mem_seats_of_parent? (h : s.parent? view = some parent) : (view, some parent) ∈ s.seats := by
  obtain ⟨v, hv, hparent⟩ := Option.bind_eq_some_iff.mp h
  have hhandle : v.handle = view := by simpa using List.find?_some hv
  rw [← hhandle, ← hparent]
  exact List.mem_map_of_mem (List.mem_of_find?_eq_some hv)

theorem parent?_eq_none (h : ∀ seat ∈ s.seats, seat.1 = view → seat.2 = none) :
    s.parent? view = none := by
  cases hparent : s.parent? view with
  | none => rfl
  | some parent => cases h _ (mem_seats_of_parent? hparent) rfl

theorem parent?_congr {s' : Host} (h : s'.seats = s.seats) (view : NativeHandle) :
    s'.parent? view = s.parent? view := by
  have hseats (s : Host) : s.parent? view = (s.seats.find? (·.1 = view)).bind (·.2) := by
    rw [seats, List.find?_map, Option.bind_map]
    rfl
  rw [hseats, hseats, h]

theorem belongsTo_congr {s' : Host} (h : s'.seats = s.seats) :
    s'.BelongsTo view outer ↔ s.BelongsTo view outer := by
  simp only [BelongsTo, parent?_congr h]

theorem BelongsTo.eq_of_root (h : s.BelongsTo view outer) (hroot : s.parent? view = none) :
    view = outer := by
  cases h.cases_head with
  | inl heq => exact heq
  | inr hstep =>
    obtain ⟨parent, hparent, -⟩ := hstep
    rw [hroot] at hparent
    cases hparent

theorem BelongsTo.root_unique (h : s.BelongsTo view outer) (h' : s.BelongsTo view outer')
    (hroot : s.parent? outer = none) (hroot' : s.parent? outer' = none) : outer = outer' := by
  have hunique : Relator.RightUnique fun v parent => s.parent? v = some parent := by
    intro v p p' hp hp'
    rw [hp, Option.some.injEq] at hp'
    exact hp'
  rcases Relation.ReflTransGen.total_of_right_unique hunique h h' with hup | hup
  · exact BelongsTo.eq_of_root hup hroot
  · exact (BelongsTo.eq_of_root hup hroot').symm

/-- How many views are no newer than a handle: an upper bound for the way up from there. -/
def height (s : Host) (h : NativeHandle) : Nat := s.views.countP (·.handle.val ≤ h.val)

theorem Grounded.height_lt (hs : s.Grounded) (h : s.parent? view = some parent) :
    s.height parent < s.height view := by
  have hseat := mem_seats_of_parent? h
  have hlt : parent.val < view.val := hs _ hseat parent rfl
  obtain ⟨v, hv, heq⟩ := List.mem_map.mp hseat
  have hhandle : v.handle = view := congrArg (·.1) heq
  have hboth : s.height parent =
      (s.views.filter (·.handle.val ≤ view.val)).countP (·.handle.val ≤ parent.val) := by
    rw [List.countP_filter]
    refine List.countP_congr fun u _ ↦ ?_
    simp only [decide_eq_true_eq, Bool.and_eq_true]
    omega
  rw [hboth, height, List.countP_eq_length_filter (l := s.views), List.countP_lt_length_iff]
  refine ⟨v, List.mem_filter.mpr ⟨hv, ?_⟩, ?_⟩
  · simp [hhandle]
  · simpa [hhandle] using hlt

theorem climb_sound (h : s.climb target n (some view) = some true) : s.BelongsTo view target := by
  induction n generalizing view with
  | zero => cases h
  | succ n ih =>
    rw [climb] at h
    split at h
    · next heq =>
      rw [heq]
      exact .refl
    · cases hparent : s.parent? view with
      | none => simp [hparent, climb] at h
      | some parent =>
        rw [hparent] at h
        exact .head hparent (ih h)

theorem Grounded.climb_complete (hs : s.Grounded) (h : s.BelongsTo view target)
    (hn : s.height view < n) : s.climb target n (some view) = some true := by
  induction n generalizing view with
  | zero => omega
  | succ n ih =>
    rw [climb]
    split
    · rfl
    · next hne =>
      rcases h.cases_head with heq | ⟨parent, hparent, hrest⟩
      · exact absurd heq hne
      · rw [hparent]
        have hlt := hs.height_lt hparent
        exact ih hrest (by omega)

/-- Whether a view lies in another one is found by climbing. -/
theorem Grounded.isChild_iff (hs : s.Grounded) :
    s.isChild outer view = true ↔ ∃ parent, s.parent? view = some parent ∧ s.BelongsTo parent outer := by
  rw [isChild, liesIn?]
  cases hparent : s.parent? view with
  | none => simp [climb]
  | some parent =>
    have hfuel : s.height parent < s.views.length + 1 := Nat.lt_succ_of_le List.countP_le_length
    have hclimb : s.climb outer (s.views.length + 1) (some parent) = some true ↔
        s.BelongsTo parent outer := ⟨climb_sound, fun h ↦ hs.climb_complete h hfuel⟩
    rw [Option.getD_eq_iff]
    simp [hclimb]

theorem Grounded.belongsTo_iff (hs : s.Grounded) :
    s.BelongsTo view outer ↔ view = outer ∨ s.isChild outer view = true := by
  rw [hs.isChild_iff]
  constructor
  · intro h
    exact h.cases_head
  · rintro (rfl | ⟨parent, hparent, hrest⟩)
    · exact .refl
    · exact .head hparent hrest

end Host

namespace World

variable {w w' w'' : World} {o : ObjectId} {key : Key} {win : Window} {n : Nat} {gone : List Key}
  {removed : List (Nat × NativeHandle)} {native : NativeHandle}

/-- Views of the first host may have gone, each with those directly in it, and windows from the
registry; none has come. -/
structure RemovesViews (w w' : World) : Prop where
  registered : ∀ {o}, w'.IsRegistered o → w.IsRegistered o ∧ (window w' o).native = (window w o).native
  seats : ∃ removed : List NativeHandle, ∀ seat, seat ∈ (host w' 0).seats ↔
    seat ∈ (host w 0).seats ∧ ∀ n ∈ removed, seat.1 ≠ n ∧ seat.2 ≠ some n

theorem RemovesViews.trans (h : RemovesViews w w') (h' : RemovesViews w' w'') :
    RemovesViews w w'' where
  registered ho := by
    obtain ⟨ho', hnative'⟩ := h'.registered ho
    obtain ⟨ho'', hnative⟩ := h.registered ho'
    exact ⟨ho'', hnative'.trans hnative⟩
  seats := by
    obtain ⟨removed, hseats⟩ := h.seats
    obtain ⟨removed', hseats'⟩ := h'.seats
    refine ⟨removed ++ removed', fun seat ↦ ?_⟩
    rw [hseats', hseats, List.forall_mem_append, and_assoc]

theorem RemovesViews.of_seats (hregistered : ∀ {o}, w'.IsRegistered o → w.IsRegistered o ∧
      (window w' o).native = (window w o).native)
    (hseats : (host w' 0).seats = (host w 0).seats) : RemovesViews w w' :=
  ⟨hregistered, [], fun seat ↦ by simp [hseats]⟩

theorem RemovesViews.refl (w : World) : RemovesViews w w := .of_seats (fun ho ↦ ⟨ho, rfl⟩) rfl

theorem RemovesViews.of_same (hsame : SameWindows w w')
    (hseats : (host w' 0).seats = (host w 0).seats) :
    RemovesViews w w' :=
  .of_seats (fun ho ↦ ⟨(Registry.isRegistered_congr hsame.entries _).mp ho, by rw [hsame.window]⟩) hseats

theorem RemovesViews.modifyBundle (w : World) (i : Nat) (f : Bundle → Bundle)
    (hf : ∀ b, (f b).host.seats = b.host.seats) : RemovesViews w (modifyBundle i f w) :=
  .of_same ⟨rfl, rfl, rfl⟩ (reading_modifyBundle w i 0 (·.host.seats) f hf)

theorem Steady.removesViews (h : Steady w w') : RemovesViews w w' := .of_same h.same (h.seats 0)

theorem Solo.removesViews (h : Solo o w w' win n) : RemovesViews w w' :=
  .of_seats (fun ho ↦ ⟨(Registry.isRegistered_congr h.entries _).mp ho, h.native_eq _⟩)
    (congrArg (·.1) (h.standing 0))

theorem Loses.removesViews (h : Loses gone removed w w') : RemovesViews w w' where
  registered ho := ⟨h.registered ho, by rw [h.windows ho]⟩
  seats := by
    refine ⟨(removed.filter (·.1 = 0)).map (·.2), fun seat ↦ ?_⟩
    rw [h.seats 0, List.forall_mem_map, List.forall_mem_filter]
    simp only [decide_eq_true_eq]

theorem RemovesViews.destroyNative (hw : Quiet w) {i : Nat} (hi : i < w.env.bundles.length)
    (native : NativeHandle) : RemovesViews w (destroyNative (scripted 0) i native w) := by
  rcases Loses.destroyNative hw hi native with ⟨heq, -⟩ | hend
  · rw [heq]
    exact .refl w
  · exact hend.removesViews

theorem RemovesViews.requestDestroy (hw : Quiet w) {i : Nat} (hi : i < w.env.bundles.length)
    (native : NativeHandle) : RemovesViews w (requestDestroy (scripted 0) i native w) := by
  have hcalled : Quiet (World.call i (.destroyWindow native) w) := hw.of_evolves (.call w _ _ rfl)
  refine (Steady.call w i (.destroyWindow native)).removesViews.trans ?_
  unfold World.requestDestroy
  dsimp only
  split
  · exact .modifyBundle _ i _ fun _ ↦ rfl
  · exact .destroyNative hcalled hi native

theorem RemovesViews.closeWindow (hw : Quiet w) (key : Key) :
    RemovesViews w (closeWindow (scripted 0) key w).2 := by
  rcases hw.closeWindow key with ⟨-, heq⟩ | ⟨o, w₁, -, hquiet, hsolo, heq⟩
  · rw [heq]
    exact .refl w
  · rw [heq]
    exact hsolo.removesViews.trans (.requestDestroy hquiet hsolo.host_lt _)

theorem RemovesViews.dispatch (hw : Quiet w) (native : NativeHandle) (m : Message) :
    RemovesViews w (dispatch (scripted 0) native m w).2 := by
  by_cases hm : m = .destroy
  · subst hm
    exact (Loses.dispatch_destroy hw native).removesViews
  · cases hfind : World.find? w native with
    | none =>
      simp only [World.dispatch, hfind]
      exact .refl w
    | some k =>
      obtain ⟨-, o, hk⟩ := find?_isOpen hfind
      exact (hw.dispatch_solo hm hfind hk).removesViews

theorem RemovesViews.withWindow {β : Type} (hw : Quiet w) (body : ObjectId → World → β × World)
    (hevolves : ∀ o, Evolves (fun _ ↦ True) (some o) (w.borrow o) (body o (w.borrow o)).2)
    (hbody : ∀ {o win}, Solo o (w.borrow o) (w.borrow o) win 0 → ∃ win' n,
      Solo o (w.borrow o) (body o (w.borrow o)).2 win' n) :
    RemovesViews w (withWindow (scripted 0) key body w).2 := by
  cases hkey : Registry.find? w (some ()) key with
  | none =>
    have hsame : (World.withWindow (scripted 0) key body w).2 = w := by
      simp [World.withWindow, Registry.access, hkey]
    rw [hsame]
    exact .refl w
  | some o =>
    obtain ⟨win', n, hsolo⟩ := hbody (hw.solo hkey)
    exact (hw.withWindow_solo hkey body (hevolves o) hsolo).2.removesViews

theorem RemovesViews.turn (hw : Quiet w) (key : Key) :
    RemovesViews w (Registry.turn (conduct (scripted 0)) none w key) := by
  cases hkey : Registry.find? w (some ()) key with
  | none =>
    rw [turn_eq_self hkey]
    exact .refl w
  | some o =>
    obtain ⟨w₁, hquiet, hsolo, hlast⟩ := hw.turn hkey
    refine hsolo.removesViews.trans (RemovesViews.trans ?_ hlast.removesViews)
    split
    · exact .requestDestroy hquiet (by rw [hsolo.value]; exact hsolo.host_lt) (window w₁ o).native
    · exact .refl w₁

theorem RemovesViews.heartbeat (hw : Quiet w) : RemovesViews w (heartbeat (scripted 0) w) := by
  unfold World.heartbeat Registry.pass
  induction w.keys none generalizing w with
  | nil => exact .refl w
  | cons key rest ih => exact (RemovesViews.turn hw key).trans (ih (hw.of_turn key))

theorem RemovesViews.destroyNatives (hw : Quiet w) (hone : w.env.bundles.length = 1)
    (natives : List NativeHandle) :
    RemovesViews w (natives.foldl
      (fun w native => World.destroyNative (scripted 0) 0 native w) w) := by
  induction natives generalizing w with
  | nil => exact .refl w
  | cons native rest ih =>
    have hevolves : Evolves (fun _ ↦ True) none w (World.destroyNative (scripted 0) 0 native w) :=
      .destroyNative evolves_alone w 0 native
    have hhosts := (hevolves.lawful hw.coherent (by simp)).2.hosts
    exact (RemovesViews.destroyNative hw (by omega) native).trans
      (ih (hw.of_evolves hevolves) (hhosts.trans hone))

/-- What a step that is not nested does to the views of the only host: some go, or one comes, in
`parent` or as the native window of a window, and some go. -/
inductive Reseats (parent : Option NativeHandle) (w w' : World) : Prop
  | removes (hremoves : RemovesViews w w')
  | adds {w₁ : World} (hgains : Gains 0 ((host w 0).freshHandle, parent) w w₁)
      (hremoves : RemovesViews w₁ w')
  | opens {w₁ : World} {win : Window} (hnative : win.native = (host w 0).freshHandle)
      (hgains : Gains 0 ((host w 0).freshHandle, none) w w₁) (hcoherent : Coherent (fun _ ↦ True) w₁)
      (hremoves : RemovesViews (install win w₁) w')

theorem Reseats.trans_removesViews {parent : Option NativeHandle} (h : Reseats parent w w')
    (h' : RemovesViews w' w'') : Reseats parent w w'' := by
  cases h with
  | removes hremoves => exact .removes (hremoves.trans h')
  | adds hgains hremoves => exact .adds hgains (hremoves.trans h')
  | opens hnative hgains hcoherent hremoves =>
    exact .opens hnative hgains hcoherent (hremoves.trans h')

def newParent? (w : World) : Step → Option NativeHandle
  | .host h (.addChild parent _) => if hasHost w h then some (resolve w parent) else none
  | _ => none

theorem DeskInStep.reseats_openWindow (hw : DeskInStep w) (config : ContextConfig) (title : String)
    (x y width height : Int32) :
    Reseats none w (openWindow (scripted 0) 0 config title x y width height w).2 := by
  have hhost : 0 < w.env.bundles.length := hw.one.symm ▸ Nat.one_pos
  rcases openWindow_cases hhost config title x y width height with
    hsteady | ⟨w₁, hgains, hlawful, hsteady⟩ | ⟨w₁, background, atlas, hgains, hlawful, hsteady⟩
  · exact .removes hsteady.removesViews
  · have hend : RemovesViews w₁ (requestDestroy (scripted 0) 0 (host w 0).freshHandle w₁) :=
      .requestDestroy (hw.quiet.of_lawful hlawful) (hgains.hosts.symm ▸ hhost) _
    exact .adds hgains (hend.trans hsteady.removesViews)
  · exact .opens rfl hgains (hw.quiet.of_lawful hlawful).coherent hsteady.removesViews

theorem DeskInStep.reseats_hostStep (hw : DeskInStep w) (step : HostStep) :
    Reseats (newParent? w (.host 0 step)) w (runHostStep (scripted 0) 0 step w).2 := by
  have hhost : 0 < w.env.bundles.length := hw.one.symm ▸ Nat.one_pos
  cases step with
  | runTimers =>
    simp only [World.runHostStep]
    rw [hw.quiet.runTimers_eq hw.watched hw.one]
    exact .removes (.heartbeat hw.quiet)
  | send target m => exact .removes (.dispatch hw.quiet _ m)
  | sendAccel target code down => exact .removes (hw.quiet.offerAccel _ _).removesViews
  | addChild parent rect =>
    rw [newParent?, if_pos (hasHost_iff.mpr hhost)]
    exact .adds (.addView w hhost _ fun _ ↦ ⟨rfl, rfl⟩) (.refl _)
  | createNative title rect =>
    simp only [World.runHostStep]
    split
    · exact .removes (.refl w)
    · exact .adds (.addView w hhost (fun handle => { handle, title, rect }) fun _ ↦ ⟨rfl, rfl⟩) (.refl _)
  | destroyNative target => exact .removes (.destroyNative hw.quiet hhost _)
  | consume kinds => exact .removes (.modifyBundle w 0 _ fun _ ↦ rfl)
  | deferDestroy on => exact .removes (.modifyBundle w 0 _ fun _ ↦ rfl)
  | flushDestroy =>
    have hemptied : Quiet (modifyBundle 0 ({ · with deferred := [] }) w) :=
      hw.quiet.of_evolves (.modifyBundle w 0 _ (fun _ ↦ rfl) fun _ _ ↦ .inl)
    exact .removes (.trans (.modifyBundle w 0 ({ · with deferred := [] }) fun _ ↦ rfl)
      (.destroyNatives hemptied ((length_bundles_modifyBundle ..).trans hw.one) _))
  | _ => exact .removes (Steady.runHostStep w 0 rfl).removesViews

theorem DeskInStep.reseats (hw : DeskInStep w) {s : Step} (hflat : s.isFlat = true) :
    Reseats (newParent? w s) w (runStep (scripted 0) none s w).2 := by
  cases s with
  | openWindow h config title x y width height =>
    unfold World.runStep
    split
    · next hh =>
      obtain rfl := eq_zero_of_hasHost hw.one hh
      have hopened := hw.reseats_openWindow config title x y width height
      generalize World.openWindow (scripted 0) 0 config title x y width height w = result at hopened ⊢
      obtain ⟨opening, w₁⟩ := result
      cases opening with
      | opened native key => exact hopened.trans_removesViews (Steady.addSlot _ _).removesViews
      | failed | fault => exact hopened
    · exact .removes (.refl w)
  | adopt h raw =>
    unfold World.runStep
    split
    · exact .removes (.trans (.withWindow hw.quiet _ (fun o ↦ .refl _ _) fun h ↦ ⟨_, _, h⟩)
        (Steady.addSlot _ _).removesViews)
    · exact .removes (.refl w)
  | close n =>
    unfold World.runStep
    split
    · exact .removes (.refl w)
    · exact .removes (.closeWindow hw.quiet _)
  | unregister n =>
    unfold World.runStep
    split
    · exact .removes (.refl w)
    · exact .removes (Loses.unregister hw.quiet.coherent _).removesViews
  | heartbeat | tick => exact .removes (.heartbeat hw.quiet)
  | dispatch target m => exact .removes (.dispatch hw.quiet _ m)
  | accel registered target code down => exact .removes (hw.quiet.routeKey _ _).removesViews
  | host h step =>
    unfold World.runStep
    split
    · next hh =>
      obtain rfl := eq_zero_of_hasHost hw.one hh
      exact hw.reseats_hostStep step
    · exact .removes (.refl w)
  | window place step =>
    cases place with
    | current => exact .removes (.refl w)
    | slot n =>
      unfold World.runStep
      split
      · exact .removes (.refl w)
      · refine .removes (.withWindow hw.quiet
          (fun o w => World.runWindowStep (scripted 0) o step w)
          (fun o ↦ .runWindowStep evolves_alone _ o step trivial) fun h ↦ ?_)
        obtain ⟨surroundings, n', hsolo⟩ := h.effect step
        exact ⟨_, n', hsolo⟩
  | within n steps =>
    unfold World.runStep
    split
    · exact .removes (.refl w)
    · refine .removes (.withWindow hw.quiet
        (fun o w => World.runSteps (scripted 0) (some o) steps w)
        (fun o ↦ .runSteps evolves_alone (some o) steps
          (Step.usesAll_of_forall (fun _ ↦ trivial) steps) _) fun h ↦ ?_)
      obtain ⟨win', n', -, hsolo⟩ := h.works hflat
      exact ⟨win', n', hsolo⟩
  | hook => cases hflat
  | contains | count | all | find | holdAtlas | dropAtlas | currentAtlas | editAtlas | holdWatchdog
  | dropWatchdog => exact .removes (Steady.runStep w rfl).removesViews

theorem RemovesViews.grounded (h : RemovesViews w w') (hw : (host w 0).Grounded) :
    (host w' 0).Grounded := by
  obtain ⟨removed, hseats⟩ := h.seats
  exact fun seat hseat ↦ hw seat ((hseats seat).mp hseat).1

theorem Gains.grounded {parent : Option NativeHandle} (h : Gains 0 ((host w 0).freshHandle, parent) w w')
    (hw : (host w 0).Grounded) (hparent : ∀ p, parent = some p → p.val < (host w 0).nextHandle) :
    (host w' 0).Grounded := by
  intro seat hseat p hp
  rcases (h.seats 0 seat).mp hseat with hold | ⟨-, rfl⟩
  · exact hw seat hold p hp
  · exact hparent p hp

theorem Reseats.grounded {parent : Option NativeHandle} (h : Reseats parent w w')
    (hw : (host w 0).Grounded) (hparent : ∀ p, parent = some p → p.val < (host w 0).nextHandle) :
    (host w' 0).Grounded := by
  cases h with
  | removes hremoves => exact hremoves.grounded hw
  | adds hgains hremoves => exact hremoves.grounded (hgains.grounded hw hparent)
  | @opens w₁ win hnative hgains hcoherent hremoves =>
    have hseats : (host (install win w₁) 0).seats = (host w₁ 0).seats :=
      congrArg (·.1) (standing_install win w₁ 0)
    refine hremoves.grounded ?_
    rw [Host.Grounded, hseats]
    exact hgains.grounded hw (by simp)

def addsInside (w : World) : Step → Bool
  | .host h (.addChild parent _) => !hasHost w h || (host w h).isWindow (resolve w parent)
  | _ => true

def grows : World → List Step → Bool
  | _, [] => true
  | w, s :: rest => s.isFlat && addsInside w s && grows (runStep (scripted 0) none s w).2 rest

/-- A step adds a view only in one whose handle has been given out, whether it is there or not. -/
def addsUnder (w : World) : Step → Bool
  | .host h (.addChild parent _) =>
    !hasHost w h || decide ((resolve w parent).val < (host w h).nextHandle)
  | _ => true

/-- A script that is not nested and adds views only under handles that have been given out. -/
def descends : World → List Step → Bool
  | _, [] => true
  | w, s :: rest => s.isFlat && addsUnder w s && descends (runStep (scripted 0) none s w).2 rest

structure GroundedAtRest (w : World) : Prop extends DeskInStep w where
  rest : AtRest w
  grounded : (host w 0).Grounded

theorem newParent?_eq_some {s : Step} {parent : NativeHandle} (hone : w.env.bundles.length = 1)
    (h : newParent? w s = some parent) : hasHost w 0 = true ∧
      ∃ target rect, s = .host 0 (.addChild target rect) ∧ resolve w target = parent := by
  unfold newParent? at h
  split at h
  · next i target rect =>
    obtain ⟨hhas, heq⟩ := Option.ite_none_right_eq_some.mp h
    obtain rfl := eq_zero_of_hasHost hone hhas
    exact ⟨hhas, target, rect, rfl, Option.some.inj heq⟩
  · cases h

theorem isWindow_of_addsInside {s : Step} {parent : NativeHandle} (h : addsInside w s = true)
    (hone : w.env.bundles.length = 1) (hparent : newParent? w s = some parent) :
    (host w 0).isWindow parent = true := by
  obtain ⟨hhas, target, rect, rfl, rfl⟩ := newParent?_eq_some hone hparent
  simpa [addsInside, hhas] using h

theorem val_lt_of_addsUnder {s : Step} {parent : NativeHandle} (h : addsUnder w s = true)
    (hone : w.env.bundles.length = 1) (hparent : newParent? w s = some parent) :
    parent.val < (host w 0).nextHandle := by
  obtain ⟨hhas, target, rect, rfl, rfl⟩ := newParent?_eq_some hone hparent
  simpa [addsUnder, hhas] using h

theorem DeskInStep.addsUnder (hw : DeskInStep w) {s : Step} (h : addsInside w s = true) :
    addsUnder w s = true := by
  unfold addsInside at h
  unfold World.addsUnder
  split at h
  · next i parent rect =>
    rw [Bool.or_eq_true] at h ⊢
    refine h.imp_right fun hseated ↦ ?_
    obtain ⟨seat, hseat, heq⟩ := Host.isWindow_iff.mp hseated
    have hissued := hw.rooted.issued i seat hseat
    rw [heq] at hissued
    exact decide_eq_true hissued
  · rfl

theorem GroundedAtRest.runStep (hw : GroundedAtRest w) {s : Step} (hflat : s.isFlat = true)
    (hadds : addsUnder w s = true) : GroundedAtRest (runStep (scripted 0) none s w).2 := by
  have hevolves : Evolves (fun _ ↦ True) none w (World.runStep (scripted 0) none s w).2 :=
    .runStep evolves_alone none s (Step.uses_of_forall (fun _ ↦ trivial) s) w
  exact ⟨hw.of_evolves hevolves,
    hw.rest.of_follows (hevolves.lawful hw.quiet.coherent (by simp)).2,
    (hw.reseats hflat).grounded hw.grounded fun _ ↦ val_lt_of_addsUnder hadds hw.one⟩

/-- No view belongs to two windows. -/
theorem GroundedAtRest.belongsTo_unique (hw : GroundedAtRest w) {o o' : ObjectId}
    {view : NativeHandle}
    (ho : w.IsRegistered o) (ho' : w.IsRegistered o')
    (h : (host w 0).BelongsTo view (window w o).native)
    (h' : (host w 0).BelongsTo view (window w o').native) : o = o' := by
  have hroot {o : ObjectId} (hreg : w.IsRegistered o) : (host w 0).parent? (window w o).native = none := by
    obtain ⟨key, hkey⟩ := isRegistered_iff.mp hreg
    exact Host.parent?_eq_none (hw.sited.rooted hkey)
  exact hw.quiet.coherent.native_inj hw.one (ho.lt hw.quiet.coherent.sound)
    (ho'.lt hw.quiet.coherent.sound) (h.root_unique h' (hroot ho) (hroot ho'))

theorem groundedAtRest_empty (setup : HostSetup) : GroundedAtRest (World.empty [setup]) where
  toDeskInStep := deskInStep_empty setup
  rest := atRest_empty [setup]
  grounded seat hseat := by cases hseat

theorem hooks_of_isFlat {s : Step} (h : s.isFlat = true) : s.hooks = 0 := by
  cases s with
  | within n steps =>
    refine hooksAll_eq_zero fun s hs ↦ ?_
    have hcurrent := List.all_eq_true.mp h s hs
    cases s with
    | window => rfl
    | _ => cases hcurrent
  | hook => cases h
  | _ => rfl

theorem run_of_isFlat (hosts : List HostSetup) {steps : List Step}
    (h : ∀ s ∈ steps, s.isFlat = true) :
    (Session.run hosts steps).2 = (runSteps (scripted 0) none steps (World.empty hosts)).2 :=
  run_of_hooks hosts fun s hs ↦ hooks_of_isFlat (h s hs)

theorem isFlat_of_descends {steps : List Step} (h : descends w steps = true) :
    ∀ s ∈ steps, s.isFlat = true := by
  induction steps generalizing w with
  | nil => simp
  | cons s rest ih =>
    simp only [descends, Bool.and_eq_true] at h
    exact List.forall_mem_cons.mpr ⟨h.1.1, ih h.2⟩

theorem GroundedAtRest.runSteps (hw : GroundedAtRest w) {steps : List Step}
    (h : descends w steps = true) :
    GroundedAtRest (runSteps (scripted 0) none steps w).2 := by
  induction steps generalizing w with
  | nil => exact hw
  | cons s rest ih =>
    simp only [descends, Bool.and_eq_true] at h
    exact ih (hw.runStep h.1.1 h.1.2) h.2

theorem groundedAtRest_run_of_descends (setup : HostSetup) {steps : List Step}
    (h : descends (World.empty [setup]) steps = true) :
    GroundedAtRest (Session.run [setup] steps).2 := by
  rw [run_of_isFlat [setup] (isFlat_of_descends h)]
  exact (groundedAtRest_empty setup).runSteps h

theorem GroundedAtRest.descends (hw : GroundedAtRest w) {steps : List Step}
    (h : grows w steps = true) :
    descends w steps = true := by
  induction steps generalizing w with
  | nil => rfl
  | cons s rest ih =>
    simp only [grows, Bool.and_eq_true] at h
    have hadds := hw.addsUnder h.1.2
    simp only [World.descends, Bool.and_eq_true]
    exact ⟨⟨h.1.1, hadds⟩, ih (hw.runStep h.1.1 hadds) h.2⟩

theorem isFlat_of_grows {steps : List Step} (h : grows w steps = true) :
    ∀ s ∈ steps, s.isFlat = true := by
  induction steps generalizing w with
  | nil => simp
  | cons s rest ih =>
    simp only [grows, Bool.and_eq_true] at h
    exact List.forall_mem_cons.mpr ⟨h.1.1, ih h.2⟩

theorem groundedAtRest_run (setup : HostSetup) {steps : List Step}
    (h : grows (World.empty [setup]) steps = true) : GroundedAtRest (Session.run [setup] steps).2 :=
  groundedAtRest_run_of_descends setup ((groundedAtRest_empty setup).descends h)

end World

end Casement
