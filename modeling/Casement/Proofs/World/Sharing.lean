import Casement.Proofs.World.Atlas
import Casement.Proofs.World.FrameProtocol
import Mathlib.Data.List.Induction

namespace Casement.World

variable {ok : WindowStep → Prop} {w w' w'' : World} {o : ObjectId} {k : Reentry}

theorem Supplied.keepsOrEndsAtlas_release (hs : Supplied 0 w)
    (hk : ∀ h p w, Moves ok none w (k h p w))
    (ho : o < w.cells.length) (halive : o ∉ w.dropped) (hw : Coherent ok (w.letGo o))
    (hbusy : w.cells[o]?.any (·.owners ≤ 1) = true → (w.letGo o).IsBusy o) :
    KeepsOrEndsAtlas w (Registry.release (disposal k) o w) := by
  rw [Registry.release_eq]
  split
  · next hlast =>
    obtain ⟨w₂, hdrop, heq⟩ := Moves.dropWindow (w.letGo o) o hk
    have hend : (disposal k).drop o (w.letGo o) = World.discharge w₂ := heq
    obtain ⟨-, hstays⟩ := hs.ending ho halive hlast hw (hbusy hlast) hdrop.supplied
    rw [hend]
    exact hstays.keepsOrEndsAtlas.trans (.discharge w₂)
  · have hstays : KeepsAtlas w (w.letGo o) := .of_stock rfl
    exact hstays.keepsOrEndsAtlas

theorem Supplied.keepsOrEndsAtlas_forget {w₁ : World} (hs : Supplied 0 w) (hw : Coherent ok w)
    (hk : ∀ h p w, Moves ok none w (k h p w)) (hf : Forgets o w w₁) :
    KeepsOrEndsAtlas w (Registry.release (disposal k) o w₁) := by
  have hm := hf.left hw
  have hforget : KeepsAtlas w w₁ := .forget hf
  exact hforget.keepsOrEndsAtlas.trans
    ((hs.forget hf).keepsOrEndsAtlas_release hk hm.lt hm.alive hm.released hm.ending)

def NeverRenewsAtlas (w w' : World) : Prop :=
  Evolves (fun _ ↦ True) none w w' ∧
    (Coherent (fun _ ↦ True) w → Supplied 0 w → KeepsOrEndsAtlas w w')

theorem NeverRenewsAtlas.trans (h : NeverRenewsAtlas w w') (h' : NeverRenewsAtlas w' w'') :
    NeverRenewsAtlas w w'' := by
  refine ⟨h.1.trans h'.1, fun hw hs ↦ (h.2 hw hs).trans (h'.2 ?_ ?_)⟩
  · exact (h.1.lawful hw (by simp)).1
  · exact (h.1.moves.supplied hw (by simp) (by simp) hs).1

theorem Aside.neverRenewsAtlas {may : HostStep → Prop} (h : Aside (fun _ ↦ True) may w w') :
    NeverRenewsAtlas w w' := by
  have hstays : KeepsAtlas w w' := by
    cases h with
    | unseen f hcore =>
      have hatlas : (f w.env).core.atlas = w.env.core.atlas := by rw [hcore]
      have hedits : (f w.env).core.edits = w.env.core.edits := by rw [hcore]
      exact .of_value hedits (congrArg Shared.generation hatlas) (congrArg Shared.value hatlas)
    | addView | editView | setCapture | releaseCapture | report | inject => exact .of_stock rfl
  exact ⟨h.evolves, fun _ _ ↦ hstays.keepsOrEndsAtlas⟩

def neverRenewing : Option ObjectId → World → World → Prop
  | none => NeverRenewsAtlas
  | some o => Evolves (fun _ ↦ True) (some o)

theorem NeverRenewsAtlas.calls (hk : ∀ h p w, Evolves (fun _ ↦ True) none w (k h p w)) :
    Calls (fun _ ↦ True) (fun _ ↦ True) k neverRenewing where
  resolves _ _ := id
  reentry o h p w := .nested o (hk h p w)
  trans {current _ _ _} h h' := by
    cases current with
    | none => exact NeverRenewsAtlas.trans h h'
    | some o => exact Evolves.trans h h'
  nested o h := .nested o h.1
  aside h := h.neverRenewsAtlas
  touch := .touch
  keepAtlas := .keepAtlas
  mouseDown := .mouseDown
  mouseUp := .mouseUp
  beginFrame := .beginFrame hk
  endFrame := .endFrame hk
  newFrame := .newFrame hk
  renderFrame w o _ := .renderFrame w o trivial
  discardFrame w o _ := .discardFrame w o trivial
  hold {w w₂ w₃ o} ho hfree hbody hafter := by
    have hbody : Evolves (fun _ ↦ True) (some o) (w.borrow o) w₂ := hbody
    obtain ⟨hafter, -⟩ : NeverRenewsAtlas (w₂.setBorrowed o false) w₃ := hafter
    refine ⟨.hold hk ho hfree hbody hafter, fun hw hs ↦ ?_⟩
    have hm := Lawful.held hw ho hfree hbody.lawful hafter.lawful
    obtain ⟨hs₃, hstays⟩ := hm.supplied hw ho hs hbody.moves.supplied hafter.moves.supplied
    exact hstays.keepsOrEndsAtlas.trans
      (hs₃.keepsOrEndsAtlas_release
        (fun h p w ↦ (hk h p w).moves) hm.lt hm.alive hm.released hm.ending)
  unregister w key := by
    refine ⟨.unregister hk w key, fun hw hs ↦ ?_⟩
    unfold Registry.unregister
    split
    · next o ho =>
      exact hs.keepsOrEndsAtlas_forget hw (fun h p w ↦ (hk h p w).moves) (.unregister ho)
    · exact (KeepsAtlas.of_stock rfl).keepsOrEndsAtlas
  destroy w native := by
    refine ⟨.destroy hk w native, fun hw hs ↦ ?_⟩
    rcases destroy_cases k native w with heq | ⟨key, hindex, ⟨ho, heq⟩ | ⟨o, ho, heq⟩⟩ <;> rw [heq]
    · exact (KeepsAtlas.of_stock rfl).keepsOrEndsAtlas
    · exact (KeepsAtlas.of_stock rfl).keepsOrEndsAtlas
    · have hkeepsOrEnds := hs.keepsOrEndsAtlas_forget hw (fun h p w ↦ (hk h p w).moves)
        (.destroy hindex ho)
      have hnoted (w₁ : World) : KeepsAtlas w₁ (note (.destroyed native) w₁) := .of_stock rfl
      exact hkeepsOrEnds.trans (hnoted _).keepsOrEndsAtlas
  removeView w h native _ hdispatch := by
    have hremoved (w₁ : World) : NeverRenewsAtlas w₁ (modifyHost h (·.removeView native) w₁) :=
      ⟨.edit (.removeView w₁ h native), fun _ _ ↦ (KeepsAtlas.of_stock rfl).keepsOrEndsAtlas⟩
    exact NeverRenewsAtlas.trans hdispatch (hremoved _)

def usesAtlas : Step → Bool
  | .openWindow .. | .holdAtlas | .dropAtlas | .editAtlas _ => true
  | _ => false

theorem NeverRenewsAtlas.runStep (hk : ∀ h p w, Evolves (fun _ ↦ True) none w (k h p w))
    (w : World) {s : Step}
    (hs : usesAtlas s = false) : NeverRenewsAtlas w (World.runStep k none s w).2 := by
  have hc := NeverRenewsAtlas.calls hk
  have hstill {w' : World} (h : Evolves (fun _ ↦ True) none w w') (hstock : stock w' = stock w) :
      NeverRenewsAtlas w w' := ⟨h, fun _ _ ↦ (KeepsAtlas.of_stock hstock).keepsOrEndsAtlas⟩
  have hself : NeverRenewsAtlas w w := hstill (.refl none w) rfl
  cases s with
  | adopt h raw =>
    unfold World.runStep
    split
    · exact NeverRenewsAtlas.trans (hc.access w _ fun o w ↦ hc.refl w) (hc.aside (.addSlot _ _))
    · exact hself
  | close n =>
    unfold World.runStep
    split
    · exact hself
    · exact hc.closeWindow w _
  | unregister n =>
    unfold World.runStep
    split
    · exact hself
    · exact hc.unregister w _
  | heartbeat | tick => exact hc.heartbeat w
  | dispatch target message => exact hc.dispatch w _ message
  | accel registered target code down => exact hc.routeKey w _ _
  | host h step =>
    unfold World.runStep
    split
    · exact hc.runHostStep w h step trivial
    · exact hself
  | window place step =>
    cases place with
    | current => exact hself
    | slot n =>
      unfold World.runStep
      split
      · exact hself
      · exact hc.access w _ fun o w ↦ .runWindowStep hk w o step trivial
  | within n steps =>
    unfold World.runStep
    split
    · exact hself
    · exact hc.access w _ fun o w ↦ .runSteps hk (some o) steps
        (Step.usesAll_of_forall (fun _ ↦ trivial) steps) w
  | holdWatchdog h =>
    unfold World.runStep
    split
    · next hh =>
      exact hstill (.edit (.holdWatchdog w h (hasHost_iff.mp hh))) (stock_acquireWatchdog w h)
    · exact hself
  | dropWatchdog =>
    unfold World.runStep
    split
    · exact hself
    · next hkept =>
      exact hstill (.edit (.dropWatchdog w hkept)) (stock_releaseWatchdog w)
  | hook h point steps =>
    refine hstill (.runStep hk none _ (Step.uses_of_forall (fun _ ↦ trivial) _) w) ?_
    unfold World.runStep
    split <;> rfl
  | contains n =>
    unfold World.runStep
    split <;> exact hself
  | count | all | find | currentAtlas => exact hself
  | openWindow | holdAtlas | dropAtlas | editAtlas => cases hs

/-- An atlas that began in between has had all edits, if it still lives. -/
def Begins (w w' : World) : Prop :=
  ∃ es, w'.env.edits = w.env.edits ++ es ∧
    (w'.env.atlas.value = some (FontAtlas.edited {} es) ∨ w'.env.atlas.value = none)

theorem Opens.keepsOrEndsAtlas (h : Opens ok w w') (hw : Coherent ok w) (hs : Supplied 0 w) :
    ∃ i, KeepsOrEndsAtlas (equip i w) w' := by
  cases h with
  | @failed w₁ w₂ i hh hbefore hafter =>
    have hequip : Lawful ok none w (equip i w) := .equip i
    obtain ⟨hw₀, -⟩ := hequip hw (by simp)
    obtain ⟨hw₁, -⟩ := hbefore.lawful hw₀ (by simp)
    have hrelease : Lawful ok none w₁ (releaseAtlas w₁) := .releaseAtlas
    obtain ⟨hs₁, hstays₁⟩ := hbefore.supplied hw₀ (by simp) (by simp) (hs.equip i)
    obtain ⟨hs₂, hstays₂⟩ := hafter.supplied (hrelease hw₁ (by simp)).1 (by simp) (by simp)
      hs₁.releaseAtlas
    have hdog : KeepsAtlas (releaseAtlas w₂) (releaseWatchdog (releaseAtlas w₂)) :=
      .of_stock (stock_releaseWatchdog _)
    have hend := (KeepsOrEndsAtlas.releaseAtlas w₂).trans hdog.keepsOrEndsAtlas
    exact ⟨i, (hstays₁ (.inl (by omega))).keepsOrEndsAtlas.trans
      ((KeepsOrEndsAtlas.releaseAtlas w₁).trans
      ((hstays₂ (.inl (by omega))).keepsOrEndsAtlas.trans hend))⟩
  | @opened w₁ w₂ win hh hbefore hnative view hview hafter hatlas r i c =>
    have hm := Lawful.openedFacts hw hh hbefore.lawful hnative hafter.lawful
    obtain ⟨hs₁, hstays₁⟩ := hbefore.supplied hm.equipped (by simp) (by simp) (hs.equip win.host)
    obtain ⟨-, hstays₂⟩ := hafter.supplied hm.viewed (by simp) (by simp)
      (hs₁.of_same ⟨rfl, rfl, rfl⟩ rfl)
    have hview : KeepsAtlas w₁ (modifyHost win.host (·.addView view) w₁) := .of_stock rfl
    have hend : KeepsAtlas w₂ (note r (call i c (install win w₂))) := .of_stock rfl
    exact ⟨win.host, ((hstays₁ (.inl (by omega))).trans
      (hview.trans ((hstays₂ (.inl (by omega))).trans hend))).keepsOrEndsAtlas⟩

theorem value_acquireAtlas (w : World) : (acquireAtlas w).env.edits = w.env.edits ∧
    (acquireAtlas w).env.atlas.value = some (w.env.atlas.value.getD {}) := by
  unfold acquireAtlas
  split
  · next halive =>
    obtain ⟨a, ha⟩ := Option.isSome_iff_exists.mp halive
    exact ⟨rfl, by simp [Registry.modifyEnv, Shared.retain, ha]⟩
  · next hdead =>
    have hvalue : w.env.atlas.value = none := by simpa [Shared.isAlive] using hdead
    exact ⟨rfl, by simp [Registry.modifyEnv, Shared.start, hvalue]⟩

theorem value_equip (w : World) (i : Nat) : (equip i w).env.edits = w.env.edits ∧
    (equip i w).env.atlas.value = some (w.env.atlas.value.getD {}) := by
  obtain ⟨hedits₁, hvalue₁⟩ := value_acquireAtlas (acquireWatchdog i w)
  obtain ⟨hedits₂, hvalue₂⟩ := value_acquireAtlas (acquireAtlas (acquireWatchdog i w))
  have hstock := stock_acquireWatchdog w i
  have hedits : (acquireWatchdog i w).env.edits = w.env.edits := congrArg (·.2.1) hstock
  have hatlas : (acquireWatchdog i w).env.atlas = w.env.atlas := congrArg (·.1) hstock
  refine ⟨hedits₂.trans (hedits₁.trans hedits), hvalue₂.trans ?_⟩
  rw [hvalue₁, Option.getD_some, hatlas]

theorem KeepsOrEndsAtlas.of_equip {i : Nat} (hs : Supplied 0 w)
    (h : KeepsOrEndsAtlas (equip i w) w') :
    KeepsOrEndsAtlas w w' ∨ w.env.atlas.value = none ∧ Begins w w' := by
  cases hvalue : w.env.atlas.value with
  | some a => exact .inl ((KeepsAtlas.equip hs (by rw [hvalue]; rfl) i).keepsOrEndsAtlas.trans h)
  | none =>
    obtain ⟨hedits, hbegun⟩ := value_equip w i
    obtain ⟨es, hes, -, hend⟩ := h
    rw [hedits] at hes
    rw [hbegun, hvalue] at hend
    exact .inr ⟨rfl, es, hes, hend⟩

/-- Between two steps of a script the atlas lives on with its edits, ends, or begins. -/
theorem Supplied.keepsOrEndsAtlas_or_begins (hs : Supplied 0 w) (hw : Coherent (fun _ ↦ True) w)
    (hk : ∀ h p w, Evolves (fun _ ↦ True) none w (k h p w)) (s : Step) :
    KeepsOrEndsAtlas w (runStep k none s w).2 ∨
      w.env.atlas.value = none ∧ Begins w (runStep k none s w).2 := by
  have hstill {w' : World} (h : stock w' = stock w) : KeepsOrEndsAtlas w w' :=
    (KeepsAtlas.of_stock h).keepsOrEndsAtlas
  cases hstep : usesAtlas s with
  | false => exact .inl ((NeverRenewsAtlas.runStep hk w hstep).2 hw hs)
  | true =>
    cases s with
    | openWindow h config title x y width height =>
      unfold World.runStep
      split
      · next hh =>
        have hopens : Opens (fun _ ↦ True) w (World.openWindow k h config title x y width height w).2 :=
          opens_openWindow w (fun h p w ↦ (hk h p w).moves) h (hasHost_iff.mp hh) config title
            x y width height fun native w ↦ (Evolves.requestDestroy hk w h native).moves
        obtain ⟨i, hkeepsOrEnds⟩ := hopens.keepsOrEndsAtlas hw hs
        generalize World.openWindow k h config title x y width height w = result at hkeepsOrEnds ⊢
        obtain ⟨opening, w₁⟩ := result
        cases opening with
        | opened native key =>
          have hslot : KeepsAtlas w₁ (addSlot ⟨h, native, key⟩ w₁) := .of_stock rfl
          exact KeepsOrEndsAtlas.of_equip hs (hkeepsOrEnds.trans hslot.keepsOrEndsAtlas)
        | failed | fault => exact KeepsOrEndsAtlas.of_equip hs hkeepsOrEnds
      · exact .inl (hstill rfl)
    | holdAtlas =>
      cases hvalue : w.env.atlas.value with
      | some a =>
        have halive : w.env.atlas.value.isSome = true := by rw [hvalue]; rfl
        have hkeep : KeepsAtlas (World.acquireAtlas w) (keepAtlas (World.acquireAtlas w)) :=
          .of_value rfl rfl rfl
        exact .inl ((KeepsAtlas.acquireAtlas halive).trans hkeep).keepsOrEndsAtlas
      | none =>
        obtain ⟨hedits, hbegun⟩ := value_acquireAtlas w
        rw [hvalue] at hbegun
        exact .inr ⟨rfl, [], hedits.trans (List.append_nil _).symm, .inl hbegun⟩
    | dropAtlas =>
      left
      unfold World.runStep
      split
      · exact hstill rfl
      · have hkept : KeepsAtlas (World.releaseAtlas w) ((World.releaseAtlas w).modifyEnv fun d =>
          { d with keptAtlases := d.keptAtlases - 1 }) := .of_value rfl rfl rfl
        exact (KeepsOrEndsAtlas.releaseAtlas w).trans hkept.keepsOrEndsAtlas
    | editAtlas edit =>
      left
      unfold World.runStep
      split
      · exact hstill rfl
      · next a ha => exact ⟨[edit], rfl, rfl, .inl (by rw [ha]; rfl)⟩
    | _ => cases hstep

theorem AtRest.count_eq (h : AtRest w) (hw : Coherent ok w) : w.count () = (listening w).length := by
  have hlength := (h.perm_listening hw).length_eq
  rw [List.length_map] at hlength
  rw [← hlength, Registry.count]
  congr 1
  exact List.filter_eq_self.mpr fun _ _ ↦ by simp [Registry.matchesKind]

theorem flatMap_single {α β : Type} (l : List α) (f : α → List β) (h : Nat) (b : β)
    (hf : ∀ (i : Nat) (hi : i < l.length), f (l.get ⟨i, hi⟩) = if i = h then [b] else []) :
    l.flatMap f = if h < l.length then [b] else [] := by
  induction l generalizing h with
  | nil => simp
  | cons a l ih =>
    have hfirst := hf 0 (Nat.succ_pos _)
    have hrest (i : Nat) (hi : i < l.length) := hf (i + 1) (Nat.succ_lt_succ hi)
    rw [List.flatMap_cons, List.length_cons]
    cases h with
    | zero =>
      have hnone := ih l.length fun i hi ↦ (hrest i hi).trans (by simp [hi.ne])
      rw [hnone]
      simpa using hfirst
    | succ h =>
      have htail := ih h fun i hi ↦ (hrest i hi).trans (by simp)
      rw [htail]
      simpa using hfirst

def timers (w : World) : List TimerId := w.env.bundles.flatMap (·.host.timers)

theorem Guarded.length_timers {n : Nat} (h : Guarded n w) :
    (World.timers w).length = if 0 < n then 1 else 0 := by
  have htimers (i : Nat) (hi : i < w.env.bundles.length) :
      (w.env.bundles.get ⟨i, hi⟩).host.timers = watchdogTimers w.env.watchdog.value i := by
    simp [← h.timers i, host, bundle, hi]
  have hrunning := h.running
  unfold World.timers
  cases hdog : w.env.watchdog.value with
  | none =>
    rw [hdog] at hrunning htimers
    have hnone : w.env.bundles.flatMap (·.host.timers) = [] := by
      refine List.flatMap_eq_nil_iff.mpr fun b hb ↦ ?_
      obtain ⟨i, hi, rfl⟩ := List.getElem_of_mem hb
      exact htimers i hi
    rw [hnone]
    simpa using hrunning
  | some dog =>
    rw [hdog] at hrunning htimers
    rw [flatMap_single _ _ dog.host dog.timer htimers, if_pos (h.host_lt hdog),
      if_pos (of_decide_eq_true hrunning.symm)]
    rfl

theorem Watched.isAlive_iff {d : Nat} (h : Watched d w) :
    w.env.watchdog.isAlive = true ↔ 0 < (listening w).length + w.env.keptWatchdogs + d := by
  rw [Shared.isAlive, Guarded.running h, decide_eq_true_iff]

structure Shares (w : World) : Prop where
  coherent : Coherent (fun _ ↦ True) w
  rest : AtRest w
  watched : Watched 0 w
  supplied : Supplied 0 w

theorem shares_run (hosts : List HostSetup) (n : Nat) (steps : List Step) :
    Shares (runSteps (scripted n) none steps (World.empty hosts)).2 := by
  have hw : Coherent (fun _ ↦ True) (World.empty hosts) := coherent_empty hosts
  have hevolves : Evolves (fun _ ↦ True) none (World.empty hosts)
      (runSteps (scripted n) none steps (World.empty hosts)).2 :=
    .runSteps (.scripted n) none steps (Step.usesAll_of_forall (fun _ ↦ trivial) steps) _
  obtain ⟨hw', hf⟩ := hevolves.lawful hw (by simp)
  exact
    { coherent := hw'
      rest := (atRest_empty hosts).of_follows hf
      watched := hevolves.moves.watched hw (by simp) (watched_empty hosts)
      supplied := (hevolves.moves.supplied hw (by simp) (by simp) (supplied_empty hosts)).1 }

theorem Shares.alive_iff (h : Shares w) (hkept : w.env.keptAtlases = 0) :
    w.env.atlas.isAlive = true ↔ 0 < w.count () := by
  rw [h.rest.count_eq h.coherent, Shared.isAlive, h.supplied.counted.alive, decide_eq_true_iff]
  omega

theorem Shares.alive (h : Shares w) (hcount : 0 < w.count ()) : w.env.atlas.value ≠ none := by
  rw [h.rest.count_eq h.coherent] at hcount
  exact Option.isSome_iff_ne_none.mp (h.supplied.isSome (by omega))

theorem Shares.running_iff (h : Shares w) (hkept : w.env.keptWatchdogs = 0) :
    w.env.watchdog.isAlive = true ↔ 0 < w.count () := by
  rw [h.rest.count_eq h.coherent, h.watched.isAlive_iff]
  omega

theorem Shares.length_timers (h : Shares w) (hkept : w.env.keptWatchdogs = 0) :
    (timers w).length = if 0 < w.count () then 1 else 0 := by
  rw [h.rest.count_eq h.coherent, Guarded.length_timers h.watched, hkept]
  rfl

/-- The atlas that is there while windows come and go, since the last time there were none. -/
theorem edits_since (hosts : List HostSetup) (n : Nat) (before after : List Step) :
    let world (steps : List Step) := (runSteps (scripted n) none steps (World.empty hosts)).2
    after ≠ [] → (world before).count () = 0 → (world before).env.keptAtlases = 0 →
    (∀ mid, mid ≠ [] → mid <+: after → 0 < (world (before ++ mid)).count ()) →
    ∃ es, (world (before ++ after)).env.edits = (world before).env.edits ++ es ∧
      (world (before ++ after)).env.atlas.value = some (FontAtlas.edited {} es) := by
  intro world hafter hnone hkept hlive
  have hshares (steps : List Step) : Shares (world steps) := shares_run hosts n steps
  induction after using List.reverseRecOn with
  | nil => exact absurd rfl hafter
  | append_singleton after s ih =>
    have hstep := (hshares (before ++ after)).supplied.keepsOrEndsAtlas_or_begins
      (hshares _).coherent
      (.scripted n) s
    have hsnoc : world (before ++ (after ++ [s])) =
        (runStep (scripted n) none s (world (before ++ after))).2 := by
      rw [← List.append_assoc]
      exact runSteps_snoc ..
    rw [← hsnoc] at hstep
    have halive : (world (before ++ (after ++ [s]))).env.atlas.value ≠ none :=
      (hshares _).alive (hlive _ hafter (List.prefix_refl _))
    by_cases hfirst : after = []
    · subst hfirst
      have hdead : (world (before ++ [])).env.atlas.value = none := by
        rw [List.append_nil]
        have hnot := mt ((hshares before).alive_iff hkept).mp (by omega)
        simpa [Shared.isAlive] using hnot
      rcases hstep with ⟨es, -, -, hvalue⟩ | ⟨-, es, hedits, hvalue⟩
      · rw [hdead, Option.map_none, or_self] at hvalue
        exact absurd hvalue halive
      · rw [List.append_nil] at hedits
        exact ⟨es, hedits, hvalue.resolve_right halive⟩
    · obtain ⟨es, hedits, hvalue⟩ := ih hfirst fun mid hmid hinit ↦
        hlive mid hmid (hinit.trans (List.prefix_append _ _))
      rcases hstep with ⟨es', hedits', -, hvalue'⟩ | ⟨hdead, -⟩
      · refine ⟨es ++ es', by rw [hedits', hedits, List.append_assoc], ?_⟩
        rw [hvalue'.resolve_right halive, hvalue, Option.map_some, FontAtlas.edited, FontAtlas.edited,
          FontAtlas.edited, List.foldl_append]
      · rw [hvalue] at hdead
        cases hdead

/-- After every script over any hosts, whatever fails and however its calls are nested: unless scripts
keep them, the watchdog runs exactly while there are windows, with one timer on one of the hosts, and
the atlas is there exactly while there are windows. All windows have that atlas, and it is an empty
one with the edits made since the last time there were no windows. -/
theorem resources_live_with_windows (hosts : List HostSetup) (n : Nat) (steps : List Step) :
    let world (steps : List Step) := (Session.runFrom n none (World.empty hosts) steps).2
    let w := world steps
    (w.env.keptWatchdogs = 0 → (w.env.watchdog.isAlive = true ↔ 0 < w.count ()) ∧
      (timers w).length = if 0 < w.count () then 1 else 0) ∧
    (w.env.keptAtlases = 0 → (w.env.atlas.isAlive = true ↔ 0 < w.count ())) ∧
    (∀ key o, Registry.find? w (some ()) key = some o →
      (window w o).atlas = w.env.atlas.generation) ∧
    ∀ before after, steps = before ++ after → after ≠ [] →
      (world before).count () = 0 → (world before).env.keptAtlases = 0 →
      (∀ mid, mid ≠ [] → mid <+: after → 0 < (world (before ++ mid)).count ()) →
      ∃ es, w.env.edits = (world before).env.edits ++ es ∧
        w.env.atlas.value = some (FontAtlas.edited {} es) := by
  intro world w
  have hworld : world = fun steps ↦ (runSteps (scripted n) none steps (World.empty hosts)).2 :=
    funext fun steps ↦ Session.runFrom_snd n none _ steps
  have hw : Shares w := by
    dsimp only [w]
    rw [hworld]
    exact shares_run hosts n steps
  refine ⟨fun hkept ↦ ⟨hw.running_iff hkept, hw.length_timers hkept⟩, hw.alive_iff, ?_, ?_⟩
  · intro key o hkey
    exact hw.supplied.shared ((hw.rest.mem_listening_iff hw.coherent).mpr ⟨key, hkey⟩)
  · intro before after hsteps
    dsimp only [w]
    rw [hworld, hsteps]
    exact edits_since hosts n before after

/-- After a first window has gone, one is opened on the other host, whose renderer edits the atlas when
it is made; then the renderer of a third fails, and the atlas is edited again. -/
theorem resources_live_with_windows_reopened :
    let before : List Step :=
      [.openWindow 0 {} "a" 0 0 9 9, .editAtlas (.setTexture 3), .close 0,
        .hook 1 .createBackend [.editAtlas (.setTexture 5)], .host 0 (.failCreation true)]
    let after : List Step :=
      [.openWindow 1 {} "b" 0 0 9 9, .openWindow 0 {} "c" 0 0 9 9, .editAtlas (.setTexture 7)]
    let w := (Session.runFrom 1 none (World.empty [{}, {}]) (before ++ after)).2
    w.count () = 1 ∧ w.env.watchdog.isAlive = true ∧ w.env.atlas.isAlive = true ∧
      (timers w).length = 1 ∧
      w.env.atlas.value = some (FontAtlas.edited {} [.setTexture 5, .setTexture 7]) := by
  intro before after w
  obtain ⟨hdog, hatlas, -, hedits⟩ := resources_live_with_windows [{}, {}] 1 (before ++ after)
  have hcount : w.count () = 1 := by decide +kernel
  have hpos : 0 < w.count () := hcount ▸ Nat.one_pos
  have hlive (m : Nat) : 0 < (Session.runFrom 1 none (World.empty [{}, {}])
      (before ++ after.take (m + 1))).2.count () := by
    match m with
    | 0 | 1 => decide +kernel
    | m + 2 =>
      rw [List.take_of_length_le (by simp [after])]
      exact hpos
  obtain ⟨hrunning, htimers⟩ := hdog (by decide +kernel)
  obtain ⟨es, hes, hvalue⟩ := hedits before after rfl (by simp [after]) (by decide +kernel)
    (by decide +kernel) fun mid hmid hinit ↦ by
      obtain ⟨m, hm⟩ := Nat.exists_eq_succ_of_ne_zero (mt List.length_eq_zero_iff.mp hmid)
      rw [List.prefix_iff_eq_take.mp hinit, hm]
      exact hlive m
  have hmade : w.env.edits =
      (Session.runFrom 1 none (World.empty [{}, {}]) before).2.env.edits ++ [.setTexture 5, .setTexture 7] := by
    decide +kernel
  refine ⟨hcount, hrunning.mpr hpos, (hatlas (by decide +kernel)).mpr hpos, htimers.trans (if_pos hpos), ?_⟩
  rw [← List.append_cancel_left (hmade.symm.trans hes)] at hvalue
  exact hvalue

end Casement.World
