import Casement.Proofs.Registry.Records
import Casement.Proofs.World.Places

namespace Casement

open Registry

namespace World

variable {current : Option ObjectId} {w w' : World} {o : ObjectId} {stack : List Hold}

theorem SameWindows.runs (h : SameWindows w w') (stack : List Hold) : Runs stack {} w w' := by
  have heq : w' = w.modifyEnv fun _ => w'.env := by
    obtain ⟨entries, cells, dropped, env⟩ := w'
    cases h.entries
    cases h.cells
    cases h.dropped
    rfl
  rw [heq]
  exact .modifyEnv stack w _

theorem runs_install (stack : List Hold) (win : Window) (w : World) :
    Runs stack (.give () (w.register () win).1) w (install win w) := by
  have hlist : SameWindows (w.register () win).2 (install win w) := ⟨rfl, rfl, rfl⟩
  exact (Runs.register stack w () win).trans_nil (hlist.runs stack)

theorem find?_of_isRegistered (h : w.IsRegistered o) : ∃ key, Registry.find? w none key = some o := by
  obtain ⟨key, e, he, rfl⟩ := h
  exact ⟨key, by simp [Registry.find?, he, matchesKind]⟩

theorem Forgets.runs {w₁ : World} (h : Forgets o w w₁) (hs : ∃ l, Settles stack o l w₁ w') :
    ∃ l, Runs stack l w w' := by
  obtain ⟨l, hs⟩ := hs
  cases h with
  | unregister hkey => exact ⟨_, .forget hkey hs⟩
  | @destroy key native hindex hkey =>
    have herase : Runs stack {} w (indexErase native w) := .modifyEnv stack w _
    exact ⟨_, herase.nil_trans (.forget hkey hs)⟩

theorem settles_discharge {w₁ w₂ : World} (hlast : w₁.cells[o]?.any (·.owners ≤ 1) = true)
    (hdrop : ∃ l, Runs (.drop o :: stack) l (unlisten o (w₁.letGo o)) w₂) :
    ∃ l, Settles stack o l w₁ (discharge w₂) := by
  obtain ⟨l, hdrop⟩ := hdrop
  have hunlisten : Runs (.drop o :: stack) {} (w₁.letGo o) (unlisten o (w₁.letGo o)) :=
    (sameWindows_modifyHost _ _ _).runs _
  exact ⟨l, .last hlast ((hunlisten.nil_trans hdrop).trans_nil ((sameWindows_discharge w₂).runs _))⟩

/-- Moves are made of steps. A window is changed by the innermost call, and by no other. -/
theorem Moves.runs (h : Moves (fun _ ↦ True) current w w') (stack : List Hold)
    (hc : ∀ o, current = some o → ∃ hold rest, stack = hold :: rest ∧ hold.accessed? = some o) :
    ∃ l, Runs stack l w w' := by
  induction h generalizing stack with
  | refl => exact ⟨_, .refl stack _⟩
  | trans _ _ ih ih' =>
    obtain ⟨l, h⟩ := ih stack hc
    obtain ⟨l', h'⟩ := ih' stack hc
    exact ⟨_, h.trans h'⟩
  | nested o _ ih => exact ih stack (by simp)
  | @assuming current w w' _ ih =>
    exact ih (fun b _ hook _ ↦ Step.usesAll_of_forall (fun _ ↦ trivial) hook.2) stack hc
  | silent w f => exact ⟨_, .modifyEnv stack w f⟩
  | edit h => exact ⟨_, h.sameWindows.runs stack⟩
  | touch w o f =>
    obtain ⟨hold, rest, rfl, ho⟩ := hc o rfl
    exact ⟨_, .update ho rest w f⟩
  | keepAtlas w o => exact ⟨_, (Runs.modifyEnv stack w _).trans_nil (.modifyEnv stack _ _)⟩
  | @hold w w₂ w₃ o ho hfree _ _ howned ih₁ ih₂ =>
    obtain ⟨key, hfind⟩ := find?_of_isRegistered ho
    obtain ⟨l₁, h₁⟩ := ih₁ (.use o :: stack) fun o' ho' ↦ ⟨.use o, stack, rfl, ho'⟩
    obtain ⟨l₂, h₂⟩ := ih₂ (.keep o :: stack) (by simp)
    exact ⟨_, .hold hfind hfree h₁ h₂ (.stay stack howned)⟩
  | @holdLast w w₂ w₃ w₄ o ho hfree _ _ hlast _ ih₁ ih₂ ih₃ =>
    obtain ⟨key, hfind⟩ := find?_of_isRegistered ho
    obtain ⟨l₁, h₁⟩ := ih₁ (.use o :: stack) fun o' ho' ↦ ⟨.use o, stack, rfl, ho'⟩
    obtain ⟨l₂, h₂⟩ := ih₂ (.keep o :: stack) (by simp)
    obtain ⟨l₃, h₃⟩ := settles_discharge hlast (ih₃ (.drop o :: stack) fun o' ho' ↦ ⟨.drop o, stack, rfl, ho'⟩)
    exact ⟨_, .hold hfind hfree h₁ h₂ h₃⟩
  | leave hforget howned => exact hforget.runs ⟨_, .stay stack howned⟩
  | @leaveLast w w₁ w₂ o hforget hlast _ ih =>
    apply hforget.runs
    apply settles_discharge hlast
    exact ih _ fun o' ho' ↦ ⟨.drop o, stack, rfl, ho'⟩
  | unindex => exact ⟨_, .modifyEnv stack _ _⟩
  | @openFailed w w₁ w₂ h hh _ _ ih₁ ih₂ =>
    obtain ⟨l₁, h₁⟩ := ih₁ stack hc
    obtain ⟨l₂, h₂⟩ := ih₂ stack hc
    have hmade := ((sameWindows_equip h w).runs stack).nil_trans h₁
    have hdropped := ((sameWindows_releaseAtlas w₁).runs stack).nil_trans h₂
    exact ⟨_, (hmade.trans hdropped).trans_nil
      (((sameWindows_releaseAtlas w₂).trans (sameWindows_releaseWatchdog _)).runs stack)⟩
  | @opened w w₁ w₂ win hh _ hnative view hview _ hatlas ih₁ ih₂ =>
    obtain ⟨l₁, h₁⟩ := ih₁ stack hc
    obtain ⟨l₂, h₂⟩ := ih₂ stack hc
    have hmade := ((sameWindows_equip win.host w).runs stack).nil_trans h₁
    have hseen := ((sameWindows_modifyHost win.host (·.addView view) w₁).runs stack).nil_trans h₂
    exact ⟨_, (hmade.trans hseen).trans (runs_install stack win w₂)⟩

theorem reached_runFrom (hosts : List HostSetup) (n : Nat) (steps : List Step) :
    ∃ issued removed,
      Moment.Reached ⟨(Session.runFrom n none (World.empty hosts) steps).2, [], issued, removed⟩ := by
  have huses : Step.UsesAll (fun _ ↦ True) steps := Step.usesAll_of_forall (fun _ ↦ trivial) steps
  have hmoves := (Evolves.run n (World.empty hosts) huses).moves
  obtain ⟨l, h⟩ := hmoves.runs [] (by simp)
  exact ⟨_, _, _, .of_steps (h [] [])⟩

end World

namespace Registry

variable {κ α ε : Type} [DecidableEq κ]

namespace Moment

variable {m : Moment κ α ε} {kind : κ} {key : Key} {o : ObjectId}

/-- What comes across a resource in use changes nothing in the registry. Access fails for handles
that were not given out for the kind or were taken back, and for resources in use, and otherwise
succeeds. -/
structure Exclusive (m : Moment κ α ε) : Prop where
  accessed : (m.stack.filterMap Hold.accessed?).Nodup
  borrowed : ∀ o, m.registry.isBorrowed o = true ↔ .use o ∈ m.stack
  access_none : ∀ (d : Disposal κ α ε) kind key {β : Type}
    (body : ObjectId → Registry κ α ε → β × Registry κ α ε),
    (m.registry.access d kind key body).1 = none ↔
      ∀ o, m.issued[o]? = some (kind, key) → key ∈ m.removed ∨ .use o ∈ m.stack
  access_busy : ∀ (d : Disposal κ α ε) kind key o {β : Type}
    (body : ObjectId → Registry κ α ε → β × Registry κ α ε),
    m.registry.find? (some kind) key = some o → .use o ∈ m.stack →
      m.registry.access d kind key body = (none, m.registry.modifyEnv (d.busy .use key))
  turn_busy : ∀ (c : Conduct κ α ε) kind key o, m.registry.find? kind key = some o →
    .use o ∈ m.stack → turn c kind m.registry key = m.registry.modifyEnv (c.busy .heartbeat key)

theorem Balanced.access_busy (h : m.Balanced) (d : Disposal κ α ε) {β : Type}
    (body : ObjectId → Registry κ α ε → β × Registry κ α ε)
    (hfind : m.registry.find? (some kind) key = some o) (huse : .use o ∈ m.stack) :
    m.registry.access d kind key body = (none, m.registry.modifyEnv (d.busy .use key)) := by
  simp only [access, hfind, (h.borrowed o).mpr huse, if_true]

theorem Balanced.turn_busy (h : m.Balanced) (c : Conduct κ α ε) {kind : Option κ}
    (hfind : m.registry.find? kind key = some o) (huse : .use o ∈ m.stack) :
    turn c kind m.registry key = m.registry.modifyEnv (c.busy .heartbeat key) := by
  simp only [turn, hfind, (h.borrowed o).mpr huse, if_true]

theorem Balanced.access_eq_none_iff (h : m.Balanced) (hrec : m.Recorded) (d : Disposal κ α ε)
    {β : Type} (body : ObjectId → Registry κ α ε → β × Registry κ α ε) :
    (m.registry.access d kind key body).1 = none ↔
      ∀ o, m.issued[o]? = some (kind, key) → key ∈ m.removed ∨ .use o ∈ m.stack := by
  cases hfind : m.registry.find? (some kind) key with
  | none =>
    refine iff_of_true (by simp [access, hfind]) fun o ho ↦ .inl ?_
    by_contra hkept
    rw [hrec.find?_eq_some_iff.mpr ⟨ho, hkept⟩] at hfind
    cases hfind
  | some o =>
    obtain ⟨ho, hkept⟩ := hrec.find?_eq_some_iff.mp hfind
    by_cases huse : .use o ∈ m.stack
    · rw [h.access_busy d body hfind huse]
      refine iff_of_true rfl fun o' ho' ↦ .inr ?_
      rw [hrec.find?_eq_some_iff.mpr ⟨ho', hkept⟩] at hfind
      cases hfind
      exact huse
    · have hfree : m.registry.isBorrowed o = false := Bool.eq_false_iff.mpr (huse ∘ (h.borrowed o).mp)
      refine iff_of_false (by simp [access, hfind, hfree]) fun hall ↦ ?_
      exact (hall o ho).elim hkept huse

theorem Reached.exclusive (hm : m.Reached) : m.Exclusive where
  accessed := hm.balanced.exclusive
  borrowed := hm.balanced.borrowed
  access_none d _ _ _ body := hm.balanced.access_eq_none_iff hm.recorded d body
  access_busy d _ _ _ _ body := hm.balanced.access_busy d body
  turn_busy c _ _ _ := hm.balanced.turn_busy c

end Moment

end Registry

namespace World

variable {m : Moment Unit Window Desk} {w w' : World} {k : Reentry} {key : Key} {native : NativeHandle}
  {o : ObjectId}

/-- What a window in use answers: messages and keys are left to the host, it cannot be closed, and
its destruction is carried out, while the call on it goes on with the window as it was. -/
structure LeavesBusy (w : World) (key : Key) : Prop where
  close : ∀ k, (closeWindow k key w).1 = false ∧ SameWindows w (closeWindow k key w).2
  dispatch : ∀ k native message, find? w native = some key → message ≠ .destroy →
    (dispatch k native message w).1 = .default ∧ SameWindows w (dispatch k native message w).2
  routeKey : ∀ k native message, find? w native = some key →
    (routeKey k native message w).1 = .notOurs ∧ SameWindows w (routeKey k native message w).2
  destroy : ∀ k native, find? w native = some key →
    (World.dispatch k native .destroy w).1 = .handled ∧
    (∀ key', isOpen (World.dispatch k native .destroy w).2 key' = true ↔
      key' ≠ key ∧ isOpen w key' = true) ∧
    (∀ o, (World.dispatch k native .destroy w).2.value? o = w.value? o) ∧
    (World.dispatch k native .destroy w).2.dropped = w.dropped

theorem withWindow_busy {β : Type} (body : ObjectId → World → β × World)
    (hkey : Registry.find? w (some ()) key = some o) (hb : w.isBorrowed o = true) :
    withWindow k key body w = (none, w.modifyEnv (busy .use key)) := by
  simp only [withWindow, access, hkey, hb, if_true, disposal]

/-- A window that a call works on outlives its place in the registry. -/
theorem release_busy (hw : w.Sound) (hkey : Registry.find? w (some ()) key = some o)
    (hb : w.isBorrowed o = true) :
    release (disposal k) o { w with entries := w.entries.erase key } =
        ({ w with entries := w.entries.erase key } : World).letGo o ∧
      (({ w with entries := w.entries.erase key } : World).letGo o).dropped = w.dropped := by
  have hreg := isRegistered_of_find? hkey
  have htwo : ¬ w.owners o ≤ 1 := by
    have := holders_of_isRegistered hw hreg
    have := hw.held hb
    omega
  have howned : w.cells[o]?.any (·.owners ≤ 1) = false :=
    Bool.eq_false_iff.mpr (htwo ∘ (any_owners_le_one (hreg.lt hw)).mp)
  constructor
  · rw [release_eq, if_neg (by simp [howned])]
  · exact dropped_letGo_of_owned howned

theorem destroy_busy (hw : w.Sound) (hindex : w.env.index.lookup native = some key)
    (hkey : Registry.find? w (some ()) key = some o) (hb : w.isBorrowed o = true) :
    (destroy k native w).entries = w.entries.erase key ∧
      (∀ o', (destroy k native w).value? o' = w.value? o') ∧
      (destroy k native w).dropped = w.dropped := by
  have hsame : SameWindows w (indexErase native w) := ⟨rfl, rfl, rfl⟩
  have hkey' : Registry.find? (indexErase native w) (some ()) key = some o :=
    (hsame.find? _ _).trans hkey
  obtain ⟨hrelease, hdropped⟩ := release_busy (k := k) (w := indexErase native w)
    (hw.of_eq rfl rfl rfl) hkey' hb
  have hdestroy : destroy k native w = note (.destroyed native)
      (({ indexErase native w with entries := w.entries.erase key } : World).letGo o) := by
    simp only [destroy, hindex, unregister, hkey', if_true]
    exact congrArg (note (.destroyed native)) hrelease
  rw [hdestroy]
  refine ⟨rfl, fun o' ↦ ?_, hdropped⟩
  exact value?_letGo o'

theorem leavesBusy (hw : w.Sound) (hkey : Registry.find? w (some ()) key = some o)
    (hb : w.isBorrowed o = true) : LeavesBusy w key where
  close k := by
    unfold closeWindow
    rw [withWindow_busy _ hkey hb]
    exact ⟨rfl, rfl, rfl, rfl⟩
  dispatch k native message hfind hmessage := by
    have hsame : SameWindows w (note (.dispatching message native) w) := ⟨rfl, rfl, rfl⟩
    simp only [World.dispatch, hfind]
    rw [withWindow_busy _ ((hsame.find? _ _).trans hkey) hb]
    simp only [hmessage, if_false]
    exact ⟨trivial, rfl, rfl, rfl⟩
  routeKey k native message hfind := by
    simp only [World.routeKey, hfind]
    rw [withWindow_busy _ hkey hb]
    exact ⟨rfl, rfl, rfl, rfl⟩
  destroy k native hfind := by
    have hsame : SameWindows w (note (.dispatching .destroy native) w) := ⟨rfl, rfl, rfl⟩
    have hindex : w.env.index.lookup native = some key := Option.eq_some_of_filter_eq_some hfind
    have hdispatch : World.dispatch k native .destroy w = (.handled, World.destroy k native
        (note (.destroyedBusy native)
          ((note (.dispatching .destroy native) w).modifyEnv (busy .use key)))) := by
      simp only [World.dispatch, hfind]
      rw [withWindow_busy _ ((hsame.find? _ _).trans hkey) hb]
      simp only [if_true]
    obtain ⟨hentries, hvalues, hdropped⟩ := destroy_busy (k := k) (w := note (.destroyedBusy native)
      ((note (.dispatching .destroy native) w).modifyEnv (busy .use key)))
      (hw.of_eq rfl rfl rfl) hindex hkey hb
    rw [hdispatch]
    refine ⟨rfl, fun key' ↦ ?_, hvalues, hdropped⟩
    simp only [isOpen, contains, find?_unit, Option.isSome_map, hentries]
    change ((w.entries.erase key).get? key').isSome = true ↔ _
    rw [SlotMap.get?_erase]
    split
    · next heq => simp [heq]
    · next hne => simp [hne]

/-- However calls are nested, no two of them may change the same resource; what comes across a
resource in use leaves it alone, and a window in use can only be destroyed. Every script on windows is
a run, at whose end nothing is in use. -/
theorem access_is_exclusive {κ α ε : Type} [DecidableEq κ] {r : Moment κ α ε} (hr : r.Reached)
    (hm : m.Reached) :
    r.Exclusive ∧ (r.stack = [] → ∀ o, r.registry.isBorrowed o = false) ∧
    (∀ key o, Registry.find? m.registry (some ()) key = some o → .use o ∈ m.stack →
      LeavesBusy m.registry key) ∧
    ∀ hosts n steps, ∃ issued removed,
      Moment.Reached ⟨(Session.runFrom n none (World.empty hosts) steps).2, [], issued, removed⟩ := by
  refine ⟨hr.exclusive, fun hstack o ↦ ?_, fun key o hkey huse ↦ ?_, reached_runFrom⟩
  · rw [Bool.eq_false_iff]
    intro hb
    have huse := (hr.balanced.borrowed o).mp hb
    rw [hstack] at huse
    cases huse
  · exact leavesBusy hm.balanced.sound hkey ((hm.balanced.borrowed o).mpr huse)

/-- A window is opened and entered; within the call on it, it cannot be closed, but destroyed. -/
theorem access_is_exclusive_entered :
    let w := (Session.runFrom 0 none (World.empty [{}]) [.openWindow 0 {} "a" 0 0 10 10]).2
    ∃ issued removed, Moment.Reached ⟨w.borrow 0, [.use 0], issued, removed⟩ ∧
      (closeWindow (scripted 0) ⟨1, 1⟩ (w.borrow 0)).1 = false ∧
      (dispatch (scripted 0) ⟨1⟩ .destroy (w.borrow 0)).1 = .handled ∧
      isOpen (dispatch (scripted 0) ⟨1⟩ .destroy (w.borrow 0)).2 ⟨1, 1⟩ = false := by
  intro w
  have hfind : Registry.find? w none ⟨1, 1⟩ = some 0 := by decide +kernel
  have hfree : w.isBorrowed 0 = false := by decide +kernel
  have hkey : Registry.find? (w.borrow 0) (some ()) ⟨1, 1⟩ = some 0 := by decide +kernel
  have hindex : find? (w.borrow 0) ⟨1⟩ = some ⟨1, 1⟩ := by decide +kernel
  obtain ⟨issued, removed, hw⟩ := reached_runFrom [{}] 0 [.openWindow 0 {} "a" 0 0 10 10]
  have hm : Moment.Reached ⟨w.borrow 0, [.use 0], issued, removed⟩ :=
    hw.trans (.single (.enter hfind hfree))
  obtain ⟨-, -, hbusy, -⟩ := access_is_exclusive hm hm
  have hleaves := hbusy ⟨1, 1⟩ 0 hkey (.head _)
  obtain ⟨hhandled, hopen, -, -⟩ := hleaves.destroy (scripted 0) ⟨1⟩ hindex
  refine ⟨issued, removed, hm, (hleaves.close _).1, hhandled, ?_⟩
  rw [Bool.eq_false_iff]
  intro h
  exact ((hopen ⟨1, 1⟩).mp h).1 rfl

end World

end Casement
