import Casement.Proofs.World.Conservation

namespace Casement.World

variable {ok : WindowStep → Prop} {current : Option ObjectId} {w w' : World} {o : ObjectId} {n d : Nat}

def watchdogTimers (dog : Option Watchdog) (i : Nat) : List TimerId :=
  match dog with
  | some dog => if i = dog.host then [dog.timer] else []
  | none => []

structure Guarded (n : Nat) (w : World) : Prop where
  owners : w.env.watchdog.owners = n
  running : w.env.watchdog.value.isSome = decide (0 < n)
  host_lt : ∀ {dog}, w.env.watchdog.value = some dog → dog.host < w.env.bundles.length
  timers : ∀ i, (host w i).timers = watchdogTimers w.env.watchdog.value i

theorem Guarded.of_eq (h : Guarded n w) (hdog : w'.env.watchdog = w.env.watchdog)
    (hosts : w'.env.bundles.length = w.env.bundles.length)
    (htimers : ∀ i, (host w' i).timers = (host w i).timers) : Guarded n w' where
  owners := by rw [hdog, h.owners]
  running := by rw [hdog, h.running]
  host_lt hvalue := by
    rw [hosts]
    exact h.host_lt (hdog ▸ hvalue)
  timers i := by rw [hdog, htimers, h.timers]

theorem Guarded.of_env (h : Guarded n w) (henv : w'.env = w.env) : Guarded n w' :=
  h.of_eq (by rw [henv]) (by rw [henv]) fun i ↦ by simp [host, bundle, henv]

theorem Guarded.acquireWatchdog (h : Guarded n w) {i : Nat} (hi : i < w.env.bundles.length) :
    Guarded (n + 1) (acquireWatchdog i w) := by
  have hrunning := h.running
  unfold World.acquireWatchdog
  cases hvalue : w.env.watchdog.value with
  | some dog =>
    rw [if_pos (by simp [Shared.isAlive, hvalue])]
    exact ⟨congrArg (· + 1) h.owners, by simp [Shared.retain, hvalue], h.host_lt, h.timers⟩
  | none =>
    rw [if_neg (by simp [Shared.isAlive, hvalue])]
    obtain rfl : n = 0 := by simpa [hvalue] using hrunning
    refine ⟨rfl, rfl, ?_, fun j ↦ ?_⟩
    · intro dog hdog
      cases hdog
      exact (length_bundles_modifyHost w i .addTimer).symm ▸ hi
    · refine (congrArg Host.timers (host_modifyHost w i j .addTimer hi)).trans ?_
      have htimers := h.timers j
      rw [hvalue] at htimers
      change _ = if j = i then [(host w i).freshTimer] else []
      by_cases heq : j = i
      · subst heq
        simpa [Host.addTimer, watchdogTimers] using htimers
      · simpa [Ne.symm heq, heq, watchdogTimers] using htimers

theorem Guarded.releaseWatchdog (h : Guarded (n + 1) w) : Guarded n (releaseWatchdog w) := by
  have howners := h.owners
  unfold World.releaseWatchdog
  obtain ⟨dog, hvalue⟩ : ∃ dog, w.env.watchdog.value = some dog :=
    Option.isSome_iff_exists.mp (by simp [h.running])
  simp only [hvalue]
  -- the last owner stops the timer, any other leaves it running
  by_cases hlast : n = 0
  · subst hlast
    have hrelease : w.env.watchdog.release = { w.env.watchdog with value := none, owners := 0 } := by
      simp [Shared.release, howners]
    rw [if_pos (by simp [Shared.isLast, howners])]
    refine ⟨congrArg Shared.owners hrelease, congrArg (·.value.isSome) hrelease,
      fun {dog'} hdog ↦ ?_, fun i ↦ ?_⟩
    · have := (congrArg Shared.value hrelease).symm.trans hdog
      cases this
    · have hstopped : watchdogTimers w.env.watchdog.release.value i = [] := by rw [hrelease]; rfl
      refine Eq.trans ?_ hstopped.symm
      refine (congrArg Host.timers (host_modifyHost _ dog.host i (·.removeTimer dog.timer)
        (h.host_lt hvalue))).trans ?_
      have htimers := h.timers i
      rw [hvalue] at htimers
      change (if dog.host = i then (host w i).removeTimer dog.timer else host w i).timers = []
      by_cases heq : i = dog.host
      · simp only [watchdogTimers, if_pos heq] at htimers
        simp [heq.symm, Host.removeTimer, htimers]
      · simpa [Ne.symm heq, heq, watchdogTimers] using htimers
  · have hrelease : w.env.watchdog.release = { w.env.watchdog with owners := n } := by
      simp [Shared.release, howners, hlast]
    rw [if_neg (by simp [Shared.isLast, howners, hlast])]
    refine ⟨congrArg Shared.owners hrelease, ?_, fun {dog'} hdog ↦ ?_, fun i ↦ ?_⟩
    · simp [hrelease, hvalue, Nat.pos_of_ne_zero hlast]
    · exact h.host_lt ((congrArg Shared.value hrelease).symm.trans hdog)
    · have hsame : w.env.watchdog.release.value = w.env.watchdog.value := by rw [hrelease]
      exact (h.timers i).trans (by rw [← hsame]; rfl)

/-- The watchdog has an owner in each window that was not dropped and in what scripts keep, and `d`
more. -/
def Watched (d : Nat) (w : World) : Prop :=
  Guarded ((listening w).length + w.env.keptWatchdogs + d) w

theorem Watched.of_eq (h : Watched d w) (hlen : w'.cells.length = w.cells.length)
    (hdropped : w'.dropped = w.dropped) (hkept : w'.env.keptWatchdogs = w.env.keptWatchdogs)
    (hdog : w'.env.watchdog = w.env.watchdog)
    (hosts : w'.env.bundles.length = w.env.bundles.length)
    (htimers : ∀ i, (host w' i).timers = (host w i).timers) : Watched d w' := by
  unfold Watched
  rw [listening_congr hlen hdropped, hkept]
  exact Guarded.of_eq h hdog hosts htimers

theorem Watched.of_same (h : Watched d w) (hsame : SameWindows w w')
    (hkept : w'.env.keptWatchdogs = w.env.keptWatchdogs) (hdog : w'.env.watchdog = w.env.watchdog)
    (hbundles : w'.env.bundles = w.env.bundles) : Watched d w' :=
  h.of_eq (by rw [hsame.cells]) hsame.dropped hkept hdog (by rw [hbundles]) fun i ↦ by
    simp [host, bundle, hbundles]

theorem Watched.acquireAtlas (h : Watched d w) : Watched d (acquireAtlas w) := by
  unfold World.acquireAtlas
  split
  · exact h.of_same ⟨rfl, rfl, rfl⟩ rfl rfl rfl
  · exact h.of_same ⟨rfl, rfl, rfl⟩ rfl rfl rfl

theorem Watched.releaseAtlas (h : Watched d w) : Watched d (releaseAtlas w) :=
  h.of_same ⟨rfl, rfl, rfl⟩ rfl rfl rfl

theorem Watched.modifyHost (h : Watched d w) (i : Nat) (f : Host → Host)
    (hf : ∀ s, (f s).timers = s.timers) : Watched d (modifyHost i f w) :=
  h.of_eq rfl rfl rfl rfl (length_bundles_modifyHost ..) fun j ↦
    reading_modifyBundle w i j (·.host.timers) _ fun b ↦ hf b.host

theorem kept_acquireWatchdog (w : World) (i : Nat) :
    (acquireWatchdog i w).env.keptWatchdogs = w.env.keptWatchdogs := by
  unfold World.acquireWatchdog
  split <;> rfl

theorem kept_releaseWatchdog (w : World) :
    (releaseWatchdog w).env.keptWatchdogs = w.env.keptWatchdogs := by
  unfold World.releaseWatchdog
  dsimp only
  split
  · split <;> rfl
  · rfl

theorem Watched.acquireWatchdog (h : Watched d w) {i : Nat} (hi : i < w.env.bundles.length) :
    Watched (d + 1) (acquireWatchdog i w) := by
  have hsame := sameWindows_acquireWatchdog w i
  unfold Watched
  rw [listening_congr (by rw [hsame.cells]) hsame.dropped, kept_acquireWatchdog]
  exact Guarded.acquireWatchdog h hi

theorem Watched.releaseWatchdog (h : Watched (d + 1) w) : Watched d (releaseWatchdog w) := by
  have hsame := sameWindows_releaseWatchdog w
  unfold Watched
  rw [listening_congr (by rw [hsame.cells]) hsame.dropped, kept_releaseWatchdog]
  exact Guarded.releaseWatchdog h

theorem Watched.keep (h : Watched (d + 1) w) : Watched d
    (w.modifyEnv fun env => { env with keptWatchdogs := env.keptWatchdogs + 1 }) := by
  have hcount : (listening w).length + (w.env.keptWatchdogs + 1) + d =
      (listening w).length + w.env.keptWatchdogs + (d + 1) := by omega
  change Guarded ((listening w).length + (w.env.keptWatchdogs + 1) + d) _
  rw [hcount]
  exact Guarded.of_eq h rfl rfl fun _ ↦ rfl

theorem Watched.unkeep (h : Watched d w) (hkept : w.env.keptWatchdogs ≠ 0) : Watched d
    ((World.releaseWatchdog w).modifyEnv fun env =>
      { env with keptWatchdogs := env.keptWatchdogs - 1 }) := by
  have hsame := sameWindows_releaseWatchdog w
  have hcount : (listening w).length + w.env.keptWatchdogs + d =
      (listening w).length + (w.env.keptWatchdogs - 1) + d + 1 := by omega
  have hg : Guarded ((listening w).length + (w.env.keptWatchdogs - 1) + d) (World.releaseWatchdog w) :=
    Guarded.releaseWatchdog (hcount ▸ h)
  rw [← listening_congr (by rw [hsame.cells]) hsame.dropped, ← kept_releaseWatchdog] at hg
  exact Guarded.of_eq hg rfl rfl fun _ ↦ rfl

theorem length_listening_letGo (ho : o < w.cells.length) (halive : o ∉ w.dropped)
    (hlast : w.cells[o]?.any (·.owners ≤ 1) = true) :
    (listening (w.letGo o)).length + 1 = (listening w).length := by
  have hmem : o ∈ listening w := mem_listening.mpr ⟨ho, halive⟩
  have hpos := List.length_pos_of_mem hmem
  rw [listening_letGo_of_last hlast]
  have herase := (nodup_listening w).erase_eq_filter o
  have hlength := List.length_erase_of_mem hmem
  rw [herase] at hlength
  have hfilter : (listening w).filter (· ≠ o) = (listening w).filter (· != o) :=
    List.filter_congr fun o' _ ↦ by by_cases heq : o' = o <;> simp [heq]
  rw [hfilter, hlength]
  omega

theorem Watched.letGo_last (h : Watched d w) (ho : o < w.cells.length) (halive : o ∉ w.dropped)
    (hlast : w.cells[o]?.any (·.owners ≤ 1) = true) : Watched (d + 1) (w.letGo o) := by
  have hlen := length_listening_letGo ho halive hlast
  have hcount : (listening (w.letGo o)).length + w.env.keptWatchdogs + (d + 1) =
      (listening w).length + w.env.keptWatchdogs + d := by omega
  change Guarded ((listening (w.letGo o)).length + w.env.keptWatchdogs + (d + 1)) _
  rw [hcount]
  exact Guarded.of_env h rfl

theorem Watched.letGo (h : Watched d w) (howned : w.cells[o]?.any (·.owners ≤ 1) = false) :
    Watched d (w.letGo o) :=
  h.of_eq (by simp) (dropped_letGo_of_owned howned) rfl rfl rfl fun _ ↦ rfl

theorem Watched.forget {w₁ : World} (h : Watched d w) (hf : Forgets o w w₁) : Watched d w₁ := by
  cases hf with
  | unregister hkey => exact h.of_eq rfl rfl rfl rfl rfl fun _ ↦ rfl
  | destroy hindex hkey => exact h.of_eq rfl rfl rfl rfl rfl fun _ ↦ rfl

/-- A window that is registered takes over the ownership of whoever opened it. -/
theorem Watched.install (h : Watched (d + 1) w) (hw : Coherent ok w) (win : Window) :
    Watched d (install win w) := by
  refine Watched.modifyHost ?_ win.host (·.addAccelerator win.native) fun s ↦ ?_
  · have hcount : (listening w ++ [w.cells.length]).length + w.env.keptWatchdogs + d =
        (listening w).length + w.env.keptWatchdogs + (d + 1) := by
      simp only [List.length_append, List.length_singleton]
      omega
    change Guarded ((listening (w.register () win).2).length + w.env.keptWatchdogs + d) _
    rw [listening_register hw win, hcount]
    exact Guarded.of_eq h rfl rfl fun _ ↦ rfl
  · unfold Host.addAccelerator
    split <;> rfl

theorem Edit.watched (hedit : Edit w w') (h : Watched d w) : Watched d w' := by
  cases hedit with
  | addView i view => exact h.modifyHost i (·.addView view) fun _ ↦ rfl
  | removeView i native => exact h.modifyHost i (·.removeView native) fun _ ↦ rfl
  | holdAtlas => exact h.acquireAtlas.of_same ⟨rfl, rfl, rfl⟩ rfl rfl rfl
  | dropAtlas => exact h.of_same ⟨rfl, rfl, rfl⟩ rfl rfl rfl
  | editAtlas => exact h.of_same ⟨rfl, rfl, rfl⟩ rfl rfl rfl
  | holdWatchdog i hi => exact (h.acquireWatchdog hi).keep
  | dropWatchdog hkept => exact h.unkeep hkept

theorem conserved_watched {hosts : Nat} : Conserved ok hosts Watched (· + 1) fun d _ => d + 1 where
  silent {_ w f} houtline h := by
    have hdog : (f w.env).outline.watchdog = w.env.outline.watchdog := by rw [houtline]
    have hkept : (f w.env).outline.keptWatchdogs = w.env.outline.keptWatchdogs := by rw [houtline]
    exact h.of_eq rfl rfl hkept hdog (length_bundles_of_outline houtline) fun i ↦
      (Host.eq_of_outline (outline_host houtline i)).2.2.1
  edit hedit h := hedit.watched h
  touch _ _ h := h.of_eq (by simp) rfl rfl rfl rfl fun _ ↦ rfl
  keepAtlas h := h.of_eq rfl rfl rfl rfl rfl fun _ ↦ rfl
  borrow o h := h.of_eq (by simp) rfl rfl rfl rfl fun _ ↦ rfl
  unborrow o h := h.of_eq (by simp) rfl rfl rfl rfl fun _ ↦ rfl
  letGo howned h := h.letGo howned
  forget hforget h := h.forget hforget
  unindex _ _ h := h.of_eq rfl rfl rfl rfl rfl fun _ ↦ rfl
  unlisten _ _ ho halive hlast h := (h.letGo_last ho halive hlast).modifyHost _ _ fun _ ↦ rfl
  discharge h := h.releaseAtlas.releaseAtlas.releaseWatchdog
  equip hi h := (h.acquireWatchdog hi).acquireAtlas.acquireAtlas
  releaseAtlas h := h.releaseAtlas
  releaseWatchdog h := h.releaseWatchdog
  addView _ _ _ h := h.modifyHost _ (·.addView _) fun _ ↦ rfl
  install hw _ _ _ h := h.install hw _

/-- The owners of the watchdog are accounted for at every moment, within calls too. -/
theorem Moves.watched (h : Moves ok current w w') (hw : Coherent ok w)
    (hc : ∀ o, current = some o → w.IsBusy o) (hd : Watched d w) : Watched d w' :=
  h.conserves conserved_watched hw hc rfl hd

theorem watched_empty (hosts : List HostSetup) : Watched 0 (World.empty hosts) := by
  refine ⟨rfl, rfl, fun {dog} h ↦ (by cases h), fun i ↦ ?_⟩
  simp only [host, bundle, World.empty, List.getD_eq_getElem?_getD, List.getElem?_map]
  cases hosts[i]? with
  | none => rfl
  | some setup => rfl

theorem Watched.running (h : Watched 0 w) (ho : o ∈ listening w) :
    ∃ dog, w.env.watchdog.value = some dog ∧ dog.host < w.env.bundles.length ∧
      ∀ i, (host w i).timers = if i = dog.host then [dog.timer] else [] := by
  have hpos := List.length_pos_of_mem ho
  obtain ⟨dog, hdog⟩ :=
    Option.isSome_iff_exists.mp ((Guarded.running h).trans (decide_eq_true (by omega)))
  exact ⟨dog, hdog, Guarded.host_lt h hdog, fun i ↦ (Guarded.timers h i).trans (by simp [watchdogTimers, hdog])⟩

end Casement.World
