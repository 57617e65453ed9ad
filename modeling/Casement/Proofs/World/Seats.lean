import Casement.Proofs.World.Conservation
import Casement.Proofs.World.Solo
import Mathlib.Data.List.Nodup

namespace Casement

theorem Host.seats_of_outline {s s' : Host} (h : s'.outline = s.outline) : s'.seats = s.seats := by
  have hviews := congrArg (fun s : Host ↦ s.views.map fun v => (v.handle, v.parent)) h
  simpa [Host.outline, Host.seats, Function.comp_def] using hviews

def Host.Ordered (s : Host) : Prop := s.seats.Pairwise fun seat seat' ↦ seat.1.val < seat'.1.val

theorem Host.Ordered.removeView {s : Host} (h : s.Ordered) (native : NativeHandle) :
    (s.removeView native).Ordered :=
  List.Pairwise.sublist (List.filter_sublist.map _) h

theorem Host.Ordered.view?_eq_some_iff {s : Host} (h : s.Ordered) {native : NativeHandle} {v : View} :
    s.view? native = some v ↔ v ∈ s.views ∧ v.handle = native := by
  have hnodup : (s.views.map (·.handle)).Nodup := by
    rw [Ordered, seats, List.pairwise_map] at h
    rw [List.Nodup, List.pairwise_map]
    exact h.imp fun hlt heq ↦ hlt.ne (congrArg (·.val) heq)
  constructor
  · intro hv
    exact ⟨List.mem_of_find?_eq_some hv, by simpa using List.find?_some hv⟩
  · rintro ⟨hv, rfl⟩
    obtain ⟨u, hu⟩ : ∃ u, s.view? v.handle = some u :=
      Option.isSome_iff_exists.mp (List.find?_isSome.mpr ⟨v, hv, by simp⟩)
    have hhandle : u.handle = v.handle := by simpa using List.find?_some hu
    rw [hu, List.inj_on_of_nodup_map hnodup (List.mem_of_find?_eq_some hu) hv hhandle]

namespace World

variable {ok : WindowStep → Prop} {current : Option ObjectId} {w w' : World} {o : ObjectId}
  {R : List (Nat × NativeHandle)} {i : Nat} {n : NativeHandle}

def Claimed (R : List (Nat × NativeHandle)) (w : World) (i : Nat) (n : NativeHandle) : Prop :=
  (i, n) ∈ R ∨ ∃ o < w.cells.length, (window w o).host = i ∧ (window w o).native = n

/-- Views have handles that were given out, in that order, and those of windows are in no other
view. -/
structure Rooted (R : List (Nat × NativeHandle)) (w : World) : Prop where
  issued : ∀ i, ∀ seat ∈ (host w i).seats, seat.1.val < (host w i).nextHandle
  ordered : ∀ i, (host w i).Ordered
  claimed : ∀ {i n}, Claimed R w i n → n.val < (host w i).nextHandle
  roots : ∀ {i n}, Claimed R w i n → ∀ seat ∈ (host w i).seats, seat.1 = n → seat.2 = none

theorem Rooted.of_claims (h : Rooted R w)
    (hhost : ∀ i, ((host w' i).seats, (host w' i).nextHandle) = ((host w i).seats, (host w i).nextHandle))
    (hclaims : ∀ {i n}, Claimed R w' i n → Claimed R w i n) : Rooted R w' where
  issued i := by
    obtain ⟨hseats, hnext⟩ := Prod.mk.inj (hhost i)
    rw [hseats, hnext]
    exact h.issued i
  ordered i := by
    obtain ⟨hseats, -⟩ := Prod.mk.inj (hhost i)
    rw [Host.Ordered, hseats]
    exact h.ordered i
  claimed {i n} hn := by
    obtain ⟨-, hnext⟩ := Prod.mk.inj (hhost i)
    rw [hnext]
    exact h.claimed (hclaims hn)
  roots {i n} hn := by
    obtain ⟨hseats, -⟩ := Prod.mk.inj (hhost i)
    rw [hseats]
    exact h.roots (hclaims hn)

theorem Claimed.of_place (hn : Claimed R w' i n) (hlen : w'.cells.length = w.cells.length)
    (hplace : ∀ o, (window w' o).host = (window w o).host ∧ (window w' o).native = (window w o).native) :
    Claimed R w i n := by
  rcases hn with hn | ⟨o, ho, hhost, hnative⟩
  · exact .inl hn
  · refine .inr ⟨o, hlen ▸ ho, ?_, ?_⟩
    · rw [← (hplace o).1, hhost]
    · rw [← (hplace o).2, hnative]

theorem Rooted.of_env (h : Rooted R w) (henv : w'.env = w.env)
    (hlen : w'.cells.length = w.cells.length) (hwindow : ∀ o, window w' o = window w o) :
    Rooted R w' :=
  h.of_claims (fun i ↦ by simp [host, bundle, henv]) fun hn ↦
    hn.of_place hlen fun o ↦ by simp [hwindow]

theorem Rooted.of_same (h : Rooted R w) (hsame : SameWindows w w')
    (hhost : ∀ i, ((host w' i).seats, (host w' i).nextHandle) = ((host w i).seats, (host w i).nextHandle)) :
    Rooted R w' :=
  h.of_claims hhost fun hn ↦ hn.of_place (by rw [hsame.cells]) fun o ↦ by simp [hsame.window]

theorem Rooted.modifyHost (h : Rooted R w) (i : Nat) (f : Host → Host)
    (hf : ∀ s, ((f s).seats, (f s).nextHandle) = (s.seats, s.nextHandle)) :
    Rooted R (modifyHost i f w) :=
  h.of_same ⟨rfl, rfl, rfl⟩ fun j ↦
    reading_modifyBundle w i j (fun b ↦ (b.host.seats, b.host.nextHandle)) _ fun b ↦ hf b.host

theorem Rooted.acquireAtlas (h : Rooted R w) : Rooted R (acquireAtlas w) :=
  h.of_same (sameWindows_acquireAtlas w) fun i ↦ by simp [host]

theorem Rooted.releaseAtlas (h : Rooted R w) : Rooted R (releaseAtlas w) :=
  h.of_same ⟨rfl, rfl, rfl⟩ fun _ ↦ rfl

theorem Rooted.acquireWatchdog (h : Rooted R w) (i : Nat) : Rooted R (acquireWatchdog i w) :=
  h.of_same (sameWindows_acquireWatchdog w i) fun j ↦
    reading_acquireWatchdog w i j (fun b ↦ (b.host.seats, b.host.nextHandle)) fun _ ↦ rfl

theorem Rooted.releaseWatchdog (h : Rooted R w) : Rooted R (releaseWatchdog w) :=
  h.of_same (sameWindows_releaseWatchdog w) fun i ↦
    reading_releaseWatchdog w i (fun b ↦ (b.host.seats, b.host.nextHandle)) fun _ _ ↦ rfl

theorem Rooted.equip (h : Rooted R w) (i : Nat) : Rooted R (equip i w) :=
  (h.acquireWatchdog i).acquireAtlas.acquireAtlas

theorem Rooted.removeView (h : Rooted R w) (i : Nat) (native : NativeHandle) :
    Rooted R (World.modifyHost i (·.removeView native) w) := by
  have hnext (j : Nat) :
      (host (World.modifyHost i (·.removeView native) w) j).nextHandle = (host w j).nextHandle :=
    reading_modifyBundle w i j (·.host.nextHandle) _ fun _ ↦ rfl
  have hseats (j : Nat) : (host (World.modifyHost i (·.removeView native) w) j).seats.Sublist
      (host w j).seats :=
    related_modifyBundle w i j (R := fun b b' ↦ b'.host.seats.Sublist b.host.seats)
      (fun _ ↦ .refl _) fun b ↦ List.filter_sublist.map _
  refine ⟨fun j seat hseat ↦ ?_, fun j ↦ List.Pairwise.sublist (hseats j) (h.ordered j), fun {j n} hn ↦ ?_,
    fun {j n} hn seat hseat ↦ ?_⟩
  · rw [hnext]
    exact h.issued j seat ((hseats j).subset hseat)
  · rw [hnext]
    exact h.claimed hn
  · exact h.roots hn seat ((hseats j).subset hseat)

theorem Rooted.addView (h : Rooted R w) (i : Nat) (view : NativeHandle → View)
    (hview : ∀ handle, (view handle).handle = handle) :
    Rooted R (World.modifyHost i (·.addView view) w) := by
  by_cases hi : i < w.env.bundles.length
  · have hhost (j : Nat) := host_modifyHost w i j (·.addView view) hi
    have hadded (s : Host) : (s.addView view).seats =
        s.seats ++ [(s.freshHandle, (view s.freshHandle).parent)] := by
      simp [Host.addView, Host.seats, hview]
    have hseats (s : Host) (seat : NativeHandle × Option NativeHandle) :
        seat ∈ (s.addView view).seats ↔
          seat ∈ s.seats ∨ seat = (s.freshHandle, (view s.freshHandle).parent) := by
      simp [hadded]
    refine ⟨fun j seat hseat ↦ ?_, fun j ↦ ?_, fun {j n} hn ↦ ?_, fun {j n} hn seat hseat heq ↦ ?_⟩
    · rw [hhost] at hseat ⊢
      split at hseat
      · next hij =>
        rw [if_pos hij]
        rcases (hseats _ _).mp hseat with hold | rfl
        · exact (h.issued j seat hold).trans (Nat.lt_succ_self _)
        · exact Nat.lt_succ_self _
      · next hij =>
        rw [if_neg hij]
        exact h.issued j seat hseat
    · rw [hhost]
      split
      · rw [Host.Ordered, hadded, List.pairwise_append]
        refine ⟨h.ordered j, List.pairwise_singleton .., fun seat hseat new hnew ↦ ?_⟩
        rw [List.mem_singleton.mp hnew]
        exact h.issued j seat hseat
      · exact h.ordered j
    · have hlt : n.val < (host w j).nextHandle := h.claimed hn
      rw [hhost]
      split
      · exact hlt.trans (Nat.lt_succ_self _)
      · exact hlt
    · rw [hhost] at hseat
      split at hseat
      · rcases (hseats _ _).mp hseat with hold | hnew
        · exact h.roots hn seat hold heq
        -- a claimed handle was given out before, and the new one was not
        · have hlt : n.val < (host w j).nextHandle := h.claimed hn
          rw [← heq, hnew] at hlt
          exact absurd hlt (Nat.lt_irrefl _)
      · exact h.roots hn seat hseat heq
  · have hsame : World.modifyHost i (·.addView view) w = w := by
      simp only [World.modifyHost, modifyBundle, Registry.modifyEnv]
      rw [List.modify_eq_self (Nat.le_of_not_lt hi)]
    rwa [hsame]

theorem Rooted.addRoot {win : Window} {view : NativeHandle → View} (h : Rooted R w)
    (hh : win.host < w.env.bundles.length) (hnative : win.native = (host w win.host).freshHandle)
    (hview : ∀ handle, (view handle).handle = handle ∧ (view handle).parent = none) :
    Rooted ((win.host, win.native) :: R) (World.modifyHost win.host (·.addView view) w) := by
  have hadded := h.addView win.host view fun handle ↦ (hview handle).1
  have hhost := host_modifyHost w win.host win.host (·.addView view) hh
  rw [if_pos rfl] at hhost
  have hclaims {i : Nat} {n : NativeHandle}
      (hn : Claimed ((win.host, win.native) :: R) (World.modifyHost win.host (·.addView view) w) i n) :
      (i = win.host ∧ n = win.native) ∨
        Claimed R (World.modifyHost win.host (·.addView view) w) i n := by
    rcases hn with hn | hn
    · rcases List.mem_cons.mp hn with heq | hn
      · exact .inl (Prod.mk.inj heq)
      · exact .inr (.inl hn)
    · exact .inr (.inr hn)
  refine ⟨hadded.issued, hadded.ordered, fun {i n} hn ↦ ?_, fun {i n} hn seat hseat heq ↦ ?_⟩
  · rcases hclaims hn with ⟨rfl, rfl⟩ | hn
    · rw [hhost, hnative]
      exact Nat.lt_succ_self _
    · exact hadded.claimed hn
  · rcases hclaims hn with ⟨rfl, rfl⟩ | hn
    · rw [hhost] at hseat
      obtain ⟨v, hv, rfl⟩ := List.mem_map.mp hseat
      rcases List.mem_append.mp hv with hold | hnew
      · -- no view had this handle before
        have hlt := h.issued win.host (v.handle, v.parent) (List.mem_map_of_mem hold)
        dsimp only at heq hlt
        rw [heq, hnative] at hlt
        exact absurd hlt (Nat.lt_irrefl _)
      · rw [List.mem_singleton.mp hnew]
        exact (hview _).2
    · exact hadded.roots hn seat hseat heq

/-- A window that is registered takes over the claim of whoever opened it. -/
theorem Rooted.install {win : Window} (h : Rooted ((win.host, win.native) :: R) w) :
    Rooted R (install win w) := by
  have hregister : Rooted R (w.register () win).2 := by
    have hclaims {i : Nat} {n : NativeHandle} (hn : Claimed R (w.register () win).2 i n) :
        Claimed ((win.host, win.native) :: R) w i n := by
      rcases hn with hn | ⟨o, ho, hhost, hnative⟩
      · exact .inl (List.mem_cons_of_mem _ hn)
      · rw [window_register] at hhost hnative
        by_cases hlast : o = w.cells.length
        · rw [if_pos hlast] at hhost hnative
          exact .inl (by simp [hhost, hnative])
        · rw [if_neg hlast] at hhost hnative
          have hlt := ((Registry.lt_length_register () win).mp ho).resolve_right hlast
          exact .inr ⟨o, hlt, hhost, hnative⟩
    exact ⟨h.issued, h.ordered, fun hn ↦ h.claimed (hclaims hn), fun hn ↦ h.roots (hclaims hn)⟩
  have hindex : Rooted R (indexInsert win.native (w.register () win).1 (w.register () win).2) :=
    hregister.of_same ⟨rfl, rfl, rfl⟩ fun _ ↦ rfl
  refine hindex.modifyHost win.host (·.addAccelerator win.native) fun s ↦ ?_
  unfold Host.addAccelerator
  split <;> rfl

theorem Edit.rooted (hedit : Edit w w') (h : Rooted R w) : Rooted R w' := by
  cases hedit with
  | addView i view hview => exact h.addView i view hview
  | removeView i native => exact h.removeView i native
  | holdAtlas => exact h.acquireAtlas.of_same ⟨rfl, rfl, rfl⟩ fun _ ↦ rfl
  | dropAtlas => exact h.of_same ⟨rfl, rfl, rfl⟩ fun _ ↦ rfl
  | editAtlas => exact h.of_same ⟨rfl, rfl, rfl⟩ fun _ ↦ rfl
  | holdWatchdog i hi => exact (h.acquireWatchdog i).of_same ⟨rfl, rfl, rfl⟩ fun _ ↦ rfl
  | dropWatchdog hkept => exact h.releaseWatchdog.of_same ⟨rfl, rfl, rfl⟩ fun _ ↦ rfl

theorem Rooted.letGo (h : Rooted R w) (o : ObjectId) : Rooted R (w.letGo o) :=
  h.of_env rfl (by simp) fun _ ↦ window_letGo ..

theorem Rooted.forget {w₁ : World} (h : Rooted R w) (hf : Forgets o w w₁) : Rooted R w₁ := by
  cases hf with
  | unregister hkey => exact h.of_env rfl rfl fun _ ↦ rfl
  | destroy hindex hkey => exact h.of_claims (fun _ ↦ rfl) id

theorem conserved_rooted {hosts : Nat} :
    Conserved ok hosts Rooted id fun R win => (win.host, win.native) :: R where
  silent {_ w f} houtline h := by
    refine h.of_same ⟨rfl, rfl, rfl⟩ fun i ↦ ?_
    have hhost : (host (w.modifyEnv f) i).outline = (host w i).outline := outline_host houtline i
    rw [Host.seats_of_outline hhost, (Host.eq_of_outline hhost).1]
  edit hedit h := hedit.rooted h
  touch {_ w o f} ho hf h := by
    refine h.of_claims (fun _ ↦ rfl) fun hn ↦ hn.of_place (by simp) fun o' ↦ ?_
    rw [window_update w o o' f ho]
    split
    · exact hf _
    · exact ⟨rfl, rfl⟩
  keepAtlas h := h.of_same ⟨rfl, rfl, rfl⟩ fun _ ↦ rfl
  borrow o h := h.of_env rfl (by simp) fun _ ↦ window_borrow ..
  unborrow o h := h.of_env rfl (by simp) fun _ ↦ window_setBorrowed ..
  letGo _ h := h.letGo _
  forget hforget h := h.forget hforget
  unindex _ _ h := h.of_same ⟨rfl, rfl, rfl⟩ fun _ ↦ rfl
  unlisten _ _ _ _ _ h := (h.letGo _).modifyHost _ (·.removeAccelerator _) fun _ ↦ rfl
  discharge h := h.releaseAtlas.releaseAtlas.releaseWatchdog
  equip _ h := h.equip _
  releaseAtlas h := h.releaseAtlas
  releaseWatchdog h := h.releaseWatchdog
  addView hh hnative hview h := h.addRoot hh hnative hview
  install _ _ _ _ h := h.install

/-- The views of windows stay in no other view, within calls too. -/
theorem Moves.rooted (h : Moves ok current w w') (hw : Coherent ok w)
    (hc : ∀ o, current = some o → w.IsBusy o) (hr : Rooted R w) : Rooted R w' :=
  h.conserves conserved_rooted hw hc rfl hr

theorem rooted_empty (hosts : List HostSetup) : Rooted [] (World.empty hosts) := by
  have hseats (i : Nat) : (host (World.empty hosts) i).seats = [] := by
    simp only [host, bundle, World.empty, List.getD_eq_getElem?_getD, List.getElem?_map]
    cases hosts[i]? with
    | none => rfl
    | some setup => rfl
  refine ⟨fun i ↦ by simp [hseats], fun i ↦ by simp [Host.Ordered, hseats], fun {i n} hn ↦ ?_,
    fun {i n} hn ↦ by simp [hseats]⟩
  rcases hn with hn | ⟨o, ho, -⟩
  · cases hn
  · cases ho

end World

end Casement
