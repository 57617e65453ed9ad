import Casement.Proofs.World.Solo

namespace Casement.World

/-- No window is in use. -/
structure Quiet (w : World) : Prop where
  coherent : Coherent (fun _ ↦ True) w
  free : ∀ {o}, o < w.cells.length → w.isBorrowed o = false

section Quiet

variable {w w' w₂ : World} {o : ObjectId} {key : Key}

theorem Quiet.of_lawful (hw : Quiet w) (h : Lawful (fun _ ↦ True) none w w') : Quiet w' := by
  obtain ⟨hw', hf⟩ := h hw.coherent (by simp)
  refine ⟨hw', fun {o} ho ↦ ?_⟩
  by_cases hlt : o < w.cells.length
  · rw [hf.keeps.borrowed hlt, hw.free hlt]
  · exact (hf.keeps.fresh (Nat.le_of_not_lt hlt) ho).2

theorem Quiet.of_evolves (hw : Quiet w) (h : Evolves (fun _ ↦ True) none w w') : Quiet w' :=
  hw.of_lawful h.lawful

theorem evolves_alone (h : Nat) (p : HookPoint) (w : World) :
    Evolves (fun _ ↦ True) none w (scripted 0 h p w) := .scripted 0 h p w

theorem Quiet.held (hw : Quiet w) (hkey : Registry.find? w (some ()) key = some o)
    (h : Evolves (fun _ ↦ True) (some o) (w.borrow o) w₂) :
    Held (fun _ ↦ True) o w w₂ (w₂.setBorrowed o false) ∧ Quiet (w₂.setBorrowed o false) := by
  have hreg := Registry.isRegistered_of_find? hkey
  have hlt := hreg.lt hw.coherent.sound
  have hheld := Lawful.held hw.coherent hreg (hw.free hlt) h.lawful (.refl none _)
  refine ⟨hheld, hheld.returned, fun {o'} ho' ↦ ?_⟩
  have hk := hheld.body_follows.keeps.held hreg (hw.free hlt) hw.coherent.sound (.refl none _)
  by_cases hlt' : o' < w.cells.length
  · rw [hk.borrowed (by simpa using hlt'), Registry.isBorrowed_retain, hw.free hlt']
  · exact (hk.fresh (by simpa using Nat.le_of_not_lt hlt') ho').2

end Quiet

section Solo

variable {w₀ w w' : World} {o : ObjectId} {key : Key} {win : Window} {n : Nat}

theorem Solo.of_windows (h : Solo o w₀ w win n) (henv : w'.env = w.env)
    (hentries : w'.entries = w.entries) (hlen : w'.cells.length = w.cells.length)
    (hwindow : ∀ o', window w' o' = window w o') : Solo o w₀ w' win n where
  lt := by rw [hlen]; exact h.lt
  length := by rw [hlen, h.length]
  entries := by rw [hentries, h.entries]
  index := by rw [henv, h.index]
  hosts := by rw [henv, h.hosts]
  standing i := by rw [bundle, henv, ← bundle, h.standing]
  others hne := by rw [hwindow, h.others hne]
  value := by rw [hwindow, h.value]
  host := h.host
  native := h.native
  host_lt := by rw [henv]; exact h.host_lt
  presented i := by rw [← h.presented, World.presented, World.presented, bundle, henv, ← bundle]

theorem Solo.of_borrow (h : Solo o (w₀.borrow o) w win n) : Solo o w₀ w win n where
  lt := h.lt
  length := by rw [h.length, Registry.length_borrow]
  entries := h.entries
  index := h.index
  hosts := h.hosts
  standing := h.standing
  others hne := by rw [h.others hne, window_borrow]
  value := h.value
  host := by rw [h.host, window_borrow]
  native := by rw [h.native, window_borrow]
  host_lt := h.host_lt
  presented := h.presented

theorem Quiet.solo (hw : Quiet w) (hkey : Registry.find? w (some ()) key = some o) :
    Solo o (w.borrow o) (w.borrow o) (window w o) 0 := by
  have hlt := (Registry.isRegistered_of_find? hkey).lt hw.coherent.sound
  have hstart : Solo o (w.borrow o) (w.borrow o) (window (w.borrow o) o) 0 :=
    .start (by simpa using hlt) (by rw [window_borrow]; exact hw.coherent.host_lt hlt)
  rwa [window_borrow] at hstart

theorem Quiet.withWindow_eq {β : Type} (hw : Quiet w)
    (hkey : Registry.find? w (some ()) key = some o) (body : ObjectId → World → β × World) :
    withWindow (scripted 0) key body w = (some (body o (w.borrow o)).1,
      Registry.release (disposal (scripted 0)) o ((body o (w.borrow o)).2.setBorrowed o false)) := by
  have hfree := hw.free ((Registry.isRegistered_of_find? hkey).lt hw.coherent.sound)
  unfold withWindow Registry.access
  rw [hkey]
  dsimp only
  rw [if_neg (by simp [hfree])]
  rfl

/-- A call on a window that stays registered: someone still owns the window when the call lets go
of it. -/
theorem Quiet.withWindow_solo {β : Type} (hw : Quiet w)
    (hkey : Registry.find? w (some ()) key = some o) (body : ObjectId → World → β × World)
    (hevolves : Evolves (fun _ ↦ True) (some o) (w.borrow o) (body o (w.borrow o)).2)
    (hbody : Solo o (w.borrow o) (body o (w.borrow o)).2 win n) :
    (withWindow (scripted 0) key body w).1 = some (body o (w.borrow o)).1 ∧
      Solo o w (withWindow (scripted 0) key body w).2 win n := by
  obtain ⟨hheld, -⟩ := hw.held hkey hevolves
  have hreg : ((body o (w.borrow o)).2.setBorrowed o false).IsRegistered o :=
    (Registry.isRegistered_congr hbody.entries o).mpr (Registry.isRegistered_of_find? hkey)
  have howned : ((body o (w.borrow o)).2.setBorrowed o false).cells[o]?.any (·.owners ≤ 1) = false := by
    rw [Bool.eq_false_iff, ne_eq, Registry.any_owners_le_one hheld.lt,
      Registry.holders_of_isRegistered hheld.after.sound hreg]
    have := hheld.held
    omega
  rw [hw.withWindow_eq hkey, Registry.release_eq, howned]
  refine ⟨rfl, (hbody.of_borrow.of_windows rfl rfl (by simp) fun o' ↦ ?_)⟩
  rw [if_neg (by simp), window_letGo, window_setBorrowed]

theorem Quiet.withWindow_still {β : Type} (hw : Quiet w)
    (hkey : Registry.find? w (some ()) key = some o) {body : ObjectId → World → β × World} {b : β}
    {f : Desk → Desk} (hbody : body o (w.borrow o) = (b, (w.borrow o).modifyEnv f)) :
    withWindow (scripted 0) key body w = (some b, w.modifyEnv f) := by
  have hreg := Registry.isRegistered_of_find? hkey
  have hlt := hreg.lt hw.coherent.sound
  have hback := Registry.letGo_borrow (hw.free hlt) (hw.coherent.sound.owned hreg)
  have howned : (((w.borrow o).modifyEnv f).setBorrowed o false).cells[o]?.any (·.owners ≤ 1) = false :=
    Registry.owned_borrow (hw.coherent.sound.owned hreg)
  rw [hw.withWindow_eq hkey, hbody, Registry.release_eq, howned, if_neg (by simp)]
  exact congrArg (fun r : World ↦ (some b, r.modifyEnv f)) hback

end Solo

/-- Some windows have gone from the registry and some native windows from their hosts; all else is
as it was. -/
structure Loses (gone : List Key) (removed : List (Nat × NativeHandle)) (w w' : World) : Prop where
  found : ∀ key, Registry.find? w' (some ()) key =
    if key ∈ gone then none else Registry.find? w (some ()) key
  windows : ∀ {o}, w'.IsRegistered o → window w' o = window w o
  hosts : w'.env.bundles.length = w.env.bundles.length
  habits : ∀ i, (bundle w' i).habits = (bundle w i).habits
  seats : ∀ i seat, seat ∈ (host w' i).seats ↔ seat ∈ (host w i).seats ∧
    ∀ p ∈ removed, p.1 = i → seat.1 ≠ p.2 ∧ seat.2 ≠ some p.2
  presented : ∀ i, presented w' i = presented w i

section Loses

variable {w w' w'' : World} {o : ObjectId} {key : Key} {gone gone' : List Key}
  {removed removed' : List (Nat × NativeHandle)} {win : Window} {n : Nat}

theorem isRegistered_iff : w.IsRegistered o ↔ ∃ key, Registry.find? w (some ()) key = some o := by
  simp only [Registry.find?_unit, Option.map_eq_some_iff]
  rfl

theorem Loses.registered (h : Loses gone removed w w') (ho : w'.IsRegistered o) : w.IsRegistered o := by
  obtain ⟨key, hkey⟩ := isRegistered_iff.mp ho
  rw [h.found] at hkey
  split at hkey
  · cases hkey
  · exact isRegistered_iff.mpr ⟨key, hkey⟩

theorem Loses.refl (w : World) : Loses [] [] w w where
  found key := by simp
  windows _ := rfl
  hosts := rfl
  habits _ := rfl
  seats i seat := by simp
  presented _ := rfl

theorem Loses.trans (h : Loses gone removed w w') (h' : Loses gone' removed' w' w'') :
    Loses (gone ++ gone') (removed ++ removed') w w'' where
  found key := by
    rw [h'.found, h.found]
    by_cases hkey : key ∈ gone <;> by_cases hkey' : key ∈ gone' <;> simp [hkey, hkey']
  windows ho := by rw [h'.windows ho, h.windows (h'.registered ho)]
  hosts := h'.hosts.trans h.hosts
  habits i := (h'.habits i).trans (h.habits i)
  seats i seat := by rw [h'.seats, h.seats, List.forall_mem_append, and_assoc]
  presented i := (h'.presented i).trans (h.presented i)

theorem Loses.of_bundle (hsame : SameWindows w w')
    (hosts : w'.env.bundles.length = w.env.bundles.length)
    (hstanding : ∀ i, (bundle w' i).standing = (bundle w i).standing)
    (hpresented : ∀ i, World.presented w' i = World.presented w i) : Loses [] [] w w' where
  found key := by rw [hsame.find?]; simp
  windows _ := hsame.window _
  hosts := hosts
  habits i := congrArg (·.2) (hstanding i)
  seats i seat := by
    have hseats : (World.host w' i).seats = (World.host w i).seats := congrArg (·.1) (hstanding i)
    simp [hseats]
  presented := hpresented

theorem Loses.note (w : World) (r : LogRecord) : Loses [] [] w (note r w) :=
  .of_bundle ⟨rfl, rfl, rfl⟩ rfl (fun _ ↦ rfl) fun _ ↦ rfl

theorem Loses.call (w : World) (i : Nat) (c : Call) : Loses [] [] w (call i c w) :=
  .of_bundle ⟨rfl, rfl, rfl⟩ rfl (fun _ ↦ rfl) fun _ ↦ rfl

theorem Loses.of_solo (h : Solo o w w' win 0) (hkept : w'.IsRegistered o → win = window w o) :
    Loses [] [] w w' where
  found key := by simp [Registry.find?, h.entries]
  windows {o'} ho' := by
    by_cases heq : o' = o
    · subst heq
      rw [h.value, hkept ho']
    · exact h.others heq
  hosts := h.hosts
  habits i := congrArg (·.2) (h.standing i)
  seats i seat := by
    have hseats : (World.host w' i).seats = (World.host w i).seats := congrArg (·.1) (h.standing i)
    simp [hseats]
  presented i := by simp [h.presented]

theorem Loses.letGo (w : World) (o : ObjectId) : Loses [] [] w (w.letGo o) where
  found key := by simp [Registry.find?]
  windows _ := window_letGo ..
  hosts := rfl
  habits _ := rfl
  seats i seat := by simp [World.host, bundle]
  presented _ := rfl

theorem Loses.release (hw : Coherent (fun _ ↦ True) w) (hheld : 1 ≤ w.holders o) :
    Loses [] [] w (Registry.release (disposal (scripted 0)) o w) := by
  have hlt : o < w.cells.length := Registry.lt_of_owners (hheld.trans w.holders_le_owners)
  rw [Registry.release_eq]
  split
  · next hlast =>
    have hone := (Registry.any_owners_le_one hlt).mp hlast
    have hgone : ¬ w.IsRegistered o := fun hreg ↦ by
      have := Registry.holders_of_isRegistered hw.sound hreg
      omega
    have hstart : Solo o (w.letGo o) (w.letGo o) (window (w.letGo o) o) 0 :=
      .start (by simpa using hlt) (by rw [window_letGo]; exact hw.host_lt hlt)
    refine (Loses.letGo w o).trans (.of_solo hstart.dropWindow fun hreg ↦ ?_)
    exact absurd ((Registry.isRegistered_congr hstart.dropWindow.entries o).mp hreg) hgone
  · exact .letGo w o

theorem Loses.unregister (hw : Coherent (fun _ ↦ True) w) (key : Key) :
    Loses [key] [] w (Registry.unregister (disposal (scripted 0)) () key w).2 := by
  unfold Registry.unregister
  split
  · next o hkey =>
    obtain ⟨e, he, -, rfl⟩ := Registry.find?_eq_some hkey
    have hleft := Left.erase hw hkey
    have herase : Loses [key] [] w { w with entries := w.entries.erase key } :=
      { found := fun key' ↦ by
          rw [Registry.find?_unit, Registry.find?_unit, SlotMap.get?_erase]
          by_cases heq : key' = key <;> simp [heq]
        windows := fun _ ↦ rfl
        hosts := rfl
        habits := fun _ ↦ rfl
        seats := fun i seat ↦ by simp [World.host, bundle]
        presented := fun _ ↦ rfl }
    exact herase.trans (.release hleft.forgotten
      (by rw [Registry.holders_erase hw.sound he, if_pos rfl]; omega))
  · next hkey =>
    exact
      { Loses.refl w with
        found := fun key' ↦ by
          by_cases heq : key' = key
          · simp [heq, hkey]
          · simp [heq] }

theorem Loses.indexErase (w : World) (native : NativeHandle) : Loses [] [] w (indexErase native w) :=
  .of_bundle ⟨rfl, rfl, rfl⟩ rfl (fun _ ↦ rfl) fun _ ↦ rfl

theorem Loses.destroy (hw : Quiet w) (native : NativeHandle) :
    Loses (w.env.index.lookup native).toList [] w (destroy (scripted 0) native w) := by
  unfold World.destroy
  split
  · next hindex => simpa [hindex] using Loses.refl w
  · next key hindex =>
    have hlawful : Lawful (fun _ ↦ True) none w (World.indexErase native w) := .modifyEnv rfl
    have hleft := (Loses.indexErase w native).trans
      (.unregister (hlawful hw.coherent (by simp)).1 key)
    rw [hindex]
    dsimp only
    split
    · simpa using hleft.trans (.note _ (.destroyed native))
    · exact hleft

/-- The window that a message of destruction brings to its end: that of the handle, unless its
renderer keeps the message. -/
def doomed (w : World) (native : NativeHandle) : Option Key :=
  (find? w native).filter fun key =>
    !(Registry.find? w (some ()) key).any (consumes w · .destroy)

theorem find?_isOpen {native : NativeHandle} (h : find? w native = some key) :
    w.env.index.lookup native = some key ∧ ∃ o, Registry.find? w (some ()) key = some o := by
  obtain ⟨hindex, hopen⟩ := Option.filter_eq_some_iff.mp h
  exact ⟨hindex, Option.isSome_iff_exists.mp hopen⟩

theorem consumes_borrow (w : World) (o : ObjectId) (m : Message) :
    consumes (w.borrow o) o m = consumes w o m := by
  unfold consumes
  rw [window_borrow]
  rfl

theorem Quiet.deliver (hw : Quiet w) (hkey : Registry.find? w (some ()) key = some o) (m : Message) :
    let result := withWindow (scripted 0) key (fun o w => World.deliver (scripted 0) o m w) w
    result.1 = some (World.deliver (scripted 0) o m (w.borrow o)).1 ∧
      Solo o w result.2 (if consumes w o m then window w o else (window w o).received m) 0 ∧
      Quiet result.2 := by
  have hbody := (hw.solo hkey).deliver m
  rw [consumes_borrow] at hbody
  obtain ⟨hreply, hsolo⟩ := hw.withWindow_solo hkey (fun o w => World.deliver (scripted 0) o m w)
    (.deliver evolves_alone _ o m) hbody
  exact ⟨hreply, hsolo, hw.of_evolves (.access evolves_alone w key fun o w ↦
    .deliver evolves_alone w o m)⟩

theorem Loses.dispatch_destroy (hw : Quiet w) (native : NativeHandle) :
    Loses (doomed w native).toList [] w (dispatch (scripted 0) native .destroy w).2 := by
  unfold World.dispatch doomed
  cases hfind : World.find? w native with
  | none => exact .refl w
  | some key =>
    obtain ⟨hindex, o, hkey⟩ := find?_isOpen hfind
    have hnoted : Quiet (World.note (.dispatching .destroy native) w) := hw.of_evolves (.note w _)
    obtain ⟨hreply, hsolo, hquiet⟩ := hnoted.deliver (o := o) hkey .destroy
    dsimp only
    generalize withWindow (scripted 0) key (fun o w => World.deliver (scripted 0) o .destroy w)
      (World.note (.dispatching .destroy native) w) = result at hreply hsolo hquiet ⊢
    obtain ⟨reply, w₁⟩ := result
    dsimp only at hreply hsolo hquiet
    rw [deliver_destroy, consumes_borrow] at hreply
    have hstart := (Loses.note w (.dispatching .destroy native)).trans
      (.of_solo hsolo fun _ ↦ ite_self _)
    have hconsumes : consumes (World.note (.dispatching .destroy native) w) o .destroy =
      consumes w o .destroy := rfl
    rw [hconsumes] at hreply
    subst hreply
    rw [Option.filter_some, hkey, Option.any_some]
    cases hc : consumes w o .destroy with
    | true => exact hstart
    | false =>
      have hindex₁ : w₁.env.index.lookup native = some key := by rw [hsolo.index]; exact hindex
      have hend := Loses.destroy hquiet native
      rw [hindex₁] at hend
      exact hstart.trans hend

theorem Loses.removeView (w : World) (i : Nat) (native : NativeHandle)
    (hi : i < w.env.bundles.length) :
    Loses [] [(i, native)] w (modifyHost i (·.removeView native) w) where
  found key := by simp [Registry.find?, modifyHost, modifyBundle]
  windows _ := rfl
  hosts := length_bundles_modifyHost ..
  habits j := reading_modifyBundle w i j Bundle.habits _ fun _ ↦ rfl
  seats j seat := by
    rw [host_modifyHost w i j _ hi]
    by_cases heq : i = j
    · simp only [heq, if_true, Host.removeView, Host.seats, List.mem_map, List.mem_filter,
        decide_eq_true_eq, List.mem_singleton, forall_eq, true_imp_iff]
      constructor
      · rintro ⟨v, ⟨hv, hkept⟩, rfl⟩
        exact ⟨⟨v, hv, rfl⟩, hkept⟩
      · rintro ⟨⟨v, hv, rfl⟩, hkept⟩
        exact ⟨v, ⟨hv, hkept⟩, rfl⟩
    · simp [heq]
  presented j := reading_modifyBundle w i j (·.stats.presented) _ fun _ ↦ rfl

theorem Loses.destroyNative (hw : Quiet w) {i : Nat} (hi : i < w.env.bundles.length)
    (native : NativeHandle) :
    destroyNative (scripted 0) i native w = w ∧ (host w i).isWindow native = false ∨
      Loses (doomed w native).toList [(i, native)] w (destroyNative (scripted 0) i native w) := by
  unfold World.destroyNative
  split
  · have hend := Loses.dispatch_destroy hw native
    exact .inr (by simpa using hend.trans (.removeView _ i native (hend.hosts.symm ▸ hi)))
  · next hgone => exact .inl ⟨rfl, Bool.eq_false_iff.mpr hgone⟩

theorem Loses.requestDestroy_now (hw : Quiet w) {i : Nat} (hi : i < w.env.bundles.length)
    {native : NativeHandle} (hdefers : (bundle w i).defers = false)
    (hwindow : (host w i).isWindow native = true) :
    Loses (doomed w native).toList [(i, native)] w (World.requestDestroy (scripted 0) i native w) := by
  have hcalled : Quiet (World.call i (.destroyWindow native) w) := hw.of_evolves (.call w _ _ rfl)
  have hcall := Loses.call w i (.destroyWindow native)
  unfold World.requestDestroy
  dsimp only
  rw [if_neg (by exact Bool.eq_false_iff.mp hdefers)]
  rcases Loses.destroyNative hcalled hi native with ⟨-, hgone⟩ | hend
  · rw [show (host (World.call i (.destroyWindow native) w) i).isWindow native = _ from hwindow] at hgone
    cases hgone
  · exact hcall.trans hend

theorem Quiet.closeWindow (hw : Quiet w) (key : Key) :
    Registry.find? w (some ()) key = none ∧ (closeWindow (scripted 0) key w).2 = w ∨ ∃ o w₁,
      Registry.find? w (some ()) key = some o ∧ Quiet w₁ ∧ Solo o w w₁ (window w o) 0 ∧
      (World.closeWindow (scripted 0) key w).2 =
        requestDestroy (scripted 0) (window w o).host (window w o).native w₁ := by
  unfold World.closeWindow
  cases hkey : Registry.find? w (some ()) key with
  | none => exact .inl ⟨rfl, by simp [withWindow, Registry.access, hkey]⟩
  | some o =>
    obtain ⟨hreply, hsolo⟩ := hw.withWindow_solo hkey
      (fun o w => (((window w o).host, (window w o).native), w)) (.refl _ _) (hw.solo hkey)
    have hquiet : Quiet (withWindow (scripted 0) key
        (fun o w => (((window w o).host, (window w o).native), w)) w).2 :=
      hw.of_evolves (.access evolves_alone w key fun o w ↦ .refl _ w)
    generalize withWindow (scripted 0) key
      (fun o w => (((window w o).host, (window w o).native), w)) w = result at hreply hsolo hquiet ⊢
    obtain ⟨reply, w₁⟩ := result
    dsimp only at hreply hsolo hquiet
    subst hreply
    exact .inr ⟨o, w₁, rfl, hquiet, hsolo, by rw [window_borrow]⟩

/-- A window's turn in a pass: its heartbeat, then its retirement if the heartbeat asks for it. -/
theorem Quiet.turn (hw : Quiet w) (hkey : Registry.find? w (some ()) key = some o) :
    ∃ w₁, Quiet w₁ ∧
      Solo o w w₁ (window w o).beaten
        (if (window w o).inFrame && !(window w o).retires then 1 else 0) ∧
      Loses [] [] (if (window w o).retires then retire (scripted 0) o w₁ else w₁)
        (Registry.turn (conduct (scripted 0)) none w key) := by
  have hbeat : Evolves (fun _ ↦ True) (some o) (w.borrow o) (beat (scripted 0) o (w.borrow o)).2 :=
    .beat evolves_alone o _
  obtain ⟨hretires, hsolo⟩ := (hw.solo hkey).beat
  obtain ⟨-, hquiet⟩ := hw.held hkey hbeat
  have hreg := Registry.isRegistered_of_find? hkey
  have hfree := hw.free (hreg.lt hw.coherent.sound)
  rw [Nat.zero_add] at hsolo
  refine ⟨(beat (scripted 0) o (w.borrow o)).2.setBorrowed o false, hquiet,
    hsolo.of_borrow.of_windows rfl rfl (by simp) fun _ ↦ window_setBorrowed ..,
    ?_⟩
  -- the window asks for its end only after it has been given back
  have hafter : Evolves (fun _ ↦ True) none ((beat (scripted 0) o (w.borrow o)).2.setBorrowed o false)
      (if (window w o).retires then
        retire (scripted 0) o ((beat (scripted 0) o (w.borrow o)).2.setBorrowed o false)
      else (beat (scripted 0) o (w.borrow o)).2.setBorrowed o false) := by
    split
    · exact .requestDestroy evolves_alone _ _ _
    · exact .refl none _
  have hheld := Lawful.held hw.coherent hreg hfree hbeat.lawful hafter.lawful
  have hturn : Registry.turn (conduct (scripted 0)) none w key =
      Registry.release (disposal (scripted 0)) o (if (window w o).retires then
        retire (scripted 0) o ((beat (scripted 0) o (w.borrow o)).2.setBorrowed o false)
      else (beat (scripted 0) o (w.borrow o)).2.setBorrowed o false) := by
    unfold Registry.turn
    rw [Registry.find?_unit, ← Registry.find?_unit w (some ()), hkey]
    dsimp only
    rw [if_neg (by simp [hfree]), ← hretires]
    rfl
  rw [hturn]
  exact .release hheld.after hheld.held

end Loses

def Spares (w w' : World) : Prop := ∀ key o, Registry.find? w' (some ()) key = some o →
  Registry.find? w (some ()) key = some o ∧ window w' o = window w o

section Spares

variable {w w' w'' : World} {o : ObjectId} {key : Key} {gone : List Key}
  {removed : List (Nat × NativeHandle)}

theorem Spares.refl (w : World) : Spares w w := fun _ _ h ↦ ⟨h, rfl⟩

theorem Spares.trans (h : Spares w w') (h' : Spares w' w'') : Spares w w'' := by
  intro key o hkey
  obtain ⟨hkey', hwindow'⟩ := h' key o hkey
  obtain ⟨hkey'', hwindow⟩ := h key o hkey'
  exact ⟨hkey'', hwindow'.trans hwindow⟩

theorem SameWindows.spares (h : SameWindows w w') : Spares w w' := fun _ _ hkey ↦
  ⟨by rwa [h.find?] at hkey, h.window _⟩

theorem Loses.spares (h : Loses gone removed w w') : Spares w w' := by
  intro key o hkey
  refine ⟨?_, h.windows (Registry.isRegistered_of_find? hkey)⟩
  rw [h.found] at hkey
  split at hkey
  · cases hkey
  · exact hkey

theorem Spares.requestDestroy (hw : Quiet w) {i : Nat} (hi : i < w.env.bundles.length)
    (native : NativeHandle) : Spares w (requestDestroy (scripted 0) i native w) := by
  have hcalled : Quiet (World.call i (.destroyWindow native) w) := hw.of_evolves (.call w _ _ rfl)
  have hcall := (Loses.call w i (.destroyWindow native)).spares
  unfold World.requestDestroy
  dsimp only
  split
  · exact hcall.trans (SameWindows.spares ⟨rfl, rfl, rfl⟩)
  · rcases Loses.destroyNative hcalled hi native with ⟨heq, -⟩ | hend
    · exact heq.symm ▸ hcall
    · exact hcall.trans hend.spares

theorem Solo.spares (h : Solo o w w' (window w o) n) : Spares w w' := fun key o' hkey ↦ by
  refine ⟨by simpa [Registry.find?, h.entries] using hkey, ?_⟩
  by_cases heq : o' = o
  · exact heq ▸ h.value
  · exact h.others heq

theorem Spares.closeWindow (hw : Quiet w) (key : Key) :
    Spares w (closeWindow (scripted 0) key w).2 := by
  rcases hw.closeWindow key with ⟨-, heq⟩ | ⟨o, w₁, -, hquiet, hsolo, heq⟩
  · rw [heq]
    exact .refl w
  · rw [heq]
    exact hsolo.spares.trans (.requestDestroy hquiet hsolo.host_lt _)

theorem Coherent.find?_inj (hw : Coherent (fun _ ↦ True) w) {key' : Key}
    (hkey : Registry.find? w (some ()) key = some o)
    (hkey' : Registry.find? w (some ()) key' = some o) : key = key' := by
  obtain ⟨e, he, -, heo⟩ := Registry.find?_eq_some hkey
  obtain ⟨e', he', -, heo'⟩ := Registry.find?_eq_some hkey'
  exact hw.sound.key_unique he he' (heo.trans heo'.symm)

theorem turn_eq_self (hkey : Registry.find? w (some ()) key = none) :
    Registry.turn (conduct (scripted 0)) none w key = w := by
  unfold Registry.turn
  rw [Registry.find?_unit, ← Registry.find?_unit w (some ()), hkey]

theorem Quiet.turn_spares (hw : Quiet w) {k : Key}
    (hkey : Registry.find? (Registry.turn (conduct (scripted 0)) none w k) (some ()) key = some o) :
    Registry.find? w (some ()) key = some o ∧
      window (Registry.turn (conduct (scripted 0)) none w k) o =
        if k = key then (window w o).beaten else window w o := by
  cases hk : Registry.find? w (some ()) k with
  | none =>
    rw [turn_eq_self hk] at hkey ⊢
    refine ⟨hkey, ?_⟩
    rw [if_neg]
    rintro rfl
    rw [hk] at hkey
    cases hkey
  | some o₁ =>
    obtain ⟨w₁, hquiet, hsolo, hlast⟩ := hw.turn hk
    have hretire : Spares w₁ (if (window w o₁).retires then retire (scripted 0) o₁ w₁ else w₁) := by
      split
      · exact .requestDestroy hquiet (by rw [hsolo.value]; exact hsolo.host_lt) (window w₁ o₁).native
      · exact .refl w₁
    obtain ⟨hkey₁, hwindow⟩ := hretire.trans hlast.spares key o hkey
    have hkey₀ : Registry.find? w (some ()) key = some o := by
      simpa [Registry.find?, hsolo.entries] using hkey₁
    refine ⟨hkey₀, hwindow.trans ?_⟩
    by_cases heq : k = key
    · obtain rfl : o₁ = o := by
        rw [heq, hkey₀, Option.some.injEq] at hk
        exact hk.symm
      rw [if_pos heq, hsolo.value]
    · rw [if_neg heq]
      refine hsolo.others ?_
      rintro rfl
      exact heq (hw.coherent.find?_inj hk hkey₀)

theorem evolves_turn (w : World) (k : Key) :
    Evolves (fun _ ↦ True) none w (Registry.turn (conduct (scripted 0)) none w k) :=
  (Evolves.calls evolves_alone).turn none w k

theorem Quiet.of_turn (hw : Quiet w) (k : Key) :
    Quiet (Registry.turn (conduct (scripted 0)) none w k) := hw.of_evolves (evolves_turn w k)

theorem Quiet.turns_spare (hw : Quiet w) {keys : List Key} (hnodup : keys.Nodup)
    (hkey : Registry.find? (keys.foldl (Registry.turn (conduct (scripted 0)) none) w) (some ()) key =
      some o) :
    Registry.find? w (some ()) key = some o ∧
      window (keys.foldl (Registry.turn (conduct (scripted 0)) none) w) o =
        if key ∈ keys then (window w o).beaten else window w o := by
  induction keys generalizing w with
  | nil => exact ⟨hkey, by simp⟩
  | cons k keys ih =>
    obtain ⟨hk, hkeys⟩ := List.nodup_cons.mp hnodup
    obtain ⟨hkey₁, hwindow₁⟩ := ih (hw.of_turn k) hkeys hkey
    obtain ⟨hkey₀, hwindow₀⟩ := hw.turn_spares hkey₁
    refine ⟨hkey₀, hwindow₁.trans ?_⟩
    rw [hwindow₀]
    by_cases heq : k = key
    · simp [heq, heq ▸ hk]
    · simp [heq, Ne.symm heq]

theorem mem_keys : key ∈ w.keys none ↔ ∃ o, Registry.find? w (some ()) key = some o := by
  rw [Registry.mem_keys_iff]
  simp only [Registry.find?_unit]

theorem Quiet.heartbeat_spares (hw : Quiet w)
    (hkey : Registry.find? (heartbeat (scripted 0) w) (some ()) key = some o) :
    Registry.find? w (some ()) key = some o ∧
      window (heartbeat (scripted 0) w) o = (window w o).beaten := by
  obtain ⟨hkey₀, hwindow⟩ := hw.turns_spare (w.nodup_keys none) hkey
  exact ⟨hkey₀, hwindow.trans (if_pos (mem_keys.mpr ⟨o, hkey₀⟩))⟩

end Spares

end Casement.World
