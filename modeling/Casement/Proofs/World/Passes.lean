import Casement.Proofs.World.Arrivals
import Casement.Proofs.World.Indices
import Casement.Proofs.World.Watchdog

namespace Casement

theorem Host.isWindow_iff {s : Host} {native : NativeHandle} :
    s.isWindow native = true ↔ ∃ seat ∈ s.seats, seat.1 = native := by
  simp [isWindow, view?, seats]

namespace World

variable {w w' w₀ w₁ : World} {o : ObjectId} {key : Key} {win : Window} {n : Nat} {gone : List Key}
  {removed : List (Nat × NativeHandle)} {native : NativeHandle}

def Listed (w : World) : Prop := ∀ key o, Registry.find? w (some ()) key = some o →
  w.env.index.lookup (window w o).native = some key

theorem Indexed.isListed (h : Indexed w) : Listed w := fun key o hkey ↦ by
  obtain ⟨e, he, -, rfl⟩ := Registry.find?_eq_some hkey
  exact h.listed he

theorem Solo.native_eq (h : Solo o w w' win n) (o' : ObjectId) :
    (window w' o').native = (window w o').native := by
  by_cases heq : o' = o
  · rw [heq, h.value, h.native]
  · rw [h.others heq]

theorem Solo.find?_eq (h : Solo o w w' win n) (key : Key) :
    Registry.find? w' (some ()) key = Registry.find? w (some ()) key := by
  simp only [Registry.find?, h.entries]

theorem Listed.of_solo (hw : Listed w) (h : Solo o w w' win n) : Listed w' := fun key o' hkey ↦ by
  rw [h.find?_eq] at hkey
  rw [h.index, h.native_eq]
  exact hw key o' hkey

theorem Listed.of_same (hw : Listed w) (h : SameWindows w w') (hindex : w'.env.index = w.env.index) :
    Listed w' := fun key o hkey ↦ by
  rw [h.find?] at hkey
  rw [hindex, h.window]
  exact hw key o hkey

/-- There is one host. It destroys windows at once, its renderers leave that to the windows, and it
has the native windows of all that are registered, not as views in others. -/
structure Prompt (w : World) : Prop where
  one : w.env.bundles.length = 1
  left : (bundle w 0).consumed.contains .destroy = false
  atOnce : (bundle w 0).defers = false
  seated : ∀ {o}, w.IsRegistered o → ((window w o).native, none) ∈ (host w 0).seats

theorem Prompt.of_standing (h : Prompt w) (hhosts : w'.env.bundles.length = w.env.bundles.length)
    (hstanding : (bundle w' 0).standing = (bundle w 0).standing)
    (hkept : ∀ {o}, w'.IsRegistered o →
      w.IsRegistered o ∧ (window w' o).native = (window w o).native) : Prompt w' where
  one := hhosts.trans h.one
  left := by
    rw [show (bundle w' 0).consumed = _ from congrArg (·.2.1) hstanding]
    exact h.left
  atOnce := (congrArg (·.2.2.1) hstanding).trans h.atOnce
  seated {o} ho := by
    obtain ⟨hreg, hnative⟩ := hkept ho
    have hseats : (host w' 0).seats = (host w 0).seats := congrArg (·.1) hstanding
    rw [hseats, hnative]
    exact h.seated hreg

theorem Prompt.of_steady (h : Prompt w) (hs : Steady w w') : Prompt w' :=
  h.of_standing hs.hosts (hs.standing 0) fun {o} ho ↦
    ⟨(Registry.isRegistered_congr hs.same.entries o).mp ho, by rw [hs.same.window]⟩

theorem Prompt.of_solo (h : Prompt w) (hs : Solo o w w' win n) : Prompt w' :=
  h.of_standing hs.hosts (hs.standing 0) fun {o'} ho' ↦
    ⟨(Registry.isRegistered_congr hs.entries o').mp ho', hs.native_eq o'⟩

theorem Prompt.of_loses (h : Prompt w) (hl : Loses gone removed w w')
    (hkept : ∀ {o}, w'.IsRegistered o → (0, (window w o).native) ∉ removed) : Prompt w' where
  one := hl.hosts.trans h.one
  left := by
    rw [show (bundle w' 0).consumed = _ from congrArg (·.1) (hl.habits 0)]
    exact h.left
  atOnce := (congrArg (·.2.1) (hl.habits 0)).trans h.atOnce
  seated {o} ho := by
    rw [hl.windows ho, hl.seats]
    refine ⟨h.seated (hl.registered ho), ?_⟩
    rintro ⟨i, native⟩ hp rfl
    refine ⟨fun heq ↦ hkept ho ?_, by simp⟩
    dsimp only at heq
    rwa [heq]

theorem Prompt.of_gains (h : Prompt w) {i : Nat} {new : NativeHandle × Option NativeHandle}
    (hg : Gains i new w w') : Prompt w' where
  one := hg.hosts.trans h.one
  left := by
    rw [show (bundle w' 0).consumed = _ from congrArg (·.1) (hg.habits 0)]
    exact h.left
  atOnce := (congrArg (·.2.1) (hg.habits 0)).trans h.atOnce
  seated {o} ho := by
    rw [hg.same.window, hg.seats]
    exact .inl (h.seated ((Registry.isRegistered_congr hg.same.entries o).mp ho))

theorem Prompt.doomed_eq (h : Prompt w) (hw : Coherent (fun _ ↦ True) w) (hlisted : Listed w)
    (hkey : Registry.find? w (some ()) key = some o) : doomed w (window w o).native = some key := by
  have hhost := hw.host_eq_zero h.one ((Registry.isRegistered_of_find? hkey).lt hw.sound)
  have hopen : isOpen w key = true := by simp [isOpen, Registry.contains, hkey]
  have hfind : find? w (window w o).native = some key := by
    rw [World.find?, hlisted key o hkey, Option.filter_some, if_pos hopen]
  have hleft : consumes w o .destroy = false := by
    rw [consumes, hhost]
    exact h.left
  rw [doomed, hfind, Option.filter_some, hkey, Option.any_some, hleft]
  rfl

theorem Prompt.of_doomed (h : Prompt w) (hw : Quiet w) (hlisted : Listed w)
    (hl : Loses (doomed w native).toList [(0, native)] w w') : Prompt w' := by
  refine h.of_loses hl fun {o} ho hmem ↦ ?_
  obtain ⟨key, hkey⟩ := isRegistered_iff.mp ho
  obtain ⟨hkey₀, -⟩ := hl.spares key o hkey
  have hdoomed := h.doomed_eq hw.coherent hlisted hkey₀
  simp only [List.mem_singleton, Prod.mk.injEq, true_and] at hmem
  rw [hl.found, ← hmem, hdoomed, if_pos (by simp)] at hkey
  cases hkey

theorem Prompt.destroyNative (h : Prompt w) (hw : Quiet w) (hlisted : Listed w)
    (native : NativeHandle) : Prompt (destroyNative (scripted 0) 0 native w) := by
  rcases Loses.destroyNative hw (h.one.symm ▸ Nat.one_pos) native with ⟨heq, -⟩ | hl
  · rwa [heq]
  · exact h.of_doomed hw hlisted hl

theorem Prompt.requestDestroy (h : Prompt w) (hw : Quiet w) (hlisted : Listed w)
    (native : NativeHandle) : Prompt (requestDestroy (scripted 0) 0 native w) := by
  have hcalled := h.of_steady (.call w 0 (.destroyWindow native))
  unfold World.requestDestroy
  dsimp only
  rw [if_neg (by exact Bool.eq_false_iff.mp h.atOnce)]
  exact hcalled.destroyNative (hw.of_evolves (.call w _ _ rfl))
    (hlisted.of_same ⟨rfl, rfl, rfl⟩ rfl) native

theorem Prompt.requestDestroy_own (h : Prompt w) (hw : Quiet w) (hlisted : Listed w)
    (hkey : Registry.find? w (some ()) key = some o) :
    Loses [key] [(0, (window w o).native)] w (World.requestDestroy (scripted 0) 0 (window w o).native w) := by
  have hwindow : (host w 0).isWindow (window w o).native = true :=
    Host.isWindow_iff.mpr ⟨_, h.seated (Registry.isRegistered_of_find? hkey), rfl⟩
  have hend := Loses.requestDestroy_now hw (h.one.symm ▸ Nat.one_pos) h.atOnce hwindow
  rwa [h.doomed_eq hw.coherent hlisted hkey] at hend

structure PromptDesk (w : World) : Prop where
  quiet : Quiet w
  watched : Watched 0 w
  indexed : Indexed w
  prompt : Prompt w

theorem PromptDesk.of_evolves (hw : PromptDesk w) (h : Evolves (fun _ ↦ True) none w w')
    (hprompt : Prompt w') : PromptDesk w' where
  quiet := hw.quiet.of_evolves h
  watched := h.moves.watched hw.quiet.coherent (by simp) hw.watched
  indexed := h.moves.indexed hw.quiet.coherent (by simp) hw.prompt.one hw.indexed
  prompt := hprompt

theorem promptDesk_empty (setup : HostSetup) : PromptDesk (World.empty [setup]) where
  quiet := ⟨coherent_empty _, (atRest_empty _).free⟩
  watched := watched_empty _
  indexed := indexed_empty _
  prompt :=
    { one := rfl
      left := rfl
      atOnce := rfl
      seated := fun ho ↦ by
        obtain ⟨key, hkey⟩ := isRegistered_iff.mp ho
        simp [World.empty, Registry.find?, SlotMap.get?, SlotMap.slot?] at hkey }

theorem PromptDesk.host_eq_zero (hw : PromptDesk w)
    (hkey : Registry.find? w (some ()) key = some o) :
    (window w o).host = 0 :=
  hw.quiet.coherent.host_eq_zero hw.prompt.one
    ((Registry.isRegistered_of_find? hkey).lt hw.quiet.coherent.sound)

/-- A window's turn: after its heartbeat it has gone with its native window, if it was due. -/
theorem PromptDesk.turn (hw : PromptDesk w) (hkey : Registry.find? w (some ()) key = some o) :
    ∃ w₁ gone removed,
      Solo o w w₁ (window w o).beaten
        (if (window w o).inFrame && !(window w o).retires then 1 else 0) ∧
      Loses gone removed w₁ (Registry.turn (conduct (scripted 0)) none w key) ∧
      gone = (if (window w o).retires then [key] else []) ∧
      removed = (if (window w o).retires then [(0, (window w o).native)] else []) := by
  obtain ⟨w₁, hquiet, hsolo, hlast⟩ := hw.quiet.turn hkey
  refine ⟨w₁, _, _, hsolo, ?_, rfl, rfl⟩
  cases hretires : (window w o).retires with
  | false => simpa [hretires] using hlast
  | true =>
    have hprompt := hw.prompt.of_solo hsolo
    have hkey₁ : Registry.find? w₁ (some ()) key = some o := by rw [hsolo.find?_eq, hkey]
    have hhost : (window w₁ o).host = 0 := by rw [hsolo.value, hsolo.host, hw.host_eq_zero hkey]
    have hend := hprompt.requestDestroy_own hquiet (hw.indexed.isListed.of_solo hsolo) hkey₁
    rw [hsolo.native_eq] at hend
    rw [if_pos hretires, retire, hhost, hsolo.native_eq] at hlast
    simpa using hend.trans hlast

theorem PromptDesk.of_turn (hw : PromptDesk w) (key : Key) :
    PromptDesk (Registry.turn (conduct (scripted 0)) none w key) := by
  refine hw.of_evolves (evolves_turn w key) ?_
  cases hkey : Registry.find? w (some ()) key with
  | none =>
    rw [turn_eq_self hkey]
    exact hw.prompt
  | some o =>
    obtain ⟨w₁, gone, removed, hsolo, hend, rfl, rfl⟩ := hw.turn hkey
    have hprompt := hw.prompt.of_solo hsolo
    refine hprompt.of_loses hend fun {o'} ho' hmem ↦ ?_
    split at hmem
    · next hretires =>
      obtain ⟨key', hkey'⟩ := isRegistered_iff.mp ho'
      obtain ⟨hkey₁, -⟩ := hend.spares key' o' hkey'
      rw [hsolo.find?_eq] at hkey₁
      have hnative : (window w o').native = (window w o).native := by
        simpa [hsolo.native_eq] using hmem
      have hlisted := hw.indexed.isListed key' o' hkey₁
      rw [hnative, hw.indexed.isListed key o hkey, Option.some.injEq] at hlisted
      rw [hend.found, if_pos hretires, ← hlisted, if_pos (by simp)] at hkey'
      cases hkey'
    · cases hmem

def retiring (w : World) (key : Key) : Bool :=
  (Registry.find? w (some ()) key).any fun o => (window w o).retires

def presenting (w : World) (key : Key) : Bool :=
  (Registry.find? w (some ()) key).any fun o => (window w o).inFrame && !(window w o).retires

structure Beats (keys : List Key) (w w' : World) : Prop where
  found : ∀ key, Registry.find? w' (some ()) key =
    if key ∈ keys ∧ retiring w key = true then none else Registry.find? w (some ()) key
  removed : ∀ {key o}, key ∈ keys → Registry.find? w (some ()) key = some o →
    (window w o).retires = true → ∀ seat ∈ (host w' 0).seats, seat.1 ≠ (window w o).native
  seats : ∀ seat ∈ (host w' 0).seats, seat ∈ (host w 0).seats
  presented : presented w' 0 = presented w 0 + keys.countP (presenting w)

theorem Beats.nil (w : World) : Beats [] w w where
  found key := by simp
  removed h := by cases h
  seats _ h := h
  presented := rfl

theorem PromptDesk.beats_one (hw : PromptDesk w) (key : Key) :
    Beats [key] w (Registry.turn (conduct (scripted 0)) none w key) := by
  cases hkey : Registry.find? w (some ()) key with
  | none =>
    rw [turn_eq_self hkey]
    refine ⟨fun key' ↦ ?_, fun hmem hkey' ↦ ?_, fun _ h ↦ h, ?_⟩
    · rw [if_neg]
      rintro ⟨hmem, hretiring⟩
      rw [List.mem_singleton.mp hmem] at hretiring
      simp [retiring, hkey] at hretiring
    · rw [List.mem_singleton.mp hmem, hkey] at hkey'
      cases hkey'
    · simp [presenting, hkey]
  | some o =>
    obtain ⟨w₁, gone, removed, hsolo, hend, rfl, rfl⟩ := hw.turn hkey
    have hseats : (host w₁ 0).seats = (host w 0).seats := congrArg (·.1) (hsolo.standing 0)
    refine ⟨fun key' ↦ ?_, fun {key' o'} hmem hkey' hretires seat hseat ↦ ?_, fun seat hseat ↦ ?_, ?_⟩
    · rw [hend.found, hsolo.find?_eq]
      by_cases heq : key' = key
      · subst heq
        by_cases hretires : (window w o).retires = true
        · simp [hretires, retiring, hkey]
        · simp [hretires, retiring, hkey]
      · have hout : key' ∉ if (window w o).retires then [key] else [] := by
          split <;> simp [heq]
        rw [if_neg hout, if_neg (by simp [heq])]
    · rw [List.mem_singleton.mp hmem, hkey, Option.some.injEq] at hkey'
      subst hkey'
      rw [hend.seats, if_pos hretires] at hseat
      exact (hseat.2 _ (List.mem_singleton_self _) rfl).1
    · rw [hend.seats, hseats] at hseat
      exact hseat.1
    · rw [hend.presented, hsolo.presented, hsolo.host, hw.host_eq_zero hkey]
      simp [presenting, hkey]

theorem PromptDesk.turn_other (hw : PromptDesk w) {k : Key} (hne : key ≠ k) :
    let w' := Registry.turn (conduct (scripted 0)) none w k
    Registry.find? w' (some ()) key = Registry.find? w (some ()) key ∧
      (∀ {o}, Registry.find? w (some ()) key = some o → window w' o = window w o) ∧
      retiring w' key = retiring w key ∧ presenting w' key = presenting w key := by
  intro w'
  have hfound : Registry.find? w' (some ()) key = Registry.find? w (some ()) key := by
    rw [(hw.beats_one k).found, if_neg (by simp [hne])]
  have hwindow {o : ObjectId} (hkey : Registry.find? w (some ()) key = some o) :
      window w' o = window w o := by
    rw [(hw.quiet.turn_spares (hfound.trans hkey)).2, if_neg (Ne.symm hne)]
  refine ⟨hfound, hwindow, ?_, ?_⟩
  · unfold retiring
    rw [hfound]
    cases hkey : Registry.find? w (some ()) key with
    | none => rfl
    | some o => rw [Option.any_some, Option.any_some, hwindow hkey]
  · unfold presenting
    rw [hfound]
    cases hkey : Registry.find? w (some ()) key with
    | none => rfl
    | some o => rw [Option.any_some, Option.any_some, hwindow hkey]

theorem PromptDesk.beats (hw : PromptDesk w) {keys : List Key} (hnodup : keys.Nodup) :
    PromptDesk (keys.foldl (Registry.turn (conduct (scripted 0)) none) w) ∧
      Beats keys w (keys.foldl (Registry.turn (conduct (scripted 0)) none) w) := by
  induction keys generalizing w with
  | nil => exact ⟨hw, .nil w⟩
  | cons k keys ih =>
    obtain ⟨hk, hkeys⟩ := List.nodup_cons.mp hnodup
    have hone := hw.beats_one k
    obtain ⟨hafter, hrest⟩ := ih (hw.of_turn k) hkeys
    have hne {key : Key} (hmem : key ∈ keys) : key ≠ k := by
      rintro rfl
      exact hk hmem
    -- the turn of one window is no matter to those whose turn is to come
    have hother {key : Key} (hmem : key ∈ keys) := hw.turn_other (hne hmem)
    rw [List.foldl_cons]
    refine ⟨hafter, fun key ↦ ?_, fun {key o} hmem hkey hretires seat hseat ↦ ?_, fun seat hseat ↦ ?_, ?_⟩
    · rw [hrest.found]
      by_cases hmem : key ∈ keys
      · obtain ⟨hfound, -, hretiring, -⟩ := hother hmem
        simp [hmem, hfound, hretiring]
      · rw [if_neg (by simp [hmem]), hone.found]
        simp [hmem]
    · rcases List.mem_cons.mp hmem with rfl | hmem
      · exact hone.removed (List.mem_singleton_self _) hkey hretires seat (hrest.seats seat hseat)
      · obtain ⟨hfound, hwindow, -, -⟩ := hother hmem
        have hsame := hwindow hkey
        rw [← hsame] at hretires ⊢
        exact hrest.removed hmem (hfound.trans hkey) hretires seat hseat
    · exact hone.seats seat (hrest.seats seat hseat)
    · have hcount : keys.countP (presenting (Registry.turn (conduct (scripted 0)) none w k)) =
          keys.countP (presenting w) :=
        List.countP_congr fun key hmem ↦ by rw [(hother hmem).2.2.2]
      rw [hrest.presented, hone.presented, hcount, List.countP_singleton, List.countP_cons]
      omega

theorem PromptDesk.heartbeat (hw : PromptDesk w) :
    PromptDesk (heartbeat (scripted 0) w) ∧
      Beats (w.keys none) w (World.heartbeat (scripted 0) w) :=
  hw.beats (w.nodup_keys none)

theorem PromptDesk.find?_heartbeat (hw : PromptDesk w) (key : Key) :
    Registry.find? (World.heartbeat (scripted 0) w) (some ()) key =
      if retiring w key then none else Registry.find? w (some ()) key := by
  rw [hw.heartbeat.2.found]
  cases hkey : Registry.find? w (some ()) key with
  | none => simp
  | some o => simp [mem_keys.mpr ⟨o, hkey⟩]

/-- The timers of the only host are one heartbeat while there are windows; without any, a heartbeat
is nothing. -/
theorem Quiet.runTimers_eq (hw : Quiet w) (hwatched : Watched 0 w) (hone : w.env.bundles.length = 1) :
    runTimers (scripted 0) 0 w = World.heartbeat (scripted 0) w := by
  unfold runTimers
  cases hkeys : w.keys none with
  | nil =>
    have hidle : World.heartbeat (scripted 0) w = w := by
      unfold World.heartbeat Registry.pass
      rw [hkeys]
      rfl
    rw [hidle]
    induction (host w 0).timers with
    | nil => rfl
    | cons timer rest ih => rw [List.foldl_cons, hidle, ih]
  | cons key rest =>
    obtain ⟨o, hkey⟩ := mem_keys.mp (hkeys ▸ List.mem_cons_self)
    have hreg := Registry.isRegistered_of_find? hkey
    have hsound := hw.coherent.sound
    obtain ⟨dog, -, hhost, htimers⟩ := hwatched.running (mem_listening.mpr
      ⟨hreg.lt hsound, Registry.not_mem_dropped_of_isRegistered hsound hreg⟩)
    have hzero : 0 = dog.host := by omega
    rw [htimers 0, if_pos hzero]
    rfl

end World

end Casement
