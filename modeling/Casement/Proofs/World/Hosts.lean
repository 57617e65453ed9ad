import Casement.Proofs.World.Arrivals
import Casement.Proofs.World.History
import Casement.Proofs.World.Indices
import Casement.Proofs.World.Passes

namespace Casement.World

variable {w w' : World} {o : ObjectId} {key : Key} {native : NativeHandle}

/-- The window that the destruction of a native window of a number brings to its end: the youngest
with that number, unless its renderer keeps the message. -/
structure Strikes (w : World) (native : NativeHandle) (o : ObjectId) : Prop where
  native : (window w o).native = native
  youngest : IsYoungest w o
  heeded : consumes w o .destroy = false

theorem Ranked.doomed_iff (hr : Ranked w) (hkey : Registry.find? w (some ()) key = some o) :
    doomed w native = some key ↔ Strikes w native o := by
  obtain ⟨e, he, -, rfl⟩ := Registry.find?_eq_some hkey
  have hfind : find? w native = some key ↔
      (window w e.object).native = native ∧ IsYoungest w e.object := by
    rw [find?, Option.filter_eq_some_iff]
    constructor
    · rintro ⟨hindex, -⟩
      exact hr.named hindex he
    · rintro ⟨rfl, hyoung⟩
      exact ⟨hr.listed he hyoung, by simp [isOpen, Registry.contains, hkey]⟩
  rw [doomed, Option.filter_eq_some_iff, hfind, hkey]
  constructor
  · rintro ⟨⟨hnative, hyoung⟩, hheeded⟩
    exact ⟨hnative, hyoung, by simpa using hheeded⟩
  · rintro ⟨hnative, hyoung, hheeded⟩
    exact ⟨⟨hnative, hyoung⟩, by simp [hheeded]⟩

theorem isOpen_of_find? (hkey : Registry.find? w (some ()) key = some o) : isOpen w key = true := by
  simp [isOpen, Registry.contains, hkey]

theorem Loses.isOpen_iff {gone : Option Key} {removed : List (Nat × NativeHandle)}
    (h : Loses gone.toList removed w w') (hkey : Registry.find? w (some ()) key = some o) :
    isOpen w' key = false ↔ gone = some key := by
  have hmem : key ∈ gone.toList ↔ gone = some key := by simp
  rw [isOpen, Registry.contains, h.found, hkey]
  split
  · next hgone => simp [hmem.mp hgone]
  · next hkept => simp [mt hmem.mpr hkept]

theorem Quiet.isOpen_destroyNative (hw : Quiet w) (hr : Ranked w) (i : Nat) (native : NativeHandle)
    (hkey : Registry.find? w (some ()) key = some o) :
    isOpen (World.destroyNative (scripted 0) i native w) key = false ↔
      (host w i).isWindow native = true ∧ Strikes w native o := by
  cases hwindow : (host w i).isWindow native with
  | false =>
    have hsame : World.destroyNative (scripted 0) i native w = w := by
      simp [World.destroyNative, hwindow]
    simp [hsame, isOpen_of_find? hkey]
  | true =>
    rcases Loses.destroyNative hw (lt_of_isWindow hwindow) native with ⟨-, hgone⟩ | hend
    · rw [hwindow] at hgone
      cases hgone
    · rw [hend.isOpen_iff hkey, hr.doomed_iff hkey]
      simp

structure Alike (w w' : World) : Prop where
  entries : w'.entries = w.entries
  length : w'.cells.length = w.cells.length
  windows : ∀ o, window w' o = window w o
  index : w'.env.index = w.env.index
  habits : ∀ i, (bundle w' i).habits = (bundle w i).habits

theorem Gains.alike {i : Nat} {new : NativeHandle × Option NativeHandle} (h : Gains i new w w') :
    Alike w w' where
  entries := h.same.entries
  length := by rw [h.same.cells]
  windows := h.same.window
  index := h.index
  habits := h.habits

theorem Solo.alike (h : Solo o w w' (window w o) 0) : Alike w w' where
  entries := h.entries
  length := h.length
  windows o' := by
    by_cases heq : o' = o
    · subst heq
      exact h.value
    · exact h.others heq
  index := h.index
  habits i := congrArg (·.2) (h.standing i)

namespace Alike

theorem ranked (h : Alike w w') (hr : Ranked w) : Ranked w' :=
  hr.of_eq h.entries h.index h.length fun o ↦ by rw [h.windows]

theorem find? (h : Alike w w') (key : Key) :
    Registry.find? w' (some ()) key = Registry.find? w (some ()) key := by
  simp [Registry.find?, h.entries]

theorem strikes_iff (h : Alike w w') : Strikes w' native o ↔ Strikes w native o := by
  have hyoung : IsYoungest w' o ↔ IsYoungest w o :=
    isYoungest_congr h.length fun o ↦ by rw [h.windows]
  have hconsumes : consumes w' o .destroy = consumes w o .destroy := by
    have hkept : (bundle w' (window w o).host).consumed = (bundle w (window w o).host).consumed :=
      congrArg (·.1) (h.habits _)
    rw [consumes, consumes, h.windows, hkept]
  constructor
  · rintro ⟨hnative, hy, hheeded⟩
    exact ⟨h.windows o ▸ hnative, hyoung.mp hy, hconsumes ▸ hheeded⟩
  · rintro ⟨hnative, hy, hheeded⟩
    exact ⟨(h.windows o).symm ▸ hnative, hyoung.mpr hy, hconsumes.symm ▸ hheeded⟩

end Alike

theorem Quiet.isOpen_requestDestroy (hw : Quiet w) (hr : Ranked w) (i : Nat) (native : NativeHandle)
    (hkey : Registry.find? w (some ()) key = some o) :
    isOpen (World.requestDestroy (scripted 0) i native w) key = false ↔
      (bundle w i).defers = false ∧ (host w i).isWindow native = true ∧ Strikes w native o := by
  have hcalled : Quiet (World.call i (.destroyWindow native) w) := hw.of_evolves (.call w _ _ rfl)
  have hbundle : bundle (World.call i (.destroyWindow native) w) i = bundle w i := rfl
  have halike : Alike w (World.call i (.destroyWindow native) w) :=
    ⟨rfl, rfl, fun _ ↦ rfl, rfl, fun _ ↦ rfl⟩
  unfold World.requestDestroy
  dsimp only
  rw [hbundle]
  cases hdefers : (bundle w i).defers with
  | true =>
    have hopen : isOpen w key = true := isOpen_of_find? hkey
    simp only [if_true]
    exact iff_of_false (fun h ↦ by cases hopen.symm.trans h) (by simp)
  | false =>
    simp only [Bool.false_eq_true, if_false, true_and]
    exact (hcalled.isOpen_destroyNative (halike.ranked hr) i native hkey).trans
      (and_congr_right fun _ ↦ halike.strikes_iff)

theorem Quiet.closeWindow_fst (hw : Quiet w) (hkey : Registry.find? w (some ()) key = some o) :
    (World.closeWindow (scripted 0) key w).1 = true := by
  unfold World.closeWindow
  rw [hw.withWindow_eq hkey]

/-- Closing a window has its host destroy the native window, and that strikes the youngest window
with its number. -/
theorem Quiet.isOpen_closeWindow (hw : Quiet w) (hr : Ranked w) {closed : Key} {o₀ : ObjectId}
    (hclosed : Registry.find? w (some ()) closed = some o₀)
    (hkey : Registry.find? w (some ()) key = some o) :
    isOpen (World.closeWindow (scripted 0) closed w).2 key = false ↔
      (bundle w (window w o₀).host).defers = false ∧
      (host w (window w o₀).host).isWindow (window w o₀).native = true ∧
      Strikes w (window w o₀).native o := by
  rcases hw.closeWindow closed with ⟨hnone, -⟩ | ⟨o₁, w₁, hfind, hquiet, hsolo, heq⟩
  · rw [hclosed] at hnone
    cases hnone
  · rw [hclosed] at hfind
    cases hfind
    have halike := hsolo.alike
    have hdefers : (bundle w₁ (window w o₀).host).defers = (bundle w (window w o₀).host).defers :=
      congrArg (·.2.1) (halike.habits _)
    have hseats : (host w₁ (window w o₀).host).seats = (host w (window w o₀).host).seats :=
      congrArg (·.1) (hsolo.standing _)
    rw [heq, hquiet.isOpen_requestDestroy (halike.ranked hr) _ _ ((halike.find? key).trans hkey),
      halike.strikes_iff, hdefers, Host.isWindow_iff, Host.isWindow_iff, hseats]

theorem openWindow_failed {h : Nat} {config : ContextConfig} {title : String}
    {x y width height : Int32} {cause : WindowError}
    (hfailed : (openWindow (scripted 0) h config title x y width height w).1 = .failed cause) :
    (openWindow (scripted 0) h config title x y width height w).2 =
      abandon (requestDestroy (scripted 0) h (host w h).freshHandle (dropContext h
        (note (.backendFailed title ⟨(host w h).freshHandle, (host w h).platform⟩)
          (requested h config.style title (.ofPosSize x y width height) w)))) := by
  have hcauses : (host (prepare h config.style w) h).refusesWindows = false ∧
      (bundle (requested h config.style title (.ofPosSize x y width height) w) h).failsCreation = true := by
    unfold openWindow at hfailed
    dsimp only at hfailed
    split at hfailed
    · cases hfailed
    · next hrefuses =>
      split at hfailed
      · next hfails => exact ⟨Bool.eq_false_iff.mpr hrefuses, hfails⟩
      · cases hfailed
  rw [openWindow_eq, ← freshHandle_prepare w h config.style]
  dsimp only
  rw [if_neg (Bool.eq_false_iff.mp hcauses.1)]
  exact if_pos hcauses.2

theorem Quiet.isOpen_failed (hw : Quiet w) (hr : Ranked w) {h : Nat} (hh : h < w.env.bundles.length)
    {config : ContextConfig} {title : String} {x y width height : Int32} {cause : WindowError}
    (hfailed : (World.openWindow (scripted 0) h config title x y width height w).1 = .failed cause)
    (hkey : Registry.find? w (some ()) key = some o) :
    isOpen (World.openWindow (scripted 0) h config title x y width height w).2 key = false ↔
      (bundle w h).defers = false ∧ Strikes w (host w h).freshHandle o := by
  have hgains := Gains.requested hh config.style title (.ofPosSize x y width height)
  have hlawful := Lawful.requested w h config.style title (.ofPosSize x y width height)
  rw [openWindow_failed hfailed]
  generalize requested h config.style title (.ofPosSize x y width height) w = made at hgains hlawful ⊢
  -- the GUI of the window goes before the native window does
  have hgone : Gains h ((host w h).freshHandle, none) w (dropContext h
      (note (.backendFailed title ⟨(host w h).freshHandle, (host w h).platform⟩) made)) :=
    hgains.trans_steady (.trans (.note _ _) (.trans (.call _ _ _) (.releaseAtlas _)))
  have hnoted : Moves (fun _ ↦ True) none made (World.call h .dropContext
      (note (.backendFailed title ⟨(host w h).freshHandle, (host w h).platform⟩) made)) :=
    .trans (.note _ _) (.call _ _ _)
  have hquiet := hw.of_lawful (hlawful.trans (hnoted.lawful.trans .releaseAtlas))
  generalize hrest : dropContext h (note (.backendFailed title ⟨(host w h).freshHandle,
    (host w h).platform⟩) made) = w₁ at hgone ⊢
  have hquiet₁ : Quiet w₁ := hrest ▸ hquiet
  have halike := hgone.alike
  have hsame : SameWindows (requestDestroy (scripted 0) h (host w h).freshHandle w₁)
      (abandon (requestDestroy (scripted 0) h (host w h).freshHandle w₁)) :=
    (sameWindows_releaseAtlas _).trans (sameWindows_releaseWatchdog _)
  have hmade : (host w₁ h).isWindow (host w h).freshHandle = true :=
    Host.isWindow_iff.mpr ⟨_, (hgone.seats h _).mpr (.inr ⟨rfl, rfl⟩), rfl⟩
  have hdefers : (bundle w₁ h).defers = (bundle w h).defers := congrArg (·.2.1) (halike.habits h)
  rw [isOpen, Registry.contains, hsame.find?, ← Registry.contains, ← isOpen,
    hquiet₁.isOpen_requestDestroy (halike.ranked hr) h _ ((halike.find? key).trans hkey),
    halike.strikes_iff, hdefers, hmade]
  simp

/-- After every script on any number of hosts, however its calls are nested: the destruction of a
native window, be it asked for by the host, by closing a window or by an opening that fails,
unregisters exactly the window that was the last on any host to be registered with that number,
unless its renderer keeps the message. Closing answers that it was done in any case. -/
theorem destruction_strikes_youngest (hosts : List HostSetup) (n : Nat) (steps : List Step) :
    let w := (Session.runFrom n none (World.empty hosts) steps).2
    (∀ h native key o, Registry.find? w (some ()) key = some o →
      (isOpen (destroyNative (scripted 0) h native w) key = false ↔
        (host w h).isWindow native = true ∧ Strikes w native o)) ∧
    (∀ closed o₀, Registry.find? w (some ()) closed = some o₀ →
      (closeWindow (scripted 0) closed w).1 = true ∧
      ∀ key o, Registry.find? w (some ()) key = some o →
        (isOpen (closeWindow (scripted 0) closed w).2 key = false ↔
          (bundle w (window w o₀).host).defers = false ∧
          (host w (window w o₀).host).isWindow (window w o₀).native = true ∧
          Strikes w (window w o₀).native o)) ∧
    ∀ h config title x y width height cause, h < hosts.length →
      (openWindow (scripted 0) h config title x y width height w).1 = .failed cause →
      ∀ key o, Registry.find? w (some ()) key = some o →
        (isOpen (openWindow (scripted 0) h config title x y width height w).2 key = false ↔
          (bundle w h).defers = false ∧ Strikes w (host w h).freshHandle o) := by
  intro w
  have huses : Step.UsesAll (fun _ ↦ True) steps := Step.usesAll_of_forall (fun _ ↦ trivial) steps
  have hevolves := Evolves.run n (World.empty hosts) huses
  have hw : Quiet w := (quiet_empty hosts).of_evolves hevolves
  have hr : Ranked w := hevolves.moves.ranked (coherent_empty hosts) (by simp) (ranked_empty hosts)
  have hlength : w.env.bundles.length = hosts.length := by
    obtain ⟨-, hf⟩ := hevolves.lawful (coherent_empty hosts) (by simp)
    exact hf.hosts.trans (by simp [World.empty])
  refine ⟨fun h native key o hkey ↦ hw.isOpen_destroyNative hr h native hkey,
    fun closed o₀ hclosed ↦ ⟨hw.closeWindow_fst hclosed, fun key o hkey ↦ ?_⟩, ?_⟩
  · exact hw.isOpen_closeWindow hr hclosed hkey
  · intro h config title x y width height cause hh hfailed key o hkey
    exact hw.isOpen_failed hr (hlength.symm ▸ hh) hfailed hkey

/-- Two windows with the same number on two hosts, and an opening that fails on the first host after
one on the second. -/
theorem destruction_strikes_youngest_abroad :
    let twins := (Session.runFrom 0 none (World.empty [{}, {}])
      [.openWindow 0 {} "a" 0 0 10 10, .openWindow 1 {} "b" 0 0 10 10]).2
    let alone := (Session.runFrom 0 none (World.empty [{}, {}])
      [.openWindow 1 {} "b" 0 0 10 10, .host 0 (.failCreation true)]).2
    (closeWindow (scripted 0) ⟨1, 1⟩ twins).1 = true ∧
      isOpen (closeWindow (scripted 0) ⟨1, 1⟩ twins).2 ⟨1, 1⟩ = true ∧
      isOpen (closeWindow (scripted 0) ⟨1, 1⟩ twins).2 ⟨2, 1⟩ = false ∧
      isOpen (destroyNative (scripted 0) 1 ⟨1⟩ twins) ⟨2, 1⟩ = false ∧
      isOpen (openWindow (scripted 0) 0 {} "c" 0 0 10 10 alone).2 ⟨1, 1⟩ = false := by
  intro twins alone
  have hold : Registry.find? twins (some ()) ⟨1, 1⟩ = some 0 := by decide +kernel
  have hyoung : Registry.find? twins (some ()) ⟨2, 1⟩ = some 1 := by decide +kernel
  have hnative : (window twins 0).native = ⟨1⟩ := by decide +kernel
  have hlength : twins.cells.length = 2 := by decide +kernel
  have hstrikes : Strikes twins ⟨1⟩ 1 :=
    ⟨by decide +kernel, fun o' ho' _ ↦ Nat.lt_succ_iff.mp (ho'.trans_eq hlength), by decide +kernel⟩
  obtain ⟨hdestroy, hclose, -⟩ := destruction_strikes_youngest [{}, {}] 0
    [.openWindow 0 {} "a" 0 0 10 10, .openWindow 1 {} "b" 0 0 10 10]
  obtain ⟨hanswer, hclosed⟩ := hclose ⟨1, 1⟩ 0 hold
  obtain ⟨-, -, hopen⟩ := destruction_strikes_youngest [{}, {}] 0
    [.openWindow 1 {} "b" 0 0 10 10, .host 0 (.failCreation true)]
  have hcells : alone.cells.length = 1 := by decide +kernel
  have hfailed : Strikes alone (host alone 0).freshHandle 0 :=
    ⟨by decide +kernel, fun o' ho' _ ↦ Nat.lt_succ_iff.mp (ho'.trans_eq hcells), by decide +kernel⟩
  refine ⟨hanswer, ?_, ?_, ?_, ?_⟩
  · -- the older window has a younger namesake
    rw [← Bool.not_eq_false]
    intro hgone
    obtain ⟨-, -, hstruck⟩ := (hclosed ⟨1, 1⟩ 0 hold).mp hgone
    have hle : 1 ≤ 0 := hstruck.youngest 1 (hlength ▸ Nat.one_lt_two) (by decide +kernel)
    omega
  · exact (hclosed ⟨2, 1⟩ 1 hyoung).mpr ⟨by decide +kernel, by decide +kernel, hnative ▸ hstrikes⟩
  · exact (hdestroy 1 ⟨1⟩ ⟨2, 1⟩ 1 hyoung).mpr ⟨by decide +kernel, hstrikes⟩
  · exact (hopen 0 {} "c" 0 0 10 10 (.backend ⟨⟨1⟩, .fallback⟩) (by decide) (by decide +kernel) ⟨1, 1⟩ 0
      (by decide +kernel)).mpr ⟨by decide +kernel, hfailed⟩

/-- Two windows with the same number on two hosts: closing the older one, which answers that it was
done, unregisters the younger. -/
theorem close_strikes_other_host :
    let w := (Session.runFrom 0 none (World.empty [{}, {}])
      [.openWindow 0 {} "a" 0 0 10 10, .openWindow 1 {} "b" 0 0 10 10]).2
    let closed := closeWindow (scripted 0) ⟨1, 1⟩ w
    (window w 0).host = 0 ∧ (window w 1).host = 1 ∧ closed.1 = true ∧
      isOpen closed.2 ⟨1, 1⟩ = true ∧ isOpen closed.2 ⟨2, 1⟩ = false := by
  decide +kernel

end Casement.World
