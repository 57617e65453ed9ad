import Casement.Proofs.Demo.Input
import Casement.Proofs.World.Openings

namespace Casement

namespace World

variable {w w' w'' : World} {key : Key} {o : ObjectId}

structure Hospitable (w : World) : Prop extends PromptDesk w where
  accepts : (host w 0).refusesWindows = false
  backs : (bundle w 0).failsCreation = false

structure Adds (key : Key) (view : View) (w w' : World) : Prop where
  evolves : ∀ ok, Evolves ok none w w'
  hospitable : Hospitable w'
  vacant : Registry.find? w (some ()) key = none
  found : ∀ k, Registry.find? w' (some ()) k = if k = key then some w.cells.length else Registry.find? w (some ()) k
  old : ∀ {k o}, Registry.find? w (some ()) k = some o → window w' o = window w o
  native : (window w' w.cells.length).native = view.handle
  pose : (window w' w.cells.length).pose = (false, true, false, false)
  fresh : view.handle = (host w 0).freshHandle
  views : (host w' 0).views = (host w 0).views ++ [view]
  presented : presented w' 0 = presented w 0
  kept : w'.env.keptWatchdogs = w.env.keptWatchdogs

theorem isOpen_iff : isOpen w key = true ↔ ∃ o, Registry.find? w (some ()) key = some o :=
  Option.isSome_iff_exists

theorem Adds.isOpen_iff {view : View} (h : Adds key view w w') (k : Key) :
    isOpen w' k = true ↔ k = key ∨ isOpen w k = true := by
  rw [World.isOpen_iff, World.isOpen_iff, h.found]
  split
  · next heq => simp [heq]
  · next hne => simp [hne]

theorem Adds.find?_old {view : View} (h : Adds key view w w') {k : Key}
    (hk : Registry.find? w (some ()) k = some o) : Registry.find? w' (some ()) k = some o := by
  rw [h.found, if_neg, hk]
  rintro rfl
  rw [h.vacant] at hk
  cases hk

section Opening

variable (config : ContextConfig) (title : String) (x y width height : Int32)

def backed (w : World) : World :=
  note (.backendBound (host w 0).freshHandle) (modifyStats 0 (fun s => { s with created := s.created + 1 })
    (requested 0 config.style title (.ofPosSize x y width height) w))

theorem Hospitable.openWindow_eq (hw : Hospitable w) :
    let native := (host w 0).freshHandle
    let w₁ := backed config title x y width height w
    let win := newWindow 0 native config (host w 0).platform
      (host (prepare 0 config.style w) 0).background w₁.env.atlas.generation
    openWindow (scripted 0) 0 config title x y width height w = (.opened native w₁.entries.nextKey,
      note (.opened native title x y width height) (call 0 (.registerAccelerator native) (install win w₁))) := by
  have hh : 0 < w.env.bundles.length := hw.prompt.one.symm ▸ Nat.one_pos
  have hprepared : (host (prepare 0 config.style w) 0).refusesWindows = false :=
    (reading_prepare hh config.style (·.host.refusesWindows) (fun _ ↦ rfl) fun _ _ ↦ rfl).trans hw.accepts
  have hmade : (bundle (requested 0 config.style title (.ofPosSize x y width height) w) 0).failsCreation =
      false := by
    rw [bundle_requested hh]
    exact (reading_prepare hh config.style (·.failsCreation) (fun _ ↦ rfl) fun _ _ ↦ rfl).trans hw.backs
  dsimp only [backed]
  rw [← freshHandle_prepare w 0 config.style]
  unfold openWindow
  dsimp only
  rw [if_neg (by exact Bool.eq_false_iff.mp hprepared), if_neg (by exact Bool.eq_false_iff.mp hmade)]
  rfl

theorem Gains.backed (hw : Hospitable w) : Gains 0 ((host w 0).freshHandle, none) w
    (backed config title x y width height w) :=
  (Gains.requested (hw.prompt.one.symm ▸ Nat.one_pos) _ _ _).trans_steady
    (.trans (.modifyStats _ _ _) (.note _ _))

theorem Lawful.backed (w : World) :
    Lawful (fun _ ↦ True) none w (backed config title x y width height w) :=
  (Lawful.requested w 0 _ _ _).trans (Moves.lawful (.trans (.modifyStats _ _ _) (.note _ _)))

theorem kept_backed (w : World) :
    (backed config title x y width height w).env.keptWatchdogs = w.env.keptWatchdogs := by
  have hatlas (w : World) : (acquireAtlas w).env.keptWatchdogs = w.env.keptWatchdogs := by
    unfold acquireAtlas
    split <;> rfl
  have hequip : (equip 0 w).env.keptWatchdogs = w.env.keptWatchdogs := by
    rw [equip, hatlas, hatlas, kept_acquireWatchdog]
  exact hequip

theorem reading_opened {β : Type} (hw : Hospitable w) (read : Bundle → β)
    (htimer : ∀ b : Bundle, read { b with host := b.host.addTimer } = read b)
    (hgui : ∀ (b : Bundle) (gui : GuiState), read { b with gui } = read b)
    (hcreated : ∀ (b : Bundle) (n : Nat), read { b with stats := { b.stats with created := n } } = read b)
    (haccel : ∀ (b : Bundle) (accelerators : List NativeHandle),
      read { b with host := { b.host with accelerators } } = read b) :
    read (bundle (openWindow (scripted 0) 0 config title x y width height w).2 0) =
      read { bundle w 0 with host := (host w 0).addWindow title (.ofPosSize x y width height) } := by
  have hh : 0 < w.env.bundles.length := hw.prompt.one.symm ▸ Nat.one_pos
  have hprepared := reading_prepare hh config.style
    (fun b ↦ read { b with host := b.host.addWindow title (.ofPosSize x y width height) })
    (fun b ↦ htimer { b with host := b.host.addWindow title (.ofPosSize x y width height) })
    (fun b gui ↦ hgui { b with host := b.host.addWindow title (.ofPosSize x y width height) } gui)
  have hbacked : read (bundle (backed config title x y width height w) 0) =
      read (bundle (requested 0 config.style title (.ofPosSize x y width height) w) 0) := by
    unfold backed
    rw [bundle_note]
    exact reading_modifyBundle _ 0 0 read _ fun b ↦ hcreated b _
  rw [bundle_requested hh] at hbacked
  rw [hw.openWindow_eq config title x y width height]
  generalize newWindow 0 _ config _ _ _ = win
  dsimp only
  rw [bundle_note, bundle_call, reading_install win _ 0 read haccel, hbacked]
  exact hprepared

theorem Hospitable.adds (hw : Hospitable w) :
    let out := openWindow (scripted 0) 0 config title x y width height w
    let native := (host w 0).freshHandle
    out.1 = .opened native w.entries.nextKey ∧
      Adds w.entries.nextKey { handle := native, title, rect := .ofPosSize x y width height } w out.2 := by
  intro out native
  have hh : 0 < w.env.bundles.length := hw.prompt.one.symm ▸ Nat.one_pos
  have hevolves (ok : WindowStep → Prop) : Evolves ok none w out.2 :=
    .openWindow (evolves_quiet ok) w 0 hh config title x y width height fun native w ↦
      .requestDestroy (evolves_quiet ok) w 0 native
  have hread {β : Type} (read : Bundle → β) := reading_opened config title x y width height hw read
  obtain ⟨win, w₁, hout, hgains, hlawful, hkept, hnative, hpose⟩ : ∃ win w₁, out = (.opened native w₁.entries.nextKey,
      note (.opened native title x y width height) (call 0 (.registerAccelerator native) (install win w₁))) ∧
      Gains 0 (native, none) w w₁ ∧ Lawful (fun _ ↦ True) none w w₁ ∧
      w₁.env.keptWatchdogs = w.env.keptWatchdogs ∧ win.native = native ∧
      win.pose = (false, true, false, false) :=
    ⟨_, _, hw.openWindow_eq config title x y width height, .backed _ _ _ _ _ _ hw, .backed _ _ _ _ _ _ w,
      kept_backed _ _ _ _ _ _ w, rfl, rfl⟩
  have hcoherent := (hw.quiet.of_lawful hlawful).coherent
  have hnext : w₁.entries.nextKey = w.entries.nextKey := by rw [hgains.same.entries]
  have hcells : w₁.cells.length = w.cells.length := by rw [hgains.same.cells]
  have hsame : SameWindows (install win w₁) out.2 := by
    rw [hout]
    exact ⟨rfl, rfl, rfl⟩
  refine ⟨by rw [hout, hnext], ?_⟩
  refine
    { evolves := hevolves
      hospitable := ⟨hw.toPromptDesk.of_evolves (hevolves _)
        (hw.toPromptDesk.openWindow hh config title x y width height), ?_, ?_⟩
      vacant := ?_
      found := fun k ↦ ?_
      old := fun {k o} hk ↦ ?_
      native := ?_
      pose := ?_
      fresh := rfl
      views := ?_
      presented := ?_
      kept := by rw [hout]; exact hkept }
  · exact (hread (·.host.refusesWindows) (fun _ ↦ rfl) (fun _ _ ↦ rfl) (fun _ _ ↦ rfl) fun _ _ ↦ rfl).trans hw.accepts
  · exact (hread (·.failsCreation) (fun _ ↦ rfl) (fun _ _ ↦ rfl) (fun _ _ ↦ rfl) fun _ _ ↦ rfl).trans hw.backs
  · rw [Registry.find?_unit, SlotMap.get?_nextKey hw.quiet.coherent.sound.table]
    rfl
  · rw [hsame.find?, find?_install hcoherent, hnext, hcells, hgains.same.find?]
  · have hlt := (Registry.isRegistered_of_find? hk).lt hw.quiet.coherent.sound
    rw [hsame.window, window_install, hcells, if_neg hlt.ne, hgains.same.window]
  · rw [hsame.window, window_install, if_pos hcells.symm, hnative]
  · rw [hsame.window, window_install, if_pos hcells.symm, hpose]
  · exact hread (·.host.views) (fun _ ↦ rfl) (fun _ _ ↦ rfl) (fun _ _ ↦ rfl) fun _ _ ↦ rfl
  · exact hread (·.stats.presented) (fun _ ↦ rfl) (fun _ _ ↦ rfl) (fun _ _ ↦ rfl) fun _ _ ↦ rfl

end Opening

end World

namespace Demo

open World

variable {w w' w'' : World}

/-- Windows were opened, one for each of those shown, and all else is as it was. -/
structure Opened (shown : List Shown) (w w' : World) : Prop where
  evolves : ∀ ok, Evolves ok none w w'
  hospitable : Hospitable w'
  nodup : (shown.map (·.key)).Nodup
  vacant : ∀ s ∈ shown, Registry.find? w (some ()) s.key = none
  found : ∀ key, isOpen w' key = true ↔ isOpen w key = true ∨ ∃ s ∈ shown, s.key = key
  old : ∀ {key o}, Registry.find? w (some ()) key = some o →
    Registry.find? w' (some ()) key = some o ∧ window w' o = window w o
  pose : ∀ {s o}, s ∈ shown → Registry.find? w' (some ()) s.key = some o →
    (window w' o).pose = (false, true, false, false)
  roomy : ∀ {key}, isOpen w key = true → Roomy key w → Roomy key w'
  presented : presented w' 0 = presented w 0
  kept : w'.env.keptWatchdogs = w.env.keptWatchdogs

theorem Opened.nil (hw : Hospitable w) : Opened [] w w where
  evolves _ := .refl none w
  hospitable := hw
  nodup := List.nodup_nil
  vacant _ hs := by cases hs
  found key := by simp
  old hkey := ⟨hkey, rfl⟩
  pose hs := by cases hs
  roomy _ hroomy := hroomy
  presented := rfl
  kept := rfl

theorem Roomy.adds {key new : Key} {view : View} (hroomy : Roomy key w) (hw : PromptDesk w)
    (hopen : isOpen w key = true)
    (h : Adds new view w w') : Roomy key w' := by
  intro o hkey v hv hhandle
  obtain ⟨o₀, hkey₀⟩ := isOpen_iff.mp hopen
  rw [h.find?_old hkey₀] at hkey
  cases hkey
  rw [h.old hkey₀] at hhandle
  rw [h.views, List.mem_append, List.mem_singleton] at hv
  rcases hv with hv | rfl
  · exact hroomy _ hkey₀ v hv hhandle
  · -- the window was opened before, so its handle is an earlier one
    have hlt := (Registry.isRegistered_of_find? hkey₀).lt hw.quiet.coherent.sound
    have hused := hw.quiet.coherent.native_lt hlt
    rw [hw.host_eq_zero hkey₀, ← hhandle, h.fresh] at hused
    exact absurd hused (Nat.lt_irrefl _)

theorem Opened.cons {s : Shown} {view : View} {shown : List Shown} (hw : PromptDesk w)
    (h : Adds s.key view w w')
    (h' : Opened shown w' w'') : Opened (s :: shown) w w'' where
  evolves ok := (h.evolves ok).trans (h'.evolves ok)
  hospitable := h'.hospitable
  nodup := by
    rw [List.map_cons, List.nodup_cons]
    refine ⟨fun hmem ↦ ?_, h'.nodup⟩
    obtain ⟨s', hs', heq⟩ := List.mem_map.mp hmem
    have hvacant := h'.vacant s' hs'
    rw [heq, h.found, if_pos rfl] at hvacant
    cases hvacant
  vacant s' hs' := by
    rcases List.mem_cons.mp hs' with rfl | hs'
    · exact h.vacant
    · have hvacant := h'.vacant s' hs'
      rw [h.found] at hvacant
      split at hvacant
      · cases hvacant
      · exact hvacant
  found key := by
    rw [h'.found, h.isOpen_iff, List.exists_mem_cons_iff, eq_comm, or_assoc, or_left_comm]
  old hkey := by
    obtain ⟨hkey', hwindow⟩ := h'.old (h.find?_old hkey)
    exact ⟨hkey', hwindow.trans (h.old hkey)⟩
  pose {s' o} hs' hkey := by
    rcases List.mem_cons.mp hs' with rfl | hs'
    · obtain ⟨hkey', hwindow⟩ := h'.old ((h.found _).trans (if_pos rfl))
      rw [hkey'] at hkey
      cases hkey
      rw [hwindow, h.pose]
    · exact h'.pose hs' hkey
  roomy hopen hroomy := h'.roomy ((h.isOpen_iff _).mpr (.inr hopen)) (hroomy.adds hw hopen h)
  presented := h'.presented.trans h.presented
  kept := h'.kept.trans h.kept

/-- The place of a window leaves the pointer room inside. -/
def leavesRoom (c : WindowConfig) : Prop :=
  c.x.toInt + 20 ≤ Int32.maxValue.toInt ∧ c.y.toInt + 20 ≤ Int32.maxValue.toInt

theorem roomy_first (hviews : (host w 0).views = []) {key : Key} {view : View} (h : Adds key view w w')
    (hinside : ∃ p, inside view.rect = .ok p) : Roomy key w' := by
  intro o hkey v hv hhandle
  rw [h.views, hviews, List.nil_append, List.mem_singleton] at hv
  rwa [hv]

theorem openAll_cons (hw : Hospitable w) (context : ContextConfig) (c : WindowConfig) (rest : List WindowConfig) :
    let w₁ := (openWindow (scripted 0) 0 context c.title c.x c.y c.width c.height w).2
    openAll context (c :: rest) w =
      ((openAll context rest w₁).1.map (⟨w.entries.nextKey, c.title, c.frames⟩ :: ·), (openAll context rest w₁).2) := by
  obtain ⟨hreply, -⟩ := hw.adds context c.title c.x c.y c.width c.height
  rw [openAll, show quiet = scripted 0 from rfl]
  generalize openWindow (scripted 0) 0 context c.title c.x c.y c.width c.height w = out at hreply ⊢
  obtain ⟨reply, w₁⟩ := out
  dsimp only at hreply ⊢
  subst hreply
  dsimp only
  generalize openAll context rest w₁ = opened
  obtain ⟨shown | e, w₂⟩ := opened <;> rfl

/-- The demo opens all its windows, and puts the pointer inside the first if there is room. -/
theorem openAll_opened (hw : Hospitable w) (context : ContextConfig) (windows : List WindowConfig) :
    ∃ shown w', openAll context windows w = (.ok shown, w') ∧ Opened shown w w' ∧
      shown.map (fun s => (s.title, s.frames)) = windows.map (fun c => (c.title, c.frames)) ∧
      ((host w 0).views = [] → (∀ c ∈ windows.head?, leavesRoom c) → ∀ first ∈ shown.head?, Roomy first.key w') := by
  induction windows generalizing w with
  | nil => exact ⟨[], w, rfl, .nil hw, rfl, fun _ _ first hfirst ↦ by cases hfirst⟩
  | cons c rest ih =>
    obtain ⟨-, hadds⟩ := hw.adds context c.title c.x c.y c.width c.height
    obtain ⟨shown, w', hrest, hopened, hshown, -⟩ := ih hadds.hospitable
    refine ⟨⟨w.entries.nextKey, c.title, c.frames⟩ :: shown, w',
      ?_, .cons hw.toPromptDesk hadds hopened, ?_, ?_⟩
    · rw [openAll_cons hw, hrest]
      rfl
    · rw [List.map_cons, List.map_cons, hshown]
    · intro hviews hroom first hfirst
      cases hfirst
      refine hopened.roomy ((hadds.isOpen_iff _).mpr (.inl rfl)) (roomy_first hviews hadds ?_)
      obtain ⟨hx, hy⟩ := hroom c rfl
      exact ⟨_, (if_pos hx).trans (if_pos hy)⟩

theorem hospitable_start (platform : Platform) : Hospitable (start platform) where
  toPromptDesk := promptDesk_empty { platform }
  accepts := rfl
  backs := rfl

end Demo

end Casement
