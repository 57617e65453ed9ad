import Casement.Proofs.World.Lots
import Casement.Proofs.World.Sharing

namespace Casement

theorem Lot.isSome_dismissed {l : Lot} (hdefers : l.defers = false)
    (hconsumed : l.consumed.contains .destroy = false) : l.dismissed.isSome = !l.seated := by
  rw [dismissed, if_neg (Bool.eq_false_iff.mp hdefers), unseated, if_neg (Bool.eq_false_iff.mp hconsumed)]
  cases l.seated <;> rfl

namespace World

variable {ok : WindowStep → Prop} {k : Reentry} {w w' : World} {h : Nat} {native : NativeHandle}
  {key : Key} {o : ObjectId}

def isSeated (w : World) (o : ObjectId) : Bool := (host w (window w o).host).isWindow (window w o).native

def bound (h : Nat) (native : NativeHandle) (w : World) : World :=
  note (.backendBound native) (modifyStats h (fun s => { s with created := s.created + 1 }) w)

theorem Steady.bound (w : World) (h : Nat) (native : NativeHandle) : Steady w (bound h native w) :=
  .trans (.modifyStats _ _ _) (.note _ _)

theorem Moves.bound (w : World) (h : Nat) (native : NativeHandle) :
    Moves (fun _ ↦ True) none w (bound h native w) := .trans (.modifyStats _ _ _) (.note _ _)

theorem isWindow_requested (hh : h < w.env.bundles.length) (style : GuiStyle) (title : String)
    (rect : Rect) :
    (host (requested h style title rect w) h).isWindow (host w h).freshHandle = true :=
  Host.isWindow_iff.mpr ⟨_, ((Gains.requested hh style title rect).seats h _).mpr (.inr ⟨rfl, rfl⟩), rfl⟩

section Opened

variable (config : ContextConfig) (title : String) (x y width height : Int32)
  (hopen : openWindow k h config title x y width height w = (.opened native key, w'))

include hopen

theorem opened_install :
    let left := k h .createBackend (requested h config.style title (.ofPosSize x y width height) w)
    native = (host w h).freshHandle ∧ key = (bound h native left).entries.nextKey ∧
      ∃ background atlas, Steady (install (newWindow h native config (host w h).platform background atlas)
        (bound h native left)) w' := by
  unfold openWindow at hopen
  dsimp only at hopen
  split at hopen
  · cases hopen
  · split at hopen
    · cases hopen
    · obtain ⟨hanswer, rfl⟩ := Prod.mk.inj hopen
      obtain ⟨rfl, rfl⟩ := Opening.opened.inj hanswer
      exact ⟨freshHandle_prepare w h config.style, rfl, _, _, .trans (.call _ _ _) (.note _ _)⟩

theorem isWindow_opened :
    let left := k h .createBackend (requested h config.style title (.ofPosSize x y width height) w)
    (host w' h).isWindow native = (host left h).isWindow native := by
  intro left
  obtain ⟨-, -, background, atlas, hsteady⟩ := opened_install config title x y width height hopen
  have hinstall := standing_install (newWindow h native config (host w h).platform background atlas)
    (bound h native left) h
  refine Host.isWindow_congr ?_ native
  calc
    (host w' h).seats = _ := hsteady.seats h
    _ = (host (bound h native left) h).seats := congrArg (·.1) hinstall
    _ = (host left h).seats := (Steady.bound left h native).seats h

theorem native?_opened (hleft : Coherent (fun _ ↦ True)
      (k h .createBackend (requested h config.style title (.ofPosSize x y width height) w))) :
    native? w' key = some native := by
  obtain ⟨-, rfl, background, atlas, hsteady⟩ := opened_install config title x y width height hopen
  have hbound := ((Moves.bound _ h native).lawful hleft (by simp)).1
  rw [hsteady.native?_eq, native?, find?_install hbound, if_pos rfl, Option.map_some, window_install,
    if_pos rfl]
  rfl

end Opened

theorem isOpen_eq (w : World) (key : Key) : isOpen w key = (lot? w key).isSome := by
  rw [isOpen, Registry.contains, lot?, Option.isSome_map]

theorem DeskInStep.isSeated_eq (hw : DeskInStep w)
    (hkey : Registry.find? w (some ()) key = some o) :
    isSeated w o = (lotOf w o).seated := by
  rw [isSeated, hw.sited.host_eq_zero hw.quiet hkey]
  rfl

theorem DeskInStep.isOpen_close (hw : DeskInStep w) (hkey : Registry.find? w (some ()) key = some o)
    (hdefers : (bundle w 0).defers = false) (hconsumed : (bundle w 0).consumed.contains .destroy = false)
    (other : Key) :
    isOpen (closeWindow (scripted 0) key w).2 other = true ↔
      isOpen w other = true ∧ ¬(other = key ∧ isSeated w o = true) := by
  rw [isOpen_eq, isOpen_eq, hw.quiet.lot?_closeWindow hw.sited]
  by_cases heq : key = other
  · subst heq
    have hgone : (lotOf w o).dismissed.isSome = !(lotOf w o).seated := Lot.isSome_dismissed hdefers hconsumed
    rw [if_pos rfl, lot?_of_find? hkey, Option.bind_some, hgone, hw.isSeated_eq hkey]
    simp
  · simp [heq, Ne.symm heq]

theorem DeskInStep.isOpen_heartbeat (hw : DeskInStep w) (hdefers : (bundle w 0).defers = false)
    (hconsumed : (bundle w 0).consumed.contains .destroy = false)
    (hkey : Registry.find? w (some ()) key = some o) :
    isOpen (heartbeat (scripted 0) w) key = true ↔
      ¬((window w o).retires = true ∧ isSeated w o = true) := by
  have hgone : ({ lotOf w o with window := (window w o).beaten } : Lot).dismissed.isSome =
      !(lotOf w o).seated := Lot.isSome_dismissed hdefers hconsumed
  have hbeaten : (lotOf w o).beaten = if (window w o).retires then
      ({ lotOf w o with window := (window w o).beaten } : Lot).dismissed
      else some { lotOf w o with window := (window w o).beaten } := rfl
  rw [isOpen_eq, hw.lot?_heartbeat, lot?_of_find? hkey, Option.bind_some, hbeaten, hw.isSeated_eq hkey]
  cases (window w o).retires with
  | true => simpa using hgone
  | false => simp

theorem AtRest.running_iff (h : AtRest w) (hw : Coherent ok w) (hwatched : Watched 0 w) :
    w.env.watchdog.isAlive = true ↔ (∃ key, isOpen w key = true) ∨ 0 < w.env.keptWatchdogs := by
  have hopen : (∃ key, isOpen w key = true) ↔ 0 < (listening w).length := by
    rw [List.length_pos_iff_exists_mem]
    simp only [h.mem_listening_iff hw, isOpen, Registry.contains, Option.isSome_iff_exists]
    exact exists_comm
  rw [hopen, hwatched.isAlive_iff]
  omega

/-- After every script: a window that is opened has its native window if and only if its renderer has
left it, whatever that renderer did when it was asked for, and the native window was there then. On
one host that neither defers destruction nor has renderers that keep it to themselves, and with
collaborators that do not call back, closing a window ends that window if and only if it has its
native window, and so does a heartbeat to a window that is due to be retired; after that the watchdog
runs only for windows that are open and for those who keep it. -/
theorem windows_end_while_seated (hosts : List HostSetup) (n : Nat) (steps : List Step) :
    let w := (Session.runFrom n none (World.empty hosts) steps).2
    (∀ (k : Reentry) (h : Nat) (config : ContextConfig) (title : String) (x y width height : Int32)
        (native : NativeHandle) (key : Key) (w' : World), h < hosts.length →
      openWindow k h config title x y width height w = (.opened native key, w') →
      let called := requested h config.style title (.ofPosSize x y width height) w
      let left := k h .createBackend called
      (host called h).isWindow native = true ∧
      (host w' h).isWindow native = (host left h).isWindow native ∧
      (Evolves (fun _ ↦ True) none called left → native? w' key = some native)) ∧
    (hosts.length = 1 → (bundle w 0).defers = false → (bundle w 0).consumed.contains .destroy = false →
      ∀ key o, Registry.find? w (some ()) key = some o →
        let closed := (closeWindow (scripted 0) key w).2
        let beaten := heartbeat (scripted 0) w
        (∀ other, isOpen closed other = true ↔
          isOpen w other = true ∧ ¬(other = key ∧ isSeated w o = true)) ∧
        (isOpen beaten key = true ↔ ¬((window w o).retires = true ∧ isSeated w o = true)) ∧
        ∀ w' ∈ [closed, beaten], w'.env.watchdog.isAlive = true ↔
          (∃ other, isOpen w' other = true) ∨ 0 < w'.env.keptWatchdogs) := by
  intro w
  have hevolves : Evolves (fun _ ↦ True) none (World.empty hosts) w :=
    .run n _ (Step.usesAll_of_forall (fun _ ↦ trivial) steps)
  have hempty : Coherent (fun _ ↦ True) (World.empty hosts) := coherent_empty hosts
  obtain ⟨hw, hfollows⟩ := hevolves.lawful hempty (by simp)
  have hhosts : w.env.bundles.length = hosts.length := by
    rw [hfollows.hosts]
    simp [World.empty]
  refine ⟨?_, ?_⟩
  · intro k h config title x y width height native key w' hh hopen called left
    obtain ⟨hnative, -⟩ := opened_install config title x y width height hopen
    refine ⟨?_, isWindow_opened config title x y width height hopen, fun hleft ↦ ?_⟩
    · rw [hnative]
      exact isWindow_requested (hhosts.symm ▸ hh) config.style title _
    · have hcalled := (Lawful.requested w h config.style title (.ofPosSize x y width height) hw (by simp)).1
      exact native?_opened config title x y width height hopen (hleft.lawful hcalled (by simp)).1
  · -- handles of two hosts may be the same, and then the index holds one of their windows only
    intro hone hdefers hconsumed key o hkey closed beaten
    obtain ⟨setup, rfl⟩ := List.length_eq_one_iff.mp hone
    have hdesk : DeskInStep w := deskInStep_run setup n steps
    have hrest := (atRest_empty [setup]).of_follows hfollows
    refine ⟨hdesk.isOpen_close hkey hdefers hconsumed,
      hdesk.isOpen_heartbeat hdefers hconsumed hkey, ?_⟩
    intro w' hw'
    have hcalls : Evolves (fun _ ↦ True) none w w' := by
      rcases List.mem_pair.mp hw' with rfl | rfl
      · exact (Evolves.calls evolves_alone).closeWindow w key
      · exact (Evolves.calls evolves_alone).heartbeat w
    have hafter : DeskInStep w' := hdesk.of_evolves hcalls
    exact (hrest.of_follows (hcalls.lawful hw (by simp)).2).running_iff hafter.quiet.coherent hafter.watched

/-- The renderer of a first window has its native window destroyed; a second window is opened after
it, and nobody enters either. Only the second one can be closed or retired. -/
theorem windows_end_while_seated_beside :
    let hook : List Step := [.hook 0 .createBackend [.host 0 (.destroyNative (.handle ⟨1⟩))]]
    let opens : List Step := [.openWindow 0 {} "a" 0 0 9 9, .openWindow 0 {} "b" 0 0 9 9, .heartbeat]
    let first := openWindow (scripted 1) 0 {} "a" 0 0 9 9
      (Session.runFrom 1 none (World.empty [{}]) hook).2
    let w := (Session.runFrom 1 none (World.empty [{}]) (hook ++ opens)).2
    native? first.2 ⟨1, 1⟩ = some ⟨1⟩ ∧ (host first.2 0).isWindow ⟨1⟩ = false ∧
      isOpen (closeWindow (scripted 0) ⟨1, 1⟩ w).2 ⟨1, 1⟩ = true ∧
      isOpen (closeWindow (scripted 0) ⟨2, 1⟩ w).2 ⟨2, 1⟩ = false ∧
      isOpen (heartbeat (scripted 0) w) ⟨1, 1⟩ = true ∧
      isOpen (heartbeat (scripted 0) w) ⟨2, 1⟩ = false ∧
      (heartbeat (scripted 0) w).env.watchdog.isAlive = true := by
  intro hook opens first w
  have hanswer : first.1 = .opened ⟨1⟩ ⟨1, 1⟩ := by decide +kernel
  have hopen : first = (.opened ⟨1⟩ ⟨1, 1⟩, first.2) := Prod.ext hanswer rfl
  obtain ⟨-, hleft, hnative⟩ := (windows_end_while_seated [{}] 1 hook).1 (scripted 1) 0 {} "a" 0 0 9 9
    ⟨1⟩ ⟨1, 1⟩ first.2 Nat.one_pos hopen
  have hends := (windows_end_while_seated [{}] 1 (hook ++ opens)).2 rfl (by decide +kernel) (by decide +kernel)
  obtain ⟨hclose, hbeat, hwatchdog⟩ := hends ⟨1, 1⟩ 0 (by decide +kernel)
  obtain ⟨hclose', hbeat', -⟩ := hends ⟨2, 1⟩ 1 (by decide +kernel)
  have hunseated : isSeated w 0 = false := by decide +kernel
  have hseated : isSeated w 1 = true := by decide +kernel
  have hopened : isOpen w ⟨1, 1⟩ = true := by decide +kernel
  have hretires : (window w 1).retires = true := by decide +kernel
  have hstays : isOpen (heartbeat (scripted 0) w) ⟨1, 1⟩ = true := hbeat.mpr fun h ↦ by
    rw [hunseated] at h
    cases h.2
  refine ⟨hnative (.scripted 1 0 .createBackend _), hleft.trans (by decide +kernel), ?_, ?_, hstays, ?_, ?_⟩
  · refine (hclose ⟨1, 1⟩).mpr ⟨hopened, fun h ↦ ?_⟩
    rw [hunseated] at h
    cases h.2
  · exact Bool.eq_false_iff.mpr fun h ↦ ((hclose' ⟨2, 1⟩).mp h).2 ⟨rfl, hseated⟩
  · exact Bool.eq_false_iff.mpr fun h ↦ hbeat'.mp h ⟨hretires, hseated⟩
  · dsimp only [w]
    rw [hwatchdog _ (.tail _ (.head _))]
    exact .inl ⟨⟨1, 1⟩, hstays⟩

/-- A window is handed out whose native window is gone, and closing it changes nothing. -/
theorem opened_window_unseated :
    let opens : List Step :=
      [.hook 0 .createBackend [.host 0 (.destroyNative (.handle ⟨1⟩))], .openWindow 0 {} "a" 0 0 10 10]
    let w := (Session.run [{}] opens).2
    let closed := (Session.run [{}] (opens ++ [.close 0])).2
    native? w ⟨1, 1⟩ = some ⟨1⟩ ∧ (host w 0).isWindow ⟨1⟩ = false ∧
      isOpen closed ⟨1, 1⟩ = true ∧ closed.env.watchdog.isAlive = true := by
  decide +kernel

end World

end Casement
