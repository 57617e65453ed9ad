import Casement.Proofs.Demo.Run
import Casement.Proofs.Geometry
import Casement.Proofs.World.Seats

namespace Casement

namespace World

variable {w w' : World} {key : Key} {o o' : ObjectId} {native : NativeHandle} {current : Option ObjectId} {i : Nat}

theorem Abides.rect_eq (h : Abides w w') (hordered : (host w i).Ordered)
    (hstays : (host w' i).isWindow native = true) : (host w' i).rect native = (host w i).rect native := by
  obtain ⟨v, hv⟩ := Option.isSome_iff_exists.mp hstays
  have hhandle : v.handle = native := by simpa using List.find?_some hv
  have hbefore := hordered.view?_eq_some_iff.mpr ⟨h.views i v (List.mem_of_find?_eq_some hv), hhandle⟩
  rw [Host.rect, Host.rect, hv, hbefore]

theorem Follows.find?_eq (h : Follows current w w') (hkey : Registry.find? w (some ()) key = some o)
    (hkey' : Registry.find? w' (some ()) key = some o') : o' = o := by
  obtain ⟨e, he, -, rfl⟩ := Registry.find?_eq_some hkey
  obtain ⟨e', he', -, rfl⟩ := Registry.find?_eq_some hkey'
  rcases h.keeps.advances.get?_or_stale he with hsame | hstale
  · rw [hsame] at he'
    cases he'
    rfl
  · rw [hstale.get?_eq_none] at he'
    cases he'

end World

namespace Demo

open World

variable {w₀ w w' : World} {key : Key} {o o' : ObjectId} {shown : List Shown} {t : Nat} {r : Rect} {p : Point}
  {c : DemoConfig} {first : Shown}

theorem toInt_add_twenty {a : Int32} (h : a.toInt + 20 ≤ Int32.maxValue.toInt) : (a + 20).toInt = a.toInt + 20 := by
  have hlow := a.le_toInt
  rw [Int32.toInt_maxValue] at h
  rw [Int32.toInt_add, show Int32.toInt 20 = 20 from rfl]
  exact Int.bmod_eq_of_le (by omega) (by omega)

/-- The coordinate at which the pointer would leave the range; the horizontal one is looked at first. -/
def lacksRoom (c : WindowConfig) : Coordinate → Prop
  | .x => Int32.maxValue.toInt < c.x.toInt + 20
  | .y => c.x.toInt + 20 ≤ Int32.maxValue.toInt ∧ Int32.maxValue.toInt < c.y.toInt + 20

theorem leavesRoom_iff {c : WindowConfig} : leavesRoom c ↔ ∀ k, ¬ lacksRoom c k := by
  constructor
  · rintro ⟨hx, hy⟩ (_ | _) hlacks
    · exact absurd hlacks (Int.not_lt.mpr hx)
    · exact absurd hlacks.2 (Int.not_lt.mpr hy)
  · intro hnone
    have hx := Int.not_lt.mp (hnone .x)
    exact ⟨hx, Int.not_lt.mp fun hy ↦ hnone .y ⟨hx, hy⟩⟩

theorem inside_eq_ok_iff :
    inside r = .ok p ↔ p.x.toInt = r.left.toInt + 20 ∧ p.y.toInt = r.top.toInt + 20 := by
  unfold inside
  split
  · next hx =>
    split
    · next hy =>
      rw [Except.ok.injEq, ← toInt_add_twenty hx, ← toInt_add_twenty hy, Int32.toInt_inj, Int32.toInt_inj, eq_comm,
        Point.mk.injEq]
    · next hy =>
      refine iff_of_false (by simp) fun hp ↦ hy ?_
      exact hp.2 ▸ (toInt_bounds p.y).2
  · next hx =>
    refine iff_of_false (by simp) fun hp ↦ hx ?_
    exact hp.1 ▸ (toInt_bounds p.x).2

theorem inside_ofPosSize_of_lacksRoom {c : WindowConfig} {k : Coordinate} (h : lacksRoom c k) :
    inside (.ofPosSize c.x c.y c.width c.height) = .error (.outOfRange k) := by
  cases k with
  | x => exact if_neg (Int.not_le.mpr h)
  | y => exact (if_pos h.1).trans (if_neg (Int.not_le.mpr h.2))

theorem inside_ofPosSize_of_leavesRoom {c : WindowConfig} (h : leavesRoom c) :
    ∃ p, inside (.ofPosSize c.x c.y c.width c.height) = .ok p :=
  ⟨_, (if_pos h.1).trans (if_pos h.2)⟩

theorem mem_views_openAll (hw : Hospitable w) (context : ContextConfig) (windows : List WindowConfig) {v : View}
    (hv : v ∈ (host w 0).views) : v ∈ (host (openAll context windows w).2 0).views := by
  induction windows generalizing w with
  | nil => exact hv
  | cons c rest ih =>
    obtain ⟨-, hadds⟩ := hw.adds context c.title c.x c.y c.width c.height
    rw [openAll_cons hw]
    apply ih hadds.hospitable
    rw [hadds.views]
    exact List.mem_append_left _ hv

/-- The first window is opened where it should be, and the others do not move it. -/
theorem rect_first (hw : Hospitable w) (hordered : (host w' 0).Ordered) (context : ContextConfig) (c : WindowConfig)
    (rest : List WindowConfig) (hopen : openAll context (c :: rest) w = (.ok shown, w')) :
    ∃ first o, shown.head? = some first ∧ Registry.find? w' (some ()) first.key = some o ∧
      (host w' 0).rect (window w' o).native = .ofPosSize c.x c.y c.width c.height := by
  obtain ⟨-, hadds⟩ := hw.adds context c.title c.x c.y c.width c.height
  obtain ⟨others, w₁, hrest, hopened, -, -⟩ := openAll_opened hadds.hospitable context rest
  rw [openAll_cons hw, hrest] at hopen
  cases hopen
  obtain ⟨hkey, hwindow⟩ := hopened.old ((hadds.found _).trans (if_pos rfl))
  have hview := mem_views_openAll hadds.hospitable context rest
    (by rw [hadds.views]; exact List.mem_append_right _ (List.mem_singleton_self _))
  rw [hrest] at hview
  have hfound := hordered.view?_eq_some_iff.mpr ⟨hview, rfl⟩
  refine ⟨_, _, rfl, hkey, ?_⟩
  rw [hwindow, hadds.native, Host.rect, hfound]
  rfl

theorem Opened.ordered {platform : Platform} (h : Opened shown (start platform) w) : (host w 0).Ordered := by
  have hempty : Coherent (fun _ ↦ True) (start platform) := (hospitable_start platform).quiet.coherent
  have hrooted : Rooted [] (start platform) := rooted_empty [{ platform }]
  exact ((h.evolves _).moves.rooted hempty (by simp) hrooted).ordered 0

theorem Stage.rect_eq (h : Stage w₀ shown t w) (habides : Abides w₀ w) (hw₀ : PromptDesk w₀)
    (hordered : (host w₀ 0).Ordered) (hkey₀ : Registry.find? w₀ (some ()) key = some o)
    (hkey : Registry.find? w (some ()) key = some o') :
    (host w 0).rect (window w o').native = (host w₀ 0).rect (window w₀ o).native := by
  obtain ⟨-, hfollows⟩ := (h.reached _).lawful hw₀.quiet.coherent (by simp)
  obtain rfl := hfollows.find?_eq hkey₀ hkey
  have hlt := (Registry.isRegistered_of_find? hkey₀).lt hw₀.quiet.coherent.sound
  have hseated := h.promptDesk.prompt.seated (Registry.isRegistered_of_find? hkey)
  rw [habides.rect_eq hordered (Host.isWindow_iff.mpr ⟨_, hseated, rfl⟩), (hfollows.place hlt).2]

theorem replayFirst_eq_error (hw : PromptDesk w) (hordered : (host w 0).Ordered)
    (hfirst : shown.head? = some first)
    (hkey : Registry.find? w (some ()) first.key = some o) {cause : Crash}
    (herror : inside ((host w 0).rect (window w o).native) = .error cause) :
    replayFirst shown t w = .error cause := by
  obtain ⟨w₁, v, -, hv, hhandle, heq⟩ := replay_of_open hw hkey t
  have hrect : (host w 0).rect (window w o).native = v.rect := by
    rw [Host.rect, hordered.view?_eq_some_iff.mpr ⟨hv, hhandle⟩]
    rfl
  rw [hrect] at herror
  rw [replayFirst, hfirst]
  dsimp only
  rw [heq, herror]
  rfl

def Logged (w w' : World) : Prop := w.env.log <+: w'.env.log

theorem logged_note (w : World) (r : LogRecord) : Logged w (World.note r w) := List.prefix_append _ _

theorem inner_logged (o : ObjectId) : Inner quiet o Logged where
  refl _ := List.prefix_rfl
  trans := List.IsPrefix.trans
  reentry _ _ _ := List.prefix_rfl
  note := logged_note
  call _ _ _ _ := List.prefix_rfl
  report _ _ _ := List.prefix_rfl
  modifyGui _ _ _ := List.prefix_rfl
  modifyStats _ _ _ := List.prefix_rfl
  touch _ _ _ := List.prefix_rfl

theorem logged_releaseWatchdog (w : World) : Logged w (releaseWatchdog w) := by
  unfold releaseWatchdog
  dsimp only
  split
  · split
    · exact logged_note _ _
    · exact List.prefix_rfl
  · exact List.prefix_rfl

theorem logged_dropWindow (w : World) (o : ObjectId) : Logged w (dropWindow quiet o w) := by
  have hr := inner_logged o
  have hleaves : Logged w (call (window w o).host (.unregisterAccelerator (window w o).native) (unlisten o w)) :=
    List.prefix_rfl
  have hfreed (i : Nat) (native : NativeHandle) (w : World) : Logged w (freeCapture i native w) := by
    unfold freeCapture
    split <;> exact List.prefix_rfl
  have hdischarged (w : World) : Logged w (discharge w) := logged_releaseWatchdog (releaseAtlas (releaseAtlas w))
  rw [dropWindow_eq]
  refine hr.trans ?_ (hdischarged _)
  refine hr.trans ?_ (hr.call _ _ _ rfl)
  refine hr.trans ?_ (hr.modifyStats _ _ _)
  refine hr.trans ?_ (hr.reentry _ _ _)
  refine hr.trans ?_ (hr.call _ _ _ rfl)
  refine hr.trans ?_ (hfreed _ _ _)
  exact hr.trans hleaves (hr.closeFrame _)

theorem logged_unregister (w : World) (key : Key) :
    Logged w (w.unregister (disposal quiet) () key).2 := by
  unfold Registry.unregister
  split
  · next o _ =>
    have hlet : Logged w (({ w with entries := w.entries.erase key } : World).letGo o) := List.prefix_rfl
    rw [Registry.release_eq]
    split
    · exact (inner_logged o).trans hlet (logged_dropWindow _ o)
    · exact hlet
  · exact List.prefix_rfl

theorem logged_dropAll (w : World) : Logged w (dropAll w) := by
  unfold dropAll
  generalize w.keys none = keys
  induction keys generalizing w with
  | nil => exact List.prefix_rfl
  | cons key keys ih => exact List.IsPrefix.trans (logged_unregister w key) (ih _)

theorem crashed_mem_log_abort (cause : Crash) (w : World) :
    .demo (.crashed cause) ∈ (abort (.crashed cause) w).2.env.log := by
  apply (logged_dropAll (note (.crashed cause) w)).subset
  exact List.mem_append_right _ (List.mem_singleton_self _)

/-- How a run ends once its windows are open. -/
def ended : Option Crash → Ending
  | none => .done
  | some cause => .crashed cause

/-- The run of a configuration, and the report that a crash leaves in the log. -/
theorem run_of_read {path : String} {read : String → Except ConfigError DemoConfig} (hread : read path = .ok c)
    (hopen : openAll c.context c.windows (start c.platform) = (.ok shown, w)) :
    (run (some path) read).ending =
        ended (ticks shown c.ticks.toNat 0 (note (.openedAll shown.length c.platform) w)).1 ∧
      ∀ cause, (run (some path) read).ending = .crashed cause →
        .demo (.crashed cause) ∈ (run (some path) read).log := by
  unfold run
  dsimp only
  rw [hread]
  dsimp only
  unfold perform
  rw [hopen]
  dsimp only
  generalize ticks shown c.ticks.toNat 0 (note (.openedAll shown.length c.platform) w) = result
  obtain ⟨_ | cause, w₁⟩ := result
  · exact ⟨rfl, fun cause hcrashed ↦ by cases hcrashed⟩
  · refine ⟨rfl, fun cause' hcrashed ↦ ?_⟩
    obtain rfl : cause = cause' := Ending.crashed.inj hcrashed
    exact List.mem_cons_of_mem _ (crashed_mem_log_abort cause w₁)

theorem ticks_of_error {cause : Crash} (h : replayFirst shown t w = .error cause) {left : Nat} (hleft : 0 < left) :
    ticks shown left t w = (some cause, w) := by
  obtain ⟨left, rfl⟩ := Nat.exists_eq_succ_of_ne_zero hleft.ne'
  rw [ticks, tick, h]
  rfl

/-- There is a tick, and no room for the pointer in the first window. -/
def Crowded (c : DemoConfig) (k : Coordinate) : Prop :=
  0 < c.ticks.toNat ∧ ∃ first ∈ c.windows.head?, lacksRoom first k

theorem leavesRoom_of_spare (hspare : ∀ k, ¬ Crowded c k) (hticks : 0 < c.ticks.toNat) :
    ∀ place ∈ c.windows.head?, leavesRoom place := by
  intro place hplace
  exact leavesRoom_iff.mpr fun k hlacks ↦ hspare k ⟨hticks, place, hplace, hlacks⟩

section Opened

variable {opened : World} (hopen : openAll c.context c.windows (start c.platform) = (.ok shown, opened))
  (hopened : Opened shown (start c.platform) opened)
  (hroomy : (∀ place ∈ c.windows.head?, leavesRoom place) → ∀ first ∈ shown.head?, Roomy first.key opened)
  (n : DemoNote)

include hopen hopened

theorem rect_first_opened {place : WindowConfig} (hplace : place ∈ c.windows.head?) :
    ∃ first o, shown.head? = some first ∧ Registry.find? opened (some ()) first.key = some o ∧
      (host opened 0).rect (window opened o).native = .ofPosSize place.x place.y place.width place.height := by
  obtain ⟨rest, hwindows⟩ := List.head?_eq_some_iff.mp hplace
  rw [hwindows] at hopen
  exact rect_first (hospitable_start c.platform) hopened.ordered c.context place rest hopen

theorem replayFirst_of_crowded {k : Coordinate} (hcrowded : Crowded c k) :
    replayFirst shown t (note n opened) = .error (.outOfRange k) := by
  obtain ⟨-, place, hplace, hlacks⟩ := hcrowded
  obtain ⟨first, o, hfirst, hkey, hrect⟩ := rect_first_opened hopen hopened hplace
  apply replayFirst_eq_error (Enters.note hopened.hospitable.toPromptDesk
    (.demo n)).promptDesk hopened.ordered hfirst hkey
  exact (congrArg inside hrect).trans (inside_ofPosSize_of_lacksRoom hlacks)

theorem pointer_exact (hstage : Stage (note n opened) shown t w)
    (habides : Abides (note n opened) w) {place : WindowConfig} (hplace : place ∈ c.windows.head?)
    (hroom : leavesRoom place) (hfirst : first ∈ shown.head?) (hkey : Registry.find? w (some ()) first.key = some o) :
    ∃ p, inside ((host w 0).rect (window w o).native) = .ok p ∧
      p.x.toInt = place.x.toInt + 20 ∧ p.y.toInt = place.y.toInt + 20 := by
  obtain ⟨first', o₀, hfirst', hkey₀, hrect⟩ := rect_first_opened hopen hopened hplace
  obtain rfl : first' = first := Option.some_inj.mp (hfirst'.symm.trans hfirst)
  have hnoted := (Enters.note hopened.hospitable.toPromptDesk (.demo n)).promptDesk
  rw [hstage.rect_eq habides hnoted hopened.ordered hkey₀ hkey]
  obtain ⟨p, hp⟩ := inside_ofPosSize_of_leavesRoom hroom
  exact ⟨p, (congrArg inside hrect).trans hp, inside_eq_ok_iff.mp hp⟩

omit hopen in
include hroomy in
theorem stages_of_spare (hspare : ∀ k, ¬ Crowded c k) (hticks : 0 < c.ticks.toNat) (t : Nat) :
    ∃ w, ticks shown t 0 (note n opened) = (none, w) ∧ Stage (note n opened) shown t w ∧
      Abides (note n opened) w := by
  have hfirst := (hopened.stage (hroomy (leavesRoom_of_spare hspare hticks))).note (.demo n)
  -- from here on, what was reached before does not matter
  have hhere : Stage (note n opened) shown 0 (note n opened) :=
    { hfirst with reached := fun _ ↦ .refl none _ }
  obtain ⟨w, hw, hstage, habides⟩ := hhere.ticks_abide hopened.nodup t
  rw [Nat.zero_add] at hstage
  exact ⟨w, hw, hstage, habides⟩

omit hopen in
include hroomy in
theorem ticks_of_spare (hspare : ∀ k, ¬ Crowded c k) : (ticks shown c.ticks.toNat 0 (note n opened)).1 = none := by
  rcases Nat.eq_zero_or_pos c.ticks.toNat with hzero | hticks
  · rw [hzero]
    rfl
  · obtain ⟨w, hw, -⟩ := stages_of_spare hopened hroomy n hspare hticks c.ticks.toNat
    rw [hw]

theorem ticks_of_crowded {k : Coordinate} (hcrowded : Crowded c k) :
    (ticks shown c.ticks.toNat 0 (note n opened)).1 = some (.outOfRange k) := by
  rw [ticks_of_error (replayFirst_of_crowded hopen hopened n hcrowded) hcrowded.1]

include hroomy in
theorem ticks_eq_some_iff {cause : Crash} : (ticks shown c.ticks.toNat 0 (note n opened)).1 = some cause ↔
    ∃ k, cause = .outOfRange k ∧ Crowded c k := by
  constructor
  · intro hcrash
    by_contra hnone
    have hspare (k : Coordinate) : ¬ Crowded c k := by
      intro hcrowded
      rw [ticks_of_crowded hopen hopened n hcrowded] at hcrash
      exact hnone ⟨k, (Option.some.inj hcrash).symm, hcrowded⟩
    rw [ticks_of_spare hopened hroomy n hspare] at hcrash
    cases hcrash
  · rintro ⟨k, rfl, hcrowded⟩
    exact ticks_of_crowded hopen hopened n hcrowded

end Opened

theorem ended_eq_crashed_iff {crash : Option Crash} {cause : Crash} :
    ended crash = .crashed cause ↔ crash = some cause := by
  cases crash <;> simp [ended]

theorem ended_eq_done_iff {crash : Option Crash} : ended crash = .done ↔ ∀ cause, crash ≠ some cause := by
  cases crash <;> simp [ended]

/-- The demo opens all windows of every configuration. It then crashes exactly if there is a tick and
the first window lies so near the end of the range that the pointer cannot be put inside it, at the
first tick, and reports the coordinate that is out of range; in every other case it ends well, and as
long as the first window is there, the pointer is put at its exact place at every tick. -/
theorem crashes_iff_crowded (c : DemoConfig) :
    (∀ path read, read path = .ok c →
      (∀ cause, (run (some path) read).ending = .crashed cause ↔ ∃ k, cause = .outOfRange k ∧ Crowded c k) ∧
      (∀ cause, (run (some path) read).ending = .crashed cause →
        .demo (.crashed cause) ∈ (run (some path) read).log) ∧
      ((run (some path) read).ending = .done ↔ ∀ k, ¬ Crowded c k)) ∧
    ∃ shown opened, openAll c.context c.windows (start c.platform) = (.ok shown, opened) ∧
      let w₀ := note (.openedAll shown.length c.platform) opened
      (∀ k, Crowded c k → replayFirst shown 0 w₀ = .error (.outOfRange k)) ∧
      ((∀ k, ¬ Crowded c k) → ∀ t < c.ticks.toNat, ∃ w, ticks shown t 0 w₀ = (none, w) ∧
        ∀ first ∈ shown.head?, ∀ place ∈ c.windows.head?, ∀ o, Registry.find? w (some ()) first.key = some o →
          ∃ p, inside ((host w 0).rect (window w o).native) = .ok p ∧
            p.x.toInt = place.x.toInt + 20 ∧ p.y.toInt = place.y.toInt + 20) := by
  obtain ⟨shown, opened, hopen, hopened, -, hroomy⟩ := openAll_opened (hospitable_start c.platform) c.context c.windows
  refine ⟨?_, shown, opened, hopen, fun k ↦ replayFirst_of_crowded hopen hopened _, ?_⟩
  · intro path read hread
    obtain ⟨hends, hreports⟩ := run_of_read hread hopen
    have hcrash (cause : Crash) : (ticks shown c.ticks.toNat 0 (note (.openedAll shown.length c.platform) opened)).1 =
        some cause ↔ ∃ k, cause = .outOfRange k ∧ Crowded c k := ticks_eq_some_iff hopen hopened (hroomy rfl) _
    refine ⟨fun cause ↦ ?_, hreports, ?_⟩
    · rw [hends, ended_eq_crashed_iff, hcrash]
    · rw [hends, ended_eq_done_iff]
      constructor
      · intro hnone k hcrowded
        exact hnone _ ((hcrash _).mpr ⟨k, rfl, hcrowded⟩)
      · intro hspare cause hcause
        obtain ⟨k, -, hcrowded⟩ := (hcrash cause).mp hcause
        exact hspare k hcrowded
  · intro hspare t ht
    have hticks := Nat.zero_lt_of_lt ht
    obtain ⟨w, hw, hstage, habides⟩ := stages_of_spare hopened (hroomy rfl) _ hspare hticks t
    refine ⟨w, hw, ?_⟩
    intro first hfirst place hplace o hkey
    have hroom := leavesRoom_of_spare hspare hticks place hplace
    exact pointer_exact hopen hopened _ hstage habides hplace hroom hfirst hkey

/-- The first window at the last place with room, before one with no room, and the other way round. -/
theorem crashes_iff_crowded_edge :
    let last : WindowConfig := ⟨"a", 2147483627, -2147483648, 9, 9, 1⟩
    let beyond : WindowConfig := ⟨"b", 0, 2147483628, 9, 9, 1⟩
    let spare : DemoConfig := { ticks := 1, windows := [last, beyond] }
    let crowded : DemoConfig := { ticks := 1, windows := [beyond, last] }
    (run (some "demo.toml") fun _ => .ok spare).ending = .done ∧
      (run (some "demo.toml") fun _ => .ok crowded).ending = .crashed (.outOfRange .y) ∧
      .demo (.crashed (.outOfRange .y)) ∈ (run (some "demo.toml") fun _ => .ok crowded).log ∧
      ∃ shown opened, openAll crowded.context crowded.windows (start crowded.platform) = (.ok shown, opened) ∧
        replayFirst shown 0 (note (.openedAll shown.length crowded.platform) opened) = .error (.outOfRange .y) := by
  intro last beyond spare crowded
  have hspare : ∀ k, ¬ Crowded spare k := by
    rintro k ⟨-, first, hfirst, hlacks⟩
    cases hfirst
    exact leavesRoom_iff.mp ⟨by decide, by decide⟩ k hlacks
  have hcrowded : Crowded crowded .y := ⟨by decide, beyond, rfl, by decide, by decide⟩
  obtain ⟨hends, -⟩ := crashes_iff_crowded spare
  obtain ⟨hcrashes, shown, opened, hopen, hnone, -⟩ := crashes_iff_crowded crowded
  obtain ⟨hcause, hreport, -⟩ := hcrashes "demo.toml" (fun _ => .ok crowded) rfl
  have hcrashed := (hcause _).mpr ⟨.y, rfl, hcrowded⟩
  exact ⟨(hends "demo.toml" _ rfl).2.2.mpr hspare, hcrashed, hreport _ hcrashed, shown, opened, hopen,
    hnone .y hcrowded⟩

/-- A file that can be read, with a window beyond the last place that has room. -/
def farText : String :=
  "ticks = 1\n[[windows]]\ntitle = \"a\"\nx = 2147483640\ny = 0\nwidth = 400\nheight = 300\nframes = 1\n"

theorem far_window_crashes :
    (run (some "demo.toml") fun path => DemoConfig.schema.load path (.ok farText)).ending =
      .crashed (.outOfRange .x) := by
  decide +kernel

end Demo

end Casement
