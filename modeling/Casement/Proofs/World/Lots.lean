import Casement.Proofs.Window.Effects
import Casement.Proofs.World.Passes
import Casement.Proofs.World.Seats
import Casement.Proofs.World.History

namespace Casement

structure Lot where
  window : Window
  seated : Bool
  consumed : List MessageKind
  defers : Bool
  pending : Bool

namespace Lot

/-- The host destroys the native window. The window goes with it unless its renderer keeps the
message; without a native window nothing happens. -/
def unseated (l : Lot) : Option Lot :=
  if l.seated then if l.consumed.contains .destroy then some { l with seated := false } else none
  else some l

def dismissed (l : Lot) : Option Lot := if l.defers then some { l with pending := true } else l.unseated

def flushed (l : Lot) : Option Lot := if l.pending then { l with pending := false }.unseated else some l

def received (l : Lot) (m : Message) : Option Lot :=
  if l.consumed.contains m.kind then some l
  else if m = .destroy then none else some { l with window := l.window.received m }

def beaten (l : Lot) : Option Lot :=
  let l' := { l with window := l.window.beaten }
  if l.window.retires then l'.dismissed else some l'

theorem unseated_window {l l' : Lot} (h : l.unseated = some l') : l'.window = l.window := by
  unfold unseated at h
  split at h
  · split at h
    · cases h
      rfl
    · cases h
  · cases h
    rfl

theorem unseated_idem {l l' : Lot} (h : l.unseated = some l') : l'.unseated = some l' := by
  unfold unseated at h
  split at h
  · split at h
    · cases h
      rfl
    · cases h
  · next hseated =>
    cases h
    exact if_neg hseated

end Lot

theorem Bundle.habits_eq_iff {b b' : Bundle} :
    b'.habits = b.habits ↔ b'.consumed = b.consumed ∧ b'.defers = b.defers ∧ b'.deferred = b.deferred := by
  simp [habits]

theorem Host.isWindow_congr {s s' : Host} (h : s'.seats = s.seats) (native : NativeHandle) :
    s'.isWindow native = s.isWindow native := by
  rw [Bool.eq_iff_iff, isWindow_iff, isWindow_iff, h]

namespace World

def lotOf (w : World) (o : ObjectId) : Lot where
  window := window w o
  seated := (host w 0).isWindow (window w o).native
  consumed := (bundle w 0).consumed
  defers := (bundle w 0).defers
  pending := (bundle w 0).deferred.contains (window w o).native

def lot? (w : World) (key : Key) : Option Lot := (Registry.find? w (some ()) key).map (lotOf w)

def native? (w : World) (key : Key) : Option NativeHandle :=
  (Registry.find? w (some ()) key).map fun o => (window w o).native

/-- There is one host, the index tells its windows apart, and none of them is a view in another. -/
structure Sited (w : World) : Prop where
  one : w.env.bundles.length = 1
  listed : ∀ {key o}, Registry.find? w (some ()) key = some o →
    w.env.index.lookup (window w o).native = some key
  named : ∀ {native key o}, w.env.index.lookup native = some key →
    Registry.find? w (some ()) key = some o → (window w o).native = native
  rooted : ∀ {key o}, Registry.find? w (some ()) key = some o →
    ∀ seat ∈ (host w 0).seats, seat.1 = (window w o).native → seat.2 = none

variable {w w' w₁ : World} {o o₁ : ObjectId} {key k : Key} {win : Window} {n : Nat} {gone : List Key}
  {removed : List (Nat × NativeHandle)} {native : NativeHandle}

theorem lot?_of_find? (hkey : Registry.find? w (some ()) key = some o) :
    lot? w key = some (lotOf w o) := by rw [lot?, hkey, Option.map_some]

theorem lot?_eq_none : lot? w key = none ↔ Registry.find? w (some ()) key = none := by simp [lot?]

theorem native?_of_find? (hkey : Registry.find? w (some ()) key = some o) :
    native? w key = some (window w o).native := by rw [native?, hkey, Option.map_some]

theorem lotOf_congr (hwindow : window w' o = window w o)
    (hstanding : (bundle w' 0).standing = (bundle w 0).standing) : lotOf w' o = lotOf w o := by
  have hseats : (host w' 0).seats = (host w 0).seats := congrArg (·.1) hstanding
  obtain ⟨hconsumed, hdefers, hdeferred⟩ := Bundle.habits_eq_iff.mp (congrArg (·.2) hstanding)
  simp only [lotOf, hwindow, hconsumed, hdefers, hdeferred, Host.isWindow_congr hseats]

theorem Steady.lotOf_eq (h : Steady w w') (o : ObjectId) : lotOf w' o = lotOf w o :=
  lotOf_congr (h.same.window o) (h.standing 0)

theorem Steady.lot?_eq (h : Steady w w') (key : Key) : lot? w' key = lot? w key := by
  rw [lot?, lot?, h.same.find?]
  exact congrArg (Option.map · _) (funext h.lotOf_eq)

theorem Steady.native?_eq (h : Steady w w') (key : Key) : native? w' key = native? w key := by
  simp only [native?, h.same.find?, h.same.window]

theorem Solo.lot?_eq (h : Solo o₁ w w' win n) (hw : Quiet w)
    (hk : Registry.find? w (some ()) k = some o₁) (key : Key) :
    lot? w' key = if k = key then some { lotOf w o₁ with window := win } else lot? w key := by
  have hfind := h.find?_eq key
  have hseats : (World.host w' 0).seats = (World.host w 0).seats := congrArg (·.1) (h.standing 0)
  split
  · next heq =>
    rw [lot?_of_find? (hfind.trans (heq ▸ hk))]
    obtain ⟨hconsumed, hdefers, hdeferred⟩ := Bundle.habits_eq_iff.mp (congrArg (·.2) (h.standing 0))
    simp only [lotOf, h.value, h.native, hconsumed, hdefers, hdeferred, Host.isWindow_congr hseats]
  · next hne =>
    cases hkey : Registry.find? w (some ()) key with
    | none => rw [lot?_eq_none.mpr hkey, lot?_eq_none.mpr (hfind.trans hkey)]
    | some o =>
      have hother : o ≠ o₁ := by
        rintro rfl
        exact hne (hw.coherent.find?_inj hk hkey)
      rw [lot?_of_find? hkey, lot?_of_find? (hfind.trans hkey),
        lotOf_congr (h.others hother) (h.standing 0)]

theorem Solo.native?_eq (h : Solo o₁ w w' win n) (key : Key) : native? w' key = native? w key := by
  simp only [native?, h.find?_eq, h.native_eq]

theorem lotOf_modifyHabits (hone : w.env.bundles.length = 1) (f : Bundle → Bundle)
    (hf : ∀ b, (f b).host = b.host) (o : ObjectId) :
    lotOf (modifyBundle 0 f w) o =
      { lotOf w o with
        consumed := (f (bundle w 0)).consumed
        defers := (f (bundle w 0)).defers
        pending := (f (bundle w 0)).deferred.contains (window w o).native } := by
  have hbundle := bundle_modifyBundle w 0 0 f (hone.symm ▸ Nat.one_pos)
  rw [if_pos rfl] at hbundle
  have hwindow : window (modifyBundle 0 f w) o = window w o := rfl
  simp only [lotOf, host, hbundle, hwindow, hf]

theorem Sited.of_standing (hs : Sited w) (hhosts : w'.env.bundles.length = w.env.bundles.length)
    (hfind : ∀ key, Registry.find? w' (some ()) key = Registry.find? w (some ()) key)
    (hindex : w'.env.index = w.env.index)
    (hnative : ∀ o, (window w' o).native = (window w o).native)
    (hseats : (host w' 0).seats = (host w 0).seats) : Sited w' where
  one := hhosts.trans hs.one
  listed {key o} hkey := by
    rw [hfind] at hkey
    rw [hindex, hnative]
    exact hs.listed hkey
  named {native key o} hl hkey := by
    rw [hindex] at hl
    rw [hfind] at hkey
    rw [hnative]
    exact hs.named hl hkey
  rooted {key o} hkey := by
    rw [hfind] at hkey
    rw [hseats, hnative]
    exact hs.rooted hkey

theorem Sited.of_steady (hs : Sited w) (h : Steady w w') : Sited w' :=
  hs.of_standing h.hosts (h.same.find? (some ())) h.index (fun o ↦ by rw [h.same.window]) (h.seats 0)

theorem Sited.of_solo (hs : Sited w) (h : Solo o w w' win n) : Sited w' :=
  hs.of_standing h.hosts h.find?_eq h.index h.native_eq (congrArg (·.1) (h.standing 0))

theorem Sited.host_eq_zero (hs : Sited w) (hw : Quiet w)
    (hkey : Registry.find? w (some ()) key = some o) : (window w o).host = 0 :=
  hw.coherent.host_eq_zero hs.one ((Registry.isRegistered_of_find? hkey).lt hw.coherent.sound)

/-- No window is in use, and the desk of the only host is in step with the registry. -/
structure DeskInStep (w : World) : Prop where
  quiet : Quiet w
  watched : Watched 0 w
  indexed : Indexed w
  rooted : Rooted [] w
  one : w.env.bundles.length = 1

theorem DeskInStep.sited (hw : DeskInStep w) : Sited w where
  one := hw.one
  listed {key o} hkey := hw.indexed.isListed key o hkey
  named {native key o} hl hkey := by
    obtain ⟨e, he, -, rfl⟩ := Registry.find?_eq_some hkey
    exact hw.indexed.named hl he
  rooted {key o} hkey := by
    have hlt := (Registry.isRegistered_of_find? hkey).lt hw.quiet.coherent.sound
    exact hw.rooted.roots (.inr ⟨o, hlt, hw.quiet.coherent.host_eq_zero hw.one hlt, rfl⟩)

theorem DeskInStep.of_evolves (hw : DeskInStep w) (h : Evolves (fun _ ↦ True) none w w') :
    DeskInStep w' where
  quiet := hw.quiet.of_evolves h
  watched := h.moves.watched hw.quiet.coherent (by simp) hw.watched
  indexed := h.moves.indexed hw.quiet.coherent (by simp) hw.one hw.indexed
  rooted := h.moves.rooted hw.quiet.coherent (by simp) hw.rooted
  one := (h.lawful hw.quiet.coherent (by simp)).2.hosts.trans hw.one

theorem deskInStep_empty (setup : HostSetup) : DeskInStep (World.empty [setup]) where
  quiet := quiet_empty [setup]
  watched := watched_empty [setup]
  indexed := indexed_empty [setup]
  rooted := rooted_empty [setup]
  one := rfl

/-- Scripts leave the desk of one host in order, however their calls are nested. -/
theorem deskInStep_run (setup : HostSetup) (n : Nat) (steps : List Step) :
    DeskInStep (Session.runFrom n none (World.empty [setup]) steps).2 :=
  (deskInStep_empty setup).of_evolves (.run n _ (Step.usesAll_of_forall (fun _ ↦ trivial) steps))

theorem Loses.lot?_kept (h : Loses gone removed w w') (hgone : key ∉ gone)
    (hkept : ∀ p ∈ removed, ∀ seat ∈ (host w 0).seats, native? w key = some seat.1 →
      seat.1 ≠ p.2 ∧ seat.2 ≠ some p.2) : lot? w' key = lot? w key := by
  have hfind : Registry.find? w' (some ()) key = Registry.find? w (some ()) key := by
    rw [h.found, if_neg hgone]
  cases hkey : Registry.find? w (some ()) key with
  | none => rw [lot?_eq_none.mpr hkey, lot?_eq_none.mpr (hfind.trans hkey)]
  | some o =>
    have hkey' := hfind.trans hkey
    have hwindow := h.windows (Registry.isRegistered_of_find? hkey')
    have hseated : (host w' 0).isWindow (window w o).native = (host w 0).isWindow (window w o).native := by
      rw [Bool.eq_iff_iff, Host.isWindow_iff, Host.isWindow_iff]
      constructor
      · rintro ⟨seat, hseat, heq⟩
        exact ⟨seat, ((h.seats 0 seat).mp hseat).1, heq⟩
      · rintro ⟨seat, hseat, heq⟩
        have hnative : native? w key = some seat.1 := by rw [native?_of_find? hkey, heq]
        exact ⟨seat, (h.seats 0 seat).mpr ⟨hseat, fun p hp _ ↦ hkept p hp seat hseat hnative⟩, heq⟩
    obtain ⟨hconsumed, hdefers, hdeferred⟩ := Bundle.habits_eq_iff.mp (h.habits 0)
    rw [lot?_of_find? hkey, lot?_of_find? hkey']
    simp only [lotOf, hwindow, hseated, hconsumed, hdefers, hdeferred]

theorem Loses.lot?_other (h : Loses gone removed w w') (hs : Sited w) (hgone : key ∉ gone)
    (hkept : ∀ p ∈ removed, native? w key ≠ some p.2) : lot? w' key = lot? w key := by
  refine h.lot?_kept hgone fun p hp seat hseat hnative ↦ ⟨fun heq ↦ ?_, ?_⟩
  · exact hkept p hp (heq ▸ hnative)
  · obtain ⟨o, hkey, heq⟩ := Option.map_eq_some_iff.mp hnative
    simp [hs.rooted hkey seat hseat heq.symm]

theorem Loses.lot?_gone (h : Loses gone removed w w') (hgone : key ∈ gone) : lot? w' key = none :=
  lot?_eq_none.mpr (by rw [h.found, if_pos hgone])

theorem Sited.doomed_eq (hs : Sited w) (hw : Quiet w)
    (hkey : Registry.find? w (some ()) key = some o) :
    doomed w (window w o).native =
      if (bundle w 0).consumed.contains .destroy then none else some key := by
  have hopen : isOpen w key = true := by simp [isOpen, Registry.contains, hkey]
  have hfind : find? w (window w o).native = some key := by
    rw [World.find?, hs.listed hkey, Option.filter_some, if_pos hopen]
  have hconsumes : consumes w o .destroy = (bundle w 0).consumed.contains .destroy := by
    rw [consumes, hs.host_eq_zero hw hkey]
    rfl
  rw [doomed, hfind, Option.filter_some, hkey, Option.any_some, hconsumes]
  cases (bundle w 0).consumed.contains .destroy <;> rfl

theorem find?_of_doomed (h : doomed w native = some key) : find? w native = some key :=
  (Option.filter_eq_some_iff.mp h).1

theorem Sited.native?_of_find? (hs : Sited w) (h : find? w native = some key) :
    native? w key = some native := by
  obtain ⟨hindex, o, hkey⟩ := find?_isOpen h
  rw [World.native?_of_find? hkey, hs.named hindex hkey]

theorem Sited.find?_eq_some_iff (hs : Sited w) : find? w native = some key ↔ native? w key = some native := by
  refine ⟨hs.native?_of_find?, fun h ↦ ?_⟩
  obtain ⟨o, hkey, rfl⟩ := Option.map_eq_some_iff.mp h
  have hopen : isOpen w key = true := by simp [isOpen, Registry.contains, hkey]
  rw [World.find?, hs.listed hkey, Option.filter_some, if_pos hopen]

theorem Quiet.lot?_destroyNative (hw : Quiet w) (hs : Sited w) (native : NativeHandle) (key : Key) :
    lot? (World.destroyNative (scripted 0) 0 native w) key =
      if native? w key = some native then (lot? w key).bind Lot.unseated else lot? w key := by
  by_cases hwindow : (host w 0).isWindow native = true
  · rcases Loses.destroyNative hw (hs.one.symm ▸ Nat.one_pos) native with ⟨-, hgone⟩ | hend
    · rw [hwindow] at hgone
      cases hgone
    by_cases hnative : native? w key = some native
    · rw [if_pos hnative]
      obtain ⟨o, hkey, rfl⟩ := Option.map_eq_some_iff.mp hnative
      rw [hs.doomed_eq hw hkey] at hend
      rw [lot?_of_find? hkey, Option.bind_some, Lot.unseated, if_pos (by exact hwindow)]
      -- a window whose renderer keeps the message lives on without a native one
      cases hconsumed : (bundle w 0).consumed.contains MessageKind.destroy with
      | false =>
        rw [if_neg (by exact Bool.eq_false_iff.mp hconsumed)]
        rw [hconsumed] at hend
        exact hend.lot?_gone (by simp)
      | true =>
        rw [if_pos (by exact hconsumed)]
        rw [hconsumed, if_pos rfl] at hend
        have hkey' : Registry.find? (World.destroyNative (scripted 0) 0 (window w o).native w) (some ())
            key = some o := by rw [hend.found, if_neg (by simp), hkey]
        have hunseated : (host (World.destroyNative (scripted 0) 0 (window w o).native w) 0).isWindow
            (window w o).native = false := by
          rw [Bool.eq_false_iff, ne_eq, Host.isWindow_iff]
          rintro ⟨seat, hseat, heq⟩
          exact (((hend.seats 0 seat).mp hseat).2 _ (List.mem_singleton_self _) rfl).1 heq
        obtain ⟨hkept, hdefers, hdeferred⟩ := Bundle.habits_eq_iff.mp (hend.habits 0)
        rw [lot?_of_find? hkey']
        simp only [lotOf, hend.windows (Registry.isRegistered_of_find? hkey'), hunseated, hkept,
          hdefers, hdeferred]
    · rw [if_neg hnative]
      refine hend.lot?_other hs (fun hmem ↦ hnative ?_) fun p hp ↦ ?_
      · exact hs.native?_of_find? (find?_of_doomed (Option.mem_toList.mp hmem))
      · rwa [List.mem_singleton.mp hp]
  · have hsame : World.destroyNative (scripted 0) 0 native w = w := by
      rw [World.destroyNative, if_neg hwindow]
    rw [hsame]
    split
    · next hnative =>
      obtain ⟨o, hkey, rfl⟩ := Option.map_eq_some_iff.mp hnative
      rw [lot?_of_find? hkey, Option.bind_some, Lot.unseated, if_neg (by exact hwindow)]
    · rfl

theorem native?_eq (w : World) (key : Key) : native? w key = (lot? w key).map (·.window.native) := by
  rw [native?, lot?, Option.map_map]
  rfl

theorem DeskInStep.lot?_destroyNatives (hw : DeskInStep w) (natives : List NativeHandle)
    (key : Key) :
    lot? (natives.foldl (fun w native => World.destroyNative (scripted 0) 0 native w) w) key =
      if (native? w key).any (natives.contains ·) then (lot? w key).bind Lot.unseated else lot? w key := by
  induction natives generalizing w with
  | nil => simp
  | cons native rest ih =>
    have hfirst := hw.quiet.lot?_destroyNative hw.sited native key
    rw [List.foldl_cons, ih (hw.of_evolves (.destroyNative evolves_alone w 0 native)), native?_eq, hfirst,
      native?_eq]
    cases hlot : lot? w key with
    | none => simp
    | some l =>
      by_cases heq : l.window.native = native
      · cases hnext : l.unseated with
        | none => simp [heq, hnext]
        | some l' =>
          have hwindow := Lot.unseated_window hnext
          simp [heq, hnext, hwindow, Lot.unseated_idem hnext]
      · simp [heq]

theorem DeskInStep.lot?_flush (hw : DeskInStep w) (key : Key) :
    lot? (runHostStep (scripted 0) 0 .flushDestroy w).2 key = (lot? w key).bind Lot.flushed := by
  have hemptied : DeskInStep (modifyBundle 0 ({ · with deferred := [] }) w) :=
    hw.of_evolves (.modifyBundle w 0 _ (fun _ ↦ rfl) fun _ _ ↦ .inl)
  have hlot (o : ObjectId) : lotOf (modifyBundle 0 ({ · with deferred := [] }) w) o =
      { lotOf w o with pending := false } :=
    lotOf_modifyHabits hw.one ({ · with deferred := [] }) (fun _ ↦ rfl) o
  refine (hemptied.lot?_destroyNatives (bundle w 0).deferred key).trans ?_
  cases hkey : Registry.find? w (some ()) key with
  | none =>
    have hnone : lot? (modifyBundle 0 ({ · with deferred := [] }) w) key = none := lot?_eq_none.mpr hkey
    simp [native?_eq, hnone, lot?_eq_none.mpr hkey]
  | some o =>
    have hsome : lot? (modifyBundle 0 ({ · with deferred := [] }) w) key =
        some { lotOf w o with pending := false } := (lot?_of_find? (by exact hkey)).trans (congrArg some (hlot o))
    rw [native?_eq, hsome, lot?_of_find? hkey, Option.map_some, Option.any_some, Option.bind_some,
      Option.bind_some, Lot.flushed]
    cases hpending : (bundle w 0).deferred.contains (window w o).native with
    | true => rw [if_pos (by exact hpending), if_pos (by exact hpending)]
    | false =>
      have hleft : { lotOf w o with pending := false } = lotOf w o := by rw [lotOf, hpending]
      rw [if_neg (by exact Bool.eq_false_iff.mp hpending), if_neg (by exact Bool.eq_false_iff.mp hpending),
        hleft]

theorem Quiet.lot?_requestDestroy (hw : Quiet w) (hs : Sited w) (native : NativeHandle) (key : Key) :
    lot? (World.requestDestroy (scripted 0) 0 native w) key =
      if native? w key = some native then (lot? w key).bind Lot.dismissed else lot? w key := by
  have hcall := Steady.call w 0 (.destroyWindow native)
  have hcalled : Quiet (World.call 0 (.destroyWindow native) w) := hw.of_evolves (.call w _ _ rfl)
  unfold World.requestDestroy
  dsimp only
  by_cases hdefers : (bundle w 0).defers = true
  · rw [if_pos (by exact hdefers)]
    cases hkey : Registry.find? w (some ()) key with
    | none =>
      rw [native?, hkey, Option.map_none, if_neg (by simp), lot?_eq_none.mpr hkey]
      exact lot?_eq_none.mpr hkey
    | some o =>
      have hqueued : lotOf (modifyBundle 0 (fun b => { b with deferred := b.deferred ++ [native] })
          (World.call 0 (.destroyWindow native) w)) o =
          { lotOf w o with pending := ((bundle w 0).deferred ++ [native]).contains (window w o).native } :=
        lotOf_modifyHabits (hs.of_steady hcall).one
          (fun b => { b with deferred := b.deferred ++ [native] }) (fun _ ↦ rfl) o
      refine ((lot?_of_find? (by exact hkey)).trans (congrArg some hqueued)).trans ?_
      have hdismissed : (lotOf w o).dismissed = some { lotOf w o with pending := true } :=
        if_pos (by exact hdefers)
      rw [native?_of_find? hkey, lot?_of_find? hkey, Option.bind_some, hdismissed]
      by_cases heq : (window w o).native = native <;> simp [lotOf, heq]
  · rw [if_neg (by exact hdefers), hcalled.lot?_destroyNative (hs.of_steady hcall), hcall.lot?_eq,
      hcall.native?_eq]
    split
    · next hnative =>
      obtain ⟨o, hkey, rfl⟩ := Option.map_eq_some_iff.mp hnative
      rw [lot?_of_find? hkey, Option.bind_some, Option.bind_some, Lot.dismissed,
        if_neg (by exact hdefers)]
    · rfl

theorem Sited.native?_inj (hs : Sited w) (hkey : native? w key = some native)
    (hk : native? w k = some native) : key = k := by
  obtain ⟨o, ho, rfl⟩ := Option.map_eq_some_iff.mp hkey
  obtain ⟨o', ho', hnative⟩ := Option.map_eq_some_iff.mp hk
  have hlisted := hs.listed ho'
  rw [hnative, hs.listed ho, Option.some.injEq] at hlisted
  exact hlisted

theorem Quiet.lot?_closeWindow (hw : Quiet w) (hs : Sited w) (k key : Key) :
    lot? (World.closeWindow (scripted 0) k w).2 key =
      if k = key then (lot? w key).bind Lot.dismissed else lot? w key := by
  rcases hw.closeWindow k with ⟨hnone, heq⟩ | ⟨o, w₁, hk, hquiet, hsolo, heq⟩
  · rw [heq]
    split
    · next hkey => rw [← hkey, lot?_eq_none.mpr hnone, Option.bind_none]
    · rfl
  · have hlot := hsolo.lot?_eq hw hk key
    rw [heq, hs.host_eq_zero hw hk, hquiet.lot?_requestDestroy (hs.of_solo hsolo), hsolo.native?_eq,
      hlot]
    by_cases hkey : k = key
    · subst hkey
      rw [if_pos (native?_of_find? hk), if_pos rfl, if_pos rfl, lot?_of_find? hk]
      rfl
    · rw [if_neg hkey, if_neg hkey, if_neg]
      exact fun hnative ↦ hkey (hs.native?_inj (native?_of_find? hk) hnative)

theorem Quiet.lot?_dispatch (hw : Quiet w) (hs : Sited w) (native : NativeHandle) (m : Message)
    (key : Key) :
    lot? (World.dispatch (scripted 0) native m w).2 key =
      if find? w native = some key then (lot? w key).bind (·.received m) else lot? w key := by
  -- a window goes only by the message that says so; all others change what it holds
  by_cases hm : m = .destroy
  · subst hm
    have hend := Loses.dispatch_destroy hw native
    by_cases hfind : find? w native = some key
    · rw [if_pos hfind]
      obtain ⟨hindex, o, hkey⟩ := find?_isOpen hfind
      have hnative := hs.named hindex hkey
      have hdoomed := hs.doomed_eq hw hkey
      rw [hnative] at hdoomed
      rw [hdoomed] at hend
      rw [lot?_of_find? hkey, Option.bind_some, Lot.received]
      cases hconsumed : (bundle w 0).consumed.contains MessageKind.destroy with
      | false =>
        rw [if_neg (by exact Bool.eq_false_iff.mp hconsumed), if_pos rfl]
        rw [hconsumed] at hend
        exact hend.lot?_gone (by simp)
      | true =>
        rw [if_pos (by exact hconsumed), ← lot?_of_find? hkey]
        rw [hconsumed, if_pos rfl] at hend
        exact hend.lot?_other hs (by simp) (by simp)
    · rw [if_neg hfind]
      refine hend.lot?_other hs (fun hmem ↦ hfind ?_) (by simp)
      exact find?_of_doomed (Option.mem_toList.mp hmem)
  · cases hfind : World.find? w native with
    | none => simp [World.dispatch, hfind]
    | some k =>
      obtain ⟨-, o, hk⟩ := find?_isOpen hfind
      rw [(hw.dispatch_solo hm hfind hk).lot?_eq hw hk key]
      simp only [Option.some.injEq]
      split
      · next heq =>
        subst heq
        rw [lot?_of_find? hk, Option.bind_some, Lot.received, consumes, hs.host_eq_zero hw hk]
        change _ = if (bundle w 0).consumed.contains m.kind then _ else _
        cases (bundle w 0).consumed.contains m.kind with
        | true => rfl
        | false => simp [hm, lotOf]
      · rfl

theorem Quiet.lot?_unregister (hw : Quiet w) (hs : Sited w) (k key : Key) :
    lot? (Registry.unregister (disposal (scripted 0)) () k w).2 key =
      if k = key then none else lot? w key := by
  have hend := Loses.unregister hw.coherent k
  split
  · next heq => exact hend.lot?_gone (by simp [heq])
  · next hne => exact hend.lot?_other hs (by simp [Ne.symm hne]) (by simp)

theorem Quiet.lot?_turn (hw : Quiet w) (hs : Sited w) (k key : Key) :
    lot? (Registry.turn (conduct (scripted 0)) none w k) key =
      if k = key then (lot? w key).bind Lot.beaten else lot? w key := by
  cases hk : Registry.find? w (some ()) k with
  | none =>
    rw [turn_eq_self hk]
    split
    · next heq => rw [← heq, lot?_eq_none.mpr hk, Option.bind_none]
    · rfl
  | some o =>
    obtain ⟨w₁, hquiet, hsolo, hlast⟩ := hw.turn hk
    have hs₁ := hs.of_solo hsolo
    have hhost : (window w₁ o).host = 0 := by rw [hsolo.value, hsolo.host, hs.host_eq_zero hw hk]
    have hlot₁ := hsolo.lot?_eq hw hk key
    rw [hlast.lot?_kept (by simp) (by simp)]
    -- natives are unique, so the request for an end reaches this window alone
    have hretire : lot? (if (window w o).retires then retire (scripted 0) o w₁ else w₁) key =
        if k = key ∧ (window w o).retires = true then (lot? w₁ key).bind Lot.dismissed
        else lot? w₁ key := by
      by_cases hretires : (window w o).retires = true
      · rw [if_pos hretires, retire, hhost, hquiet.lot?_requestDestroy hs₁]
        have hnative : native? w₁ k = some (window w₁ o).native :=
          native?_of_find? (by rw [hsolo.find?_eq, hk])
        by_cases heq : k = key
        · subst heq
          rw [if_pos hnative, if_pos ⟨rfl, hretires⟩]
        · rw [if_neg fun h ↦ heq (hs₁.native?_inj hnative h), if_neg fun h ↦ heq h.1]
      · rw [if_neg hretires, if_neg fun h ↦ hretires h.2]
    rw [hretire, hlot₁]
    by_cases heq : k = key
    · subst heq
      simp only [true_and, if_true, lot?_of_find? hk, Option.bind_some]
      rfl
    · simp [heq]

theorem DeskInStep.lot?_turns (hw : DeskInStep w) {keys : List Key} (hnodup : keys.Nodup)
    (key : Key) :
    lot? (keys.foldl (Registry.turn (conduct (scripted 0)) none) w) key =
      if key ∈ keys then (lot? w key).bind Lot.beaten else lot? w key := by
  induction keys generalizing w with
  | nil => simp
  | cons k keys ih =>
    obtain ⟨hk, hkeys⟩ := List.nodup_cons.mp hnodup
    rw [List.foldl_cons, ih (hw.of_evolves (evolves_turn w k)) hkeys, hw.quiet.lot?_turn hw.sited]
    by_cases heq : k = key
    · subst heq
      simp [hk]
    · simp [heq, Ne.symm heq]

theorem DeskInStep.lot?_heartbeat (hw : DeskInStep w) (key : Key) :
    lot? (heartbeat (scripted 0) w) key = (lot? w key).bind Lot.beaten := by
  refine (hw.lot?_turns (w.nodup_keys none) key).trans ?_
  split
  · rfl
  · next hmem =>
    have hnone : Registry.find? w (some ()) key = none := by
      cases hkey : Registry.find? w (some ()) key with
      | none => rfl
      | some o => exact absurd (mem_keys.mpr ⟨o, hkey⟩) hmem
    rw [lot?_eq_none.mpr hnone, Option.bind_none]

theorem Gains.lot?_eq {i : Nat} {new : NativeHandle × Option NativeHandle} (h : Gains i new w w')
    (hnew : native? w key ≠ some new.1) : lot? w' key = lot? w key := by
  rw [lot?, lot?, h.same.find?]
  cases hkey : Registry.find? w (some ()) key with
  | none => rfl
  | some o =>
    have hseated : (host w' 0).isWindow (window w o).native = (host w 0).isWindow (window w o).native := by
      rw [Bool.eq_iff_iff, Host.isWindow_iff, Host.isWindow_iff]
      constructor
      · rintro ⟨seat, hseat, heq⟩
        rcases (h.seats 0 seat).mp hseat with hold | ⟨-, rfl⟩
        · exact ⟨seat, hold, heq⟩
        · exact absurd (by rw [native?_of_find? hkey, heq]) hnew
      · rintro ⟨seat, hseat, heq⟩
        exact ⟨seat, (h.seats 0 seat).mpr (.inl hseat), heq⟩
    obtain ⟨hconsumed, hdefers, hdeferred⟩ := Bundle.habits_eq_iff.mp (h.habits 0)
    simp only [Option.map_some, lotOf, h.same.window, hseated, hconsumed, hdefers, hdeferred]

theorem Sited.native?_ne_fresh (hs : Sited w) (hw : Quiet w) (key : Key) :
    native? w key ≠ some (host w 0).freshHandle := by
  intro hnative
  obtain ⟨o, hkey, heq⟩ := Option.map_eq_some_iff.mp hnative
  have hlt := hw.coherent.native_lt ((Registry.isRegistered_of_find? hkey).lt hw.coherent.sound)
  rw [hs.host_eq_zero hw hkey, heq] at hlt
  exact absurd hlt (Nat.lt_irrefl _)

theorem Sited.of_gains (hs : Sited w) {new : NativeHandle × Option NativeHandle} (h : Gains 0 new w w')
    (hnew : ∀ key, native? w key ≠ some new.1) : Sited w' where
  one := h.hosts.trans hs.one
  listed {key o} hkey := by
    rw [h.same.find?] at hkey
    rw [h.index, h.same.window]
    exact hs.listed hkey
  named {native key o} hl hkey := by
    rw [h.index] at hl
    rw [h.same.find?] at hkey
    rw [h.same.window]
    exact hs.named hl hkey
  rooted {key o} hkey seat hseat heq := by
    rw [h.same.find?] at hkey
    rw [h.same.window] at heq
    rcases (h.seats 0 seat).mp hseat with hold | ⟨-, rfl⟩
    · exact hs.rooted hkey seat hold heq
    · exact absurd (by rw [World.native?_of_find? hkey, heq]) (hnew key)

/-- Opening a window is nothing to those that are there, whether or not it succeeds. -/
theorem Quiet.lot?_openWindow (hw : Quiet w) (hs : Sited w) (config : ContextConfig) (title : String)
    (x y width height : Int32) {l : Lot} (hl : lot? w key = some l) :
    lot? (World.openWindow (scripted 0) 0 config title x y width height w).2 key = some l := by
  have hfresh := hs.native?_ne_fresh hw
  rcases openWindow_cases (hs.one.symm ▸ Nat.one_pos) config title x y width height with
    hsteady | ⟨w₁, hgains, hlawful, hsteady⟩ | ⟨w₁, background, atlas, hgains, hlawful, hsteady⟩
  · rw [hsteady.lot?_eq, hl]
  · have hs₁ := hs.of_gains hgains hfresh
    have hnative₁ : native? w₁ key = native? w key := by
      simp only [native?, hgains.same.find?, hgains.same.window]
    rw [hsteady.lot?_eq, (hw.of_lawful hlawful).lot?_requestDestroy hs₁, hnative₁,
      if_neg (hfresh key), hgains.lot?_eq (hfresh key), hl]
  · have hcoherent := (hw.of_lawful hlawful).coherent
    obtain ⟨o, hkey, rfl⟩ := Option.map_eq_some_iff.mp hl
    have hkey₁ : Registry.find? w₁ (some ()) key = some o := by rw [hgains.same.find?, hkey]
    have hne : key ≠ w₁.entries.nextKey := by
      rintro rfl
      rw [Registry.find?_unit, SlotMap.get?_nextKey hcoherent.sound.table] at hkey₁
      cases hkey₁
    have hlt := (Registry.isRegistered_of_find? hkey₁).lt hcoherent.sound
    rw [hsteady.lot?_eq, lot?, find?_install hcoherent, if_neg hne, hkey₁, Option.map_some,
      ← hl, ← hgains.lot?_eq (hfresh key), lot?_of_find? hkey₁]
    exact congrArg some (lotOf_congr (by rw [window_install, if_neg hlt.ne]) (standing_install ..))

end World

end Casement
