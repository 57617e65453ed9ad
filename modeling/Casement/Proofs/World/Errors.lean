import Casement.Proofs.World.DeskWork
import Mathlib.Logic.Relation

namespace Casement

/-- The accounts of the errors of a host: what the host knows, what frames reported to it, what waits
to be reported, and all that ever came in. -/
structure Ledger where
  errors : List String
  reports : List String
  pending : List String
  injected : List String

namespace Ledger

/-- A change of the accounts. Only steps that are allowed tell a host of errors directly. -/
inductive Step (may : HostStep → Prop) : Ledger → Ledger → Prop
  | inject (l : Ledger) (text : String) :
      Step may l { l with pending := l.pending ++ [text], injected := l.injected ++ [text] }
  | report (l : Ledger) (text : String) (hmay : may (.report text)) :
      Step may l { l with errors := l.errors ++ [text] }
  | recover (l : Ledger) :
      Step may l
        { l with errors := l.errors ++ l.pending, reports := l.reports ++ l.pending, pending := [] }

abbrev Run (may : HostStep → Prop) : Ledger → Ledger → Prop := Relation.ReflTransGen (Step may)

/-- Everything that came in was reported, in the order in which it came in, or still waits, and the
host knows all that was reported. -/
structure Balanced (l : Ledger) : Prop where
  balance : l.reports ++ l.pending = l.injected
  known : l.reports.Sublist l.errors

variable {may : HostStep → Prop} {l l' : Ledger}

theorem Step.balanced (h : Step may l l') (hl : l.Balanced) : l'.Balanced := by
  cases h with
  | inject text =>
    refine ⟨?_, hl.known⟩
    rw [← hl.balance, List.append_assoc]
  | report text hmay => exact ⟨hl.balance, hl.known.trans (List.sublist_append_left ..)⟩
  | recover =>
    refine ⟨?_, hl.known.append (.refl _)⟩
    rw [List.append_nil]
    exact hl.balance

theorem Run.balanced (h : Run may l l') (hl : l.Balanced) : l'.Balanced := by
  induction h with
  | refl => exact hl
  | tail _ hstep ih => exact hstep.balanced ih

/-- A host that nobody tells of errors directly knows what frames reported, and nothing else. -/
theorem Run.errors_eq (hmay : ∀ text, ¬ may (.report text)) (h : Run may l l')
    (hl : l.errors = l.reports) : l'.errors = l'.reports := by
  induction h with
  | refl => exact hl
  | tail _ hstep ih =>
    cases hstep with
    | inject text => exact ih
    | report text htold => exact absurd htold (hmay text)
    | recover => exact congrArg (· ++ _) ih

theorem Run.late (h : Run may l l') :
    ∃ late, l'.injected = l.injected ++ late ∧ l'.pending <:+ l.pending ++ late := by
  induction h with
  | refl => exact ⟨[], by simp, by simp⟩
  | tail _ hstep ih =>
    obtain ⟨late, hinjected, hpending⟩ := ih
    cases hstep with
    | inject text =>
      refine ⟨late ++ [text], ?_, ?_⟩
      · rw [hinjected, List.append_assoc]
      · rw [← List.append_assoc]
        exact (List.suffix_append_self_iff).mpr hpending
    | report text hmay => exact ⟨late, hinjected, hpending⟩
    | recover => exact ⟨late, hinjected, List.nil_suffix⟩

end Ledger

def Bundle.ledger (b : Bundle) (reports : List String) : Ledger where
  errors := b.host.errors
  reports
  pending := b.gui.pendingErrors
  injected := b.gui.injected

theorem TraceEvent.isDealing_of_report? {e : TraceEvent} {i : Nat} (h : (e.report? i).isSome = true) :
    e.isDealing = true := by
  cases e with
  | hook => cases h
  | call j c =>
    cases c with
    | reportError text => rfl
    | _ => cases h

namespace World

variable {ok : WindowStep → Prop} {may : HostStep → Prop} {k : Reentry} {w w' w'' : World} {o : ObjectId}

def ledger (w : World) (h : Nat) : Ledger :=
  (bundle w h).ledger (w.env.trace.filterMap (TraceEvent.report? h))

structure Settles (may : HostStep → Prop) (w w' : World) : Prop where
  asks : w'.env.HooksAsk may
  run : ∀ h, Ledger.Run may (ledger w h) (ledger w' h)

def Accounts (may : HostStep → Prop) (w w' : World) : Prop := w.env.HooksAsk may → Settles may w w'

namespace Accounts

theorem of_ledger (hhooks : ∀ i, (bundle w' i).hooks = (bundle w i).hooks)
    (h : ∀ i, ledger w' i = ledger w i) : Accounts may w w' := by
  intro hasks
  refine ⟨hooks_of_bundle hhooks hasks, fun i ↦ ?_⟩
  rw [h i]

theorem of_holdings (h : w'.env.holdings = w.env.holdings) : Accounts may w w' := by
  obtain ⟨hbundles, hrest⟩ := Prod.mk.inj h
  obtain ⟨htrace, -⟩ := Prod.mk.inj hrest
  refine .of_ledger (fun i ↦ ?_) fun i ↦ ?_
  · simp only [bundle, hbundles]
  · simp only [ledger, bundle, hbundles, htrace]

theorem trans (h : Accounts may w w') (h' : Accounts may w' w'') : Accounts may w w'' := by
  intro hasks
  have hs := h hasks
  have hs' := h' hs.asks
  exact ⟨hs'.asks, fun i ↦ (hs.run i).trans (hs'.run i)⟩

theorem call (w : World) (i : Nat) (c : Call) (hc : c.isReport = false) : Accounts may w (call i c w) := by
  refine .of_ledger (fun _ ↦ rfl) fun j ↦ ?_
  have hnone : (TraceEvent.call i c).report? j = none := by
    cases c with
    | reportError text => cases hc
    | _ => rfl
  simp only [ledger, World.call, World.traced, Registry.env_modifyEnv, List.filterMap_append,
    List.filterMap_cons_none hnone, List.filterMap_nil, List.append_nil]
  rfl

theorem modifyBundle (w : World) (i : Nat) (f : Bundle → Bundle) (hf : ∀ b, (f b).dues = b.dues) :
    Accounts may w (modifyBundle i f w) := by
  have hread (j : Nat) := reading_modifyBundle w i j Bundle.dues f hf
  simp only [Bundle.dues, Prod.mk.injEq] at hread
  refine .of_ledger (fun j ↦ (hread j).1) fun j ↦ ?_
  obtain ⟨-, -, herrors, hpending, hinjected⟩ := hread j
  simp only [ledger, Bundle.ledger, herrors, hpending, hinjected]
  rfl

theorem of_bundle (w : World) (i : Nat) (f : Bundle → Bundle) (hhooks : ∀ b, (f b).hooks = b.hooks)
    (hf : ∀ b reports, Ledger.Run may (b.ledger reports) ((f b).ledger reports)) :
    Accounts may w (World.modifyBundle i f w) := by
  intro hasks
  refine ⟨hooks_of_bundle (fun j ↦ reading_modifyBundle w i j (·.hooks) f hhooks) hasks, fun j ↦ ?_⟩
  exact related_modifyBundle w i j
    (R := fun b b' ↦ ∀ reports, Ledger.Run may (b.ledger reports) (b'.ledger reports))
    (fun _ _ ↦ .refl) hf _

theorem inject (w : World) (i : Nat) (text : String) :
    Accounts may w (World.modifyGui i (·.inject text) w) :=
  .of_bundle w i _ (fun _ ↦ rfl) fun b reports ↦ .single (.inject (b.ledger reports) text)

theorem report (w : World) (i : Nat) (text : String) (hmay : may (.report text)) :
    Accounts may w (World.modifyHost i (·.reportError text) w) :=
  .of_bundle w i _ (fun _ ↦ rfl) fun b reports ↦ .single (.report (b.ledger reports) text hmay)

theorem modifyHost (w : World) (i : Nat) (f : Host → Host) (hf : ∀ s, (f s).errors = s.errors) :
    Accounts may w (modifyHost i f w) := by
  refine .of_bundle w i _ (fun _ ↦ rfl) fun b reports ↦ ?_
  simp only [Bundle.ledger, hf]
  exact .refl

theorem aside (h : Aside ok may w w') : Accounts may w w' := by
  cases h with
  | unseen f hcore hdealings huse hask =>
    intro hasks
    refine ⟨hask hasks, fun i ↦ ?_⟩
    have hbundles : (w.modifyEnv f).env.bundles.map Bundle.core = w.env.bundles.map Bundle.core :=
      congrArg Desk.bundles hcore
    have hbundle := reading_of_map hbundles i
    simp only [Bundle.core, Host.core, Bundle.mk.injEq, Host.mk.injEq, GuiState.mk.injEq] at hbundle
    have hreports := filterMap_of_dealings (fun _ ↦ TraceEvent.isDealing_of_report? (i := i))
      (congrArg Prod.snd hdealings)
    have hledger : ledger (w.modifyEnv f) i = ledger w i := by
      simp only [ledger, Bundle.ledger, hbundle, Registry.env_modifyEnv, hreports]
    rw [hledger]
  | addView i view hview hmay => exact .modifyHost w i _ fun _ ↦ rfl
  | editView i native f hf hmay => exact .modifyHost w i _ fun _ ↦ rfl
  | setCapture i native hmay => exact .modifyHost w i _ fun _ ↦ rfl
  | releaseCapture i hmay => exact .modifyHost w i _ fun _ ↦ rfl
  | report i text hmay => exact .report w i text hmay
  | inject i text => exact .inject w i text

end Accounts

theorem ledger_reported (native : NativeHandle) (errors : List String) {i : Nat}
    (hi : i < w.env.bundles.length) (j : Nat) :
    ledger (errors.foldl (fun w e =>
      note (.recovered native e) (modifyHost i (·.reportError e) (call i (.reportError e) w))) w) j =
      if i = j then { ledger w j with
        errors := (ledger w j).errors ++ errors, reports := (ledger w j).reports ++ errors }
      else ledger w j := by
  induction errors generalizing w with
  | nil => simp
  | cons e errors ih =>
    have hone : ledger (note (.recovered native e)
        (modifyHost i (·.reportError e) (call i (.reportError e) w))) j =
        if i = j then { ledger w j with
          errors := (ledger w j).errors ++ [e], reports := (ledger w j).reports ++ [e] }
        else ledger w j := by
      have hbundle := bundle_modifyBundle (call i (.reportError e) w) i j
        (fun b => { b with host := b.host.reportError e }) hi
      simp only [ledger, bundle_note, modifyHost, hbundle]
      simp only [World.note, World.modifyBundle, World.call, World.traced, Registry.env_modifyEnv,
        List.filterMap_append, List.filterMap_cons, List.filterMap_nil, TraceEvent.report?]
      by_cases hij : i = j
      · simp only [if_pos hij]
        rfl
      · simp only [if_neg hij, List.append_nil]
        rfl
    have hlength := length_bundles_modifyHost (call i (.reportError e) w) i (·.reportError e)
    rw [List.foldl_cons, ih, hone]
    · split
      · simp only [List.append_assoc, List.singleton_append]
      · rfl
    · exact hi.trans_eq hlength.symm

theorem ledger_settle (w : World) (i : Nat) (native : NativeHandle) (j : Nat) :
    ledger (settle i native w) j = if i = j then
      { ledger w j with
        errors := (ledger w j).errors ++ (ledger w j).pending
        reports := (ledger w j).reports ++ (ledger w j).pending
        pending := [] }
      else ledger w j := by
  unfold settle
  by_cases hi : i < w.env.bundles.length
  · have hcleared : ledger (modifyGui i (fun g => { g with pendingErrors := [] }) w) j =
        if i = j then { ledger w j with pending := [] } else ledger w j := by
      have hbundle := bundle_modifyBundle w i j
        (fun b => { b with gui := { b.gui with pendingErrors := [] } }) hi
      simp only [ledger, modifyGui, hbundle]
      split <;> rfl
    rw [ledger_reported, hcleared]
    · split
      · next hij =>
        subst hij
        rfl
      · rfl
    · rwa [modifyGui, length_bundles_modifyBundle]
  · -- a host that does not exist has nothing that waits
    have hnone : bundle w i = {} := by simp [bundle, hi]
    have hsame : modifyGui i (fun g => { g with pendingErrors := [] }) w = w :=
      modifyBundle_eq_self (by rw [hnone])
    rw [hsame, hnone, List.foldl_nil]
    split
    · next hij =>
      subst hij
      simp only [ledger, hnone, Bundle.ledger, List.append_nil]
    · rfl

theorem Accounts.settle (w : World) (i : Nat) (native : NativeHandle) :
    Accounts may w (settle i native w) := by
  intro hasks
  refine ⟨hooks_of_bundle (fun j ↦ ?_) hasks, fun j ↦ ?_⟩
  · exact reading_settle w i native j (·.hooks) (fun _ _ ↦ rfl) fun _ ↦ rfl
  · rw [ledger_settle]
    split
    · exact .single (.recover (ledger w j))
    · exact .refl

namespace Accounts

theorem deskWork (hk : ∀ h p w, Accounts may w (k h p w)) : DeskWork k (Accounts may) where
  same := of_holdings
  trans := trans
  reentry := hk
  call := call
  modifyBundle := modifyBundle
  removeView w i _ := modifyHost w i _ fun _ ↦ rfl
  settle := settle

theorem holding (h : Holding w w') : Accounts may w w' := by
  have hwork : DeskWork (fun _ _ w => w) (Accounts may) := deskWork fun _ _ _ ↦ .of_holdings rfl
  cases h with
  | holdAtlas => exact trans (hwork.acquireAtlas w) (.of_holdings rfl)
  | dropAtlas hkept => exact .of_holdings rfl
  | editAtlas a e halive => exact .of_holdings rfl
  | holdWatchdog i hi => exact trans (hwork.acquireWatchdog w i) (.of_ledger (fun _ ↦ rfl) fun _ ↦ rfl)
  | dropWatchdog hkept => exact trans (hwork.releaseWatchdog w) (.of_ledger (fun _ ↦ rfl) fun _ ↦ rfl)

theorem walk (hresolves : ∀ n native, may (.setCapture (.slot n)) → may (.setCapture (.handle native))) :
    Walk ok may fun _ ↦ Accounts may where
  refl _ := .of_holdings rfl
  calls hk := (deskWork hk).calls hresolves aside
  holding := holding
  openWindow hk w i _ config title x y width height := (deskWork hk).openWindow w i config title x y width
    height fun w _ _ ↦ modifyHost w i _ fun _ ↦ rfl

theorem scripted (hresolves : ∀ n native, may (.setCapture (.slot n)) → may (.setCapture (.handle native)))
    (n : Nat) (i : Nat) (point : HookPoint) (w : World) : Accounts may w (scripted n i point w) := by
  have hwalk : Walk (fun _ ↦ True) may fun _ ↦ Accounts may := walk hresolves
  refine hwalk.scripted (fun n i point w hscripted hasks ↦ ?_) n i point w
  exact hscripted (fun b _ hook _ ↦ Step.usesAll_of_forall (fun _ ↦ trivial) hook.2) hasks hasks

end Accounts

/-- The accounts after a script, however its calls run within one another. -/
theorem run_ledger (hresolves : ∀ n native, may (.setCapture (.slot n)) → may (.setCapture (.handle native)))
    (n : Nat) (hosts : List HostSetup) (steps : List Step) (hsteps : Step.AsksAll may steps) (i : Nat) :
    Ledger.Run may ⟨[], [], [], []⟩ (ledger (Session.runFrom n none (World.empty hosts) steps).2 i) := by
  have hstart : (World.empty hosts).env.HooksAsk may := by
    intro b hb hook hhook
    obtain ⟨s, -, rfl⟩ := List.mem_map.mp hb
    cases hhook
  have hempty : ledger (World.empty hosts) i = ⟨[], [], [], []⟩ := by
    simp only [ledger, bundle, World.empty, List.getD_eq_getElem?_getD, List.getElem?_map,
      List.filterMap_nil]
    cases hosts[i]? <;> rfl
  have hwalk : Walk (fun _ ↦ True) may fun _ ↦ Accounts may := Accounts.walk hresolves
  have hruns := hwalk.runSteps (Accounts.scripted hresolves n) none steps
    (Step.usesAll_of_forall (fun _ ↦ trivial) steps) hsteps (World.empty hosts) hstart
  rw [Session.runFrom_snd, ← hempty]
  exact hruns.run i

end World

end Casement
