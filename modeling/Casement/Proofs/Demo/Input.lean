import Casement.Demo
import Casement.Proofs.World.DeskWork
import Casement.Proofs.World.Ticks

namespace Casement

def Window.pose (win : Window) : Bool × Bool × Bool × Bool :=
  (win.closeRequested, win.keepAlive, win.inFrame, win.context.inFrame)

namespace World

variable {w w' w'' : World} {key : Key} {o : ObjectId} {win : Window}

theorem evolves_quiet (ok : WindowStep → Prop) (h : Nat) (p : HookPoint) (w : World) :
    Evolves ok none w (scripted 0 h p w) := .scripted 0 h p w

structure Abides (w w' : World) : Prop where
  views : ∀ i, ∀ v ∈ (host w' i).views, v ∈ (host w i).views
  kept : w'.env.keptWatchdogs = w.env.keptWatchdogs

namespace Abides

theorem of_views (hviews : ∀ i, (host w' i).views = (host w i).views)
    (hkept : w'.env.keptWatchdogs = w.env.keptWatchdogs) : Abides w w' :=
  ⟨fun i _ hv ↦ hviews i ▸ hv, hkept⟩

theorem trans (h : Abides w w') (h' : Abides w' w'') : Abides w w'' :=
  ⟨fun i v hv ↦ h.views i v (h'.views i v hv), h'.kept.trans h.kept⟩

theorem modifyBundle (w : World) (i : Nat) (f : Bundle → Bundle) (hf : ∀ b, (f b).host.views = b.host.views) :
    Abides w (modifyBundle i f w) :=
  .of_views (fun j ↦ reading_modifyBundle w i j (·.host.views) f hf) rfl

theorem deskWork : DeskWork (scripted 0) Abides where
  same {w w'} h := by
    have hbundles : w'.env.bundles = w.env.bundles := congrArg (·.1) h
    exact .of_views (fun i ↦ by simp only [host, bundle, hbundles]) (congrArg (·.2.2) h)
  trans := trans
  reentry _ _ _ := .of_views (fun _ ↦ rfl) rfl
  call _ _ _ _ := .of_views (fun _ ↦ rfl) rfl
  modifyBundle w i f hf := modifyBundle w i f fun b ↦ congrArg (·.2.1) (hf b)
  removeView w i native := by
    refine ⟨fun j v hv ↦ ?_, rfl⟩
    refine related_modifyBundle w i j (R := fun b b' ↦ ∀ v ∈ b'.host.views, v ∈ b.host.views) (fun _ _ hv ↦ hv)
      (fun b v hv ↦ ?_) v hv
    exact (List.mem_filter.mp hv).1
  settle w i native := by
    refine .of_views (fun j ↦ reading_settle w i native j (·.host.views) (fun _ _ ↦ rfl) fun _ ↦ rfl) ?_
    unfold settle
    generalize (bundle w i).gui.pendingErrors = errors
    have hkept (w : World) (errors : List String) : (errors.foldl (fun w e =>
        note (.recovered native e) (modifyHost i (·.reportError e) (call i (.reportError e) w))) w).env.keptWatchdogs =
        w.env.keptWatchdogs := by
      induction errors generalizing w with
      | nil => rfl
      | cons e errors ih => exact ih _
    exact hkept _ errors

theorem calls : Calls (fun _ ↦ False) (fun _ ↦ False) (scripted 0) fun _ ↦ Abides := by
  refine deskWork.calls (fun _ _ ↦ id) fun {w w'} h ↦ ?_
  cases h with
  | unseen f hcore hdealings huse hask =>
    have hdisplays : (w.modifyEnv f).env.bundles.map (·.host.display) = w.env.bundles.map (·.host.display) :=
      congrArg Prod.fst hdealings
    have hkept : (f w.env).core.keptWatchdogs = w.env.core.keptWatchdogs := by rw [hcore]
    exact .of_views (fun i ↦ congrArg Prod.snd (reading_of_map hdisplays i)) hkept
  | addView i view hview hmay =>
    obtain ⟨-, hmay, -⟩ := hmay
    exact hmay.elim
  | editView i native f hf hmay =>
    rcases hmay with ⟨-, hmay, -⟩ | ⟨-, hmay, -⟩ <;> exact hmay.elim
  | setCapture i native hmay => exact hmay.elim
  | releaseCapture i hmay => exact hmay.elim
  | report i text hmay => exact hmay.elim
  | inject i text => exact .modifyBundle w i _ fun _ ↦ rfl

end Abides

/-- The windows of some keys were entered, none has come or gone, and no frame was presented. -/
structure Enters (keys : List Key) (w w' : World) : Prop where
  evolves : ∀ ok, Evolves ok none w w'
  promptDesk : PromptDesk w'
  abides : Abides w w'
  found : ∀ key, Registry.find? w' (some ()) key = Registry.find? w (some ()) key
  native : ∀ o, (window w' o).native = (window w o).native
  pose : ∀ {key o}, Registry.find? w (some ()) key = some o → (window w' o).pose =
    if key ∈ keys then ((window w o).closeRequested, true, true, true) else (window w o).pose
  presented : presented w' 0 = presented w 0

namespace Enters

variable {keys keys' : List Key}

theorem refl (hw : PromptDesk w) : Enters [] w w :=
  ⟨fun _ ↦ .refl none w, hw, .of_views (fun _ ↦ rfl) rfl, fun _ ↦ rfl, fun _ ↦ rfl, fun _ ↦ rfl, rfl⟩

theorem closeRequested (h : Enters keys w w') (hkey : Registry.find? w (some ()) key = some o) :
    (window w' o).closeRequested = (window w o).closeRequested := by
  have hpose := congrArg Prod.fst (h.pose hkey)
  rw [apply_ite Prod.fst] at hpose
  exact hpose.trans (ite_self _)

theorem trans (h : Enters keys w w') (h' : Enters keys' w' w'') : Enters (keys ++ keys') w w'' where
  evolves ok := (h.evolves ok).trans (h'.evolves ok)
  promptDesk := h'.promptDesk
  abides := h.abides.trans h'.abides
  found key := (h'.found key).trans (h.found key)
  native o := (h'.native o).trans (h.native o)
  pose {key o} hkey := by
    rw [h'.pose ((h.found key).trans hkey), h.closeRequested hkey, h.pose hkey]
    by_cases hmem : key ∈ keys
    · simp [hmem]
    · simp [hmem]
  presented := h'.presented.trans h.presented

theorem of_solo (hw : PromptDesk w) (hevolves : ∀ ok, Evolves ok none w w') (habides : Abides w w')
    (hsolo : Solo o w w' win 0) (hothers : ∀ {key o'}, Registry.find? w (some ()) key = some o' → o' ≠ o → key ∉ keys)
    (hpose : ∀ {key}, Registry.find? w (some ()) key = some o → win.pose =
      if key ∈ keys then ((window w o).closeRequested, true, true, true) else (window w o).pose) :
    Enters keys w w' where
  evolves := hevolves
  promptDesk := hw.of_evolves (hevolves _) (hw.prompt.of_solo hsolo)
  abides := habides
  found := hsolo.find?_eq
  native := hsolo.native_eq
  pose {_ o'} hkey := by
    by_cases ho : o' = o
    · subst ho
      rw [hsolo.value, hpose hkey]
    · rw [hsolo.others ho, if_neg (hothers hkey ho)]
  presented := by rw [hsolo.presented]; simp

theorem of_still (hw : PromptDesk w) (hevolves : ∀ ok, Evolves ok none w w') (habides : Abides w w')
    (hsolo : Solo o w w' win 0) (hpose : win.pose = (window w o).pose) : Enters [] w w' :=
  of_solo hw hevolves habides hsolo (fun _ _ ↦ List.not_mem_nil) fun _ ↦ by
    rw [hpose, if_neg List.not_mem_nil]

theorem of_steady (hw : PromptDesk w) (hevolves : ∀ ok, Evolves ok none w w')
    (habides : Abides w w')
    (hsteady : Steady w w') (hpresented : World.presented w' 0 = World.presented w 0) : Enters [] w w' where
  evolves := hevolves
  promptDesk := hw.of_evolves (hevolves _) (hw.prompt.of_steady hsteady)
  abides := habides
  found key := hsteady.same.find? _ key
  native o := by rw [hsteady.same.window]
  pose _ := by rw [if_neg List.not_mem_nil, hsteady.same.window]
  presented := hpresented

theorem note (hw : PromptDesk w) (r : LogRecord) : Enters [] w (note r w) :=
  of_steady hw (fun _ ↦ .note w r) (.of_views (fun _ ↦ rfl) rfl) (.note w r) rfl

theorem modifyHost (hw : PromptDesk w) (f : Host → Host)
    (hf : ∀ s, (f s).core = s.core ∧ (f s).views = s.views) : Enters [] w (modifyHost 0 f w) := by
  have hseats (s : Host) : (f s).seats = s.seats := by rw [Host.seats, (hf s).2, Host.seats]
  refine of_steady hw ?_ (.modifyBundle w 0 _ fun b ↦ (hf b.host).2) (.modifyHost w 0 f hseats) ?_
  · exact fun _ ↦ .modifyBundle w 0 _ (fun b ↦ by simp [Bundle.core, hf]) fun _ _ ↦ .inl
  · exact reading_modifyBundle w 0 0 (·.stats.presented) _ fun _ ↦ rfl

theorem withWindow_read {β : Type} (hw : PromptDesk w)
    (hkey : Registry.find? w (some ()) key = some o)
    (read : ObjectId → World → β) :
    (withWindow (scripted 0) key (fun o w => (read o w, w)) w).1 = some (read o (w.borrow o)) ∧
      Enters [] w (withWindow (scripted 0) key (fun o w => (read o w, w)) w).2 := by
  obtain ⟨hreply, hsolo⟩ := hw.quiet.withWindow_solo hkey (fun o w => (read o w, w)) (.refl _ _)
    (hw.quiet.solo hkey)
  refine ⟨hreply, of_still hw ?_ ?_ hsolo rfl⟩
  · exact fun ok ↦ .access (evolves_quiet ok) w key fun o w ↦ .refl _ w
  · exact Abides.calls.access w key fun _ _ ↦ .of_views (fun _ ↦ rfl) rfl

end Enters

end World

namespace Demo

open World

variable {w w' : World} {key : Key} {o : ObjectId}

def isPlainInput : Message → Bool
  | .close | .destroy => false
  | _ => true

theorem pose_received {m : Message} (hm : isPlainInput m = true) (win : Window) :
    (win.received m).pose = win.pose := by
  cases m with
  | close | destroy => cases hm
  | char codepoint =>
    simp only [Window.received, Window.charInput]
    split <;> rfl
  | _ => rfl

theorem enters_send (hw : PromptDesk w) (native : NativeHandle) {m : Message}
    (hm : isPlainInput m = true) :
    Enters [] w (send native m w) := by
  have hdestroy : m ≠ .destroy := by
    rintro rfl
    cases hm
  have hevolves (ok : WindowStep → Prop) : Evolves ok none w (send native m w) :=
    (Evolves.calls (evolves_quiet ok)).dispatch w native m
  have habides : Abides w (send native m w) := Abides.calls.dispatch w native m
  cases hfind : World.find? w native with
  | none =>
    have hnone : send native m w = w := by
      unfold send World.dispatch
      rw [show quiet = scripted 0 from rfl, hfind]
    rw [hnone]
    exact .refl hw
  | some key =>
    obtain ⟨-, o, hkey⟩ := find?_isOpen hfind
    refine .of_still hw hevolves habides (hw.quiet.dispatch_solo hdestroy hfind hkey) ?_
    split
    · rfl
    · exact pose_received hm _

theorem enters_sends (hw : PromptDesk w) (native : NativeHandle) {α : Type} (l : List α)
    {m : α → Message}
    (hm : ∀ a, isPlainInput (m a) = true) :
    Enters [] w (l.foldl (fun w a => send native (m a) w) w) := by
  induction l generalizing w with
  | nil => exact .refl hw
  | cons a l ih =>
    have hsent := enters_send hw native (hm a)
    exact hsent.trans (ih hsent.promptDesk)

/-- The input of a tick changes nothing that matters to a heartbeat. -/
theorem enters_input (hw : PromptDesk w) (native : NativeHandle) (tick : Nat) :
    Enters [] w (input native tick w) := by
  have hshift (down : Bool) {w : World} (hw : PromptDesk w) :
      Enters [] w (modifyHost 0 (·.setKey .shift down) w) :=
    .modifyHost hw _ fun _ ↦ ⟨rfl, rfl⟩
  unfold input
  split
  · have hdown := enters_send hw native (m := .buttonDown .left) rfl
    exact hdown.trans (enters_send hdown.promptDesk native rfl)
  · exact enters_send hw native rfl
  · exact (hshift true hw).trans (enters_sends (hshift true hw).promptDesk native _ fun _ ↦ rfl)
  · exact hshift false hw

theorem withWindow_none {β : Type} (hkey : Registry.find? w (some ()) key = none)
    (body : ObjectId → World → β × World) : withWindow quiet key body w = (none, w) := by
  simp [withWindow, Registry.access, hkey]

def Roomy (key : Key) (w : World) : Prop :=
  ∀ o, Registry.find? w (some ()) key = some o → ∀ v ∈ (host w 0).views, v.handle = (window w o).native →
    ∃ p, inside v.rect = .ok p

theorem replay_of_open (hw : PromptDesk w) {first : Shown}
    (hkey : Registry.find? w (some ()) first.key = some o)
    (tick : Nat) : ∃ w₁ v, Enters [] w w₁ ∧ v ∈ (host w 0).views ∧ v.handle = (window w o).native ∧
      replay first tick w = (inside v.rect).map fun p =>
        input (window w o).native tick (modifyHost 0 ({ · with pointer := p }) w₁) := by
  obtain ⟨hreply, hread⟩ := Enters.withWindow_read hw hkey fun o w => (window w o).native
  unfold replay
  rw [show quiet = scripted 0 from rfl]
  generalize withWindow (scripted 0) first.key (fun o w => ((window w o).native, w)) w = result at hreply hread ⊢
  obtain ⟨reply, w₁⟩ := result
  dsimp only at hreply hread
  rw [window_borrow] at hreply
  subst hreply
  -- its native window is there, as it was
  have hseated := hread.promptDesk.prompt.seated
    (Registry.isRegistered_of_find? ((hread.found _).trans hkey))
  rw [hread.native] at hseated
  have hwindow : (host w₁ 0).isWindow (window w o).native = true := Host.isWindow_iff.mpr ⟨_, hseated, rfl⟩
  obtain ⟨v, hv⟩ := Option.isSome_iff_exists.mp hwindow
  have hrect : (host w₁ 0).rect (window w o).native = v.rect := by rw [Host.rect, hv]; rfl
  refine ⟨w₁, v, hread, hread.abides.views 0 v (List.mem_of_find?_eq_some hv), by simpa using List.find?_some hv, ?_⟩
  dsimp only
  rw [hrect]

theorem replay_enters (hw : PromptDesk w) {first : Shown} (hroomy : Roomy first.key w)
    (tick : Nat) :
    ∃ w', replay first tick w = .ok w' ∧ Enters [] w w' := by
  cases hkey : Registry.find? w (some ()) first.key with
  | none => exact ⟨w, by rw [replay, withWindow_none hkey], .refl hw⟩
  | some o =>
    obtain ⟨w₁, v, hread, hv, hhandle, heq⟩ := replay_of_open hw hkey tick
    obtain ⟨p, hp⟩ := hroomy o hkey v hv hhandle
    have hmoved : Enters [] w₁ (modifyHost 0 ({ · with pointer := p }) w₁) :=
      .modifyHost hread.promptDesk _ fun _ ↦ ⟨rfl, rfl⟩
    rw [heq, hp]
    exact ⟨_, rfl, hread.trans (hmoved.trans (enters_input hmoved.promptDesk _ tick))⟩

def Composed (w : World) : Prop :=
  ∀ key o, Registry.find? w (some ()) key = some o → (window w o).context.inFrame = (window w o).inFrame

theorem Composed.enters {keys : List Key} (hw : Composed w) (h : Enters keys w w') : Composed w' := by
  intro key o hkey
  rw [h.found] at hkey
  have hpose := h.pose hkey
  simp only [Window.pose] at hpose
  split at hpose
  · simp only [Prod.mk.injEq] at hpose
    rw [hpose.2.2.1, hpose.2.2.2]
  · simp only [Prod.mk.injEq] at hpose
    rw [hpose.2.2.1, hpose.2.2.2, hw key o hkey]

theorem pose_entered {win : Window} (h : win.context.inFrame = win.inFrame) (s : Surroundings) :
    (win.entered s).pose = (win.closeRequested, true, true, true) := by
  unfold Window.entered
  split
  · next hopen => simp only [Window.pose, h, hopen]
  · next hidle =>
    have hgui : win.context.inFrame = false := h.trans (Bool.eq_false_iff.mpr hidle)
    simp [Window.pose, Window.begun, Window.readFrameInfo, Window.readInput, Window.modifyIo, Context.modifyIo,
      Context.begin, hgui]

theorem showFrame_enters (hw : PromptDesk w) (hcomposed : Composed w) (tick : Nat) (s : Shown) :
    ∃ w', showFrame tick w s = .ok w' ∧ Enters [s.key] w w' := by
  unfold showFrame
  cases hkey : Registry.find? w (some ()) s.key with
  | none =>
    refine ⟨w, by rw [withWindow_none hkey], { Enters.refl hw with pose := fun {key o} hkey' ↦ ?_ }⟩
    rw [if_neg]
    intro hmem
    rw [List.mem_singleton.mp hmem, hkey] at hkey'
    cases hkey'
  | some o =>
    have hsolo := hw.quiet.solo hkey
    obtain ⟨surroundings, hentered⟩ := hsolo.entered
    have hfault : (enter o (w.borrow o)).1.1 = none := by
      have hnone := hsolo.fault_enterFrame
      rw [Window.faults, hcomposed _ o hkey, Bool.not_and_self] at hnone
      exact Option.not_isSome_iff_eq_none.mp (Bool.eq_false_iff.mp hnone)
    obtain ⟨hreply, hshown⟩ := hw.quiet.withWindow_solo hkey enter
      ((Evolves.calls evolves_alone).enterFrame _ o) hentered
    have henters : Enters [s.key] w (withWindow quiet s.key enter w).2 := by
      refine .of_solo hw ?_ ?_ hshown (fun hkey' hne hmem ↦ hne ?_) fun hkey' ↦ ?_
      · exact fun ok ↦ .access (evolves_quiet ok) w s.key fun o w ↦
          (Evolves.calls (evolves_quiet ok)).enterFrame w o
      · exact Abides.calls.access w s.key fun o w ↦ Abides.calls.enterFrame w o
      · rw [List.mem_singleton.mp hmem, hkey] at hkey'
        exact (Option.some.inj hkey').symm
      · rw [hw.quiet.coherent.find?_inj hkey' hkey, if_pos (List.mem_singleton_self _)]
        exact pose_entered (hcomposed _ o hkey) surroundings
    rw [show quiet = scripted 0 from rfl] at henters ⊢
    generalize withWindow (scripted 0) s.key enter w = result at hreply henters ⊢
    generalize (enter o (w.borrow o)).1 = shown at hreply hfault
    obtain ⟨reply, w₁⟩ := result
    obtain ⟨fault, io⟩ := shown
    dsimp only at hreply hfault henters
    subst hreply hfault
    exact ⟨_, rfl, henters.trans (.note henters.promptDesk _)⟩

theorem showFrames_enter (hw : PromptDesk w) (hcomposed : Composed w) (tick : Nat)
    (l : List Shown) :
    ∃ w', l.foldlM (showFrame tick) w = .ok w' ∧ Enters (l.map (·.key)) w w' := by
  induction l generalizing w with
  | nil => exact ⟨w, rfl, .refl hw⟩
  | cons s l ih =>
    obtain ⟨w₁, hshown, henters⟩ := showFrame_enters hw hcomposed tick s
    obtain ⟨w₂, hrest, hafter⟩ := ih henters.promptDesk (hcomposed.enters henters)
    refine ⟨w₂, ?_, henters.trans hafter⟩
    rw [List.foldlM_cons, hshown]
    exact hrest

end Demo

end Casement
