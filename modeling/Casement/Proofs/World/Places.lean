import Casement.Proofs.World.Outline

namespace Casement

theorem Host.eq_of_outline {s s' : Host} (h : s'.outline = s.outline) :
    s'.nextHandle = s.nextHandle ∧ s'.nextTimer = s.nextTimer ∧ s'.timers = s.timers ∧
      s'.accelerators = s.accelerators := by
  simp only [Host.outline, Host.mk.injEq] at h
  obtain ⟨-, hhandle, htimer, -, htimers, haccel, -⟩ := h
  exact ⟨hhandle, htimer, htimers, haccel⟩

theorem Registry.find?_unit {α ε : Type} (r : Registry Unit α ε) (kind : Option Unit) (key : Key) :
    r.find? kind key = (r.entries.get? key).map (·.object) := by
  simp only [Registry.find?]
  cases r.entries.get? key with
  | none => rfl
  | some e => cases kind <;> simp [Registry.matchesKind]

namespace World

variable {ok : WindowStep → Prop} {current : Option ObjectId} {w w' w'' : World} {o : ObjectId}

theorem outline_host (h : w'.env.outline = w.env.outline) (i : Nat) :
    (host w' i).outline = (host w i).outline := by
  have hb : w'.env.bundles.map Bundle.outline = w.env.bundles.map Bundle.outline :=
    congrArg Desk.bundles h
  exact congrArg Bundle.host (reading_of_map hb i)

theorem length_bundles_of_outline (h : w'.env.outline = w.env.outline) :
    w'.env.bundles.length = w.env.bundles.length := by
  simpa [Desk.outline] using congrArg (fun d : Desk ↦ d.bundles.length) h

/-- Hooks use allowed steps, windows are on hosts that exist, handles are used up, and no two
windows are at the same place. -/
structure Placed (ok : WindowStep → Prop) (w : World) : Prop where
  hooks : w.env.HooksUse ok
  host_lt : ∀ {o}, o < w.cells.length → (window w o).host < w.env.bundles.length
  native_lt : ∀ {o}, o < w.cells.length →
    (window w o).native.val < (host w (window w o).host).nextHandle
  place_inj : ∀ {o o'}, o < w.cells.length → o' < w.cells.length →
    (window w o).host = (window w o').host → (window w o).native = (window w o').native → o = o'

structure Extends (w w' : World) : Prop where
  length_le : w.cells.length ≤ w'.cells.length
  hosts : w'.env.bundles.length = w.env.bundles.length
  nextHandle_le : ∀ h, (host w h).nextHandle ≤ (host w' h).nextHandle
  place : ∀ {o}, o < w.cells.length →
    (window w' o).host = (window w o).host ∧ (window w' o).native = (window w o).native
  fresh : ∀ {o}, w.cells.length ≤ o → o < w'.cells.length →
    (host w (window w' o).host).nextHandle ≤ (window w' o).native.val

theorem Extends.trans (h : Extends w w') (h' : Extends w' w'') : Extends w w'' where
  length_le := h.length_le.trans h'.length_le
  hosts := h'.hosts.trans h.hosts
  nextHandle_le i := (h.nextHandle_le i).trans (h'.nextHandle_le i)
  place ho := by
    obtain ⟨hhost, hnative⟩ := h'.place (ho.trans_le h.length_le)
    exact ⟨hhost.trans (h.place ho).1, hnative.trans (h.place ho).2⟩
  fresh {o} hle hlt := by
    by_cases ho : o < w'.cells.length
    · obtain ⟨hhost, hnative⟩ := h'.place ho
      rw [hhost, hnative]
      exact h.fresh hle ho
    · exact (h.nextHandle_le _).trans (h'.fresh (Nat.le_of_not_lt ho) hlt)

theorem Extends.of_place (hlen : w'.cells.length = w.cells.length)
    (hosts : w'.env.bundles.length = w.env.bundles.length)
    (hnext : ∀ h, (host w h).nextHandle ≤ (host w' h).nextHandle)
    (hplace : ∀ o, o < w.cells.length →
      (window w' o).host = (window w o).host ∧ (window w' o).native = (window w o).native) :
    Extends w w' where
  length_le := hlen.ge
  hosts
  nextHandle_le := hnext
  place ho := hplace _ ho
  fresh hle hlt := absurd (hlen ▸ hlt) hle.not_gt

theorem Extends.of_env (hlen : w'.cells.length = w.cells.length) (henv : w'.env = w.env)
    (hwindow : ∀ o, window w' o = window w o) : Extends w w' :=
  .of_place hlen (by rw [henv]) (fun h ↦ by simp [host, bundle, henv]) fun o _ ↦ by
    rw [hwindow]
    exact ⟨rfl, rfl⟩

theorem Placed.of_extends (hw : Placed ok w) (hx : Extends w w')
    (hlen : w'.cells.length = w.cells.length) (hhooks : w'.env.HooksUse ok) : Placed ok w' where
  hooks := hhooks
  host_lt ho := by
    rw [hlen] at ho
    rw [(hx.place ho).1, hx.hosts]
    exact hw.host_lt ho
  native_lt ho := by
    rw [hlen] at ho
    rw [(hx.place ho).1, (hx.place ho).2]
    exact (hw.native_lt ho).trans_le (hx.nextHandle_le _)
  place_inj ho ho' hhost hnative := by
    rw [hlen] at ho ho'
    rw [(hx.place ho).1, (hx.place ho').1] at hhost
    rw [(hx.place ho).2, (hx.place ho').2] at hnative
    exact hw.place_inj ho ho' hhost hnative

structure Coherent (ok : WindowStep → Prop) (w : World) : Prop extends Placed ok w where
  sound : Registry.Sound w

structure Follows (current : Option ObjectId) (w w' : World) : Prop extends Extends w w' where
  keeps : Registry.Keeps current w w'

def Lawful (ok : WindowStep → Prop) (current : Option ObjectId) (w w' : World) : Prop :=
  Coherent ok w → (∀ o, current = some o → w.IsBusy o) → Coherent ok w' ∧ Follows current w w'

theorem Follows.refl (current : Option ObjectId) (w : World) : Follows current w w where
  toExtends := .of_env rfl rfl fun _ ↦ rfl
  keeps := .refl current w

theorem Follows.trans (hw : Coherent ok w) (h : Follows current w w') (h' : Follows current w' w'') :
    Follows current w w'' :=
  ⟨h.toExtends.trans h'.toExtends, h.keeps.trans h'.keeps hw.sound⟩

theorem Lawful.refl (current : Option ObjectId) (w : World) : Lawful ok current w w :=
  fun hw _ ↦ ⟨hw, .refl current w⟩

theorem Lawful.trans (h : Lawful ok current w w') (h' : Lawful ok current w' w'') :
    Lawful ok current w w'' := by
  intro hw hc
  obtain ⟨hw', hf⟩ := h hw hc
  obtain ⟨hw'', hf'⟩ := h' hw' fun o ho ↦ hf.keeps.isBusy hw.sound (hc o ho)
  exact ⟨hw'', hf.trans hw hf'⟩

theorem Lawful.of_none (h : Lawful ok none w w') : Lawful ok current w w' := by
  intro hw _
  obtain ⟨hw', hf⟩ := h hw (by simp)
  exact ⟨hw', hf.toExtends, hf.keeps.of_none⟩

theorem Lawful.of_same (hsame : SameWindows w w')
    (hosts : w'.env.bundles.length = w.env.bundles.length)
    (hhooks : w.env.HooksUse ok → w'.env.HooksUse ok)
    (hnext : ∀ h, (host w h).nextHandle ≤ (host w' h).nextHandle) : Lawful ok current w w' := by
  intro hw hc
  have hlen : w'.cells.length = w.cells.length := by rw [hsame.cells]
  have hx : Extends w w' := .of_place hlen hosts hnext fun o _ ↦ by
    rw [hsame.window]
    exact ⟨rfl, rfl⟩
  obtain ⟨hsound, hkeeps⟩ := hsame.safe current hw.sound hc
  exact ⟨⟨hw.toPlaced.of_extends hx hlen (hhooks hw.hooks), hsound⟩, hx, hkeeps⟩

theorem hooks_of_bundle {P : List Step → Prop} (h : ∀ i, (bundle w' i).hooks = (bundle w i).hooks)
    (hw : ∀ b ∈ w.env.bundles, ∀ hook ∈ b.hooks, P hook.2) :
    ∀ b ∈ w'.env.bundles, ∀ hook ∈ b.hooks, P hook.2 := by
  intro b hb hook hhook
  obtain ⟨i, hi, rfl⟩ := List.getElem_of_mem hb
  refine hooks_bundle hw i hook (h i ▸ ?_)
  simpa [bundle, hi] using hhook

theorem hooksUse_of_bundle (h : ∀ i, (bundle w' i).hooks = (bundle w i).hooks) (hw : w.env.HooksUse ok) :
    w'.env.HooksUse ok := hooks_of_bundle h hw

theorem Lawful.of_bundle (hsame : SameWindows w w')
    (hosts : w'.env.bundles.length = w.env.bundles.length)
    (h : ∀ i, (bundle w' i).hooks = (bundle w i).hooks ∧
      (bundle w' i).host.nextHandle = (bundle w i).host.nextHandle) : Lawful ok current w w' :=
  .of_same hsame hosts (hooksUse_of_bundle fun i ↦ (h i).1) fun i ↦ (h i).2.ge

theorem Lawful.modifyEnv {f : Desk → Desk} (h : (f w.env).bundles = w.env.bundles) :
    Lawful ok current w (w.modifyEnv f) :=
  .of_bundle ⟨rfl, rfl, rfl⟩ (congrArg List.length h) fun i ↦ by simp [bundle, h]

theorem Lawful.modifyHost (h : Nat) (f : Host → Host)
    (hf : ∀ s, s.nextHandle ≤ (f s).nextHandle) :
    Lawful ok current w (modifyHost h f w) := by
  refine .of_same ⟨rfl, rfl, rfl⟩ (length_bundles_modifyBundle ..)
    (hooksUse_of_bundle fun i ↦ reading_modifyBundle w h i (·.hooks) _ fun _ ↦ rfl) fun i ↦ ?_
  exact related_modifyBundle w h i (R := fun b b' ↦ b.host.nextHandle ≤ b'.host.nextHandle)
    (fun _ ↦ le_rfl) fun b ↦ hf b.host

theorem Lawful.acquireAtlas : Lawful ok current w (acquireAtlas w) :=
  .of_bundle (sameWindows_acquireAtlas w) (by simp) (by simp)

theorem Lawful.releaseAtlas : Lawful ok current w (releaseAtlas w) := .modifyEnv rfl

theorem Lawful.acquireWatchdog (h : Nat) : Lawful ok current w (acquireWatchdog h w) :=
  .of_bundle (sameWindows_acquireWatchdog w h) (by simp) fun i ↦
    ⟨reading_acquireWatchdog w h i (·.hooks) fun _ ↦ rfl,
      reading_acquireWatchdog w h i (·.host.nextHandle) fun _ ↦ rfl⟩

theorem Lawful.releaseWatchdog : Lawful ok current w (releaseWatchdog w) :=
  .of_bundle (sameWindows_releaseWatchdog w) (by simp) fun i ↦
    ⟨reading_releaseWatchdog w i (·.hooks) fun _ _ ↦ rfl,
      reading_releaseWatchdog w i (·.host.nextHandle) fun _ _ ↦ rfl⟩

theorem Lawful.equip (h : Nat) : Lawful ok current w (equip h w) :=
  .trans (.acquireWatchdog h) (.trans .acquireAtlas .acquireAtlas)

theorem Lawful.discharge : Lawful ok current w (discharge w) :=
  .trans .releaseAtlas (.trans .releaseAtlas .releaseWatchdog)

theorem Lawful.unlisten (o : ObjectId) : Lawful ok current w (unlisten o w) :=
  .modifyHost _ (·.removeAccelerator _) fun _ ↦ le_rfl

theorem Edit.lawful (h : Edit w w') : Lawful ok current w w' := by
  cases h with
  | addView h view => exact .modifyHost h _ fun s ↦ Nat.le_succ _
  | removeView h native => exact .modifyHost h (·.removeView native) fun _ ↦ le_rfl
  | holdAtlas => exact .trans .acquireAtlas (.modifyEnv rfl)
  | dropAtlas => exact .trans .releaseAtlas (.modifyEnv rfl)
  | editAtlas => exact .modifyEnv rfl
  | holdWatchdog h => exact .trans (.acquireWatchdog h) (.modifyEnv rfl)
  | dropWatchdog => exact .trans .releaseWatchdog (.modifyEnv rfl)

theorem Lawful.update (o : ObjectId) (f : Window → Window)
    (hf : ∀ win, (f win).host = win.host ∧ (f win).native = win.native) :
    Lawful ok (some o) w (w.update o f) := by
  intro hw hc
  have hx : Extends w (w.update o f) := by
    refine .of_place (by simp) rfl (fun _ ↦ le_rfl) fun o' ho' ↦ ?_
    rw [window_update w o o' f ((hc o rfl).lt hw.sound)]
    split
    · exact hf _
    · exact ⟨rfl, rfl⟩
  exact ⟨⟨hw.toPlaced.of_extends hx (by simp) hw.hooks, hw.sound.update o f⟩, hx, .update w o f⟩

theorem Coherent.of_sound (hw : Coherent ok w) (hsound : Registry.Sound w')
    (hlen : w'.cells.length = w.cells.length) (henv : w'.env = w.env)
    (hwindow : ∀ o, window w' o = window w o) : Coherent ok w' :=
  ⟨hw.toPlaced.of_extends (.of_env hlen henv hwindow) hlen (henv ▸ hw.hooks), hsound⟩

theorem Coherent.borrow (hw : Coherent ok w) (ho : w.IsRegistered o) : Coherent ok (w.borrow o) :=
  hw.of_sound (hw.sound.borrow ho) (by simp) rfl fun _ ↦ by simp

theorem Coherent.unborrow (hw : Coherent ok w) (o : ObjectId) :
    Coherent ok (w.setBorrowed o false) :=
  hw.of_sound (hw.sound.unborrow o) (by simp) rfl fun _ ↦ by simp

structure Held (ok : WindowStep → Prop) (o : ObjectId) (w w₂ w₃ : World) : Prop where
  borrowed : Coherent ok (w.borrow o)
  isBusy : (w.borrow o).IsBusy o
  body : Coherent ok w₂
  body_follows : Follows (some o) (w.borrow o) w₂
  returned : Coherent ok (w₂.setBorrowed o false)
  after : Coherent ok w₃
  after_follows : Follows none (w₂.setBorrowed o false) w₃
  lt : o < w₃.cells.length
  held : 1 ≤ w₃.holders o
  alive : o ∉ w₃.dropped
  released : Coherent ok (w₃.letGo o)
  ending : w₃.cells[o]?.any (·.owners ≤ 1) = true → (w₃.letGo o).IsBusy o

theorem Held.isBusy_returned {w₂ w₃ : World} (h : Held ok o w w₂ w₃) (hw : Coherent ok w)
    (ho : w.IsRegistered o) {o' : ObjectId} (hne : o ≠ o') (hb : w.IsBusy o') :
    (w₂.setBorrowed o false).IsBusy o' := by
  have hb₁ := (Registry.isBusy_borrow_iff hw.sound ho).mpr (.inr hb)
  exact (Registry.isBusy_setBorrowed hne false).mpr (h.body_follows.keeps.isBusy h.borrowed.sound hb₁)

theorem Lawful.held {w₂ w₃ : World} (hw : Coherent ok w) (ho : w.IsRegistered o)
    (hfree : w.isBorrowed o = false) (h₁ : Lawful ok (some o) (w.borrow o) w₂)
    (h₂ : Lawful ok none (w₂.setBorrowed o false) w₃) : Held ok o w w₂ w₃ := by
  have hbusy : (w.borrow o).IsBusy o := Registry.isBusy_borrow hw.sound ho
  obtain ⟨hw₂, hf₁⟩ := h₁ (hw.borrow ho) fun _ h ↦ by
    cases h
    exact hbusy
  obtain ⟨hw₃, hf₂⟩ := h₂ (hw₂.unborrow o) (by simp)
  have hlt : o < w₃.cells.length := by
    have hlen := hf₁.length_le
    have hlen' := hf₂.length_le
    simp only [Registry.length_borrow, Registry.length_setBorrowed] at hlen hlen'
    exact ((ho.lt hw.sound).trans_le hlen).trans_le hlen'
  obtain ⟨hholders, hborrowed⟩ :=
    hf₁.keeps.held_once ho hfree hw.sound hf₂.keeps (ho.lt hw.sound)
  rw [hfree] at hborrowed
  exact
    { borrowed := hw.borrow ho
      isBusy := hbusy
      body := hw₂
      body_follows := hf₁
      returned := hw₂.unborrow o
      after := hw₃
      after_follows := hf₂
      lt := hlt
      held := by simp [hholders]
      alive := Registry.not_mem_dropped_of_holders hw₃.sound (by simp [hholders])
      released := hw₃.of_sound (hw₃.sound.letGo (by simp [hholders]) (by simp [hborrowed]))
        (by simp) rfl fun _ ↦ by simp
      ending := Registry.isBusy_letGo hlt }

theorem Held.extends {w₂ w₃ : World} (h : Held ok o w w₂ w₃) : Extends w (w₃.letGo o) := by
  have hstart : Extends w (w.borrow o) := .of_env (by simp) rfl fun _ ↦ by simp
  have hback : Extends w₂ (w₂.setBorrowed o false) :=
    .of_env (by simp) rfl fun _ ↦ by simp
  have hgone : Extends w₃ (w₃.letGo o) := .of_env (by simp) rfl fun _ ↦ by simp
  exact hstart.trans (h.body_follows.toExtends.trans
    (hback.trans (h.after_follows.toExtends.trans hgone)))

/-- The end of a window, from the moment its last owner has let go. -/
theorem Lawful.ending {w₂ : World} (hdrop : Lawful ok (some o) (World.unlisten o (w.letGo o)) w₂)
    (hw : Coherent ok (w.letGo o)) (hbusy : (w.letGo o).IsBusy o) :
    Coherent ok (World.discharge w₂) ∧ Follows (some o) (w.letGo o) (World.discharge w₂) :=
  (Lawful.unlisten o).trans (hdrop.trans .discharge) hw fun _ heq ↦ by
    cases heq
    exact hbusy

theorem unlisten_busy (hw : Coherent ok (w.letGo o)) (hbusy : (w.letGo o).IsBusy o) :
    Coherent ok (unlisten o (w.letGo o)) ∧
      ∀ o', some o = some o' → (unlisten o (w.letGo o)).IsBusy o' := by
  have hlawful : Lawful ok (some o) (w.letGo o) (unlisten o (w.letGo o)) := .unlisten o
  obtain ⟨hw', hf⟩ := hlawful hw fun _ heq ↦ by cases heq; exact hbusy
  exact ⟨hw', fun _ heq ↦ by cases heq; exact hf.keeps.isBusy hw.sound hbusy⟩

theorem Lawful.hold {w₂ w₃ : World} (ho : w.IsRegistered o) (hfree : w.isBorrowed o = false)
    (h₁ : Lawful ok (some o) (w.borrow o) w₂) (h₂ : Lawful ok none (w₂.setBorrowed o false) w₃)
    (howned : w₃.cells[o]?.any (·.owners ≤ 1) = false) : Lawful ok none w (w₃.letGo o) := by
  intro hw hc
  have h := Lawful.held hw ho hfree h₁ h₂
  have hsafe : Registry.Safe none w (w₃.letGo o) :=
    Registry.safe_hold ho hfree (fun _ _ ↦ ⟨h.body.sound, h.body_follows.keeps⟩)
      (fun _ _ ↦ ⟨h.after.sound, h.after_follows.keeps⟩) (.stay howned rfl)
  exact ⟨h.released, h.extends, (hsafe hw.sound hc).2⟩

theorem Lawful.holdLast {w₂ w₃ w₄ : World} (ho : w.IsRegistered o)
    (hfree : w.isBorrowed o = false) (h₁ : Lawful ok (some o) (w.borrow o) w₂)
    (h₂ : Lawful ok none (w₂.setBorrowed o false) w₃)
    (hlast : w₃.cells[o]?.any (·.owners ≤ 1) = true)
    (hdrop : Lawful ok (some o) (World.unlisten o (w₃.letGo o)) w₄) :
    Lawful ok none w (World.discharge w₄) := by
  intro hw hc
  have h := Lawful.held hw ho hfree h₁ h₂
  obtain ⟨hw', hf⟩ := hdrop.ending h.released (h.ending hlast)
  have hsafe : Registry.Safe none w (World.discharge w₄) :=
    Registry.safe_hold ho hfree (fun _ _ ↦ ⟨h.body.sound, h.body_follows.keeps⟩)
      (fun _ _ ↦ ⟨h.after.sound, h.after_follows.keeps⟩) (.last hlast fun _ _ ↦ ⟨hw'.sound, hf.keeps⟩)
  exact ⟨hw', h.extends.trans hf.toExtends, (hsafe hw.sound hc).2⟩

structure Left (ok : WindowStep → Prop) (o : ObjectId) (w w₁ : World) : Prop where
  lt : o < w₁.cells.length
  forgotten : Coherent ok w₁
  alive : o ∉ w₁.dropped
  released : Coherent ok (w₁.letGo o)
  extends_ : Extends w (w₁.letGo o)
  safe : ∀ {w' : World}, Registry.LetsGo o w₁ w' → Registry.Safe none w w'
  ending : w₁.cells[o]?.any (·.owners ≤ 1) = true → (w₁.letGo o).IsBusy o

theorem Left.erase {key : Key} (hw : Coherent ok w) (hkey : Registry.find? w (some ()) key = some o) :
    Left ok o w { w with entries := w.entries.erase key } := by
  obtain ⟨e, he, -, rfl⟩ := Registry.find?_eq_some hkey
  have hsound := hw.sound.erase he
  have hholders := Registry.holders_erase hw.sound he
  have hforgotten : Coherent ok { w with entries := w.entries.erase key } :=
    hw.of_sound hsound rfl rfl fun _ ↦ rfl
  have hlt := hw.sound.object_lt he
  exact
    { lt := hlt
      forgotten := hforgotten
      alive := Registry.not_mem_dropped_of_holders hsound (by simp [hholders])
      released := hforgotten.of_sound (hsound.letGo (by simp [hholders]) fun hb ↦ by
        have := hw.sound.held hb
        rw [hholders, if_pos rfl]
        omega) (by simp) rfl fun _ ↦ by simp
      extends_ := .of_env (by simp) rfl fun _ ↦ by simp; rfl
      safe := Registry.safe_forget he
      ending := Registry.isBusy_letGo hlt }

theorem Forgets.left {w₁ : World} (hf : Forgets o w w₁) (hw : Coherent ok w) : Left ok o w w₁ := by
  cases hf with
  | unregister hkey => exact .erase hw hkey
  | @destroy key native _ hkey =>
    have herase : Lawful ok none w (indexErase native w) := .modifyEnv rfl
    obtain ⟨hw', hf⟩ := herase hw (by simp)
    have h := Left.erase hw' hkey
    exact
      { h with
        extends_ := hf.toExtends.trans h.extends_
        safe := fun hgo ↦
          (.of_eq rfl rfl rfl : Registry.Safe none w (indexErase native w)).trans (h.safe hgo) }

theorem Lawful.leave {w₁ : World} (hf : Forgets o w w₁)
    (howned : w₁.cells[o]?.any (·.owners ≤ 1) = false) : Lawful ok none w (w₁.letGo o) := by
  intro hw hc
  have h := hf.left hw
  exact ⟨h.released, h.extends_, (h.safe (.stay howned rfl) hw.sound hc).2⟩

theorem Lawful.leaveLast {w₁ w₂ : World} (hf : Forgets o w w₁)
    (hlast : w₁.cells[o]?.any (·.owners ≤ 1) = true)
    (hdrop : Lawful ok (some o) (World.unlisten o (w₁.letGo o)) w₂) :
    Lawful ok none w (World.discharge w₂) := by
  intro hw hc
  have h := hf.left hw
  obtain ⟨hw', hfo⟩ := hdrop.ending h.released (h.ending hlast)
  exact ⟨hw', h.extends_.trans hfo.toExtends,
    (h.safe (.last hlast fun _ _ ↦ ⟨hw'.sound, hfo.keeps⟩) hw.sound hc).2⟩

theorem window_register (w : World) (win : Window) (o : ObjectId) :
    window (w.register () win).2 o = if o = w.cells.length then win else window w o := by
  rw [window, Registry.value?_register]
  split <;> rfl

section Install

variable (win : Window) (w : World)

theorem window_install (o : ObjectId) :
    window (install win w) o = if o = w.cells.length then win else window w o :=
  window_register w win o

theorem lt_length_install {o : ObjectId} :
    o < (install win w).cells.length ↔ o < w.cells.length ∨ o = w.cells.length :=
  Registry.lt_length_register () win

theorem get?_install (hw : w.Sound) (key : Key) : (install win w).entries.get? key =
    if key = w.entries.nextKey then some ⟨(), w.cells.length⟩ else w.entries.get? key :=
  Registry.get?_register () win hw key

theorem reading_install {β : Type} (i : Nat) (read : Bundle → β)
    (haccel : ∀ (b : Bundle) (accelerators : List NativeHandle),
      read { b with host := { b.host with accelerators } } = read b) :
    read (bundle (install win w) i) = read (bundle w i) := by
  refine reading_modifyBundle _ win.host i read _ fun b ↦ ?_
  dsimp only
  unfold Host.addAccelerator
  split
  · rfl
  · exact haccel b _

end Install

theorem Lawful.register {win : Window} (hh : win.host < w.env.bundles.length)
    (hused : win.native.val < (host w win.host).nextHandle)
    (hnew : ∀ {o}, o < w.cells.length → (window w o).host = win.host →
      (window w o).native ≠ win.native) :
    Coherent ok w → Coherent ok (w.register () win).2 ∧
      Registry.Keeps none w (w.register () win).2 := by
  intro hw
  have hsound := hw.sound.register () win
  have hkeeps : Registry.Keeps none w (w.register () win).2 := .register () win hw.sound
  have hold {o : ObjectId} (ho : o < w.cells.length) : window (w.register () win).2 o = window w o := by
    rw [window_register, if_neg ho.ne]
  have hlast : window (w.register () win).2 w.cells.length = win := by rw [window_register, if_pos rfl]
  have hsplit {o : ObjectId} (ho : o < (w.register () win).2.cells.length) :
      o < w.cells.length ∨ o = w.cells.length := (Registry.lt_length_register () win).mp ho
  refine ⟨⟨⟨hw.hooks, ?_, ?_, ?_⟩, hsound⟩, hkeeps⟩
  · intro o ho
    rcases hsplit ho with ho | rfl
    · rw [hold ho]
      exact hw.host_lt ho
    · rwa [hlast]
  · intro o ho
    rcases hsplit ho with ho | rfl
    · rw [hold ho]
      exact hw.native_lt ho
    · rwa [hlast]
  · intro o o' ho ho' hhost hnative
    rcases hsplit ho with ho | rfl <;> rcases hsplit ho' with ho' | rfl
    · rw [hold ho, hold ho'] at hhost hnative
      exact hw.place_inj ho ho' hhost hnative
    · rw [hold ho, hlast] at hhost hnative
      exact absurd hnative (hnew ho hhost)
    · rw [hlast, hold ho'] at hhost hnative
      exact absurd hnative.symm (hnew ho' hhost.symm)
    · rfl

structure Opened (ok : WindowStep → Prop) (win : Window) (view : NativeHandle → View)
    (w w₁ w₂ : World) : Prop where
  equipped : Coherent ok (equip win.host w)
  equip_follows : Follows none w (equip win.host w)
  before : Coherent ok w₁
  before_follows : Follows none (equip win.host w) w₁
  viewed : Coherent ok (modifyHost win.host (·.addView view) w₁)
  view_follows : Follows none w₁ (modifyHost win.host (·.addView view) w₁)
  after : Coherent ok w₂
  after_follows : Follows none (modifyHost win.host (·.addView view) w₁) w₂
  host_lt : win.host < w₂.env.bundles.length
  new : ∀ {o}, o < w₂.cells.length → (window w₂ o).host = win.host → (window w₂ o).native ≠ win.native
  registered : Coherent ok (w₂.register () win).2
  register_follows : Registry.Keeps none w₂ (w₂.register () win).2

theorem Lawful.openedFacts {win : Window} {view : NativeHandle → View} {w₁ w₂ : World}
    (hw : Coherent ok w) (hh : win.host < w.env.bundles.length)
    (hbefore : Lawful ok none (World.equip win.host w) w₁)
    (hnative : win.native = (host w₁ win.host).freshHandle)
    (hafter : Lawful ok none (World.modifyHost win.host (·.addView view) w₁) w₂) :
    Opened ok win view w w₁ w₂ := by
  have hequip : Lawful ok none w (World.equip win.host w) := .equip win.host
  obtain ⟨hw₀, hf₀⟩ := hequip hw (by simp)
  obtain ⟨hw₁, hf₁⟩ := hbefore hw₀ (by simp)
  have hview : Lawful ok none w₁ (World.modifyHost win.host (·.addView view) w₁) :=
    .modifyHost win.host _ fun _ ↦ Nat.le_succ _
  obtain ⟨hw', hf'⟩ := hview hw₁ (by simp)
  obtain ⟨hw₂, hf₂⟩ := hafter hw' (by simp)
  have hh₁ : win.host < w₁.env.bundles.length := by rwa [hf₁.hosts, hf₀.hosts]
  have hnext : (host (World.modifyHost win.host (·.addView view) w₁) win.host).nextHandle =
      win.native.val + 1 := by
    rw [host_modifyHost _ _ _ _ hh₁, if_pos rfl, hnative]
    rfl
  have hused : win.native.val < (host w₂ win.host).nextHandle := by
    have := hf₂.nextHandle_le win.host
    omega
  have hnew {o : ObjectId} (ho : o < w₂.cells.length) (hhost : (window w₂ o).host = win.host) :
      (window w₂ o).native ≠ win.native := by
    intro heq
    by_cases hlt : o < w₁.cells.length
    · -- older windows have handles below the one that was free then
      have hplace : (window w₂ o).host = (window w₁ o).host ∧
          (window w₂ o).native = (window w₁ o).native := hf₂.place hlt
      have := hw₁.native_lt hlt
      rw [← hplace.1, ← hplace.2, hhost, heq, hnative] at this
      exact absurd this (Nat.lt_irrefl _)
    · -- windows opened meanwhile have handles above it
      have := hf₂.fresh (o := o) (Nat.le_of_not_lt hlt) ho
      rw [hhost, heq, hnext] at this
      omega
  have hh₂ : win.host < w₂.env.bundles.length := by rwa [hf₂.hosts, hf'.hosts]
  obtain ⟨hw₃, hk⟩ := Lawful.register hh₂ hused hnew hw₂
  exact ⟨hw₀, hf₀, hw₁, hf₁, hw', hf', hw₂, hf₂, hh₂, hnew, hw₃, hk⟩

theorem Lawful.opened {win : Window} {view : NativeHandle → View} {w₁ w₂ : World}
    (hh : win.host < w.env.bundles.length) (hbefore : Lawful ok none (World.equip win.host w) w₁)
    (hnative : win.native = (host w₁ win.host).freshHandle)
    (hafter : Lawful ok none (World.modifyHost win.host (·.addView view) w₁) w₂) :
    Lawful ok none w (install win w₂) := by
  intro hw _
  have h := Lawful.openedFacts hw hh hbefore hnative hafter
  have hindex : Lawful ok none (w₂.register () win).2
      (indexInsert win.native (w₂.register () win).1 (w₂.register () win).2) := .modifyEnv rfl
  have hinstall : Lawful ok none (w₂.register () win).2 (install win w₂) :=
    hindex.trans (.modifyHost win.host (·.addAccelerator win.native) fun s ↦ by
      unfold Host.addAccelerator
      split <;> exact le_rfl)
  have hx : Extends w w₂ := h.equip_follows.toExtends.trans (h.before_follows.toExtends.trans
    (h.view_follows.toExtends.trans h.after_follows.toExtends))
  have hk : Registry.Keeps none w w₂ :=
    ((h.equip_follows.trans hw (h.before_follows.trans h.equipped
      (h.view_follows.trans h.before h.after_follows)))).keeps
  obtain ⟨hw', hf⟩ := hinstall h.registered (by simp)
  have hregister : Extends w (w₂.register () win).2 := by
    refine ⟨hx.length_le.trans h.register_follows.length_le, hx.hosts, hx.nextHandle_le, ?_, ?_⟩
    · intro o ho
      rw [window_register, if_neg (ho.trans_le hx.length_le).ne]
      exact hx.place ho
    · intro o hle hlt
      rw [window_register]
      split
      · rw [hnative]
        exact (h.equip_follows.nextHandle_le _).trans (h.before_follows.nextHandle_le _)
      · next hne =>
        exact hx.fresh hle (((Registry.lt_length_register () win).mp hlt).resolve_right hne)
  exact ⟨hw', hregister.trans hf.toExtends, (hk.trans h.register_follows hw.sound).trans hf.keeps hw.sound⟩

theorem Moves.lawful (h : Moves ok current w w') : Lawful ok current w w' := by
  induction h with
  | refl current w => exact .refl current w
  | trans _ _ ih ih' => exact ih.trans ih'
  | nested o _ ih => exact .of_none ih
  | assuming _ ih => exact fun hw ↦ ih hw.hooks hw
  | silent w f houtline hhooks =>
    exact .of_same ⟨rfl, rfl, rfl⟩ (length_bundles_of_outline houtline) hhooks fun i ↦
      (Host.eq_of_outline (outline_host houtline i)).1.ge
  | edit h => exact h.lawful
  | touch w o f hf => exact .update o f fun win ↦ ⟨(hf win).1, (hf win).2.1⟩
  | keepAtlas w o => exact .trans (.modifyEnv rfl) (.modifyEnv rfl)
  | hold ho hfree _ _ howned ih₁ ih₂ => exact .hold ho hfree ih₁ ih₂ howned
  | holdLast ho hfree _ _ hlast _ ih₁ ih₂ ih₃ => exact .holdLast ho hfree ih₁ ih₂ hlast ih₃
  | leave hf howned => exact .leave hf howned
  | leaveLast hf hlast _ ih => exact .leaveLast hf hlast ih
  | unindex => exact .modifyEnv rfl
  | openFailed hh _ _ ih₁ ih₂ =>
    exact (Lawful.equip _).trans (ih₁.trans (Lawful.releaseAtlas.trans
      (ih₂.trans (Lawful.releaseAtlas.trans .releaseWatchdog))))
  | opened win hh _ hnative view _ _ _ ih₁ ih₂ => exact .opened hh ih₁ hnative ih₂

structure AtRest (w : World) : Prop where
  free : ∀ {o}, o < w.cells.length → w.isBorrowed o = false
  unheld : ∀ {o}, o < w.cells.length → w.holders o = 0

theorem AtRest.of_follows (h : AtRest w) (hf : Follows none w w') : AtRest w' where
  free {o} ho := by
    by_cases hlt : o < w.cells.length
    · rw [hf.keeps.borrowed hlt, h.free hlt]
    · exact (hf.keeps.fresh (Nat.le_of_not_lt hlt) ho).2
  unheld {o} ho := by
    by_cases hlt : o < w.cells.length
    · rw [hf.keeps.holders hlt, h.unheld hlt]
    · exact (hf.keeps.fresh (Nat.le_of_not_lt hlt) ho).1

theorem AtRest.mem_dropped_iff (h : AtRest w) (hw : Coherent ok w) (ho : o < w.cells.length) :
    o ∈ w.dropped ↔ ¬ w.IsRegistered o := by
  rw [hw.sound.dropped_iff]
  refine ⟨fun hd hreg ↦ ?_, fun hreg ↦ ⟨ho, ?_⟩⟩
  · have := hw.sound.owned hreg
    omega
  · rw [Registry.holders_of_not_isRegistered hreg, h.unheld ho]

def listening (w : World) : List ObjectId :=
  (List.range w.cells.length).filter (· ∉ w.dropped)

theorem mem_listening : o ∈ listening w ↔ o < w.cells.length ∧ o ∉ w.dropped := by
  simp [listening]

theorem nodup_listening (w : World) : (listening w).Nodup := List.nodup_range.filter _

theorem listening_congr (hlen : w'.cells.length = w.cells.length) (hd : w'.dropped = w.dropped) :
    listening w' = listening w := by simp [listening, hlen, hd]

theorem dropped_letGo_of_owned (howned : w.cells[o]?.any (·.owners ≤ 1) = false) :
    (w.letGo o).dropped = w.dropped := by
  simp only [Registry.letGo]
  rw [if_neg (by simp [howned])]

theorem dropped_letGo_of_last (hlast : w.cells[o]?.any (·.owners ≤ 1) = true) :
    (w.letGo o).dropped = o :: w.dropped := by
  simp only [Registry.letGo]
  rw [if_pos hlast]

theorem listening_letGo_of_last (hlast : w.cells[o]?.any (·.owners ≤ 1) = true) :
    listening (w.letGo o) = (listening w).filter (· ≠ o) := by
  simp only [listening, dropped_letGo_of_last hlast, Registry.length_letGo, List.filter_filter]
  refine List.filter_congr fun o' _ ↦ ?_
  simp

theorem listening_register (hw : Coherent ok w) (win : Window) :
    listening (w.register () win).2 = listening w ++ [w.cells.length] := by
  have hnew : w.cells.length ∉ w.dropped := fun h ↦
    absurd (hw.sound.dropped_iff.mp h).1 (Nat.lt_irrefl _)
  simp only [listening, Registry.register, List.length_append, List.length_singleton, List.range_succ,
    List.filter_append]
  congr 1
  exact List.filter_eq_self.mpr fun o ho ↦ decide_eq_true (List.mem_singleton.mp ho ▸ hnew)

theorem AtRest.mem_listening_iff (h : AtRest w) (hw : Coherent ok w) :
    o ∈ listening w ↔ ∃ key, Registry.find? w (some ()) key = some o := by
  rw [mem_listening]
  constructor
  · rintro ⟨hlt, hmem⟩
    obtain ⟨key, e, he, rfl⟩ := not_not.mp (mt (h.mem_dropped_iff hw hlt).mpr hmem)
    exact ⟨key, by rw [Registry.find?_unit, he]; rfl⟩
  · rintro ⟨key, hkey⟩
    have hreg := Registry.isRegistered_of_find? hkey
    exact ⟨hreg.lt hw.sound, Registry.not_mem_dropped_of_isRegistered hw.sound hreg⟩

theorem coherent_empty (hosts : List HostSetup) : Coherent ok (World.empty hosts) where
  hooks b hb hook hhook := by
    obtain ⟨s, -, rfl⟩ := List.mem_map.mp hb
    cases hhook
  host_lt ho := absurd ho (Nat.not_lt_zero _)
  native_lt ho := absurd ho (Nat.not_lt_zero _)
  place_inj ho := absurd ho (Nat.not_lt_zero _)
  sound :=
    { table := SlotMap.wellFormed_empty
      object_lt := fun h ↦ by simp [World.empty, SlotMap.get?, SlotMap.slot?] at h
      key_unique := fun h ↦ by simp [World.empty, SlotMap.get?, SlotMap.slot?] at h
      owned := fun ⟨_, _, h, _⟩ ↦ by simp [World.empty, SlotMap.get?, SlotMap.slot?] at h
      held := fun h ↦ by simp [World.empty, Registry.isBorrowed] at h
      dropped_iff := by simp [World.empty]
      dropped_nodup := by simp [World.empty] }

theorem atRest_empty (hosts : List HostSetup) : AtRest (World.empty hosts) where
  free ho := absurd ho (Nat.not_lt_zero _)
  unheld ho := absurd ho (Nat.not_lt_zero _)

theorem Evolves.run (n : Nat) (w : World) {steps : List Step} (hs : Step.UsesAll ok steps) :
    Evolves ok none w (Session.runFrom n none w steps).2 := by
  rw [Session.runFrom_snd]
  exact .runSteps (fun h p w ↦ .scripted n h p w) none steps hs w

theorem Evolves.lawful (h : Evolves ok current w w') : Lawful ok current w w' := h.moves.lawful

end World

end Casement
