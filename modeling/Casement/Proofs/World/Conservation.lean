import Casement.Proofs.World.Places

namespace Casement.World

variable {ι : Type} {ok : WindowStep → Prop} {current : Option ObjectId} {w w' : World}
  {o : ObjectId} {hosts : Nat} {P : ι → World → Prop} {lent : ι → ι} {due : ι → Window → ι} {a : ι}

/-- The moves keep a property of worlds on a number of hosts. While a window is being opened or
dropped `lent` is outstanding, and `due` once its native window has been made. -/
structure Conserved (ok : WindowStep → Prop) (hosts : Nat) (P : ι → World → Prop) (lent : ι → ι)
    (due : ι → Window → ι) : Prop where
  silent : ∀ {a w} {f : Desk → Desk}, (f w.env).outline = w.env.outline → P a w → P a (w.modifyEnv f)
  edit : ∀ {a w w'}, Edit w w' → P a w → P a w'
  touch : ∀ {a w o} {f : Window → Window}, o < w.cells.length →
    (∀ win, (f win).host = win.host ∧ (f win).native = win.native) → P a w → P a (w.update o f)
  keepAtlas : ∀ {a w}, P a w →
    P a (keepAtlas (w.modifyEnv fun d => { d with atlas := d.atlas.retain }))
  borrow : ∀ {a w} (o : ObjectId), P a w → P a (w.borrow o)
  unborrow : ∀ {a w} (o : ObjectId), P a w → P a (w.setBorrowed o false)
  letGo : ∀ {a w o}, w.cells[o]?.any (·.owners ≤ 1) = false → P a w → P a (w.letGo o)
  forget : ∀ {a w w' o}, Forgets o w w' → P a w → P a w'
  unindex : ∀ {a w native key}, w.env.index.lookup native = some key → w.entries.get? key = none →
    P a w → P a (indexErase native w)
  unlisten : ∀ {a w o}, Coherent ok w → w.env.bundles.length = hosts → o < w.cells.length →
    o ∉ w.dropped → w.cells[o]?.any (·.owners ≤ 1) = true → P a w →
    P (lent a) (unlisten o (w.letGo o))
  discharge : ∀ {a w}, P (lent a) w → P a (discharge w)
  equip : ∀ {a w i}, i < w.env.bundles.length → P a w → P (lent a) (equip i w)
  releaseAtlas : ∀ {a w}, P a w → P a (releaseAtlas w)
  releaseWatchdog : ∀ {a w}, P (lent a) w → P a (releaseWatchdog w)
  addView : ∀ {a w win} {view : NativeHandle → View}, win.host < w.env.bundles.length →
    win.native = (host w win.host).freshHandle →
    (∀ handle, (view handle).handle = handle ∧ (view handle).parent = none) → P (lent a) w →
    P (due a win) (modifyHost win.host (·.addView view) w)
  install : ∀ {a w win}, Coherent ok w → w.env.bundles.length = hosts →
    win.host < w.env.bundles.length →
    (∀ o < w.cells.length, (window w o).host = win.host → (window w o).native ≠ win.native) →
    P (due a win) w → P a (install win w)

def Conserves (ok : WindowStep → Prop) (hosts : Nat) (P : ι → World → Prop)
    (current : Option ObjectId) (w w' : World) : Prop :=
  Coherent ok w → (∀ o, current = some o → w.IsBusy o) → w.env.bundles.length = hosts →
    ∀ {a}, P a w → P a w'

theorem Conserved.held (hP : Conserved ok hosts P lent due) {w₂ w₃ : World}
    (hm : Held ok o w w₂ w₃) (hhosts : w.env.bundles.length = hosts)
    (h₁ : Conserves ok hosts P (some o) (w.borrow o) w₂)
    (h₂ : Conserves ok hosts P none (w₂.setBorrowed o false) w₃) (h : P a w) : P a w₃ := by
  have hbody : P a w₂ :=
    h₁ hm.borrowed (fun _ heq ↦ by cases heq; exact hm.isBusy) hhosts (hP.borrow o h)
  exact h₂ hm.returned (by simp) (hm.body_follows.hosts.trans hhosts) (hP.unborrow o hbody)

theorem Conserved.ending (hP : Conserved ok hosts P lent due) {w₂ : World} (hw : Coherent ok w)
    (hhosts : w.env.bundles.length = hosts) (ho : o < w.cells.length) (halive : o ∉ w.dropped)
    (hlast : w.cells[o]?.any (·.owners ≤ 1) = true) (hreleased : Coherent ok (w.letGo o))
    (hbusy : (w.letGo o).IsBusy o)
    (hdrop : Conserves ok hosts P (some o) (World.unlisten o (w.letGo o)) w₂) (h : P a w) :
    P a (World.discharge w₂) := by
  obtain ⟨hw₁, hc₁⟩ := unlisten_busy hreleased hbusy
  have hhosts₁ : (World.unlisten o (w.letGo o)).env.bundles.length = hosts :=
    (length_bundles_modifyHost ..).trans hhosts
  exact hP.discharge (hdrop hw₁ hc₁ hhosts₁ (hP.unlisten hw hhosts ho halive hlast h))

/-- What the moves keep holds at every moment. -/
theorem Moves.conserves (h : Moves ok current w w') (hP : Conserved ok hosts P lent due) :
    Conserves ok hosts P current w w' := by
  induction h with
  | refl => exact fun _ _ _ _ h ↦ h
  | trans h _ ih ih' =>
    intro hw hc hhosts a ha
    obtain ⟨hw', hf⟩ := h.lawful hw hc
    exact ih' hw' (fun o ho ↦ hf.keeps.isBusy hw.sound (hc o ho)) (hf.hosts.trans hhosts)
      (ih hw hc hhosts ha)
  | nested o _ ih => exact fun hw _ hhosts ↦ ih hw (by simp) hhosts
  | assuming _ ih => exact fun hw ↦ ih hw.hooks hw
  | silent w f houtline => exact fun _ _ _ _ ↦ hP.silent houtline
  | edit h => exact fun _ _ _ _ ↦ hP.edit h
  | touch w o f hf =>
    exact fun hw hc _ _ ↦ hP.touch ((hc o rfl).lt hw.sound) fun win ↦ ⟨(hf win).1, (hf win).2.1⟩
  | keepAtlas => exact fun _ _ _ _ ↦ hP.keepAtlas
  | hold ho hfree h₁ h₂ howned ih₁ ih₂ =>
    intro hw _ hhosts a ha
    have hm := Lawful.held hw ho hfree h₁.lawful h₂.lawful
    exact hP.letGo howned (hP.held hm hhosts ih₁ ih₂ ha)
  | holdLast ho hfree h₁ h₂ hlast h₃ ih₁ ih₂ ih₃ =>
    intro hw _ hhosts a ha
    have hm := Lawful.held hw ho hfree h₁.lawful h₂.lawful
    exact hP.ending hm.after (hm.extends.hosts.trans hhosts) hm.lt hm.alive hlast hm.released
      (hm.ending hlast) ih₃ (hP.held hm hhosts ih₁ ih₂ ha)
  | leave hf howned => exact fun _ _ _ _ ha ↦ hP.letGo howned (hP.forget hf ha)
  | leaveLast hf hlast h ih =>
    intro hw _ hhosts a ha
    have hm := hf.left hw
    exact hP.ending hm.forgotten (hm.extends_.hosts.trans hhosts) hm.lt hm.alive hlast hm.released
      (hm.ending hlast) ih (hP.forget hf ha)
  | unindex hindex hkey =>
    exact fun _ _ _ _ ↦ hP.unindex hindex (by simpa [Registry.find?_unit] using hkey)
  | @openFailed w w₁ w₂ i hh h₁ h₂ ih₁ ih₂ =>
    intro hw _ hhosts a ha
    have hequip : Lawful ok none w (World.equip i w) := .equip i
    have hrelease : Lawful ok none w₁ (World.releaseAtlas w₁) := .releaseAtlas
    obtain ⟨hw₀, hf₀⟩ := hequip hw (by simp)
    obtain ⟨hw₁, hf₁⟩ := h₁.lawful hw₀ (by simp)
    have hhosts₀ := hf₀.hosts.trans hhosts
    have ha₁ := ih₁ hw₀ (by simp) hhosts₀ (hP.equip hh ha)
    have ha₂ := ih₂ (hrelease hw₁ (by simp)).1 (by simp) (hf₁.hosts.trans hhosts₀)
      (hP.releaseAtlas ha₁)
    exact hP.releaseWatchdog (hP.releaseAtlas ha₂)
  | @opened w w₁ w₂ win hh h₁ hnative view hview h₂ hatlas ih₁ ih₂ =>
    intro hw _ hhosts a ha
    have hm := Lawful.openedFacts hw hh h₁.lawful hnative h₂.lawful
    have hhosts₀ := hm.equip_follows.hosts.trans hhosts
    have hhosts₁ := hm.before_follows.hosts.trans hhosts₀
    have hhosts₂ := hm.view_follows.hosts.trans hhosts₁
    have hh₁ : win.host < w₁.env.bundles.length := by rwa [hhosts₁, ← hhosts]
    have ha₁ := ih₁ hm.equipped (by simp) hhosts₀ (hP.equip hh ha)
    have ha₂ := ih₂ hm.viewed (by simp) hhosts₂ (hP.addView hh₁ hnative hview ha₁)
    exact hP.install hm.after (hm.after_follows.hosts.trans hhosts₂) hm.host_lt (fun _ ↦ hm.new) ha₂

end Casement.World
