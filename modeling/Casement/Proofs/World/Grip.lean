import Casement.Proofs.World.Indices
import Casement.Proofs.World.Seats
import Mathlib.Logic.Relation

namespace Casement

theorem MouseButtons.anyDown_press (m : MouseButtons) (button : MouseButton) :
    (m.press button).anyDown = true := by
  cases button <;> simp [MouseButtons.press, MouseButtons.modify, MouseButtons.anyDown, ButtonState.press]

theorem MouseButtons.anyDown_of_release {m : MouseButtons} {button : MouseButton}
    (h : (m.release button).anyDown = true) : m.anyDown = true := by
  cases button <;>
    simp [MouseButtons.release, MouseButtons.modify, MouseButtons.anyDown, ButtonState.release] at h ⊢ <;>
    rcases h with h | h <;> simp [h]

structure Hand where
  native : NativeHandle
  platform : Platform
  down : Bool

def Window.hand (win : Window) : Hand := ⟨win.native, win.platform, win.buttons.anyDown⟩

/-- The capture of a host: who holds it, the views of the host, the calls made about the capture and
when a window goes, the windows in the order in which they were opened, and those that have gone. -/
structure Grip where
  platform : Platform
  holder : Option NativeHandle
  views : List NativeHandle
  calls : List TraceEvent
  hands : List Hand
  gone : List ObjectId

namespace Grip

variable {may : HostStep → Prop} {acts : ObjectId → Prop} {g g' : Grip} {o : ObjectId} {v : Hand}

/-- Other code may hand the capture to the handle of a window. -/
def Forged (may : HostStep → Prop) (g : Grip) (n : NativeHandle) : Prop :=
  may (.setCapture (.handle n)) ∧ ∃ v ∈ g.hands, v.native = n

/-- One thing that happens to the capture, `may` being what other code asks of the host, and `acts`
the windows whose buttons are pressed and released. A window that goes makes a call, so the calls tell
when it went; and no view gets the handle of a window that was opened before. -/
inductive Step (may : HostStep → Prop) (acts : ObjectId → Prop) : Grip → Grip → Prop
  | opens (g : Grip) (v : Hand) (hidle : v.down = false) (hplatform : v.platform = g.platform) :
      Step may acts g { g with hands := g.hands ++ [v] }
  | shows (g : Grip) (n : NativeHandle) (hnew : ∀ v ∈ g.hands, v.native ≠ n) :
      Step may acts g { g with views := g.views ++ [n] }
  | takes {g : Grip} {o : ObjectId} {v : Hand} (hacts : acts o) (hlive : o ∉ g.gone)
      (hv : g.hands[o]? = some v) (hplatform : v.platform ≠ .macOs) (hidle : v.down = false)
      (hfree : g.holder = none) :
      Step may acts g
        { g with
          holder := some v.native
          calls := g.calls ++ [.call 0 (.setCapture v.native)]
          hands := g.hands.set o { v with down := true } }
  | presses {g : Grip} {o : ObjectId} {v : Hand} (hacts : acts o) (hlive : o ∉ g.gone)
      (hv : g.hands[o]? = some v) (hleft : v.platform = .macOs ∨ v.down = true ∨ g.holder ≠ none) :
      Step may acts g { g with hands := g.hands.set o { v with down := true } }
  | lifts {g : Grip} {o : ObjectId} {v : Hand} {down : Bool} (hacts : acts o) (hlive : o ∉ g.gone)
      (hv : g.hands[o]? = some v) (hdown : down = true → v.down = true)
      (hleft : v.platform = .macOs ∨ down = true ∨ g.holder ≠ some v.native) :
      Step may acts g { g with hands := g.hands.set o { v with down } }
  | yields {g : Grip} {o : ObjectId} {v : Hand} (hacts : acts o) (hlive : o ∉ g.gone)
      (hv : g.hands[o]? = some v) (hheld : g.holder = some v.native) :
      Step may acts g
        { g with
          holder := none
          calls := g.calls ++ [.call 0 .releaseCapture]
          hands := g.hands.set o { v with down := false } }
  | goes {g : Grip} {o : ObjectId} {v : Hand} (hlive : o ∉ g.gone) (hv : g.hands[o]? = some v) :
      Step may acts g
        { g with
          calls := g.calls ++ [.call 0 (.unregisterAccelerator v.native)]
          gone := o :: g.gone }
  | ends {g : Grip} {o : ObjectId} {v : Hand} (hv : g.hands[o]? = some v) (hgone : o ∈ g.gone)
      (hheld : g.holder = some v.native) :
      Step may acts g { g with holder := none, calls := g.calls ++ [.call 0 .releaseCapture] }
  | destroys {g : Grip} {n : NativeHandle} {views : List NativeHandle}
      (hheld : g.holder = some n → n ∈ g.views ∨ g.Forged may n) (hgone : n ∉ views)
      (hsub : ∀ m ∈ views, m ∈ g.views)
      (hothers : ∀ v ∈ g.hands, v.native ≠ n → v.native ∈ g.views → v.native ∈ views) :
      Step may acts g { g with views, holder := if g.holder = some n then none else g.holder }
  | given (g : Grip) {n : NativeHandle} (hmay : may (.setCapture (.handle n))) :
      Step may acts g { g with holder := some n }
  | freed (g : Grip) (hmay : may .releaseCapture) : Step may acts g { g with holder := none }

theorem getElem?_set_native {hands : List Hand} (hv : hands[o]? = some v) {v' : Hand}
    (hnative : v'.native = v.native) (i : ObjectId) :
    (hands.set o v')[i]?.map (·.native) = hands[i]?.map (·.native) := by
  rw [List.getElem?_set]
  split
  · next heq =>
    subst heq
    obtain ⟨hlt, rfl⟩ := List.getElem?_eq_some_iff.mp hv
    simp [hlt, hnative]
  · rfl

theorem Step.native_kept (h : Step may acts g g') (hv : g.hands[o]? = some v) :
    g'.hands[o]?.map (·.native) = some v.native := by
  have hset {i : ObjectId} {u u' : Hand} (hu : g.hands[i]? = some u) (hnative : u'.native = u.native) :
      (g.hands.set i u')[o]?.map (·.native) = some v.native := by
    rw [getElem?_set_native hu hnative, hv]
    rfl
  cases h with
  | opens u =>
    obtain ⟨hlt, rfl⟩ := List.getElem?_eq_some_iff.mp hv
    simp [List.getElem?_append_left hlt, hlt]
  | takes _ _ hu => exact hset hu rfl
  | presses _ _ hu => exact hset hu rfl
  | lifts _ _ hu => exact hset hu rfl
  | yields _ _ hu => exact hset hu rfl
  | shows | goes | ends | destroys | given | freed => simp [hv]

theorem Step.mem_native (h : Step may acts g g') (hv : v ∈ g.hands) :
    ∃ v' ∈ g'.hands, v'.native = v.native := by
  obtain ⟨i, hi⟩ := List.mem_iff_getElem?.mp hv
  obtain ⟨v', hv', heq⟩ := Option.map_eq_some_iff.mp (h.native_kept hi)
  exact ⟨v', List.mem_of_getElem? hv', heq⟩

theorem Forged.step {n : NativeHandle} (hf : g.Forged may n) (h : Step may acts g g') :
    g'.Forged may n := by
  obtain ⟨hmay, v, hv, rfl⟩ := hf
  exact ⟨hmay, h.mem_native hv⟩

theorem Step.mono {acts' : ObjectId → Prop} (hsub : ∀ o, acts o → acts' o) (h : Step may acts g g') :
    Step may acts' g g' := by
  cases h with
  | opens v hidle hplatform => exact .opens g v hidle hplatform
  | shows n hnew => exact .shows g n hnew
  | takes hacts hlive hv hplatform hidle hfree => exact .takes (hsub _ hacts) hlive hv hplatform hidle hfree
  | presses hacts hlive hv hleft => exact .presses (hsub _ hacts) hlive hv hleft
  | lifts hacts hlive hv hdown hleft => exact .lifts (hsub _ hacts) hlive hv hdown hleft
  | yields hacts hlive hv hheld => exact .yields (hsub _ hacts) hlive hv hheld
  | goes hlive hv => exact .goes hlive hv
  | ends hv hgone hheld => exact .ends hv hgone hheld
  | destroys hheld hgone hsub hothers => exact .destroys hheld hgone hsub hothers
  | given hmay => exact .given g hmay
  | freed hmay => exact .freed g hmay

abbrev Run (may : HostStep → Prop) (acts : ObjectId → Prop) : Grip → Grip → Prop :=
  Relation.ReflTransGen (Step may acts)

theorem Run.mono {acts' : ObjectId → Prop} (hsub : ∀ o, acts o → acts' o) (h : Run may acts g g') :
    Run may acts' g g' := Relation.ReflTransGen.mono (fun _ _ ↦ Step.mono hsub) _ _ h

theorem Run.native_kept (h : Run may acts g g') (hv : g.hands[o]? = some v) :
    g'.hands[o]?.map (·.native) = some v.native := by
  induction h with
  | refl => simp [hv]
  | tail _ hstep ih =>
    obtain ⟨v', hv', hnative⟩ := Option.map_eq_some_iff.mp ih
    rw [hstep.native_kept hv', hnative]

/-- What holds of the capture at every moment: a holder that nobody else made one is a window with a
button down, and the windows of one platform never ask for it. -/
structure Fair (may : HostStep → Prop) (g : Grip) : Prop where
  pressed : ∀ {n}, g.holder = some n → may (.setCapture (.handle n)) ∨
    ∃ v ∈ g.hands, v.native = n ∧ v.platform ≠ .macOs ∧ v.down = true
  platform : ∀ v ∈ g.hands, v.platform = g.platform
  unasked : g.platform = .macOs → ∀ n, .call 0 (.setCapture n) ∉ g.calls

theorem platform_set {p : Platform} {hands : List Hand} (hall : ∀ u ∈ hands, u.platform = p)
    (hv : hands[o]? = some v) {v' : Hand} (hplatform : v'.platform = v.platform) :
    ∀ u ∈ hands.set o v', u.platform = p := by
  intro u hu
  rcases List.mem_or_eq_of_mem_set hu with hu | rfl
  · exact hall u hu
  · exact hplatform.trans (hall v (List.mem_of_getElem? hv))

theorem mem_set_of_ne {hands : List Hand} {u v' : Hand} (hu : u ∈ hands) (hv : hands[o]? = some v)
    (hne : u ≠ v) : u ∈ hands.set o v' := by
  obtain ⟨i, hi⟩ := List.mem_iff_getElem?.mp hu
  have hio : o ≠ i := by
    rintro rfl
    exact hne (Option.some.inj (hi.symm.trans hv))
  exact List.mem_of_getElem? (by rw [List.getElem?_set_ne hio, hi])

theorem Fair.step (hg : Fair may g) (h : Step may acts g g') : Fair may g' := by
  have hunasked {c : Call} (hc : ∀ n, c ≠ .setCapture n) (hmac : g.platform = .macOs) (n : NativeHandle) :
      .call 0 (.setCapture n) ∉ g.calls ++ [.call 0 c] := by
    simpa [(hc n).symm] using hg.unasked hmac n
  cases h with
  | opens v hidle hplatform =>
    refine ⟨fun hn ↦ (hg.pressed hn).imp_right ?_, fun u hu ↦ ?_, hg.unasked⟩
    · rintro ⟨u, hu, hpressed⟩
      exact ⟨u, List.mem_append_left _ hu, hpressed⟩
    · rcases List.mem_append.mp hu with hu | hu
      · exact hg.platform u hu
      · exact List.mem_singleton.mp hu ▸ hplatform
  | shows n hnew => exact ⟨hg.pressed, hg.platform, hg.unasked⟩
  | @takes o v hacts hlive hv hplatform hidle hfree =>
    have hlt := (List.getElem?_eq_some_iff.mp hv).1
    refine ⟨fun hn ↦ .inr ⟨{ v with down := true }, List.mem_set hlt _, Option.some.inj hn, hplatform, rfl⟩,
      platform_set hg.platform hv rfl, fun hmac n hn ↦ ?_⟩
    exact hplatform ((hg.platform v (List.mem_of_getElem? hv)).trans hmac)
  | @presses o v hacts hlive hv hleft =>
    have hlt := (List.getElem?_eq_some_iff.mp hv).1
    refine ⟨fun hn ↦ (hg.pressed hn).imp_right ?_, platform_set hg.platform hv rfl, hg.unasked⟩
    rintro ⟨u, hu, hnative, hplatform, hdown⟩
    by_cases heq : u = v
    · subst heq
      exact ⟨{ u with down := true }, List.mem_set hlt _, hnative, hplatform, rfl⟩
    · exact ⟨u, mem_set_of_ne hu hv heq, hnative, hplatform, hdown⟩
  | @lifts o v down hacts hlive hv hdown hleft =>
    have hlt := (List.getElem?_eq_some_iff.mp hv).1
    refine ⟨fun hn ↦ (hg.pressed hn).imp_right ?_, platform_set hg.platform hv rfl, hg.unasked⟩
    rintro ⟨u, hu, hnative, hplatform, hpressed⟩
    by_cases heq : u = v
    · -- the holder keeps a button down, or else it would have given up the capture
      subst heq
      have hkept : down = true := by
        rcases hleft with hmac | hkept | hother
        · exact absurd hmac hplatform
        · exact hkept
        · exact absurd (hn.trans (by rw [hnative])) hother
      exact ⟨{ u with down }, List.mem_set hlt _, hnative, hplatform, hkept⟩
    · exact ⟨u, mem_set_of_ne hu hv heq, hnative, hplatform, hpressed⟩
  | yields hacts hlive hv hheld =>
    refine ⟨fun hn ↦ ?_, platform_set hg.platform hv rfl, hunasked (by simp)⟩
    cases hn
  | goes hlive hv => exact ⟨hg.pressed, hg.platform, hunasked (by simp)⟩
  | ends hv hgone hheld =>
    refine ⟨fun hn ↦ ?_, hg.platform, hunasked (by simp)⟩
    cases hn
  | destroys hheld hgone hsub hothers =>
    refine ⟨fun hn ↦ hg.pressed ?_, hg.platform, hg.unasked⟩
    dsimp only at hn
    split at hn
    · cases hn
    · exact hn
  | given hmay =>
    refine ⟨fun hn ↦ ?_, hg.platform, hg.unasked⟩
    cases hn
    exact .inl hmay
  | freed hmay =>
    refine ⟨fun hn ↦ ?_, hg.platform, hg.unasked⟩
    cases hn

theorem Fair.run (hg : Fair may g) (h : Run may acts g g') : Fair may g' := by
  induction h with
  | refl => exact hg
  | tail _ hstep ih => exact ih.step hstep

theorem Step.platform_eq (h : Step may acts g g') : g'.platform = g.platform := by
  cases h <;> rfl

theorem Run.platform_eq (h : Run may acts g g') : g'.platform = g.platform := by
  induction h with
  | refl => rfl
  | tail _ hstep ih => exact hstep.platform_eq.trans ih

def Distinct (g : Grip) : Prop := ∀ ⦃i j : ObjectId⦄ ⦃u v : Hand⦄,
  g.hands[i]? = some u → g.hands[j]? = some v → u.native = v.native → i = j

/-- A window holds the capture, and nobody else can have given it. -/
def Holds (may : HostStep → Prop) (g : Grip) (o : ObjectId) : Prop :=
  ∃ v, g.hands[o]? = some v ∧ g.holder = some v.native ∧ ¬ g.Forged may v.native

/-- A window whose buttons are left alone does not come to hold the capture, and while it holds it
its view stays. -/
theorem Run.still (h : Run may acts g g') (hv : g.hands[o]? = some v) (hidle : ¬ acts o)
    (hinj : ∀ i v', g'.hands[i]? = some v' → v'.native = v.native → i = o)
    (hheld : g'.holder = some v.native) : g'.Forged may v.native ∨
      g.holder = some v.native ∧ (v.native ∈ g.views → v.native ∈ g'.views) := by
  induction h with
  | refl => exact .inr ⟨hheld, id⟩
  | @tail b c hrun hstep ih =>
    have hinj' : ∀ i v', b.hands[i]? = some v' → v'.native = v.native → i = o := by
      intro i v' hv' hnative
      obtain ⟨v'', hv'', hsame⟩ := Option.map_eq_some_iff.mp (hstep.native_kept hv')
      exact hinj i v'' hv'' (hsame.trans hnative)
    obtain ⟨vb, hvb, hnative⟩ := Option.map_eq_some_iff.mp (Run.native_kept hrun hv)
    -- a step that leaves the holder alone leads back to the run before it
    have hback (hheld : b.holder = some v.native) (hviews : v.native ∈ b.views → v.native ∈ c.views) :
        c.Forged may v.native ∨
          g.holder = some v.native ∧ (v.native ∈ g.views → v.native ∈ c.views) :=
      (ih hinj' hheld).imp (·.step hstep) fun hold ↦ ⟨hold.1, hviews ∘ hold.2⟩
    cases hstep with
    | opens u => exact hback hheld id
    | shows n hnew => exact hback hheld fun hmem ↦ List.mem_append_left _ hmem
    | @takes i u hacts hlive hu =>
      exact absurd (hinj' i u hu (Option.some.inj hheld) ▸ hacts) hidle
    | presses => exact hback hheld id
    | lifts => exact hback hheld id
    | yields => cases hheld
    | goes => exact hback hheld id
    | ends => cases hheld
    | @destroys n views _ hgone hsub hothers =>
      dsimp only at hheld
      split at hheld
      · cases hheld
      · next hother =>
        refine hback hheld fun hmem ↦ ?_
        have hne : vb.native ≠ n := fun heq ↦ hother (hheld.trans (by rw [← hnative, heq]))
        exact hnative ▸ hothers vb (List.mem_of_getElem? hvb) hne (hnative ▸ hmem)
    | given hmay =>
      refine .inl ⟨?_, vb, List.mem_of_getElem? hvb, hnative⟩
      exact Option.some.inj hheld ▸ hmay
    | freed => cases hheld

theorem Forged.run {n : NativeHandle} (hf : g.Forged may n) (h : Run may acts g g') :
    g'.Forged may n := by
  induction h with
  | refl => exact hf
  | tail _ hstep ih => exact ih.step hstep

theorem Run.holds (h : Run may acts g g') (ho : o < g.hands.length) (hidle : ¬ acts o)
    (hinj : g'.Distinct) (hheld : g'.Holds may o) : g.Holds may o := by
  obtain ⟨v', hv', hholder, hforged⟩ := hheld
  have hv : g.hands[o]? = some g.hands[o] := List.getElem?_eq_getElem ho
  have hnative : v'.native = g.hands[o].native := by
    have hkept := h.native_kept hv
    rw [hv'] at hkept
    exact Option.some.inj hkept
  rw [hnative] at hholder hforged
  rcases h.still hv hidle (fun i u hu heq ↦ hinj hu hv' (heq.trans hnative.symm)) hholder with hf | hheld
  · exact absurd hf hforged
  · exact ⟨_, hv, hheld.1, fun hf ↦ hforged (hf.run h)⟩

/-- Why a window that held the capture holds it no longer: the last of its own buttons went up, it has
gone itself, its native window was destroyed, or other code released the capture or gave it away. -/
inductive Loss (may : HostStep → Prop) (acts : ObjectId → Prop) (g g' : Grip) (o : ObjectId) (v : Hand) : Prop
  | lastUp (hacts : acts o) (hlive : o ∉ g.gone) (hup : g'.hands[o]? = some { v with down := false })
      (hfree : g'.holder = none)
  | ended (hgone : o ∈ g.gone) (hfree : g'.holder = none)
  | destroyed (hview : v.native ∉ g'.views) (hfree : g'.holder = none)
  | freed (hmay : may .releaseCapture) (hfree : g'.holder = none)
  | given {n : NativeHandle} (hmay : may (.setCapture (.handle n))) (hheld : g'.holder = some n)

/-- No window takes over or releases a capture that is held by another: what was free goes to the window
whose button was pressed, and what a window held is lost by its own doing, or by that of other code. -/
structure Respects (may : HostStep → Prop) (acts : ObjectId → Prop) (g g' : Grip) : Prop where
  taken : ∀ {n}, g'.holder = some n → g.holder ≠ some n → may (.setCapture (.handle n)) ∨
    g.holder = none ∧ ∃ o v, acts o ∧ o ∉ g.gone ∧ g.hands[o]? = some v ∧ v.native = n ∧
      g'.hands[o]? = some { v with down := true }
  lost : ∀ {o v}, g.hands[o]? = some v → g.holder = some v.native → g'.holder ≠ some v.native →
    Loss may acts g g' o v

theorem Step.respects (h : Step may acts g g') (hinj : g.Distinct) : Respects may acts g g' := by
  have hsame (hholder : g'.holder = g.holder) : Respects may acts g g' :=
    ⟨fun hn hother ↦ absurd (hholder ▸ hn) hother, fun _ hheld hlost ↦ absurd (hholder.trans hheld) hlost⟩
  have hset {o : ObjectId} {v : Hand} (hv : g.hands[o]? = some v) (v' : Hand) : (g.hands.set o v')[o]? = some v' :=
    List.getElem?_set_self (List.getElem?_eq_some_iff.mp hv).1
  cases h with
  | opens | shows | presses | lifts | goes => exact hsame rfl
  | @takes o v hacts hlive hv hplatform hidle hfree =>
    refine ⟨fun hn _ ↦ .inr ⟨hfree, o, v, hacts, hlive, hv, Option.some.inj hn, hset hv _⟩, fun _ hheld ↦ ?_⟩
    rw [hfree] at hheld
    cases hheld
  | @yields i u hacts hlive hu hheld =>
    refine ⟨fun hn ↦ (by cases hn), fun {o v} hv hholder _ ↦ ?_⟩
    obtain rfl : i = o := hinj hu hv (Option.some.inj (hheld.symm.trans hholder))
    obtain rfl : u = v := Option.some.inj (hu.symm.trans hv)
    exact .lastUp hacts hlive (hset hu _) rfl
  | @ends i u hu hgone hheld =>
    refine ⟨fun hn ↦ (by cases hn), fun {o v} hv hholder _ ↦ ?_⟩
    obtain rfl : i = o := hinj hu hv (Option.some.inj (hheld.symm.trans hholder))
    exact .ended hgone rfl
  | @destroys n views hheld hgone hsub hothers =>
    by_cases hn : g.holder = some n
    · refine ⟨fun hn' ↦ ?_, fun {o v} hv hholder _ ↦ ?_⟩
      · dsimp only at hn'
        rw [if_pos hn] at hn'
        cases hn'
      · obtain rfl : v.native = n := Option.some.inj (hholder.symm.trans hn)
        exact .destroyed hgone (if_pos hn)
    · exact hsame (if_neg hn)
  | @given n hmay =>
    refine ⟨fun hn _ ↦ .inl (Option.some.inj hn ▸ hmay), fun _ _ _ ↦ .given hmay rfl⟩
  | freed hmay => exact ⟨fun hn ↦ (by cases hn), fun _ _ _ ↦ .freed hmay rfl⟩

/-- Handles that differ in the end differed before. -/
theorem Run.distinct (h : Run may acts g g') (hinj : g'.Distinct) : g.Distinct := by
  intro i j u v hu hv heq
  obtain ⟨u', hu', hu''⟩ := Option.map_eq_some_iff.mp (h.native_kept hu)
  obtain ⟨v', hv', hv''⟩ := Option.map_eq_some_iff.mp (h.native_kept hv)
  exact hinj hu' hv' (hu''.trans (heq.trans hv''.symm))

end Grip

def Host.grasp (s : Host) : Platform × Option NativeHandle × List NativeHandle :=
  (s.platform, s.capture, s.views.map (·.handle))

theorem Host.grasp_addAccelerator (s : Host) (native : NativeHandle) :
    (s.addAccelerator native).grasp = s.grasp := by
  unfold Host.addAccelerator
  split <;> rfl

theorem Host.grasp_modifyView (s : Host) (native : NativeHandle) (f : View → View)
    (hf : ∀ v, (f v).handle = v.handle) : (s.modifyView native f).grasp = s.grasp := by
  have hhandles : (s.modifyView native f).views.map (·.handle) = s.views.map (·.handle) := by
    rw [modifyView, List.map_map]
    refine List.map_congr_left fun v _ ↦ ?_
    rw [Function.comp_apply]
    split
    · exact hf v
    · rfl
  rw [grasp, hhandles]
  rfl

namespace World

variable {w w' w'' : World} {o : ObjectId}

def grip (w : World) : Grip where
  platform := (host w 0).platform
  holder := (host w 0).capture
  views := (host w 0).views.map (·.handle)
  calls := w.env.trace.filter TraceEvent.isCaptureCall
  hands := w.cells.map fun c => c.value.hand
  gone := w.dropped

theorem getElem?_hands (ho : o < w.cells.length) : (grip w).hands[o]? = some (window w o).hand := by
  simp [grip, window, Registry.value?, ho]

theorem length_hands (w : World) : (grip w).hands.length = w.cells.length := by simp [grip]

structure Untouched (w w' : World) : Prop where
  grasp : (host w' 0).grasp = (host w 0).grasp
  calls : (grip w').calls = (grip w).calls
  hands : (grip w').hands = (grip w).hands
  hooks : ∀ i, (bundle w' i).hooks = (bundle w i).hooks
  dropped : w'.dropped = w.dropped

theorem Untouched.grip_eq (h : Untouched w w') : grip w' = grip w := by
  have hgrasp := h.grasp
  have hcalls := h.calls
  have hhands := h.hands
  simp only [Host.grasp, Prod.mk.injEq, grip] at hgrasp hcalls hhands
  simp only [grip, hgrasp, hcalls, hhands, h.dropped]

theorem Untouched.trans (h : Untouched w w') (h' : Untouched w' w'') : Untouched w w'' :=
  ⟨h'.grasp.trans h.grasp, h'.calls.trans h.calls, h'.hands.trans h.hands,
    fun i ↦ (h'.hooks i).trans (h.hooks i), h'.dropped.trans h.dropped⟩

theorem Untouched.of_same (hsame : SameWindows w w')
    (hbundle : ∀ i, ((bundle w' i).host.grasp, (bundle w' i).hooks) =
      ((bundle w i).host.grasp, (bundle w i).hooks))
    (hcalls : w'.env.trace.filter TraceEvent.isCaptureCall = w.env.trace.filter TraceEvent.isCaptureCall) :
    Untouched w w' where
  grasp := congrArg Prod.fst (hbundle 0)
  calls := hcalls
  hands := by simp only [grip, hsame.cells]
  hooks i := congrArg Prod.snd (hbundle i)
  dropped := hsame.dropped

namespace Untouched

variable (w)

theorem refl : Untouched w w := ⟨rfl, rfl, rfl, fun _ ↦ rfl, rfl⟩

theorem note (r : LogRecord) : Untouched w (note r w) := .of_same ⟨rfl, rfl, rfl⟩ (fun _ ↦ rfl) rfl

theorem call (i : Nat) (c : Call) (hc : c.isCaptureCall = false) : Untouched w (call i c w) :=
  .of_same ⟨rfl, rfl, rfl⟩ (fun _ ↦ rfl) (by simp [World.call, World.traced, TraceEvent.isCaptureCall, hc])

theorem modifyBundle (i : Nat) (f : Bundle → Bundle)
    (hf : ∀ b, ((f b).host.grasp, (f b).hooks) = (b.host.grasp, b.hooks)) :
    Untouched w (modifyBundle i f w) :=
  .of_same ⟨rfl, rfl, rfl⟩ (fun j ↦ reading_modifyBundle w i j (fun b ↦ (b.host.grasp, b.hooks)) f hf) rfl

theorem modifyHost (i : Nat) (f : Host → Host) (hf : ∀ s, (f s).grasp = s.grasp) :
    Untouched w (modifyHost i f w) := .modifyBundle w i _ fun b ↦ by simp [hf]

theorem modifyGui (i : Nat) (f : GuiState → GuiState) : Untouched w (modifyGui i f w) :=
  .modifyBundle w i _ fun _ ↦ rfl

theorem modifyStats (i : Nat) (f : RenderStats → RenderStats) : Untouched w (modifyStats i f w) :=
  .modifyBundle w i _ fun _ ↦ rfl

theorem modifyCell (o : ObjectId) (f : Cell Window → Cell Window)
    (hf : ∀ c, (f c).value.hand = c.value.hand) : Untouched w (w.modifyCell o f) where
  grasp := rfl
  calls := rfl
  hands := by
    simp only [grip, Registry.modifyCell]
    exact map_modify_of_eq hf w.cells o
  hooks _ := rfl
  dropped := rfl

theorem update (o : ObjectId) (f : Window → Window) (hf : ∀ win, (f win).hand = win.hand) :
    Untouched w (w.update o f) := .modifyCell w o _ fun c ↦ hf c.value

theorem borrow (o : ObjectId) : Untouched w (w.borrow o) :=
  (modifyCell w o (fun c => { c with owners := c.owners + 1 }) fun _ ↦ rfl).trans
    (.modifyCell _ o _ fun _ ↦ rfl)

theorem setBorrowed (o : ObjectId) (b : Bool) : Untouched w (w.setBorrowed o b) :=
  .modifyCell w o _ fun _ ↦ rfl

theorem letGo (howned : w.cells[o]?.any (·.owners ≤ 1) = false) : Untouched w (w.letGo o) :=
  have h := modifyCell w o (fun c => { c with owners := c.owners - 1 }) fun _ ↦ rfl
  ⟨h.grasp, h.calls, h.hands, h.hooks, dropped_letGo_of_owned howned⟩

theorem acquireAtlas : Untouched w (acquireAtlas w) := by
  refine .of_same (sameWindows_acquireAtlas w) (fun i ↦ by simp) ?_
  unfold World.acquireAtlas
  split <;> rfl

theorem releaseAtlas : Untouched w (releaseAtlas w) := .of_same ⟨rfl, rfl, rfl⟩ (fun _ ↦ rfl) rfl

theorem acquireWatchdog (i : Nat) : Untouched w (acquireWatchdog i w) := by
  refine .of_same (sameWindows_acquireWatchdog w i)
    (fun j ↦ reading_acquireWatchdog w i j (fun b ↦ (b.host.grasp, b.hooks)) fun _ ↦ rfl) ?_
  unfold World.acquireWatchdog
  split
  · rfl
  · simp [World.note, World.call, World.traced, World.modifyHost, World.modifyBundle,
      TraceEvent.isCaptureCall, Call.isCaptureCall]

theorem releaseWatchdog : Untouched w (releaseWatchdog w) := by
  refine .of_same (sameWindows_releaseWatchdog w)
    (fun j ↦ reading_releaseWatchdog w j (fun b ↦ (b.host.grasp, b.hooks)) fun _ _ ↦ rfl) ?_
  unfold World.releaseWatchdog
  dsimp only
  split
  · split
    · simp [World.note, World.call, World.traced, World.modifyHost, World.modifyBundle,
        TraceEvent.isCaptureCall, Call.isCaptureCall]
    · rfl
  · rfl

theorem equip (i : Nat) : Untouched w (equip i w) :=
  (acquireWatchdog w i).trans ((acquireAtlas _).trans (acquireAtlas _))

theorem discharge : Untouched w (discharge w) :=
  (releaseAtlas w).trans ((releaseAtlas _).trans (releaseWatchdog _))

theorem unlisten (o : ObjectId) : Untouched w (unlisten o w) := .modifyHost w _ _ fun _ ↦ rfl

theorem prepare (i : Nat) (style : GuiStyle) : Untouched w (prepare i style w) := by
  refine (equip w i).trans ?_
  refine Untouched.trans ?_ (.call _ _ _ rfl)
  exact (Untouched.call _ _ _ rfl).trans (.modifyGui _ _ _)

theorem holding {w' : World} (h : Holding w w') : Untouched w w' := by
  cases h with
  | holdAtlas => exact (acquireAtlas w).trans (.of_same ⟨rfl, rfl, rfl⟩ (fun _ ↦ rfl) rfl)
  | holdWatchdog i => exact (acquireWatchdog w i).trans (.of_same ⟨rfl, rfl, rfl⟩ (fun _ ↦ rfl) rfl)
  | dropWatchdog => exact (releaseWatchdog w).trans (.of_same ⟨rfl, rfl, rfl⟩ (fun _ ↦ rfl) rfl)
  | dropAtlas | editAtlas => exact .of_same ⟨rfl, rfl, rfl⟩ (fun _ ↦ rfl) rfl

end Untouched

theorem grip_letGo_of_last (hlast : w.cells[o]?.any (·.owners ≤ 1) = true) :
    grip (w.letGo o) = { grip w with gone := o :: (grip w).gone } := by
  have hcell := (Untouched.modifyCell w o (fun c => { c with owners := c.owners - 1 }) fun _ ↦ rfl).grip_eq
  have hdropped : (w.letGo o).dropped = o :: w.dropped := if_pos hlast
  calc grip (w.letGo o)
    _ = { grip (w.modifyCell o fun c => { c with owners := c.owners - 1 }) with gone := (w.letGo o).dropped } := rfl
    _ = { grip w with gone := o :: (grip w).gone } := by rw [hcell, hdropped]; rfl

theorem grip_update (ho : o < w.cells.length) (f : Window → Window) :
    grip (w.update o f) = { grip w with hands := (grip w).hands.set o (f (window w o)).hand } := by
  have hhands : (w.update o f).cells.map (fun c => c.value.hand) =
      (w.cells.map fun c => c.value.hand).set o (f (window w o)).hand := by
    refine List.ext_getElem? fun i ↦ ?_
    simp only [Registry.update, Registry.modifyCell, List.getElem?_map, List.getElem?_modify,
      List.getElem?_set, List.length_map]
    split
    · next heq =>
      subst heq
      simp [ho, window, Registry.value?]
    · simp
  simp only [grip, hhands]
  rfl

theorem grip_call (i : Nat) {c : Call} (hc : c.isCaptureCall = true) :
    grip (call i c w) = { grip w with calls := (grip w).calls ++ [.call i c] } := by
  simp [grip, call, traced, host, bundle, TraceEvent.isCaptureCall, hc]

theorem grip_modifyHost (hone : w.env.bundles.length = 1) (f : Host → Host) :
    grip (modifyHost 0 f w) =
      { grip w with
        platform := (f (host w 0)).platform
        holder := (f (host w 0)).capture
        views := (f (host w 0)).views.map (·.handle) } := by
  have hhost : host (modifyHost 0 f w) 0 = f (host w 0) := by
    rw [host_modifyHost w 0 0 f (by omega), if_pos rfl]
  simp only [grip, hhost]
  rfl

theorem grip_setCapture (hone : w.env.bundles.length = 1) (n : NativeHandle) :
    grip (modifyHost 0 (·.setCapture n) (call 0 (.setCapture n) w)) =
      { grip w with holder := some n, calls := (grip w).calls ++ [.call 0 (.setCapture n)] } := by
  rw [grip_modifyHost (by exact hone), grip_call 0 rfl]
  rfl

theorem grip_releaseCapture (hone : w.env.bundles.length = 1) :
    grip (modifyHost 0 .releaseCapture (call 0 .releaseCapture w)) =
      { grip w with holder := none, calls := (grip w).calls ++ [.call 0 .releaseCapture] } := by
  rw [grip_modifyHost (by exact hone), grip_call 0 rfl]
  rfl

theorem grip_of_core {f : Desk → Desk} (hcore : (f w.env).core = w.env.core)
    (hdealings : (f w.env).dealings = w.env.dealings) : grip (w.modifyEnv f) = grip w := by
  obtain ⟨hdisplays, hdealt⟩ := Prod.mk.inj hdealings
  have hcalls : (f w.env).trace.filter TraceEvent.isCaptureCall =
      w.env.trace.filter TraceEvent.isCaptureCall := by
    rw [← List.filterMap_eq_filter]
    refine filterMap_of_dealings (fun e he ↦ ?_) hdealt
    have hcapture : e.isCaptureCall = true := by
      by_contra hnot
      simp [Option.guard, hnot] at he
    cases e with
    | hook => cases hcapture
    | call i c => exact Bool.or_eq_true_iff.mpr (.inl hcapture)
  have hbundles : (w.modifyEnv f).env.bundles.map Bundle.core = w.env.bundles.map Bundle.core :=
    congrArg Desk.bundles hcore
  have hdisplays : (w.modifyEnv f).env.bundles.map (·.host.display) =
      w.env.bundles.map (·.host.display) := hdisplays
  obtain ⟨hplatform, hviews⟩ : (host (w.modifyEnv f) 0).platform = (host w 0).platform ∧
      (host (w.modifyEnv f) 0).views = (host w 0).views := Prod.mk.inj (reading_of_map hdisplays 0)
  have hhost : (host (w.modifyEnv f) 0).core = (host w 0).core :=
    congrArg Bundle.host (reading_of_map hbundles 0)
  have hcaptures : (host (w.modifyEnv f) 0).core.capture = (host w 0).core.capture := by rw [hhost]
  have hcapture : (host (w.modifyEnv f) 0).capture = (host w 0).capture := hcaptures
  simp only [grip, hplatform, hviews, hcapture, Registry.env_modifyEnv, hcalls, Registry.cells_modifyEnv,
    Registry.dropped_modifyEnv]

theorem grip_install (w : World) (win : Window) :
    grip (install win w) = { grip w with hands := (grip w).hands ++ [win.hand] } := by
  have hregister : grip (indexInsert win.native (w.register () win).1 (w.register () win).2) =
      { grip w with hands := (grip w).hands ++ [win.hand] } := by
    simp [grip, indexInsert, Registry.register, host, bundle]
  unfold install
  rw [(Untouched.modifyHost _ _ _ fun s ↦ Host.grasp_addAccelerator s win.native).grip_eq, hregister]

end World

end Casement
