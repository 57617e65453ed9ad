import Casement.Proofs.World.Watchdog

namespace Casement

def FontAtlas.edited (a : FontAtlas) (es : List Edit) : FontAtlas := es.foldl (fun a e => (a.edit e).2) a

namespace Shared

variable {α : Type} {s : Shared α} {n : Nat}

structure Counted (s : Shared α) (n : Nat) : Prop where
  owners : s.owners = n
  alive : s.value.isSome = decide (0 < n)

theorem Counted.pos (h : s.Counted n) (halive : s.value.isSome = true) : 0 < n := by
  rw [h.alive] at halive
  exact of_decide_eq_true halive

theorem Counted.isSome (h : s.Counted n) (hn : 0 < n) : s.value.isSome = true :=
  h.alive.trans (decide_eq_true hn)

theorem Counted.retain (h : s.Counted n) (hn : 0 < n) : s.retain.Counted (n + 1) where
  owners := congrArg (· + 1) h.owners
  alive := (h.isSome hn).trans (decide_eq_true n.succ_pos).symm

theorem Counted.release (h : s.Counted (n + 1)) : s.release.Counted n := by
  have howners := h.owners
  unfold Shared.release
  split
  · next hlast =>
    obtain rfl : n = 0 := by omega
    exact ⟨rfl, rfl⟩
  · next hmore =>
    have hn : 0 < n := by omega
    exact ⟨by simp [howners], (h.isSome n.succ_pos).trans (decide_eq_true hn).symm⟩

theorem Counted.value_release (h : s.Counted (n + 1)) (hn : 0 < n) : s.release.value = s.value := by
  have howners := h.owners
  rw [Shared.release, if_neg (by omega)]

theorem generation_release (s : Shared α) : s.release.generation = s.generation := by
  unfold Shared.release
  split <;> rfl

theorem value_release_or (s : Shared α) : s.release.value = s.value ∨ s.release.value = none := by
  unfold Shared.release
  split
  · exact .inr rfl
  · exact .inl rfl

end Shared

namespace World

variable {ok : WindowStep → Prop} {current : Option ObjectId} {w w' w'' : World} {o : ObjectId} {d : Nat}

def stock (w : World) : Shared FontAtlas × List FontAtlas.Edit × Nat :=
  (w.env.atlas, w.env.edits, w.env.keptAtlases)

/-- The atlas has two owners in each window that was not dropped, one in each hold of a script, and
`d` more; and it is the atlas of all these windows. -/
structure Supplied (d : Nat) (w : World) : Prop where
  counted : w.env.atlas.Counted (2 * (listening w).length + w.env.keptAtlases + d)
  shared : ∀ {o}, o ∈ listening w → (window w o).atlas = w.env.atlas.generation

def KeepsAtlas (w w' : World) : Prop :=
  ∃ es, w'.env.edits = w.env.edits ++ es ∧ w'.env.atlas.generation = w.env.atlas.generation ∧
    w'.env.atlas.value = w.env.atlas.value.map (·.edited es)

def KeepsOrEndsAtlas (w w' : World) : Prop :=
  ∃ es, w'.env.edits = w.env.edits ++ es ∧ w'.env.atlas.generation = w.env.atlas.generation ∧
    (w'.env.atlas.value = w.env.atlas.value.map (·.edited es) ∨ w'.env.atlas.value = none)

/-- Something is sure to keep the atlas: `d` owners, or a call on a window. -/
def Backed (d : Nat) (w : World) : Prop := 0 < d ∨ ∃ o < w.cells.length, 0 < w.holders o

theorem KeepsAtlas.of_value (hedits : w'.env.edits = w.env.edits)
    (hgeneration : w'.env.atlas.generation = w.env.atlas.generation)
    (hvalue : w'.env.atlas.value = w.env.atlas.value) : KeepsAtlas w w' :=
  ⟨[], by rw [hedits, List.append_nil], hgeneration, by simp [hvalue, FontAtlas.edited]⟩

theorem KeepsAtlas.of_stock (h : stock w' = stock w) : KeepsAtlas w w' := by
  simp only [stock, Prod.mk.injEq] at h
  obtain ⟨hatlas, hedits, -⟩ := h
  exact .of_value hedits (by rw [hatlas]) (by rw [hatlas])

theorem KeepsAtlas.trans (h : KeepsAtlas w w') (h' : KeepsAtlas w' w'') : KeepsAtlas w w'' := by
  obtain ⟨es, hedits, hgeneration, hvalue⟩ := h
  obtain ⟨es', hedits', hgeneration', hvalue'⟩ := h'
  refine ⟨es ++ es', by rw [hedits', hedits, List.append_assoc], hgeneration'.trans hgeneration, ?_⟩
  rw [hvalue', hvalue, Option.map_map]
  congr 1
  funext a
  exact List.foldl_append.symm

theorem KeepsAtlas.keepsOrEndsAtlas (h : KeepsAtlas w w') : KeepsOrEndsAtlas w w' := by
  obtain ⟨es, hedits, hgeneration, hvalue⟩ := h
  exact ⟨es, hedits, hgeneration, .inl hvalue⟩

theorem KeepsOrEndsAtlas.trans (h : KeepsOrEndsAtlas w w') (h' : KeepsOrEndsAtlas w' w'') :
    KeepsOrEndsAtlas w w'' := by
  obtain ⟨es, hedits, hgeneration, hvalue⟩ := h
  obtain ⟨es', hedits', hgeneration', hvalue'⟩ := h'
  refine ⟨es ++ es', by rw [hedits', hedits, List.append_assoc], hgeneration'.trans hgeneration, ?_⟩
  rcases hvalue' with hvalue' | hvalue'
  · rcases hvalue with hvalue | hvalue
    · left
      rw [hvalue', hvalue, Option.map_map]
      congr 1
      funext a
      exact List.foldl_append.symm
    · right
      rw [hvalue', hvalue, Option.map_none]
  · exact .inr hvalue'

theorem Backed.of_follows (h : Backed d w) (hf : Follows current w w') : Backed d w' := by
  rcases h with h | ⟨o, ho, hheld⟩
  · exact .inl h
  · exact .inr ⟨o, ho.trans_le hf.length_le, by rwa [hf.keeps.holders ho]⟩

theorem Backed.pos (h : Backed d w) (hw : Coherent ok w) : 0 < (listening w).length + d := by
  rcases h with h | ⟨o, ho, hheld⟩
  · omega
  · have hmem := mem_listening.mpr ⟨ho, Registry.not_mem_dropped_of_holders hw.sound hheld⟩
    have := List.length_pos_of_mem hmem
    omega

theorem Supplied.isSome (h : Supplied d w) (hpos : 0 < (listening w).length + d) :
    w.env.atlas.value.isSome = true := h.counted.isSome (by omega)

theorem Supplied.of_stock (h : Supplied d w) (hlen : w'.cells.length = w.cells.length)
    (hdropped : w'.dropped = w.dropped) (hstock : stock w' = stock w)
    (hwindow : ∀ o ∈ listening w, (window w' o).atlas = (window w o).atlas) : Supplied d w' := by
  have hlistening := listening_congr hlen hdropped
  simp only [stock, Prod.mk.injEq] at hstock
  obtain ⟨hatlas, -, hkept⟩ := hstock
  constructor
  · rw [hatlas, hlistening, hkept]
    exact h.counted
  · intro o ho
    rw [hlistening] at ho
    rw [hatlas, hwindow o ho]
    exact h.shared ho

theorem Supplied.of_same (h : Supplied d w) (hsame : SameWindows w w') (hstock : stock w' = stock w) :
    Supplied d w' :=
  h.of_stock (by rw [hsame.cells]) hsame.dropped hstock fun o _ ↦ by rw [hsame.window]

theorem Supplied.of_env (h : Supplied d w) (hlen : w'.cells.length = w.cells.length)
    (hdropped : w'.dropped = w.dropped) (henv : w'.env = w.env)
    (hwindow : ∀ o, window w' o = window w o) : Supplied d w' :=
  h.of_stock hlen hdropped (by rw [stock, stock, henv]) fun o _ ↦ by rw [hwindow]

theorem stock_acquireWatchdog (w : World) (i : Nat) : stock (acquireWatchdog i w) = stock w := by
  unfold acquireWatchdog
  split <;> rfl

theorem stock_releaseWatchdog (w : World) : stock (releaseWatchdog w) = stock w := by
  unfold releaseWatchdog
  dsimp only
  split
  · split <;> rfl
  · rfl

theorem Supplied.acquireAtlas (h : Supplied d w) : Supplied (d + 1) (acquireAtlas w) := by
  unfold World.acquireAtlas
  split
  · next halive => exact ⟨h.counted.retain (h.counted.pos halive), h.shared⟩
  · next hdead =>
    -- without owners there are no windows
    have hnone : ¬ 0 < 2 * (listening w).length + w.env.keptAtlases + d := fun hpos ↦
      hdead (h.counted.isSome hpos)
    have hlistening : listening w = [] := List.length_eq_zero_iff.mp (by omega)
    constructor
    · have hone : 2 * (listening w).length + w.env.keptAtlases + (d + 1) = 1 := by omega
      change Shared.Counted _ (2 * (listening w).length + w.env.keptAtlases + (d + 1))
      rw [hone]
      exact ⟨rfl, rfl⟩
    · intro o ho
      change o ∈ listening w at ho
      rw [hlistening] at ho
      cases ho

theorem KeepsAtlas.acquireAtlas (halive : w.env.atlas.value.isSome = true) :
    KeepsAtlas w (acquireAtlas w) := by
  rw [World.acquireAtlas, if_pos (by exact halive)]
  exact .of_value rfl rfl rfl

theorem Supplied.releaseAtlas (h : Supplied (d + 1) w) : Supplied d (releaseAtlas w) where
  counted := Shared.Counted.release h.counted
  shared ho := (h.shared ho).trans (Shared.generation_release _).symm

theorem KeepsOrEndsAtlas.releaseAtlas (w : World) : KeepsOrEndsAtlas w (releaseAtlas w) := by
  rcases w.env.atlas.value_release_or with hvalue | hvalue
  · have hstays : KeepsAtlas w (World.releaseAtlas w) :=
      .of_value rfl (Shared.generation_release _) hvalue
    exact hstays.keepsOrEndsAtlas
  · exact ⟨[], (List.append_nil _).symm, Shared.generation_release _, .inr hvalue⟩

theorem KeepsAtlas.releaseAtlas (h : Supplied (d + 1) w) (hpos : 0 < (listening w).length + d) :
    KeepsAtlas w (releaseAtlas w) := by
  have hmore : 0 < 2 * (listening w).length + w.env.keptAtlases + d := by omega
  exact .of_value rfl (Shared.generation_release _) (Shared.Counted.value_release h.counted hmore)

theorem Supplied.equip (h : Supplied d w) (i : Nat) : Supplied (d + 2) (equip i w) :=
  (h.of_same (sameWindows_acquireWatchdog w i) (stock_acquireWatchdog w i)).acquireAtlas.acquireAtlas

theorem KeepsAtlas.equip (h : Supplied d w) (halive : w.env.atlas.value.isSome = true) (i : Nat) :
    KeepsAtlas w (equip i w) := by
  have hdog := stock_acquireWatchdog w i
  have halive₁ : (acquireWatchdog i w).env.atlas.value.isSome = true := by
    rw [show (acquireWatchdog i w).env.atlas = _ from congrArg (·.1) hdog]
    exact halive
  have hs := (h.of_same (sameWindows_acquireWatchdog w i) hdog).acquireAtlas
  exact (KeepsAtlas.of_stock hdog).trans ((KeepsAtlas.acquireAtlas halive₁).trans
    (.acquireAtlas (hs.isSome (by omega))))

theorem Supplied.discharge (h : Supplied (d + 2) w) : Supplied d (discharge w) :=
  h.releaseAtlas.releaseAtlas.of_same (sameWindows_releaseWatchdog _) (stock_releaseWatchdog _)

theorem KeepsOrEndsAtlas.discharge (w : World) : KeepsOrEndsAtlas w (discharge w) :=
  (KeepsOrEndsAtlas.releaseAtlas w).trans ((KeepsOrEndsAtlas.releaseAtlas _).trans
    (KeepsAtlas.of_stock (stock_releaseWatchdog _)).keepsOrEndsAtlas)

theorem KeepsAtlas.discharge (h : Supplied (d + 2) w) (hpos : 0 < (listening w).length + d) :
    KeepsAtlas w (discharge w) :=
  (KeepsAtlas.releaseAtlas h (by omega)).trans ((KeepsAtlas.releaseAtlas h.releaseAtlas hpos).trans
    (.of_stock (stock_releaseWatchdog _)))

theorem Supplied.letGo_last (h : Supplied d w) (ho : o < w.cells.length) (halive : o ∉ w.dropped)
    (hlast : w.cells[o]?.any (·.owners ≤ 1) = true) : Supplied (d + 2) (w.letGo o) := by
  have hlen := length_listening_letGo ho halive hlast
  have hcount : 2 * (listening (w.letGo o)).length + w.env.keptAtlases + (d + 2) =
      2 * (listening w).length + w.env.keptAtlases + d := by omega
  constructor
  · change Shared.Counted _ (2 * (listening (w.letGo o)).length + w.env.keptAtlases + (d + 2))
    rw [hcount]
    exact h.counted
  · intro o' ho'
    rw [listening_letGo_of_last hlast] at ho'
    rw [window_letGo]
    exact h.shared (List.mem_filter.mp ho').1

theorem Supplied.letGo (h : Supplied d w) (howned : w.cells[o]?.any (·.owners ≤ 1) = false) :
    Supplied d (w.letGo o) :=
  h.of_env (by simp) (dropped_letGo_of_owned howned) rfl fun _ ↦ window_letGo ..

theorem Supplied.forget {w₁ : World} (h : Supplied d w) (hf : Forgets o w w₁) : Supplied d w₁ := by
  cases hf with
  | unregister hkey => exact h.of_stock rfl rfl rfl fun _ _ ↦ rfl
  | destroy hindex hkey => exact h.of_stock rfl rfl rfl fun _ _ ↦ rfl

theorem KeepsAtlas.forget {w₁ : World} (hf : Forgets o w w₁) : KeepsAtlas w w₁ := by
  cases hf with
  | unregister hkey => exact .of_stock rfl
  | destroy hindex hkey => exact .of_stock rfl

theorem Supplied.install (h : Supplied (d + 2) w) (hw : Coherent ok w) {win : Window}
    (hatlas : win.atlas = w.env.atlas.generation) : Supplied d (install win w) := by
  have hlistening : listening (World.install win w) = listening w ++ [w.cells.length] :=
    listening_register hw win
  constructor
  · rw [hlistening]
    have hcount : 2 * (listening w ++ [w.cells.length]).length + w.env.keptAtlases + d =
        2 * (listening w).length + w.env.keptAtlases + (d + 2) := by
      simp only [List.length_append, List.length_singleton]
      omega
    change Shared.Counted w.env.atlas
      (2 * (listening w ++ [w.cells.length]).length + w.env.keptAtlases + d)
    rw [hcount]
    exact h.counted
  · intro o ho
    rw [hlistening, List.mem_append] at ho
    change (window (World.install win w) o).atlas = w.env.atlas.generation
    rw [window_install]
    split
    · exact hatlas
    · next hne => exact h.shared (ho.resolve_right (by simpa using hne))

theorem Edit.supplied (hedit : Edit w w') (h : Supplied d w) (hw : Coherent ok w) :
    Supplied d w' ∧ (Backed d w → KeepsAtlas w w') := by
  cases hedit with
  | addView | removeView => exact ⟨h.of_same ⟨rfl, rfl, rfl⟩ rfl, fun _ ↦ .of_stock rfl⟩
  | holdAtlas =>
    obtain ⟨hcounted, hshared⟩ := h.acquireAtlas
    have hkept : (keepAtlas (acquireAtlas w)).env.keptAtlases =
      (acquireAtlas w).env.keptAtlases + 1 := rfl
    refine ⟨⟨?_, hshared⟩, fun hb ↦ ?_⟩
    · rw [hkept]
      have hcount : 2 * (listening (acquireAtlas w)).length + ((acquireAtlas w).env.keptAtlases + 1) + d =
          2 * (listening (acquireAtlas w)).length + (acquireAtlas w).env.keptAtlases + (d + 1) := by omega
      exact hcount ▸ hcounted
    · exact KeepsAtlas.acquireAtlas (h.isSome (hb.pos hw))
  | dropAtlas hkept =>
    -- the hold of the script counts as one more owner until it is given up
    have hcounted : w.env.atlas.Counted
        (2 * (listening w).length + (w.env.keptAtlases - 1) + d + 1) := by
      have hcount : 2 * (listening w).length + (w.env.keptAtlases - 1) + d + 1 =
          2 * (listening w).length + w.env.keptAtlases + d := by omega
      exact hcount ▸ h.counted
    refine ⟨⟨hcounted.release, fun ho ↦ (h.shared ho).trans (Shared.generation_release _).symm⟩,
      fun hb ↦ ?_⟩
    have hpos := hb.pos hw
    exact .of_value rfl (Shared.generation_release _) (hcounted.value_release (by omega))
  | editAtlas a e halive =>
    refine ⟨⟨⟨h.counted.owners, ?_⟩, h.shared⟩, fun _ ↦ ⟨[e], rfl, rfl, ?_⟩⟩
    · have := h.counted.alive
      rw [halive] at this
      exact this
    · rw [halive]
      rfl
  | holdWatchdog i hi =>
    have hstock := stock_acquireWatchdog w i
    exact ⟨h.of_same ((sameWindows_acquireWatchdog w i).trans ⟨rfl, rfl, rfl⟩) hstock,
      fun _ ↦ .of_stock hstock⟩
  | dropWatchdog hkept =>
    have hstock := stock_releaseWatchdog w
    exact ⟨h.of_same ((sameWindows_releaseWatchdog w).trans ⟨rfl, rfl, rfl⟩) hstock,
      fun _ ↦ .of_stock hstock⟩

def Supplies (ok : WindowStep → Prop) (current : Option ObjectId) (d : Nat) (w w' : World) : Prop :=
  Coherent ok w → (∀ o, current = some o → w.IsBusy o) → (∀ o, current = some o → Backed d w) →
    Supplied d w → Supplied d w' ∧ (Backed d w → KeepsAtlas w w')

theorem backed_borrow (hw : Coherent ok w) (ho : w.IsRegistered o) : Backed d (w.borrow o) := by
  refine .inr ⟨o, by simpa using ho.lt hw.sound, ?_⟩
  rw [Registry.holders_borrow hw.sound ho, if_pos rfl]
  omega

theorem Held.supplied {w₂ w₃ : World} (hm : Held ok o w w₂ w₃) (hw : Coherent ok w)
    (ho : w.IsRegistered o) (hs : Supplied d w) (h₁ : Supplies ok (some o) d (w.borrow o) w₂)
    (h₂ : Supplies ok none d (w₂.setBorrowed o false) w₃) : Supplied d w₃ ∧ KeepsAtlas w w₃ := by
  have hbacked : Backed d (w.borrow o) := backed_borrow hw ho
  have hs₁ : Supplied d (w.borrow o) := hs.of_env (by simp) rfl rfl fun _ ↦ window_borrow ..
  obtain ⟨hs₂, hstays₁⟩ := h₁ hm.borrowed (fun _ heq ↦ by cases heq; exact hm.isBusy)
    (fun _ _ ↦ hbacked) hs₁
  have hs₂' : Supplied d (w₂.setBorrowed o false) :=
    hs₂.of_env (by simp) rfl rfl fun _ ↦ window_setBorrowed ..
  have hbacked₂ : Backed d (w₂.setBorrowed o false) := by
    rcases hbacked.of_follows hm.body_follows with hd | ⟨o', ho', hheld⟩
    · exact .inl hd
    · exact .inr ⟨o', by simpa using ho', by rwa [Registry.holders_setBorrowed]⟩
  obtain ⟨hs₃, hstays₂⟩ := h₂ hm.returned (by simp) (by simp) hs₂'
  have hborrow : KeepsAtlas w (w.borrow o) := .of_stock rfl
  have hreturn : KeepsAtlas w₂ (w₂.setBorrowed o false) := .of_stock rfl
  exact ⟨hs₃, hborrow.trans ((hstays₁ hbacked).trans (hreturn.trans (hstays₂ hbacked₂)))⟩

/-- The end of a window: the atlas lives on until the window gives back what it owned. -/
theorem Supplied.ending {w₂ : World} (hs : Supplied d w) (ho : o < w.cells.length)
    (halive : o ∉ w.dropped) (hlast : w.cells[o]?.any (·.owners ≤ 1) = true)
    (hw : Coherent ok (w.letGo o)) (hbusy : (w.letGo o).IsBusy o)
    (hdrop : Supplies ok (some o) (d + 2) (unlisten o (w.letGo o)) w₂) :
    Supplied (d + 2) w₂ ∧ KeepsAtlas w w₂ := by
  have hs₁ : Supplied (d + 2) (unlisten o (w.letGo o)) :=
    (hs.letGo_last ho halive hlast).of_same ⟨rfl, rfl, rfl⟩ rfl
  have hbacked : Backed (d + 2) (unlisten o (w.letGo o)) := .inl (by omega)
  obtain ⟨hw₁, hc₁⟩ := unlisten_busy hw hbusy
  obtain ⟨hs₂, hstays⟩ := hdrop hw₁ hc₁ (fun _ _ ↦ hbacked) hs₁
  have hgone : KeepsAtlas w (unlisten o (w.letGo o)) := .of_stock rfl
  exact ⟨hs₂, hgone.trans (hstays hbacked)⟩

theorem listening_discharge (w : World) : listening (discharge w) = listening w := by
  have hsame := sameWindows_releaseWatchdog (releaseAtlas (releaseAtlas w))
  exact listening_congr (by rw [discharge, hsame.cells]; rfl) (by rw [discharge, hsame.dropped]; rfl)

/-- The owners of the atlas are accounted for at every moment, within calls too; and if something is
sure to keep it, it lives on. -/
theorem Moves.supplied (h : Moves ok current w w') : Supplies ok current d w w' := by
  induction h generalizing d with
  | refl => exact fun _ _ _ hs ↦ ⟨hs, fun _ ↦ .of_stock rfl⟩
  | trans h _ ih ih' =>
    intro hw hc hb hs
    obtain ⟨hw', hf⟩ := h.lawful hw hc
    obtain ⟨hs', hstays⟩ := ih hw hc hb hs
    obtain ⟨hs'', hstays'⟩ := ih' hw' (fun o ho ↦ hf.keeps.isBusy hw.sound (hc o ho))
      (fun o ho ↦ (hb o ho).of_follows hf) hs'
    exact ⟨hs'', fun hbacked ↦ (hstays hbacked).trans (hstays' (hbacked.of_follows hf))⟩
  | nested o _ ih => exact fun hw _ _ ↦ ih hw (by simp) (by simp)
  | assuming _ ih => exact fun hw ↦ ih hw.hooks hw
  | silent w f houtline =>
    intro _ _ _ hs
    have hstock := congrArg (fun d : Desk ↦ (d.atlas, d.edits, d.keptAtlases)) houtline
    exact ⟨hs.of_same ⟨rfl, rfl, rfl⟩ hstock, fun _ ↦ .of_stock hstock⟩
  | edit h => exact fun hw _ _ hs ↦ h.supplied hs hw
  | touch w o f hf =>
    intro hw hc _ hs
    refine ⟨hs.of_stock (by simp) rfl rfl fun o' _ ↦ ?_, fun _ ↦ .of_stock rfl⟩
    rw [window_update w o o' f ((hc o rfl).lt hw.sound)]
    split
    · exact (hf _).2.2
    · rfl
  | keepAtlas w o =>
    intro hw _ hb hs
    -- a call works on a window here, so there is an atlas to own
    have hpos := (hb o rfl).pos hw
    refine ⟨⟨?_, hs.shared⟩, fun _ ↦ .of_value rfl rfl rfl⟩
    have hcount : 2 * (listening w).length + (w.env.keptAtlases + 1) + d =
        2 * (listening w).length + w.env.keptAtlases + d + 1 := by omega
    change Shared.Counted _ (2 * (listening w).length + (w.env.keptAtlases + 1) + d)
    rw [hcount]
    exact hs.counted.retain (by omega)
  | hold ho hfree h₁ h₂ howned ih₁ ih₂ =>
    intro hw _ _ hs
    have hm := Lawful.held hw ho hfree h₁.lawful h₂.lawful
    obtain ⟨hs₃, hstays⟩ := hm.supplied hw ho hs ih₁ ih₂
    exact ⟨hs₃.letGo howned, fun _ ↦ hstays.trans (.of_stock rfl)⟩
  | holdLast ho hfree h₁ h₂ hlast h₃ ih₁ ih₂ ih₃ =>
    intro hw hc _ hs
    have hm := Lawful.held hw ho hfree h₁.lawful h₂.lawful
    obtain ⟨hs₃, hstays⟩ := hm.supplied hw ho hs ih₁ ih₂
    obtain ⟨hs₄, hstays'⟩ := hs₃.ending hm.lt hm.alive hlast hm.released (hm.ending hlast) ih₃
    obtain ⟨hw', hf⟩ := (Moves.holdLast ho hfree h₁ h₂ hlast h₃).lawful hw hc
    refine ⟨hs₄.discharge, fun hbacked ↦ hstays.trans (hstays'.trans (.discharge hs₄ ?_))⟩
    exact listening_discharge _ ▸ (hbacked.of_follows hf).pos hw'
  | leave hforget howned =>
    exact fun _ _ _ hs ↦ ⟨(hs.forget hforget).letGo howned, fun _ ↦
      (KeepsAtlas.forget hforget).trans (.of_stock rfl)⟩
  | leaveLast hforget hlast h ih =>
    intro hw hc _ hs
    have hm := hforget.left hw
    obtain ⟨hs₂, hstays⟩ := (hs.forget hforget).ending hm.lt hm.alive hlast hm.released
      (hm.ending hlast) ih
    obtain ⟨hw', hf⟩ := (Moves.leaveLast hforget hlast h).lawful hw hc
    refine ⟨hs₂.discharge, fun hbacked ↦
      (KeepsAtlas.forget hforget).trans (hstays.trans (.discharge hs₂ ?_))⟩
    exact listening_discharge _ ▸ (hbacked.of_follows hf).pos hw'
  | unindex => exact fun _ _ _ hs ↦ ⟨hs.of_same ⟨rfl, rfl, rfl⟩ rfl, fun _ ↦ .of_stock rfl⟩
  | @openFailed w w₁ w₂ i hh h₁ h₂ ih₁ ih₂ =>
    intro hw hc _ hs
    have hequip : Lawful ok none w (World.equip i w) := .equip i
    obtain ⟨hw₀, -⟩ := hequip hw (by simp)
    obtain ⟨hw₁, -⟩ := h₁.lawful hw₀ (by simp)
    have hrelease : Lawful ok none w₁ (World.releaseAtlas w₁) := .releaseAtlas
    obtain ⟨hs₁, hstays₁⟩ := ih₁ hw₀ (by simp) (by simp) (hs.equip i)
    obtain ⟨hs₂, hstays₂⟩ := ih₂ (hrelease hw₁ (by simp)).1 (by simp) (by simp) hs₁.releaseAtlas
    obtain ⟨hw', hf⟩ := (Moves.openFailed hh h₁ h₂).lawful hw hc
    have hsame := (sameWindows_releaseAtlas w₂).trans (sameWindows_releaseWatchdog (World.releaseAtlas w₂))
    have hlistening : listening (World.releaseWatchdog (World.releaseAtlas w₂)) = listening w₂ :=
      listening_congr (by rw [hsame.cells]) hsame.dropped
    refine ⟨hs₂.releaseAtlas.of_same (sameWindows_releaseWatchdog _) (stock_releaseWatchdog _),
      fun hbacked ↦ ?_⟩
    have hpos := (hbacked.of_follows hf).pos hw'
    rw [hlistening] at hpos
    -- whoever opens a window owns the atlas twice; one is given back before the native window goes, one after
    have hstart := KeepsAtlas.equip hs (hs.isSome (hbacked.pos hw)) i
    have hgiven := KeepsAtlas.releaseAtlas hs₁ (by omega)
    have hend := (KeepsAtlas.releaseAtlas hs₂ hpos).trans (.of_stock (stock_releaseWatchdog _))
    exact hstart.trans ((hstays₁ (.inl (by omega))).trans
      (hgiven.trans ((hstays₂ (.inl (by omega))).trans hend)))
  | @opened w w₁ w₂ win hh h₁ hnative view hview h₂ hatlas ih₁ ih₂ =>
    intro hw _ _ hs
    have hm := Lawful.openedFacts hw hh h₁.lawful hnative h₂.lawful
    obtain ⟨hs₁, hstays₁⟩ := ih₁ hm.equipped (by simp) (by simp) (hs.equip win.host)
    obtain ⟨hs₂, hstays₂⟩ := ih₂ hm.viewed (by simp) (by simp) (hs₁.of_same ⟨rfl, rfl, rfl⟩ rfl)
    refine ⟨hs₂.install hm.after hatlas, fun hbacked ↦ ?_⟩
    have hstart := KeepsAtlas.equip hs (hs.isSome (hbacked.pos hw)) win.host
    have hview : KeepsAtlas w₁ (World.modifyHost win.host (·.addView view) w₁) := .of_stock rfl
    have hend : KeepsAtlas w₂ (World.install win w₂) := .of_stock rfl
    exact hstart.trans ((hstays₁ (.inl (by omega))).trans
      (hview.trans ((hstays₂ (.inl (by omega))).trans hend)))

theorem supplied_empty (hosts : List HostSetup) : Supplied 0 (World.empty hosts) where
  counted := ⟨rfl, rfl⟩
  shared ho := absurd (mem_listening.mp ho).1 (Nat.not_lt_zero _)

end World

end Casement
