import Casement.Proofs.World.Views

namespace Casement.World

variable {w : World} {o o' : ObjectId} {key : Key} {native : NativeHandle} {message : KeyMessage}

section Order

variable {k : Reentry} {order : List NativeHandle}

theorem offerAccel_none (h : ∀ n ∈ order, routeKey k n message w = (.notOurs, w)) :
    offerAccel k message order w = (.notOurs, w) := by
  induction order with
  | nil => rfl
  | cons n rest ih =>
    obtain ⟨hn, hrest⟩ := List.forall_mem_cons.mp h
    rw [offerAccel, hn]
    exact ih hrest

/-- Where only one takes a key, it does not matter when it is asked. -/
theorem offerAccel_one {taken : Accel × World} (hmem : native ∈ order)
    (htakes : routeKey k native message w = taken) (htaken : taken.1 ≠ .notOurs)
    (hothers : ∀ n ∈ order, n ≠ native → routeKey k n message w = (.notOurs, w)) :
    offerAccel k message order w = taken := by
  induction order with
  | nil => cases hmem
  | cons n rest ih =>
    obtain ⟨hn, hrest⟩ := List.forall_mem_cons.mp hothers
    by_cases heq : n = native
    · rw [offerAccel, heq, htakes]
      obtain ⟨answer, w'⟩ := taken
      cases answer with
      | notOurs => exact absurd rfl htaken
      | eat | passToHost => rfl
    · rw [offerAccel, hn heq]
      exact ih ((List.mem_cons.mp hmem).resolve_left (Ne.symm heq)) hrest

end Order

/-- A window is registered, and the target of a key is its native window or a view in it. -/
def IsFor (w : World) (message : KeyMessage) (o : ObjectId) : Prop :=
  w.IsRegistered o ∧ (host w 0).BelongsTo message.target (window w o).native

def answer (w : World) (o : ObjectId) : Accel :=
  if (window w o).context.io.wantsKeyboard then .eat else .passToHost

theorem answer_ne_notOurs (w : World) (o : ObjectId) : answer w o ≠ .notOurs := by
  unfold answer
  split <;> simp

theorem GroundedAtRest.routeKey_eq (hw : GroundedAtRest w) (hreg : w.IsRegistered o) :
    (IsFor w message o → routeKey (scripted 0) (window w o).native message w =
      (answer w o, call 0 (.routeKey (window w o).native) w)) ∧
    (¬ IsFor w message o → routeKey (scripted 0) (window w o).native message w = (.notOurs, w)) := by
  obtain ⟨key, hkey⟩ := isRegistered_iff.mp hreg
  have hhost := hw.sited.host_eq_zero hw.quiet hkey
  have hfind : find? w (window w o).native = some key :=
    hw.sited.find?_eq_some_iff.mpr (native?_of_find? hkey)
  have hfor : IsFor w message o ↔ message.target = (window w o).native ∨
      (host w 0).isChild (window w o).native message.target = true :=
    (and_iff_right hreg).trans hw.grounded.belongsTo_iff
  have hborrowed : host (w.borrow o) 0 = host w 0 := rfl
  unfold routeKey
  rw [hfind]
  dsimp only
  constructor
  · intro hmine
    rw [hw.quiet.withWindow_still hkey (b := answer w o)
      (f := fun d => { d with trace := d.trace ++ [.call 0 (.routeKey (window w o).native)] })]
    · rfl
    · dsimp only [scripted]
      rw [window_borrow, hhost, hborrowed, if_neg]
      · simp [answer, call, traced]
      · rcases hfor.mp hmine with heq | hchild
        · simp [heq]
        · simp [hchild]
  · intro hother
    obtain ⟨hne, hchild⟩ := not_or.mp (hfor.not.mp hother)
    rw [hw.quiet.withWindow_still hkey (b := Accel.notOurs) (f := id)]
    · rfl
    · rw [window_borrow, hhost, hborrowed, if_pos]
      · rfl
      · simp [hne, hchild]

theorem GroundedAtRest.mem_accelerators (hw : GroundedAtRest w) :
    native ∈ (host w 0).accelerators ↔ ∃ o, w.IsRegistered o ∧ (window w o).native = native := by
  rw [hw.indexed.accelerators, List.mem_map]
  refine exists_congr fun o ↦ and_congr_left fun _ ↦ ?_
  rw [hw.rest.mem_listening_iff hw.quiet.coherent, isRegistered_iff]

/-- No key is for two windows. -/
theorem GroundedAtRest.isFor_unique (hw : GroundedAtRest w) (h : IsFor w message o)
    (h' : IsFor w message o') : o = o' :=
  hw.belongsTo_unique h.1 h'.1 h.2 h'.2

theorem GroundedAtRest.offerAccel_isFor (hw : GroundedAtRest w) (h : IsFor w message o)
    {order : List NativeHandle}
    (horder : ∀ n, n ∈ order ↔ n ∈ (host w 0).accelerators) :
    offerAccel (scripted 0) message order w =
      (answer w o, call 0 (.routeKey (window w o).native) w) := by
  have hmem : (window w o).native ∈ order := (horder _).mpr (hw.mem_accelerators.mpr ⟨o, h.1, rfl⟩)
  refine offerAccel_one hmem ((hw.routeKey_eq h.1).1 h) (answer_ne_notOurs w o) fun n hn hne ↦ ?_
  obtain ⟨o', hreg, rfl⟩ := hw.mem_accelerators.mp ((horder n).mp hn)
  refine (hw.routeKey_eq hreg).2 fun h' ↦ hne ?_
  rw [hw.isFor_unique h' h]

theorem GroundedAtRest.offerAccel_isForNone (hw : GroundedAtRest w) (h : ¬ ∃ o, IsFor w message o)
    {order : List NativeHandle} (horder : ∀ n, n ∈ order ↔ n ∈ (host w 0).accelerators) :
    offerAccel (scripted 0) message order w = (.notOurs, w) := by
  refine offerAccel_none fun n hn ↦ ?_
  obtain ⟨o, hreg, rfl⟩ := hw.mem_accelerators.mp ((horder n).mp hn)
  exact (hw.routeKey_eq hreg).2 fun hfor ↦ h ⟨o, hfor⟩

/-- After every script on one host that is not nested and adds views only in views that are there, a
key is nobody's exactly if its target is neither the native window of a registered window nor a view
in one. Otherwise it is for one window; only the renderer of that is asked, and it eats the key
exactly if its GUI wants the keyboard. The windows may be asked in any order. -/
theorem keys_reach_their_window (setup : HostSetup) {steps : List Step}
    (hsteps : grows (World.empty [setup]) steps = true) (message : KeyMessage) :
    let w := (Session.run [setup] steps).2
    let sent := sendAccel (scripted 0) 0 message w
    (sent.1 = .notOurs ↔ ¬ ∃ o, IsFor w message o) ∧
    (sent.1 = .notOurs → sent.2 = w) ∧
    (sent.1 ≠ .notOurs → ∃! o, IsFor w message o) ∧
    (∀ o, IsFor w message o →
      sent.1 = (if (window w o).context.io.wantsKeyboard then .eat else .passToHost) ∧
        sent.2 = call 0 (.routeKey (window w o).native) w) ∧
    ∀ order, order.Perm (host w 0).accelerators → offerAccel (scripted 0) message order w = sent := by
  intro w sent
  have hw : GroundedAtRest w := groundedAtRest_run setup hsteps
  have hsome {o : ObjectId} (h : IsFor w message o) {order : List NativeHandle}
      (horder : order.Perm (host w 0).accelerators) :=
    hw.offerAccel_isFor h fun _ ↦ horder.mem_iff
  have hnone (h : ¬ ∃ o, IsFor w message o) {order : List NativeHandle}
      (horder : order.Perm (host w 0).accelerators) :=
    hw.offerAccel_isForNone h fun _ ↦ horder.mem_iff
  have hsent {o : ObjectId} (h : IsFor w message o) : sent = _ := hsome h (.refl _)
  have hlost (h : ¬ ∃ o, IsFor w message o) : sent = _ := hnone h (.refl _)
  have hiff : sent.1 = .notOurs ↔ ¬ ∃ o, IsFor w message o := by
    refine ⟨?_, fun h ↦ by rw [hlost h]⟩
    rintro hanswer ⟨o, hfor⟩
    rw [hsent hfor] at hanswer
    exact answer_ne_notOurs w o hanswer
  refine ⟨hiff, fun h ↦ by rw [hlost (hiff.mp h)], fun h ↦ ?_, fun o hfor ↦ ?_, fun order horder ↦ ?_⟩
  · obtain ⟨o, hfor⟩ := not_not.mp (hiff.not.mp h)
    exact ⟨o, hfor, fun o' hfor' ↦ hw.isFor_unique hfor' hfor⟩
  · rw [hsent hfor]
    exact ⟨rfl, rfl⟩
  · by_cases h : ∃ o, IsFor w message o
    · obtain ⟨o, hfor⟩ := h
      rw [hsome hfor horder, hsent hfor]
    · rw [hnone h horder, hlost h]

/-- Of five views in one another, in the second of two windows, the third is destroyed, and the fourth
with it. A key for the second is eaten, one for the fifth is nobody's. -/
theorem keys_reach_their_window_nested :
    let steps : List Step :=
      [.openWindow 0 {} "a" 0 0 9 9, .openWindow 0 {} "b" 0 0 9 9,
        .host 0 (.addChild (.slot 1) .empty), .host 0 (.addChild (.handle ⟨3⟩) .empty),
        .host 0 (.addChild (.handle ⟨4⟩) .empty), .host 0 (.addChild (.handle ⟨5⟩) .empty),
        .host 0 (.addChild (.handle ⟨6⟩) .empty), .host 0 (.destroyNative (.handle ⟨5⟩)),
        .window (.slot 1) (.wantKeyboard true)]
    let w := (Session.run [{}] steps).2
    grows (World.empty [{}]) steps = true ∧ IsFor w ⟨⟨4⟩, 65, true⟩ 1 ∧
      (sendAccel (scripted 0) 0 ⟨⟨4⟩, 65, true⟩ w).1 = .eat ∧
      (sendAccel (scripted 0) 0 ⟨⟨7⟩, 65, true⟩ w).1 = .notOurs ∧
      ¬ ∃ o, IsFor w ⟨⟨7⟩, 65, true⟩ o := by
  intro steps w
  have hsteps : grows (World.empty [{}]) steps = true := by decide +kernel
  have hfor : IsFor w ⟨⟨4⟩, 65, true⟩ 1 := by
    refine ⟨⟨⟨2, 1⟩, ⟨(), 1⟩, by decide +kernel, rfl⟩, ?_⟩
    have hup : (host w 0).parent? ⟨4⟩ = some ⟨3⟩ := by decide +kernel
    have hroot : (host w 0).parent? ⟨3⟩ = some (window w 1).native := by decide +kernel
    exact .head hup (.head hroot .refl)
  have hwants : (window w 1).context.io.wantsKeyboard = true := by decide +kernel
  obtain ⟨-, -, -, heaten, -⟩ := keys_reach_their_window {} hsteps ⟨⟨4⟩, 65, true⟩
  obtain ⟨hlost, -, -, -, -⟩ := keys_reach_their_window {} hsteps ⟨⟨7⟩, 65, true⟩
  have hnobody : (sendAccel (scripted 0) 0 ⟨⟨7⟩, 65, true⟩ w).1 = .notOurs := by decide +kernel
  refine ⟨hsteps, hfor, ?_, hnobody, hlost.mp hnobody⟩
  rw [(heaten 1 hfor).1, if_pos hwants]

end Casement.World
