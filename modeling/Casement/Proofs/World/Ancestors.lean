import Casement.Proofs.World.Views
import Mathlib.Data.Finset.Card
import Mathlib.Data.Fintype.EquivFin

namespace Casement

namespace Host

def LiesIn (s : Host) (view outer : NativeHandle) : Prop :=
  Relation.TransGen (fun v parent => s.parent? v = some parent) view outer

def above (s : Host) : Nat → NativeHandle → Option NativeHandle
  | 0, view => some view
  | n + 1, view => (s.parent? view).bind (s.above n)

variable {s : Host} {view outer parent child target : NativeHandle} {i j n : Nat}

theorem above_add (m n : Nat) (view : NativeHandle) :
    s.above (m + n) view = (s.above m view).bind (s.above n) := by
  induction m generalizing view with
  | zero => simp [above]
  | succ m ih =>
    rw [Nat.succ_add]
    cases hparent : s.parent? view with
    | none => simp [above, hparent]
    | some parent => simp [above, hparent, ih]

theorem above_ne_none (h : s.above j view ≠ none) (hij : i ≤ j) : s.above i view ≠ none := by
  obtain ⟨k, rfl⟩ := Nat.exists_eq_add_of_le hij
  intro hi
  rw [above_add, hi] at h
  exact h rfl

theorem belongsTo_iff_above : s.BelongsTo view outer ↔ ∃ n, s.above n view = some outer := by
  constructor
  · intro h
    induction h using Relation.ReflTransGen.head_induction_on with
    | refl => exact ⟨0, rfl⟩
    | head hparent _ ih =>
      obtain ⟨n, hn⟩ := ih
      exact ⟨n + 1, by rw [above, hparent]; exact hn⟩
  · rintro ⟨n, hn⟩
    induction n generalizing view with
    | zero =>
      cases hn
      exact .refl
    | succ n ih =>
      obtain ⟨parent, hparent, hrest⟩ := Option.bind_eq_some_iff.mp hn
      exact .head hparent (ih hrest)

theorem liesIn_iff_above : s.LiesIn view outer ↔ ∃ n, s.above (n + 1) view = some outer := by
  rw [LiesIn, Relation.TransGen.head'_iff]
  simp only [above, Option.bind_eq_some_iff]
  constructor
  · rintro ⟨parent, hparent, hrest⟩
    obtain ⟨n, hn⟩ := belongsTo_iff_above.mp hrest
    exact ⟨n, parent, hparent, hn⟩
  · rintro ⟨n, parent, hparent, hn⟩
    exact ⟨parent, hparent, belongsTo_iff_above.mpr ⟨n, hn⟩⟩

theorem exists_top (h : s.above n view = none) :
    ∃ top, s.BelongsTo view top ∧ s.parent? top = none := by
  induction n generalizing view with
  | zero => cases h
  | succ n ih =>
    cases hparent : s.parent? view with
    | none => exact ⟨view, .refl, hparent⟩
    | some parent =>
      rw [above, hparent] at h
      obtain ⟨top, hup, htop⟩ := ih h
      exact ⟨top, .head hparent hup, htop⟩

theorem climb_eq_some_true : s.climb target n (s.parent? child) = some true ↔
    ∃ i < n, s.above (i + 1) child = some target := by
  induction n generalizing child with
  | zero => cases hparent : s.parent? child <;> simp [climb]
  | succ n ih =>
    cases hparent : s.parent? child with
    | none => simp [climb, above, hparent]
    | some parent =>
      have hup (i : Nat) : s.above (i + 1) child = s.above i parent := by rw [above, hparent]; rfl
      simp only [climb, Nat.exists_lt_succ_left, hup]
      split
      · next heq => simp [above, heq]
      · next hne => simp [above, hne, ih]

theorem climb_eq_none : s.climb target n (s.parent? child) = none ↔
    (∀ i < n, s.above (i + 1) child ≠ some target) ∧ s.above (n + 1) child ≠ none := by
  induction n generalizing child with
  | zero => cases hparent : s.parent? child <;> simp [climb, above, hparent]
  | succ n ih =>
    cases hparent : s.parent? child with
    | none => simp [climb, above, hparent]
    | some parent =>
      have hup (i : Nat) : s.above (i + 1) child = s.above i parent := by rw [above, hparent]; rfl
      simp only [climb, Nat.forall_lt_succ_left, hup]
      split
      · next heq => simp [above, heq]
      · next hne => simp [above, hne, ih]

theorem above_of_climb_eq_some_false (h : s.climb target n (s.parent? child) = some false) :
    (∀ i < n, s.above (i + 1) child ≠ some target) ∧ s.above (n + 1) child = none := by
  have hmissed : ∀ i < n, s.above (i + 1) child ≠ some target := by
    intro i hi hmet
    rw [climb_eq_some_true.mpr ⟨i, hi, hmet⟩] at h
    cases h
  refine ⟨hmissed, ?_⟩
  by_contra hon
  rw [climb_eq_none.mpr ⟨hmissed, hon⟩] at h
  cases h

theorem climb_eq_some {b : Bool} (h : s.climb target n (s.parent? child) = some b) :
    b = true ↔ s.LiesIn child target := by
  rw [liesIn_iff_above]
  cases b with
  | true =>
    obtain ⟨i, -, hi⟩ := climb_eq_some_true.mp h
    exact ⟨fun _ ↦ ⟨i, hi⟩, fun _ ↦ rfl⟩
  | false =>
    obtain ⟨hmissed, hend⟩ := above_of_climb_eq_some_false h
    refine ⟨by simp, ?_⟩
    rintro ⟨i, hi⟩
    by_cases hlt : i < n
    · exact absurd hi (hmissed i hlt)
    · have hon : s.above (i + 1) child ≠ none := by simp [hi]
      exact absurd hend (above_ne_none hon (by omega))

theorem climb_ends_iff : (∃ n, (s.climb target n (s.parent? child)).isSome = true) ↔
    s.LiesIn child target ∨ ∃ top, s.BelongsTo child top ∧ s.parent? top = none := by
  constructor
  · rintro ⟨n, hn⟩
    obtain ⟨b, hb⟩ := Option.isSome_iff_exists.mp hn
    cases b with
    | true => exact .inl ((climb_eq_some hb).mp rfl)
    | false => exact .inr (exists_top (above_of_climb_eq_some_false hb).2)
  · rintro (hlies | ⟨top, hup, htop⟩)
    · obtain ⟨i, hi⟩ := liesIn_iff_above.mp hlies
      exact ⟨i + 1, by rw [climb_eq_some_true.mpr ⟨i, Nat.lt_succ_self i, hi⟩]; rfl⟩
    · obtain ⟨n, hn⟩ := belongsTo_iff_above.mp hup
      refine ⟨n, Option.isSome_iff_ne_none.mpr fun hnone ↦ (climb_eq_none.mp hnone).2 ?_⟩
      rw [above_add, hn]
      simp [above, htop]

theorem mem_handles_of_above (h : s.above i view = some outer) (hnext : s.above (i + 1) view ≠ none) :
    outer ∈ s.views.map (·.handle) := by
  rw [above_add, h] at hnext
  cases hparent : s.parent? outer with
  | none => simp [above, hparent] at hnext
  | some parent =>
    obtain ⟨v, hv, hseat⟩ := List.mem_map.mp (mem_seats_of_parent? hparent)
    exact List.mem_map.mpr ⟨v, hv, congrArg (·.1) hseat⟩

/-- A way up that is longer than there are views comes by one of them twice. -/
theorem exists_above_eq (h : s.above (s.views.length + 1) view ≠ none) :
    ∃ i j, i < j ∧ j ≤ s.views.length ∧ s.above i view = s.above j view := by
  have hmaps : ∀ i ∈ Finset.range (s.views.length + 1),
      s.above i view ∈ ((s.views.map (·.handle)).map some).toFinset := by
    intro i hi
    have hlt : i + 1 ≤ s.views.length + 1 := Finset.mem_range.mp hi
    have hnext := above_ne_none h hlt
    obtain ⟨outer, houter⟩ := Option.ne_none_iff_exists'.mp (above_ne_none hnext (Nat.le_succ i))
    rw [houter, List.mem_toFinset]
    exact List.mem_map_of_mem (mem_handles_of_above houter hnext)
  have hcard : ((s.views.map (·.handle)).map some).toFinset.card <
      (Finset.range (s.views.length + 1)).card := by
    rw [Finset.card_range]
    exact Nat.lt_succ_of_le ((List.toFinset_card_le _).trans (by simp))
  obtain ⟨i, hi, j, hj, hne, heq⟩ := Finset.exists_ne_map_eq_of_card_lt_of_maps_to hcard hmaps
  rw [Finset.mem_range, Nat.lt_succ_iff] at hi hj
  rcases Nat.lt_or_gt_of_ne hne with hlt | hlt
  · exact ⟨i, j, hlt, hj, heq⟩
  · exact ⟨j, i, hlt, hi, heq.symm⟩

theorem above_of_return (hij : i < j) (heq : s.above i view = s.above j view) (n : Nat) :
    ∃ m < j, s.above n view = s.above m view := by
  induction n using Nat.strong_induction_on with
  | _ n ih =>
    by_cases hn : n < j
    · exact ⟨n, hn, rfl⟩
    · have hback : s.above n view = s.above (i + (n - j)) view := by
        rw [above_add, heq, ← above_add]
        congr 1
        omega
      rw [hback]
      exact ih _ (by omega)

/-- A climb that has not ended after as many steps as there are views does not end. -/
theorem climb_forever (h : s.liesIn? target child = none) (n : Nat) :
    s.climb target n (s.parent? child) = none := by
  obtain ⟨hmissed, hon⟩ := climb_eq_none.mp h
  cases hparent : s.parent? child with
  | none => simp [above, hparent] at hon
  | some parent =>
    have hup (i : Nat) : s.above (i + 1) child = s.above i parent := by rw [above, hparent]; rfl
    rw [hup] at hon
    obtain ⟨i, j, hij, hj, heq⟩ := exists_above_eq hon
    rw [← hparent, climb_eq_none]
    constructor
    · intro k _
      obtain ⟨m, hm, hback⟩ := above_of_return hij heq k
      rw [hup, hback, ← hup]
      exact hmissed m (by omega)
    · rw [hup]
      obtain ⟨m, hm, hback⟩ := above_of_return hij heq n
      rw [hback]
      exact above_ne_none hon (by omega)

theorem liesIn?_eq_some_iff {b : Bool} : s.liesIn? target child = some b ↔
    ∃ n, s.climb target n (s.parent? child) = some b := by
  constructor
  · intro h
    exact ⟨_, h⟩
  · rintro ⟨n, hn⟩
    cases hlies : s.liesIn? target child with
    | none => rw [climb_forever hlies n] at hn; cases hn
    | some b' => rw [Option.some.injEq, Bool.eq_iff_iff, climb_eq_some hlies, climb_eq_some hn]

theorem liesIn?_eq_none_iff : s.liesIn? target child = none ↔
    ∀ n, s.climb target n (s.parent? child) = none :=
  ⟨climb_forever, fun h ↦ h _⟩

/-- Every climb ends if and only if no view lies in itself. -/
theorem forall_liesIn?_isSome : (∀ target child, (s.liesIn? target child).isSome = true) ↔
    ∀ view, ¬ s.LiesIn view view := by
  constructor
  · intro hends view hlies
    obtain ⟨k, hk⟩ := liesIn_iff_above.mp hlies
    have hon (n : Nat) : s.above n view ≠ none := by
      obtain ⟨m, hm, heq⟩ := above_of_return (i := 0) (Nat.succ_pos k) hk.symm n
      rw [heq]
      exact above_ne_none (j := k + 1) (by simp [hk]) (by omega)
    have : Infinite NativeHandle := .of_injective NativeHandle.mk fun _ _ ↦ NativeHandle.mk.inj
    obtain ⟨absent, habsent⟩ := Infinite.exists_notMem_finset (s.views.map (·.handle)).toFinset
    have hnone : s.liesIn? absent view = none := by
      refine climb_eq_none.mpr ⟨fun i _ hi ↦ habsent ?_, hon _⟩
      exact List.mem_toFinset.mpr (mem_handles_of_above hi (hon _))
    have := hends absent view
    rw [hnone] at this
    cases this
  · intro hacyclic target child
    rw [Option.isSome_iff_ne_none]
    intro hnone
    obtain ⟨-, hon⟩ := climb_eq_none.mp hnone
    obtain ⟨i, j, hij, hj, heq⟩ := exists_above_eq (above_ne_none hon (Nat.le_succ _))
    obtain ⟨outer, houter⟩ := Option.ne_none_iff_exists'.mp (above_ne_none hon (i := i) (by omega))
    have hround : s.above (i + (j - i)) child = some outer := by
      rw [Nat.add_sub_of_le hij.le, ← heq, houter]
    rw [above_add, houter] at hround
    refine hacyclic outer (liesIn_iff_above.mpr ⟨j - i - 1, ?_⟩)
    rw [Nat.sub_add_cancel (Nat.sub_pos_of_lt hij)]
    exact hround

theorem Grounded.val_lt (hs : s.Grounded) (h : s.LiesIn view outer) : outer.val < view.val := by
  induction h with
  | single hparent => exact hs _ (mem_seats_of_parent? hparent) _ rfl
  | tail _ hparent ih => exact (hs _ (mem_seats_of_parent? hparent) _ rfl).trans ih

theorem Grounded.not_liesIn_self (hs : s.Grounded) (view : NativeHandle) : ¬ s.LiesIn view view :=
  fun h ↦ (hs.val_lt h).false

end Host

namespace World

theorem isChild_endless_iff {k : Reentry} {h : Nat} {w : World} {target child : NativeHandle} :
    (runHostStep k h (.isChild (.handle target) (.handle child)) w).1 = .endless ↔
      (host w h).liesIn? target child = none := by
  have hreply : (runHostStep k h (.isChild (.handle target) (.handle child)) w).1 =
      (((host w h).liesIn? target child).map .flag).getD .endless := rfl
  rw [hreply]
  cases (host w h).liesIn? target child <;> simp

/-- In every state of a host, the question whether a view lies in another one is answered exactly if
the climb ends, which it does where it meets that one or the top of the hierarchy; the answer is
right, and as many steps as there are views find it. Every such question is answered exactly if no
view lies in itself. None does where all views are newer than those they are in, and this is so after
every script on one host that is not nested and adds views only under handles that have been given
out. -/
theorem climbs_end_unless_circular (hosts : List HostSetup) (steps : List Step) (h : Nat) :
    let w := (Session.run hosts steps).2
    let s := host w h
    (∀ target child,
      ((∃ n, (s.climb target n (s.parent? child)).isSome = true) ↔
        s.LiesIn child target ∨ ∃ top, s.BelongsTo child top ∧ s.parent? top = none) ∧
      (∀ n b, s.climb target n (s.parent? child) = some b → (b = true ↔ s.LiesIn child target)) ∧
      (∀ b, s.liesIn? target child = some b ↔ ∃ n, s.climb target n (s.parent? child) = some b) ∧
      ∀ k, (runHostStep k h (.isChild (.handle target) (.handle child)) w).1 = .endless ↔
        ∀ n, s.climb target n (s.parent? child) = none) ∧
    ((∀ target child, (s.liesIn? target child).isSome = true) ↔ ∀ view, ¬ s.LiesIn view view) ∧
    (s.Grounded → ∀ view, ¬ s.LiesIn view view) ∧
    (hosts.length = 1 → descends (World.empty hosts) steps = true → s.Grounded) := by
  intro w s
  refine ⟨fun target child ↦ ⟨Host.climb_ends_iff, fun n b hb ↦ Host.climb_eq_some hb,
    fun b ↦ Host.liesIn?_eq_some_iff, fun k ↦ isChild_endless_iff.trans Host.liesIn?_eq_none_iff⟩,
    Host.forall_liesIn?_isSome, Host.Grounded.not_liesIn_self, fun hone hsteps ↦ ?_⟩
  obtain ⟨setup, rfl⟩ := List.length_eq_one_iff.mp hone
  have hw : GroundedAtRest w := groundedAtRest_run_of_descends setup hsteps
  cases h with
  | zero => exact hw.grounded
  | succ h =>
    have hnone : w.env.bundles[h + 1]? = none := List.getElem?_eq_none (by rw [hw.one]; omega)
    have hempty : s = {} := by simp [s, host, bundle, List.getD, hnone]
    rw [hempty]
    exact fun seat hseat ↦ absurd hseat List.not_mem_nil

/-- A window with a view in it and one in that is destroyed, and another view is added under its
handle. That view lies in a window which is gone, and the one two levels down in what was left out. -/
theorem climbs_end_unless_circular_orphans :
    let steps : List Step :=
      [.host 0 (.createNative "a" .empty), .host 0 (.addChild (.handle ⟨1⟩) .empty),
        .host 0 (.addChild (.handle ⟨2⟩) .empty), .host 0 (.destroyNative (.handle ⟨1⟩)),
        .host 0 (.addChild (.handle ⟨1⟩) .empty)]
    let s := host (Session.run [{}] steps).2 0
    descends (World.empty [{}]) steps = true ∧ s.isWindow ⟨1⟩ = false ∧
      s.liesIn? ⟨1⟩ ⟨4⟩ = some true ∧ s.liesIn? ⟨1⟩ ⟨3⟩ = some false ∧
      ∀ target child, (s.liesIn? target child).isSome = true := by
  intro steps s
  have hsteps : descends (World.empty [{}]) steps = true := by decide +kernel
  obtain ⟨-, hends, hgrounded, hdescends⟩ := climbs_end_unless_circular [{}] steps 0
  exact ⟨hsteps, by decide +kernel, by decide +kernel, by decide +kernel,
    hends.mpr (hgrounded (hdescends rfl hsteps))⟩

/-- The first view of a host is added under its own handle. -/
theorem circular_climb_does_not_end :
    let w := (Session.run [{}] [.host 0 (.addChild (.handle ⟨1⟩) .empty)]).2
    let s := host w 0
    s.LiesIn ⟨1⟩ ⟨1⟩ ∧ ¬ s.LiesIn ⟨1⟩ ⟨2⟩ ∧ (∀ n, s.climb ⟨2⟩ n (s.parent? ⟨1⟩) = none) ∧
      (runHostStep (scripted 0) 0 (.isChild (.handle ⟨2⟩) (.handle ⟨1⟩)) w).1 = .endless := by
  intro w s
  have hparent : s.parent? ⟨1⟩ = some ⟨1⟩ := by decide +kernel
  have hnone : s.liesIn? ⟨2⟩ ⟨1⟩ = none := by decide +kernel
  have hforever := Host.climb_forever hnone
  refine ⟨.single hparent, fun hlies ↦ ?_, hforever, isChild_endless_iff.mpr hnone⟩
  obtain ⟨n, hn⟩ := Host.climb_ends_iff.mpr (.inl hlies)
  rw [hforever n] at hn
  cases hn

end World

end Casement
