import Casement.Proofs.Registry.Lifetimes

namespace Casement

variable {κ α ε : Type}

namespace Registry

/-- A call that a pass makes on a resource: its heartbeat, with the answer whether to retire it, or
its retirement, with whether it is borrowed at the time. -/
inductive Act where
  | beat (o : ObjectId) (asked : Bool)
  | retire (o : ObjectId) (borrowed : Bool)
  deriving DecidableEq, Repr

def logged (r : Registry κ α ε) (acts : List Act) : Registry κ α (ε × List Act) where
  entries := r.entries
  cells := r.cells
  dropped := r.dropped
  env := (r.env, acts)

def plain (r : Registry κ α (ε × List Act)) : Registry κ α ε where
  entries := r.entries
  cells := r.cells
  dropped := r.dropped
  env := r.env.1

end Registry

open Registry

/-- Resources live as they did, and the calls made on them are recorded. -/
def Conduct.recorded (c : Conduct κ α ε) : Conduct κ α (ε × List Act) where
  drop o r := (c.drop o r.plain).logged r.env.2
  busy access key e := (c.busy access key e.1, e.2)
  beat o r := ((c.beat o r.plain).1,
    (c.beat o r.plain).2.logged (r.env.2 ++ [.beat o (c.beat o r.plain).1]))
  retire o r := (c.retire o r.plain).logged (r.env.2 ++ [.retire o (r.isBorrowed o)])

namespace Registry

@[ext]
structure Visit where
  key : Key
  object : ObjectId
  asked : Bool
  deriving DecidableEq, Repr

/-- The calls of a visit: the heartbeat and, if it asked for that, the retirement of the resource, no
longer borrowed. -/
def Visit.acts (v : Visit) : List Act :=
  .beat v.object v.asked :: if v.asked then [.retire v.object false] else []

variable {c : Conduct κ α ε} {a : Accounts κ α ε} {kind : Option κ} {r : Registry κ α ε} {key : Key} {o : ObjectId}
  {v : Visit} {acts : List Act}

theorem isBorrowed_logged : (r.logged acts).isBorrowed o = r.isBorrowed o := rfl

theorem setBorrowed_logged (b : Bool) :
    (r.logged acts).setBorrowed o b = (r.setBorrowed o b).logged acts := rfl

theorem beat_recorded : c.recorded.beat o ((r.logged acts).borrow o) = ((c.beat o (r.borrow o)).1,
    (c.beat o (r.borrow o)).2.logged (acts ++ [.beat o (c.beat o (r.borrow o)).1])) := rfl

theorem retire_recorded : c.recorded.retire o (r.logged acts) =
    (c.retire o r).logged (acts ++ [.retire o (r.isBorrowed o)]) := rfl

theorem release_logged : release c.recorded.toDisposal o (r.logged acts) =
    (release c.toDisposal o r).logged acts := by
  have hcells : ((r.logged acts).modifyCell o fun c => { c with owners := c.owners - 1 }).cells =
      (r.modifyCell o fun c => { c with owners := c.owners - 1 }).cells := rfl
  unfold release
  dsimp only
  rw [hcells]
  split <;> rfl

theorem isBorrowed_setBorrowed_false (r : Registry κ α ε) (o : ObjectId) :
    (r.setBorrowed o false).isBorrowed o = false := by
  rw [isBorrowed, setBorrowed, cell_modifyCell, if_pos rfl]
  cases r.cells[o]? <;> rfl

variable [DecidableEq κ]

theorem find?_logged : (r.logged acts).find? kind key = r.find? kind key := rfl

def visit? (c : Conduct κ α ε) (kind : Option κ) (r : Registry κ α ε) (key : Key) : Option Visit :=
  match r.find? kind key with
  | none => none
  | some o => if r.isBorrowed o then none else some ⟨key, o, (c.beat o (r.borrow o)).1⟩

def visits (c : Conduct κ α ε) (kind : Option κ) : List Key → Registry κ α ε → List Visit
  | [], _ => []
  | key :: rest, r => (visit? c kind r key).toList ++ visits c kind rest (turn c kind r key)

/-- Recording does not change a turn, and what is recorded is its visit. -/
theorem turn_logged : turn c.recorded kind (r.logged acts) key =
    (turn c kind r key).logged (acts ++ (visit? c kind r key).toList.flatMap Visit.acts) := by
  cases hfind : r.find? kind key with
  | none => simp [turn, visit?, find?_logged, hfind]
  | some o =>
    cases hborrowed : r.isBorrowed o with
    | true =>
      simp only [turn, visit?, find?_logged, hfind, isBorrowed_logged, hborrowed, if_true,
        Option.toList_none, List.flatMap_nil, List.append_nil]
      rfl
    | false =>
      rw [turn_of_free (find?_logged.trans hfind) (isBorrowed_logged.trans hborrowed),
        turn_of_free hfind hborrowed, visit?, hfind]
      simp only [hborrowed, beat_recorded, setBorrowed_logged]
      by_cases hasked : (c.beat o (r.borrow o)).1 = true
      · simp [hasked, retire_recorded, isBorrowed_setBorrowed_false, release_logged, Visit.acts]
      · simp [hasked, release_logged, Visit.acts]

theorem foldl_turn_logged (keys : List Key) : keys.foldl (turn c.recorded kind) (r.logged acts) =
    (keys.foldl (turn c kind) r).logged (acts ++ (visits c kind keys r).flatMap Visit.acts) := by
  induction keys generalizing r acts with
  | nil => simp [visits]
  | cons key rest ih =>
    rw [List.foldl_cons, List.foldl_cons, turn_logged, ih, visits, List.flatMap_append,
      List.append_assoc]

theorem visit?_eq_some_iff : visit? c kind r key = some v ↔
    v.key = key ∧ r.find? kind key = some v.object ∧ r.isBorrowed v.object = false ∧
      v.asked = (c.beat v.object (r.borrow v.object)).1 := by
  obtain ⟨key', o', asked⟩ := v
  unfold visit?
  cases r.find? kind key with
  | none => simp
  | some o =>
    dsimp only
    rw [Option.ite_none_left_eq_some, Option.some.injEq, Option.some.injEq, Visit.mk.injEq,
      Bool.not_eq_true]
    constructor
    · rintro ⟨hfree, rfl, rfl, rfl⟩
      exact ⟨rfl, rfl, hfree, rfl⟩
    · rintro ⟨rfl, rfl, hfree, rfl⟩
      exact ⟨hfree, rfl, rfl, rfl⟩

theorem map_key_visits_sublist (c : Conduct κ α ε) (kind : Option κ) (keys : List Key)
    (r : Registry κ α ε) : ((visits c kind keys r).map (·.key)).Sublist keys := by
  induction keys generalizing r with
  | nil => exact .slnil
  | cons key rest ih =>
    rw [visits, List.map_append]
    cases hvisit : visit? c kind r key with
    | none => exact .cons key (ih _)
    | some v =>
      obtain ⟨rfl, -⟩ := visit?_eq_some_iff.mp hvisit
      exact .cons_cons v.key (ih _)

theorem mem_visits_iff {keys : List Key} : v ∈ visits c kind keys r ↔
    ∃ before after, keys = before ++ v.key :: after ∧
      visit? c kind (before.foldl (turn c kind) r) v.key = some v := by
  induction keys generalizing r with
  | nil => simp [visits]
  | cons key rest ih =>
    rw [visits, List.mem_append, Option.mem_toList, ih]
    constructor
    · rintro (hvisit | ⟨before, after, rfl, hvisit⟩)
      · obtain ⟨rfl, -⟩ := visit?_eq_some_iff.mp hvisit
        exact ⟨[], rest, rfl, hvisit⟩
      · exact ⟨key :: before, after, rfl, hvisit⟩
    · rintro ⟨before, after, hkeys, hvisit⟩
      cases before with
      | nil =>
        cases hkeys
        exact .inl hvisit
      | cons key' before =>
        cases hkeys
        exact .inr ⟨before, after, rfl, hvisit⟩

theorem Moment.Reached.find?_later_iff {m m' : Moment κ α ε} (hm : m.Reached)
    (h : Relation.ReflTransGen Moment.Step m m') (hfind : m.registry.find? kind key = some o)
    {o' : ObjectId} :
    m'.registry.find? kind key = some o' ↔ o' = o ∧ m'.registry.IsRegistered o := by
  obtain ⟨e, he, hkind, rfl⟩ := find?_eq_some hfind
  have hrecorded := (hm.trans h).recorded
  have hissued := Moment.issued_kept h (hm.recorded.entry he)
  constructor
  · intro hfind'
    obtain ⟨e', he', -, rfl⟩ := find?_eq_some hfind'
    have hissued' := hrecorded.entry he'
    have hsame : e'.object = e.object := by
      refine (List.getElem?_inj ?_ hrecorded.nodup).mp ?_
      · rw [List.length_map]
        exact (List.getElem?_eq_some_iff.mp hissued').1
      · rw [List.getElem?_map, List.getElem?_map, hissued', hissued]
        rfl
    exact ⟨hsame, key, e', he', hsame⟩
  · rintro ⟨rfl, hregistered⟩
    have hkept : key ∉ m'.removed := fun hremoved ↦
      (hrecorded.not_isRegistered_iff hissued).mpr hremoved hregistered
    have he' : m'.registry.entries.get? key = some e := hrecorded.get?_eq_some_iff.mpr ⟨hissued, hkept⟩
    simp [find?, he', hkind]

theorem pairwise_visits (c : Conduct κ α ε) (kind : Option κ) (r : Registry κ α ε) :
    (visits c kind (r.keys kind) r).Pairwise fun v v' => v.key.index < v'.key.index := by
  have hkeys := (r.pairwise_keys kind).sublist (map_key_visits_sublist c kind (r.keys kind) r)
  rwa [List.pairwise_map] at hkeys

/-- The registry when a key of a pass has its turn. -/
def atTurn (c : Conduct κ α ε) (kind : Option κ) (r : Registry κ α ε) (key : Key) : Registry κ α ε :=
  ((r.keys kind).takeWhile (· ≠ key)).foldl (turn c kind) r

theorem takeWhile_keys {before after : List Key} (h : r.keys kind = before ++ key :: after) :
    (r.keys kind).takeWhile (· ≠ key) = before := by
  have hordered := r.pairwise_keys kind
  rw [h, List.pairwise_append] at hordered
  have hbefore : ∀ key' ∈ before, decide (key' ≠ key) = true := by
    intro key' hmem
    refine decide_eq_true fun heq ↦ ?_
    have hlt := hordered.2.2 key' hmem key List.mem_cons_self
    rw [heq] at hlt
    exact Nat.lt_irrefl _ hlt
  rw [h, List.takeWhile_append_of_pos hbefore]
  simp

theorem mem_visits_keys_iff : v ∈ visits c kind (r.keys kind) r ↔
    v.key ∈ r.keys kind ∧ visit? c kind (atTurn c kind r v.key) v.key = some v := by
  rw [mem_visits_iff]
  constructor
  · rintro ⟨before, after, hkeys, hvisit⟩
    rw [atTurn, takeWhile_keys hkeys]
    exact ⟨by simp [hkeys], hvisit⟩
  · rintro ⟨hkey, hvisit⟩
    obtain ⟨before, after, hkeys⟩ := List.append_of_mem hkey
    rw [atTurn, takeWhile_keys hkeys] at hvisit
    exact ⟨before, after, hkeys, hvisit⟩

/-- A resource is visited at its turn exactly if it is still registered and no call on it encloses the
pass. -/
theorem Moment.Reached.visit?_eq_some_iff {m : Moment κ α ε} (hm : m.Reached) (hc : c.Proper a)
    (hfind : m.registry.find? kind key = some o) :
    visit? c kind (atTurn c kind m.registry key) key = some v ↔
      v = ⟨key, o, (c.beat o ((atTurn c kind m.registry key).borrow o)).1⟩ ∧
        (atTurn c kind m.registry key).IsRegistered o ∧ .use o ∉ m.stack := by
  let r := atTurn c kind m.registry key
  have hsteps := hc.turns m.stack kind ((m.registry.keys kind).takeWhile (· ≠ key)) m.registry m.issued m.removed
  have hborrowed : r.isBorrowed o = true ↔ .use o ∈ m.stack := (hm.trans hsteps).balanced.borrowed o
  have hlater (o' : ObjectId) : r.find? kind key = some o' ↔ o' = o ∧ r.IsRegistered o :=
    hm.find?_later_iff hsteps hfind
  rw [Registry.visit?_eq_some_iff, hlater, ← hborrowed, Visit.ext_iff, Bool.not_eq_true]
  constructor
  · rintro ⟨hkey, ⟨hobject, hregistered⟩, hfree, hasked⟩
    rw [hobject] at hfree hasked
    exact ⟨⟨hkey, hobject, hasked⟩, hregistered, hfree⟩
  · rintro ⟨⟨hkey, hobject, hasked⟩, hregistered, hfree⟩
    dsimp only at hobject
    rw [hobject]
    exact ⟨hkey, ⟨rfl, hregistered⟩, hfree, hasked⟩

theorem Sound.key_unique_of_find? {key' : Key} (hr : r.Sound) (h : r.find? kind key = some o)
    (h' : r.find? kind key' = some o) : key = key' := by
  obtain ⟨e, he, -, hobject⟩ := find?_eq_some h
  obtain ⟨e', he', -, hobject'⟩ := find?_eq_some h'
  exact hr.key_unique he he' (hobject.trans hobject'.symm)

/-- A pass at any moment of a run, for one kind of resources or for all, whatever its callbacks do. The
calls it makes itself are those of visits in the order of their places, to resources that were
registered when it began, each one at most once: a heartbeat and, exactly if it asked for that, the
retirement, when the resource is no longer borrowed and before the next visit. A resource that was
registered is left out exactly if, at its turn, it is so no longer, or a call on it encloses the pass.
Resources that are registered later have higher numbers, and are not visited. -/
theorem pass_visits_snapshot {m : Moment κ α ε} (hm : m.Reached) {c : Conduct κ α ε} {a : Accounts κ α ε}
    (hc : c.Proper a) (kind : Option κ) :
    let r := m.registry
    let recorded := pass c.recorded kind (r.logged [])
    recorded.plain = pass c kind r ∧
    ∃ visits : List Visit,
      recorded.env.2 = visits.flatMap Visit.acts ∧
      visits.Pairwise (fun v v' => v.key.index < v'.key.index) ∧
      (visits.map (·.object)).Nodup ∧
      (∀ v ∈ visits, r.find? kind v.key = some v.object ∧ v.object < r.cells.length) ∧
      ∀ key o, r.find? kind key = some o →
        ((∃ v ∈ visits, v.object = o) ↔
          (atTurn c kind r key).IsRegistered o ∧ .use o ∉ m.stack) := by
  intro r recorded
  have hrecorded : recorded =
      (pass c kind r).logged ((visits c kind (r.keys kind) r).flatMap Visit.acts) :=
    foldl_turn_logged _
  have hsound : r.Sound := hm.balanced.sound
  have hordered := pairwise_visits c kind r
  have hfound {v : Visit} (hv : v ∈ visits c kind (r.keys kind) r) :
      r.find? kind v.key = some v.object := by
    obtain ⟨hkey, hvisit⟩ := mem_visits_keys_iff.mp hv
    obtain ⟨o, hfind⟩ := mem_keys_iff.mp hkey
    rw [((hm.visit?_eq_some_iff hc hfind).mp hvisit).1]
    exact hfind
  refine ⟨congrArg plain hrecorded, visits c kind (r.keys kind) r, congrArg (·.env.2) hrecorded,
    hordered, ?_, fun v hv ↦ ?_, fun key o hfind ↦ ?_⟩
  · rw [List.Nodup, List.pairwise_map]
    refine hordered.imp_of_mem fun hv hv' hlt heq ↦ ?_
    rw [hsound.key_unique_of_find? (hfound hv) (heq ▸ hfound hv')] at hlt
    exact Nat.lt_irrefl _ hlt
  · exact ⟨hfound hv, (isRegistered_of_find? (hfound hv)).lt hsound⟩
  · constructor
    · rintro ⟨v, hv, rfl⟩
      obtain rfl := hsound.key_unique_of_find? (hfound hv) hfind
      exact ((hm.visit?_eq_some_iff hc hfind).mp (mem_visits_keys_iff.mp hv).2).2
    · intro hvisited
      have hvisit := (hm.visit?_eq_some_iff hc hfind).mpr ⟨rfl, hvisited⟩
      exact ⟨⟨key, o, _⟩, mem_visits_keys_iff.mpr ⟨mem_keys_iff.mpr ⟨o, hfind⟩, hvisit⟩, rfl⟩

/-- The heartbeat of the second of four probes unregisters the third, registers another one in its
place and makes a pass; the fourth asks to be retired. -/
def upheavalScript : List Probe.Step :=
  [.register "w" .a none [] [] [],
    .register "x" .b none [.unregister "y", .register "z" .b none [] [] [], .heartbeat none] [] [],
    .register "y" .a none [] [] [], .register "v" .b (some 1) [] [] []]

/-- A pass made while the first probe is worked on. The pass within it beats the new probe and the
fourth; its own heartbeats are those of the second and the fourth. -/
theorem pass_visits_snapshot_upheaval :
    let r := (Probe.runScript upheavalScript).2.borrow 0
    let c := Probe.conduct (Probe.nested Probe.depth)
    let a := Probe.accounts (Probe.turnoverNested Probe.depth)
    ∃ issued removed, Moment.Reached ⟨r, [.use 0], issued, removed⟩ ∧ c.Proper a ∧
      (pass c none r).cells.length = 5 ∧
      ∃ visits : List Visit,
        visits.flatMap Visit.acts = [.beat 1 false, .beat 3 true, .retire 3 false] ∧
        visits.Pairwise (fun v v' => v.key.index < v'.key.index) ∧
        (∃ v ∈ visits, v.object = 3) ∧ ¬ (∃ v ∈ visits, v.object = 2) ∧
        ¬ ∃ v ∈ visits, v.object = 0 := by
  intro r c a
  obtain ⟨issued, removed, hm₀⟩ : ∃ issued removed,
      Moment.Reached ⟨(Probe.runScript upheavalScript).2, [], issued, removed⟩ :=
    ⟨_, _, Probe.reached_runScript upheavalScript⟩
  have hfirst : (Probe.runScript upheavalScript).2.find? none ⟨1, 1⟩ = some 0 := by decide +kernel
  have hfree : (Probe.runScript upheavalScript).2.isBorrowed 0 = false := by decide +kernel
  have hm : Moment.Reached ⟨r, [.use 0], issued, removed⟩ := hm₀.trans (.single (.enter hfirst hfree))
  have hc : c.Proper a := Probe.proper_conduct (Probe.runs_nested Probe.depth)
  obtain ⟨-, visits, hacts, hordered, -, -, hvisited⟩ := pass_visits_snapshot hm hc none
  have hrecorded : (pass c.recorded none (r.logged [])).env.2 =
      [.beat 1 false, .beat 3 true, .retire 3 false] := by decide +kernel
  dsimp only at hacts hvisited
  rw [hrecorded] at hacts
  refine ⟨issued, removed, hm, hc, by decide +kernel, visits, hacts.symm, hordered, ?_, ?_, ?_⟩
  · have hkept : (atTurn c none r ⟨4, 1⟩).find? none ⟨4, 1⟩ = some 3 := by decide +kernel
    exact (hvisited ⟨4, 1⟩ 3 (by decide +kernel)).mpr ⟨isRegistered_of_find? hkept, by decide⟩
  · have hgone : 2 ∉ (atTurn c none r ⟨3, 1⟩).entries.toList.map (·.2.object) := by decide +kernel
    rw [hvisited ⟨3, 1⟩ 2 (by decide +kernel), ← mem_objects_iff]
    exact fun h ↦ hgone h.1
  · rw [hvisited ⟨1, 1⟩ 0 (by decide +kernel)]
    exact fun h ↦ h.2 List.mem_cons_self

end Registry

end Casement
