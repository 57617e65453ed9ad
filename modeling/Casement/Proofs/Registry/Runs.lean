import Casement.Probe.Run
import Casement.Proofs.Registry.Moments

namespace Casement

open Relation (ReflTransGen)

variable {κ α ε β : Type}

/-- The handles that registrations returned, in their order, and those of which an unregistration
answered that there was such a resource, the last one first. -/
@[ext]
structure Turnover (κ : Type) where
  given : List (κ × Key) := []
  taken : List Key := []
  deriving DecidableEq, Repr

namespace Turnover

def give (kind : κ) (key : Key) : Turnover κ := { given := [(kind, key)] }

def take (key : Key) : Turnover κ := { taken := [key] }

instance : Append (Turnover κ) := ⟨fun l l' => ⟨l.given ++ l'.given, l'.taken ++ l.taken⟩⟩

@[simp] theorem given_append (l l' : Turnover κ) : (l ++ l').given = l.given ++ l'.given := rfl

@[simp] theorem taken_append (l l' : Turnover κ) : (l ++ l').taken = l'.taken ++ l.taken := rfl

@[simp] theorem nil_append (l : Turnover κ) : {} ++ l = l := by ext1 <;> simp

@[simp] theorem append_nil (l : Turnover κ) : l ++ {} = l := by ext1 <;> simp

end Turnover

namespace Registry

def Moment.after (m : Moment κ α ε) (l : Turnover κ) (r' : Registry κ α ε) : Moment κ α ε :=
  ⟨r', m.stack, m.issued ++ l.given, l.taken ++ m.removed⟩

variable [DecidableEq κ]

/-- Steps lead from one registry to the other, with the same calls under way before and after, and `l`
is what they give out and take back. -/
def Runs (stack : List Hold) (l : Turnover κ) (r r' : Registry κ α ε) : Prop :=
  ∀ issued removed, ReflTransGen Moment.Step ⟨r, stack, issued, removed⟩
    (Moment.after ⟨r, stack, issued, removed⟩ l r')

/-- What follows when a call lets go of a resource in `r`: nothing or, after the last owner, the
end of the resource. -/
def Settles (stack : List Hold) (o : ObjectId) (l : Turnover κ) (r r' : Registry κ α ε) : Prop :=
  ∀ issued removed, ReflTransGen Moment.Step
    (Moment.letGo ⟨r, stack, issued, removed⟩ o (release unattended o r))
    (Moment.after ⟨r, stack, issued, removed⟩ l r')

section Runs

variable {r r' r'' : Registry κ α ε} {stack : List Hold} {o : ObjectId} {l l' : Turnover κ}

omit [DecidableEq κ] in
theorem Moment.after_nil (m : Moment κ α ε) (r : Registry κ α ε) : m.after {} r = { m with registry := r } := by
  simp [Moment.after]

omit [DecidableEq κ] in
theorem Moment.after_append (m : Moment κ α ε) (r' : Registry κ α ε) :
    m.after (l ++ l') r = (m.after l r').after l' r := by
  simp [Moment.after]

theorem Runs.of_step (h : ∀ issued removed, Moment.Step ⟨r, stack, issued, removed⟩ ⟨r', stack, issued, removed⟩) :
    Runs stack {} r r' := by
  intro issued removed
  rw [Moment.after_nil]
  exact .single (h issued removed)

theorem Runs.refl (stack : List Hold) (r : Registry κ α ε) : Runs stack {} r r := by
  intro issued removed
  rw [Moment.after_nil]

theorem Runs.trans (h : Runs stack l r r') (h' : Runs stack l' r' r'') : Runs stack (l ++ l') r r'' := by
  intro issued removed
  rw [Moment.after_append _ r']
  exact (h issued removed).trans (h' _ _)

theorem Runs.trans_nil (h : Runs stack l r r') (h' : Runs stack {} r' r'') : Runs stack l r r'' := by
  have hboth := h.trans h'
  rwa [Turnover.append_nil] at hboth

theorem Runs.nil_trans (h : Runs stack {} r r') (h' : Runs stack l r' r'') : Runs stack l r r'' := by
  have hboth := h.trans h'
  rwa [Turnover.nil_append] at hboth

theorem Runs.modifyEnv (stack : List Hold) (r : Registry κ α ε) (f : ε → ε) : Runs stack {} r (r.modifyEnv f) :=
  .of_step fun _ _ ↦ .elsewhere _ f

theorem Runs.update {hold : Hold} (ho : hold.accessed? = some o) (stack : List Hold)
    (r : Registry κ α ε) (f : α → α) : Runs (hold :: stack) {} r (r.update o f) :=
  .of_step fun _ _ ↦ .touch rfl ho f

theorem Runs.register (stack : List Hold) (r : Registry κ α ε) (kind : κ) (value : α) :
    Runs stack (.give kind (r.register kind value).1) r (r.register kind value).2 :=
  fun _ _ ↦ .single (.register _ kind value)

theorem Settles.stay (stack : List Hold) (howned : r.cells[o]?.any (·.owners ≤ 1) = false) :
    Settles stack o {} r (r.letGo o) := by
  intro issued removed
  rw [Moment.letGo_of_owned _ howned, Moment.after_nil]

theorem Settles.last (hlast : r.cells[o]?.any (·.owners ≤ 1) = true)
    (hend : Runs (.drop o :: stack) l (r.letGo o) r') : Settles stack o l r r' := by
  intro issued removed
  rw [Moment.letGo_of_last _ hlast]
  exact (hend issued removed).tail (.bury rfl)

/-- A call on a resource: it is borrowed, given back and, after something else, let go. -/
theorem Runs.hold {r₁ r₂ : Registry κ α ε} {l₁ l₂ : Turnover κ} {kind : Option κ} {key : Key}
    (hfind : r.find? kind key = some o) (hfree : r.isBorrowed o = false)
    (hbody : Runs (.use o :: stack) l₁ (r.borrow o) r₁)
    (hafter : Runs (.keep o :: stack) l₂ (r₁.setBorrowed o false) r₂) (hs : Settles stack o l r₂ r') :
    Runs stack (l₁ ++ l₂ ++ l) r r' := by
  intro issued removed
  have henter := Moment.Step.enter (m := ⟨r, stack, issued, removed⟩) hfind hfree
  rw [Moment.after_append _ r₂, Moment.after_append _ r₁]
  exact (((((hbody issued removed).head henter).tail (.unborrow rfl)).trans (hafter _ _)).tail (.leave rfl)).trans
    (hs _ _)

theorem Runs.forget {kind : κ} {key : Key} (hfind : r.find? (some kind) key = some o)
    (hs : Settles stack o l { r with entries := r.entries.erase key } r') : Runs stack (.take key ++ l) r r' := by
  intro issued removed
  have hstep := Moment.Step.unregister (m := ⟨r, stack, issued, removed⟩) hfind
  rw [Moment.unregister_unattended hfind] at hstep
  have hend := (hs issued (key :: removed)).head hstep
  simpa [Moment.after, Turnover.take] using hend

end Runs

end Registry

/-- What the callbacks of resources give out and take back. -/
structure Accounts (κ α ε : Type) where
  drop : ObjectId → Registry κ α ε → Turnover κ
  beat : ObjectId → Registry κ α ε → Turnover κ
  retire : ObjectId → Registry κ α ε → Turnover κ

open Registry

section Proper

variable [DecidableEq κ]

structure Disposal.Proper (d : Disposal κ α ε) (drops : ObjectId → Registry κ α ε → Turnover κ) : Prop where
  drop : ∀ stack o r, Runs (.drop o :: stack) (drops o r) r (d.drop o r)

/-- Whatever a resource does is a run, within the call that it does it in. -/
structure Conduct.Proper (c : Conduct κ α ε) (a : Accounts κ α ε) : Prop
    extends Disposal.Proper c.toDisposal a.drop where
  beat : ∀ stack o r, Runs (.use o :: stack) (a.beat o r) r (c.beat o r).2
  retire : ∀ stack o r, Runs (.keep o :: stack) (a.retire o r) r (c.retire o r)

end Proper

namespace Turnover

def ofRelease (drops : ObjectId → Registry κ α ε → Turnover κ) (o : ObjectId) (r : Registry κ α ε) : Turnover κ :=
  if r.cells[o]?.any (·.owners ≤ 1) then drops o (r.letGo o) else {}

variable [DecidableEq κ]

/-- An unregistration takes back its handle exactly if it answers that there was such a resource. -/
def ofUnregister (d : Disposal κ α ε) (drops : ObjectId → Registry κ α ε → Turnover κ) (kind : κ) (key : Key)
    (r : Registry κ α ε) : Turnover κ :=
  if (r.unregister d kind key).1 then
    match r.find? (some kind) key with
    | none => take key
    | some o => take key ++ ofRelease drops o { r with entries := r.entries.erase key }
  else {}

/-- An access adds nothing to what its body, with `work`, and the end of the resource do. -/
def ofAccess (drops : ObjectId → Registry κ α ε → Turnover κ) (kind : κ) (key : Key)
    (body : ObjectId → Registry κ α ε → β × Registry κ α ε) (work : ObjectId → Registry κ α ε → Turnover κ)
    (r : Registry κ α ε) : Turnover κ :=
  match r.find? (some kind) key with
  | none => {}
  | some o =>
    if r.isBorrowed o then {}
    else work o (r.borrow o) ++ ofRelease drops o ((body o (r.borrow o)).2.setBorrowed o false)

/-- A turn adds nothing to what the heartbeat, the retirement and the end of the resource do. -/
def ofTurn (c : Conduct κ α ε) (a : Accounts κ α ε) (kind : Option κ) (r : Registry κ α ε) (key : Key) : Turnover κ :=
  match r.find? kind key with
  | none => {}
  | some o =>
    if r.isBorrowed o then {}
    else
      let beaten := (c.beat o (r.borrow o)).2.setBorrowed o false
      if (c.beat o (r.borrow o)).1 then
        a.beat o (r.borrow o) ++ a.retire o beaten ++ ofRelease a.drop o (c.retire o beaten)
      else a.beat o (r.borrow o) ++ ofRelease a.drop o beaten

def ofTurns (c : Conduct κ α ε) (a : Accounts κ α ε) (kind : Option κ) : List Key → Registry κ α ε → Turnover κ
  | [], _ => {}
  | key :: keys, r => ofTurn c a kind r key ++ ofTurns c a kind keys (turn c kind r key)

def ofPass (c : Conduct κ α ε) (a : Accounts κ α ε) (kind : Option κ) (r : Registry κ α ε) : Turnover κ :=
  ofTurns c a kind (r.keys kind) r

end Turnover

variable [DecidableEq κ] {d : Disposal κ α ε} {drops : ObjectId → Registry κ α ε → Turnover κ} {c : Conduct κ α ε}
  {a : Accounts κ α ε}

theorem Disposal.Proper.settles (hd : d.Proper drops) (stack : List Hold) (o : ObjectId)
    (r : Registry κ α ε) : Settles stack o (.ofRelease drops o r) r (release d o r) := by
  rw [release_eq, Turnover.ofRelease]
  split
  · next hlast => exact .last hlast (hd.drop stack o _)
  · next howned => exact .stay stack (Bool.eq_false_iff.mpr howned)

theorem Disposal.Proper.unregister (hd : d.Proper drops) (stack : List Hold) (r : Registry κ α ε)
    (kind : κ) (key : Key) :
    Runs stack (.ofUnregister d drops kind key r) r (r.unregister d kind key).2 := by
  unfold Turnover.ofUnregister Registry.unregister
  cases hfind : r.find? (some kind) key with
  | none => exact .refl stack r
  | some o => exact .forget hfind (hd.settles stack o _)

theorem Disposal.Proper.access (hd : d.Proper drops) (stack : List Hold) (r : Registry κ α ε) (kind : κ)
    (key : Key) {body : ObjectId → Registry κ α ε → β × Registry κ α ε}
    {work : ObjectId → Registry κ α ε → Turnover κ}
    (hbody : ∀ o r, Runs (.use o :: stack) (work o r) r (body o r).2) :
    Runs stack (.ofAccess drops kind key body work r) r (r.access d kind key body).2 := by
  unfold Turnover.ofAccess Registry.access
  cases hfind : r.find? (some kind) key with
  | none => exact .refl stack r
  | some o =>
    dsimp only
    split
    · exact .modifyEnv stack r _
    · next hfree =>
      have hheld := Runs.hold hfind (Bool.eq_false_iff.mpr hfree) (hbody o _) (.refl _ _) (hd.settles stack o _)
      rwa [Turnover.append_nil] at hheld

theorem Registry.turn_of_free {r : Registry κ α ε} {kind : Option κ} {key : Key} {o : ObjectId}
    (hfind : r.find? kind key = some o) (hfree : r.isBorrowed o = false) :
    turn c kind r key = release c.toDisposal o
      (if (c.beat o (r.borrow o)).1 then c.retire o ((c.beat o (r.borrow o)).2.setBorrowed o false)
        else (c.beat o (r.borrow o)).2.setBorrowed o false) := by
  unfold turn
  rw [hfind]
  dsimp only
  rw [if_neg (Bool.eq_false_iff.mp hfree)]
  rfl

theorem Conduct.Proper.turn (hc : c.Proper a) (stack : List Hold) (r : Registry κ α ε)
    (kind : Option κ) (key : Key) : Runs stack (.ofTurn c a kind r key) r (Registry.turn c kind r key) := by
  unfold Turnover.ofTurn
  cases hfind : r.find? kind key with
  | none =>
    rw [Registry.turn, hfind]
    exact .refl stack r
  | some o =>
    cases hfree : r.isBorrowed o with
    | true =>
      simp only [Registry.turn, hfind, hfree, if_true]
      exact .modifyEnv stack r _
    | false =>
      rw [turn_of_free hfind hfree]
      simp only [hfree, Bool.false_eq_true, if_false]
      have hheld {l r₂} (hafter : Runs (.keep o :: stack) l ((c.beat o (r.borrow o)).2.setBorrowed o false) r₂) :=
        Runs.hold hfind hfree (hc.beat stack o _) hafter (hc.settles stack o r₂)
      -- a turn goes on with the retirement, which owns the resource and does not borrow it
      split
      · exact hheld (hc.retire stack o _)
      · have hstays := hheld (.refl _ _)
        rwa [Turnover.append_nil] at hstays

theorem Conduct.Proper.turns (hc : c.Proper a) (stack : List Hold) (kind : Option κ) (keys : List Key)
    (r : Registry κ α ε) : Runs stack (.ofTurns c a kind keys r) r (keys.foldl (Registry.turn c kind) r) := by
  induction keys generalizing r with
  | nil => exact .refl stack r
  | cons key keys ih => exact (hc.turn stack r kind key).trans (ih _)

namespace Registry

/-- The next moment, or the one after a whole call. -/
inductive Moment.Proceeds (m : Moment κ α ε) : Moment κ α ε → Prop
  | step {m' : Moment κ α ε} (h : Step m m') : Proceeds m m'
  | unregister {d : Disposal κ α ε} {drops : ObjectId → Registry κ α ε → Turnover κ} (hd : d.Proper drops)
      (kind : κ) (key : Key) :
      Proceeds m (m.after (.ofUnregister d drops kind key m.registry) (m.registry.unregister d kind key).2)
  | access {d : Disposal κ α ε} {drops : ObjectId → Registry κ α ε → Turnover κ} (hd : d.Proper drops)
      (kind : κ) (key : Key) {β : Type} {body : ObjectId → Registry κ α ε → β × Registry κ α ε}
      {work : ObjectId → Registry κ α ε → Turnover κ}
      (hbody : ∀ o r, Runs (.use o :: m.stack) (work o r) r (body o r).2) :
      Proceeds m (m.after (.ofAccess drops kind key body work m.registry) (m.registry.access d kind key body).2)
  | pass {c : Conduct κ α ε} {a : Accounts κ α ε} (hc : c.Proper a) (kind : Option κ) :
      Proceeds m (m.after (.ofPass c a kind m.registry) (m.registry.pass c kind))

namespace Moment

variable {m m' m'' : Moment κ α ε}

/-- A call whose callbacks keep to steps is made of steps. -/
theorem Proceeds.steps (h : m.Proceeds m') : ReflTransGen Step m m' := by
  cases h with
  | step h => exact .single h
  | unregister hd kind key => exact hd.unregister m.stack m.registry kind key m.issued m.removed
  | access hd kind key hbody => exact hd.access m.stack m.registry kind key hbody m.issued m.removed
  | pass hc kind => exact hc.turns m.stack kind _ m.registry m.issued m.removed

abbrev Later : Moment κ α ε → Moment κ α ε → Prop := ReflTransGen Proceeds

theorem Later.of_steps (h : ReflTransGen Step m m') : m.Later m' := ReflTransGen.mono (fun _ _ ↦ .step) _ _ h

theorem Later.steps (h : m.Later m') : ReflTransGen Step m m' := by
  induction h with
  | refl => exact .refl
  | tail _ h ih => exact ih.trans h.steps

def Reached (m : Moment κ α ε) : Prop := ∃ env, Later (start env) m

theorem Reached.later (hm : m.Reached) (h : m.Later m') : m'.Reached := by
  obtain ⟨env, hstart⟩ := hm
  exact ⟨env, hstart.trans h⟩

theorem Reached.trans (hm : m.Reached) (h : ReflTransGen Step m m') : m'.Reached := hm.later (.of_steps h)

/-- What holds at first and is kept by every step holds at every moment. -/
theorem Reached.of_step {P : Moment κ α ε → Prop} (hm : m.Reached) (hstart : ∀ env, P (start env))
    (hstep : ∀ {m m'}, Step m m' → P m → P m') : P m := by
  obtain ⟨env, hlater⟩ := hm
  have hsteps := hlater.steps
  induction hsteps with
  | refl => exact hstart env
  | tail _ h ih => exact hstep h (ih (.of_steps ‹_›))

theorem Reached.balanced (hm : m.Reached) : m.Balanced := hm.of_step balanced_start Step.balanced

end Moment

end Registry

namespace Probe

variable {k : Reentry} {given : List Step → Lab → Turnover Kind}

def accounts (given : List Step → Lab → Turnover Kind) : Accounts Kind Probe Bench where
  drop o l := given (Lab.probe l o).onDrop (Lab.push l (.dropped (Lab.probe l o).name))
  beat o l :=
    let l := l.update o fun p => { p with beats := p.beats + 1 }
    let p := Lab.probe l o
    given p.onBeat (Lab.push l (.beat p.name p.beats (p.retireAfter.any (· ≤ p.beats))))
  retire o l := given (Lab.probe l o).onRetire (Lab.push l (.retired (Lab.probe l o).name))

mutual

def Step.turnover (k : Reentry) (given : List Step → Lab → Turnover Kind) : Step → Lab → Turnover Kind
  | .register name kind retireAfter onBeat onRetire onDrop, l =>
    .give kind (l.register kind { name, retireAfter, onBeat, onRetire, onDrop }).1
  | .unregister name, l =>
    match Lab.lookup? l name with
    | none => {}
    | some (kind, key) => .ofUnregister (conduct k).toDisposal (accounts given).drop kind key l
  | .within name steps, l =>
    match Lab.lookup? l name with
    | none => {}
    | some (kind, key) =>
      .ofAccess (accounts given).drop kind key
        (fun o l =>
          let (replies, l) := Step.runAll k steps l
          let p := Lab.probe l o
          (Reply.used p.name p.beats replies, l))
        (fun _ l => Step.turnoverAll k given steps l) l
  | .heartbeat kind, l => .ofPass (conduct k) (accounts given) kind l
  | _, _ => {}

def Step.turnoverAll (k : Reentry) (given : List Step → Lab → Turnover Kind) : List Step → Lab → Turnover Kind
  | [], _ => {}
  | s :: rest, l => s.turnover k given l ++ Step.turnoverAll k given rest (s.run k l).2

end

def turnoverRecorded (k : Reentry) (given : List Step → Lab → Turnover Kind) : List Step → Lab → Turnover Kind
  | [], _ => {}
  | s :: rest, l =>
    s.turnover k given l ++ turnoverRecorded k given rest (Lab.push (s.run k l).2 (.ran s.word (s.run k l).1))

def turnoverNested : Nat → List Step → Lab → Turnover Kind
  | _, [], _ => {}
  | 0, _ :: _, _ => {}
  | n + 1, s :: rest, l => turnoverRecorded (nested n) (turnoverNested n) (s :: rest) l

def scriptTurnover (steps : List Step) : Turnover Kind :=
  Step.turnoverAll (nested depth) (turnoverNested depth) steps { env := {} }

theorem runs_push (stack : List Hold) (l : Lab) (e : Event) : Runs stack {} l (l.push e) := .modifyEnv stack l _

theorem proper_conduct (hk : ∀ steps stack l, Runs stack (given steps l) l (k steps l)) :
    (conduct k).Proper (accounts given) where
  drop stack o l := (runs_push _ l _).nil_trans (hk _ _ _)
  beat stack o l := by
    have hcount : Runs (.use o :: stack) {} l (l.update o fun p => { p with beats := p.beats + 1 }) :=
      .update rfl stack l _
    exact hcount.nil_trans ((runs_push _ _ _).nil_trans (hk _ _ _))
  retire stack o l := (runs_push _ l _).nil_trans (hk _ _ _)

theorem runs_bind (stack : List Hold) (l : Lab) (name : String) (kind : Kind) (key : Key) :
    Runs stack {} l (l.bind name kind key) := .modifyEnv stack l _

mutual

theorem Step.runs (hk : ∀ steps stack l, Runs stack (given steps l) l (k steps l)) (s : Step) (stack : List Hold)
    (l : Lab) : Runs stack (s.turnover k given l) l (s.run k l).2 := by
  have hc := proper_conduct hk
  cases s with
  | register name kind retireAfter onBeat onRetire onDrop =>
    unfold Step.run Step.turnover
    exact (Runs.register stack l kind _).trans_nil (runs_bind stack _ name kind _)
  | forge name kind source =>
    unfold Step.run Step.turnover
    exact runs_bind stack l name kind _
  | unregister name =>
    unfold Step.run Step.turnover
    rcases l.lookup? name with _ | ⟨kind, key⟩
    · exact .refl stack l
    · exact hc.unregister stack l kind key
  | within name steps =>
    unfold Step.run Step.turnover
    rcases l.lookup? name with _ | ⟨kind, key⟩
    · exact .refl stack l
    · exact hc.access stack l kind key fun o l ↦ Step.runs_all hk steps (.use o :: stack) l
  | heartbeat kind =>
    unfold Step.run Step.turnover
    exact hc.turns stack kind _ l
  | contains name | describe name =>
    unfold Step.run Step.turnover
    split
    · exact .refl stack l
    · exact .refl stack l
  | equal | distinct | count | keys | unknown =>
    unfold Step.run Step.turnover
    exact .refl stack l

theorem Step.runs_all (hk : ∀ steps stack l, Runs stack (given steps l) l (k steps l)) (steps : List Step)
    (stack : List Hold) (l : Lab) : Runs stack (Step.turnoverAll k given steps l) l (Step.runAll k steps l).2 := by
  cases steps with
  | nil =>
    unfold Step.runAll Step.turnoverAll
    exact .refl stack l
  | cons s rest =>
    unfold Step.runAll Step.turnoverAll
    exact (Step.runs hk s stack l).trans (Step.runs_all hk rest stack _)

end

theorem runs_recorded (hk : ∀ steps stack l, Runs stack (given steps l) l (k steps l)) (steps : List Step)
    (stack : List Hold) (l : Lab) : Runs stack (turnoverRecorded k given steps l) l (runRecorded k steps l) := by
  induction steps generalizing l with
  | nil => exact .refl stack l
  | cons s rest ih =>
    have hstep := (Step.runs hk s stack l).trans_nil (runs_push stack _ (.ran s.word (s.run k l).1))
    exact hstep.trans (ih _)

theorem runs_nested (n : Nat) (steps : List Step) (stack : List Hold) (l : Lab) :
    Runs stack (turnoverNested n steps l) l (nested n steps l) := by
  induction n generalizing steps stack l with
  | zero =>
    cases steps with
    | nil => exact .refl stack l
    | cons s rest => exact runs_push stack l _
  | succ n ih =>
    cases steps with
    | nil => exact .refl stack l
    | cons s rest => exact runs_recorded ih (s :: rest) stack l

theorem snd_runScript (steps : List Step) :
    (runScript steps).2 = (Step.runAll (nested depth) steps { env := {} }).2 := by
  have hrest (f : List Report × Lab → Step → List Report × Lab)
      (hf : ∀ p s, (f p s).2 = (runReported p.2 s).2) (p : List Report × Lab) :
      (steps.foldl f p).2 = (Step.runAll (nested depth) steps p.2).2 := by
    induction steps generalizing p with
    | nil =>
      unfold Step.runAll
      rfl
    | cons s rest ih =>
      unfold Step.runAll
      rw [List.foldl_cons, ih, hf]
      rfl
  exact hrest _ (fun _ _ ↦ rfl) _

/-- A script leads to a moment of a run at which no call is under way. -/
theorem reached_runScript (steps : List Step) :
    Moment.Reached ⟨(runScript steps).2, [], (scriptTurnover steps).given, (scriptTurnover steps).taken⟩ := by
  have hruns := Step.runs_all (runs_nested depth) steps [] { env := {} } [] []
  rw [← snd_runScript] at hruns
  refine ⟨{}, .of_steps ?_⟩
  simpa [Moment.after, Moment.start, scriptTurnover] using hruns

end Probe

end Casement
