import Mathlib.Data.List.Chain
import Casement.Proofs.World.History

namespace Casement

theorem typed?_eq_some_iff {codepoint : UInt32} {c : Char} :
    typed? codepoint = some c ↔
      (32 ≤ codepoint.toNat ∧ ¬(127 ≤ codepoint.toNat ∧ codepoint.toNat ≤ 159)) ∧ c.val = codepoint := by
  have hcontrol : (codepoint < 32 || (127 ≤ codepoint && codepoint < 160)) = true ↔
      ¬(32 ≤ codepoint.toNat ∧ ¬(127 ≤ codepoint.toNat ∧ codepoint.toNat ≤ 159)) := by
    simp only [Bool.or_eq_true, Bool.and_eq_true, decide_eq_true_eq, UInt32.lt_iff_toNat_lt,
      UInt32.le_iff_toNat_le, UInt32.reduceToNat]
    omega
  have hscalar : scalar? codepoint = some c ↔ c.val = codepoint := by
    unfold scalar?
    split
    · rw [Option.some.injEq, Char.ext_iff, eq_comm]
    · next hinvalid =>
      exact ⟨fun h ↦ absurd h (by simp), fun h ↦ absurd (h ▸ c.valid) hinvalid⟩
  unfold typed?
  split
  · next h => exact ⟨fun hnone ↦ absurd hnone (by simp), fun htext ↦ absurd htext.1 (hcontrol.mp h)⟩
  · next h => rw [hscalar, and_iff_right (not_not.mp (mt hcontrol.mpr h))]

def WindowEvent.typed? : WindowEvent → Option Char
  | .message (.char codepoint) => Casement.typed? codepoint
  | _ => none

namespace Window

open WindowEvent

def waiting (win : Window) : List Char := if win.inFrame then [] else win.context.io.queue

def typed (c : List (WindowEvent × Window)) : List Char := c.filterMap (·.1.typed?)

def typedBetween (c : List (WindowEvent × Window)) : List Char := typed (c.filter (!·.2.inFrame))

/-- The text that frames found in the queue when they began. -/
def handedOver (c : List (WindowEvent × Window)) : List Char :=
  (c.filter (·.1.isBegin)).flatMap (·.2.context.io.queue)

def Undisturbed (p p' : WindowEvent × Window) : Prop :=
  p'.1 = .redraw → p'.2.context.io.queue = p.2.context.io.queue

variable {spared : Bool} {c c' : List (WindowEvent × Window)} {e : WindowEvent} {win win' : Window}
  {p p' : WindowEvent × Window}

theorem undisturbed_of_ne (h : p'.1 ≠ .redraw) : Undisturbed p p' := fun heq ↦ absurd heq h

theorem undisturbed_of_queue (h : p'.2.context.io.queue = p.2.context.io.queue) : Undisturbed p p' :=
  fun _ ↦ h

theorem typedBetween_append (c c' : List (WindowEvent × Window)) :
    typedBetween (c ++ c') = typedBetween c ++ typedBetween c' := by
  simp [typedBetween, typed, List.filter_append]

theorem handedOver_append (c c' : List (WindowEvent × Window)) :
    handedOver (c ++ c') = handedOver c ++ handedOver c' := by
  simp [handedOver, List.filter_append]

theorem waiting_of_inFrame (h : win.inFrame = true) : win.waiting = [] := if_pos h

theorem waiting_ended : win.ended.waiting = win.waiting := by
  unfold ended waiting
  split
  · rfl
  · rfl

theorem waiting_beaten : win.beaten.waiting = win.waiting := by
  unfold beaten
  split
  · rfl
  · exact waiting_ended

theorem queue_begun (host host' : Host) (scale : Single) (captures : Bool) :
    (win.begun host host' scale captures).context.io.queue = win.context.io.queue := by
  unfold begun
  dsimp only
  split <;> rfl

theorem queue_received (m : Message) :
    (win.received m).context.io.queue = win.context.io.queue ++ (WindowEvent.message m).typed?.toList := by
  cases m with
  | char codepoint =>
    simp only [received, charInput, WindowEvent.typed?]
    cases Casement.typed? codepoint with
    | some c => rfl
    | none => simp
  | _ => simp [received, WindowEvent.typed?, turnWheel, keyInput, modifyIo, Context.modifyIo, Io.setKey]

/-- What an event is to the text of a window: text typed between frames comes to wait, and a frame that
begins is handed what waits. -/
theorem Reacts.text (h : Reacts spared win e win')
    (hredraw : e = .redraw → win'.context.io.queue = win.context.io.queue) :
    win.waiting ++ typedBetween [(e, win')] = handedOver [(e, win')] ++ win'.waiting := by
  have hsame (hwaiting : win'.waiting = win.waiting) (htyped : e.typed? = none) (hbegin : e.isBegin = false) :
      win.waiting ++ typedBetween [(e, win')] = handedOver [(e, win')] ++ win'.waiting := by
    simp [typedBetween, typed, handedOver, List.filter_cons, hwaiting, htyped, hbegin]
  cases h with
  | begin host host' scale captures hidle =>
    have hqueue := win.queue_begun host host' scale captures
    have hopen := (win.flags_begun host host' scale captures).1
    simp [typedBetween, typed, handedOver, waiting, isBegin, hidle, hopen, hqueue]
  | enter => exact hsame rfl rfl rfl
  | finish =>
    -- the queue is emptied, but what is in it while a frame is open waits for no other frame
    exact hsame waiting_ended rfl rfl
  | ask => exact hsame rfl rfl rfl
  | message m =>
    have hqueue := win.queue_received m
    have hframe := (win.flags_received m).1
    cases hidle : win.inFrame with
    | true => simp [typedBetween, typed, handedOver, waiting, isBegin, hidle, hframe]
    | false =>
      cases htyped : (WindowEvent.message m).typed? <;>
        simp [typedBetween, typed, handedOver, waiting, isBegin, hidle, hframe, hqueue, htyped]
  | tick => exact hsame waiting_beaten rfl rfl
  | redraw color context =>
    have hqueue : context.io.queue = win.context.io.queue := hredraw rfl
    refine hsame ?_ rfl rfl
    simp only [waiting, hqueue]

theorem Lives.text (h : Lives spared win c win') (hc : List.IsChain Undisturbed ((e, win) :: c)) :
    win.waiting ++ typedBetween c = handedOver c ++ win'.waiting := by
  induction h generalizing e with
  | nil win => simp [typedBetween, typed, handedOver]
  | @cons e₁ win win₁ win₂ c hr _ ih =>
    obtain ⟨hfirst, hrest⟩ := List.isChain_cons_cons.mp hc
    calc
      win.waiting ++ typedBetween ((e₁, win₁) :: c)
      _ = win.waiting ++ typedBetween [(e₁, win₁)] ++ typedBetween c := by
        rw [List.append_assoc, ← typedBetween_append, List.singleton_append]
      _ = handedOver [(e₁, win₁)] ++ (win₁.waiting ++ typedBetween c) := by
        rw [hr.text hfirst, List.append_assoc]
      _ = handedOver ((e₁, win₁) :: c) ++ win₂.waiting := by
        rw [ih hrest, ← List.append_assoc, ← handedOver_append, List.singleton_append]

theorem Chronicle.lives (h : Chronicle spared c win) :
    ∃ config platform win₀ c', c = (.opened config platform, win₀) :: c' ∧ win₀.IsNew ∧
      Lives spared win₀ c' win := by
  induction h with
  | @opened config platform win hnew => exact ⟨config, platform, win, [], rfl, hnew, .nil win⟩
  | snoc _ hr ih =>
    obtain ⟨config, platform, win₀, c', rfl, hnew, hlives⟩ := ih
    exact ⟨config, platform, win₀, _, rfl, hnew, hlives.append (.one hr)⟩

/-- What was typed between frames was handed to frames or still waits for one. -/
theorem Chronicle.text (h : Chronicle spared c win) (hc : c.IsChain Undisturbed) :
    typedBetween c = handedOver c ++ win.waiting := by
  obtain ⟨config, platform, win₀, c', rfl, hnew, hlives⟩ := h.lives
  have hnone : win₀.waiting = [] := by simp [waiting, hnew.queue]
  have htext := hlives.text hc
  rw [hnone, List.nil_append] at htext
  have hopened : typedBetween [(.opened config platform, win₀)] = [] := by
    simp [typedBetween, typed, WindowEvent.typed?]
  rw [← List.singleton_append, typedBetween_append, handedOver_append, hopened, htext]
  rfl

theorem Chronicle.handedOver_begin (h : Chronicle spared (c ++ [(.begin, win')]) win)
    (hc : List.IsChain Undisturbed (c ++ [(.begin, win')])) :
    handedOver (c ++ [(.begin, win')]) = typedBetween c := by
  obtain ⟨win₀, -, hr⟩ := h.of_begin
  have hopen : win.inFrame = true := by
    cases hr with
    | begin => exact (flags_begun ..).1
  have hbegin : typedBetween [(.begin, win')] = [] := by simp [typedBetween, typed, WindowEvent.typed?]
  have htext := h.text hc
  rw [typedBetween_append, hbegin, List.append_nil, waiting_of_inFrame hopen, List.append_nil] at htext
  exact htext.symm

/-- Nothing is lost if and only if all text was typed between frames. -/
theorem typedBetween_eq_iff :
    typedBetween c = typed c ↔ ∀ p ∈ c, p.1.typed?.isSome = true → p.2.inFrame = false := by
  have hle (c : List (WindowEvent × Window)) : (typedBetween c).length ≤ (typed c).length :=
    (List.filter_sublist.filterMap _).length_le
  induction c with
  | nil => simp [typedBetween, typed]
  | cons p c ih =>
    rw [List.forall_mem_cons]
    refine Iff.trans ?_ (and_congr_right fun _ ↦ ih)
    cases htyped : p.1.typed? with
    | none => cases hidle : p.2.inFrame <;> simp [typedBetween, typed, hidle, htyped]
    | some ch =>
      cases hidle : p.2.inFrame with
      | false => simp [typedBetween, typed, hidle, htyped]
      | true =>
        have hshorter : typedBetween (p :: c) ≠ typed (p :: c) := fun heq ↦ by
          have hlength := congrArg List.length heq
          have hlost := hle c
          simp only [typedBetween, typed, List.filter_cons, hidle, htyped, List.filterMap_cons,
            List.length_cons, Bool.not_true, Bool.false_eq_true, if_false] at hlength hlost
          omega
        simp [hshorter]

theorem Lives.isChain_append (h : Lives spared win c win')
    (hc : List.IsChain Undisturbed ((e, win) :: c))
    (hc' : ∀ e, List.IsChain Undisturbed ((e, win') :: c')) :
    List.IsChain Undisturbed ((e, win) :: (c ++ c')) := by
  induction h generalizing e with
  | nil win => exact hc' e
  | cons _ _ ih =>
    obtain ⟨hfirst, hrest⟩ := List.isChain_cons_cons.mp hc
    exact List.isChain_cons_cons.mpr ⟨hfirst, ih hrest hc'⟩

theorem Chronicle.isChain_append (h : Chronicle spared c win) (hc : c.IsChain Undisturbed)
    (hc' : ∀ e, List.IsChain Undisturbed ((e, win) :: c')) : (c ++ c').IsChain Undisturbed := by
  obtain ⟨config, platform, win₀, c₁, rfl, -, hlives⟩ := h.lives
  exact hlives.isChain_append hc hc'

end Window

namespace World

variable {spared : Bool} {key : Key} {o : ObjectId} {w₀ w w' : World} {win : Window} {n : Nat}
  {c : List (WindowEvent × Window)}

/-- Steps that do not end a frame of the GUI behind the back of its window. -/
def leavesText : WindowStep → Prop
  | .contextRender | .contextEndFrame => False
  | _ => True

theorem Solo.undisturbed_recordStep (h : Solo o w₀ w win n) {step : WindowStep} (hstep : leavesText step)
    (e : WindowEvent) : List.IsChain Window.Undisturbed ((e, win) :: recordStep o w step) := by
  have hentry : (window w o).entry ≠ .redraw := by
    unfold Window.entry
    split <;> simp
  cases step with
  | contextRender | contextEndFrame => exact absurd hstep id
  | contextNewFrame =>
    obtain ⟨captures, hsolo⟩ := h.newFrame
    have hafter := congrArg (·.context.io.queue) hsolo.value
    refine List.isChain_pair.mpr (Window.undisturbed_of_queue (hafter.trans ?_))
    dsimp only
    split <;> rfl
  | setClearColor color =>
    have hafter := (h.update (fun win => { win with clearColor := color }) ⟨rfl, rfl⟩).value
    exact List.isChain_pair.mpr (Window.undisturbed_of_queue (congrArg (·.context.io.queue) hafter))
  | contextStyle style =>
    have hafter := ((h.call (window w o).host (.setStyle style)).update
      (fun win => { win with context := { win.context with style } }) ⟨rfl, rfl⟩).value
    exact List.isChain_pair.mpr (Window.undisturbed_of_queue (congrArg (·.context.io.queue) hafter))
  | enterFrame => exact List.isChain_pair.mpr (Window.undisturbed_of_ne hentry)
  | frame render =>
    unfold recordStep
    dsimp only
    split
    · exact List.isChain_pair.mpr (Window.undisturbed_of_ne hentry)
    · exact List.isChain_cons_cons.mpr
        ⟨Window.undisturbed_of_ne hentry, List.isChain_pair.mpr (Window.undisturbed_of_ne (by simp))⟩
  | endFrame | requestClose | mouseDown | mouseUp | mouseWheel | keyInput | charInput =>
    exact List.isChain_pair.mpr (Window.undisturbed_of_ne (by simp))
  | _ => exact List.isChain_singleton _

theorem Solo.undisturbed_recordSteps (h : Solo o w₀ w win n) {steps : List Step}
    (hinner : steps.all Step.isInner = true) (hsteps : Step.UsesAll leavesText steps) (e : WindowEvent) :
    List.IsChain Window.Undisturbed ((e, win) :: recordSteps o w steps) := by
  induction steps generalizing w win n e with
  | nil => exact List.isChain_singleton _
  | cons s rest ih =>
    rw [List.all_cons, Bool.and_eq_true] at hinner
    cases s with
    | window place step =>
      cases place with
      | slot => cases hinner.1
      | current =>
        have hstep : step.writesIo = false := by simpa [Step.isInner] using hinner.1
        obtain ⟨win', n', hlives, hsolo⟩ := h.runWindowStep true hstep
        exact hlives.isChain_append (h.undisturbed_recordStep hsteps.1 e) (ih hsolo hinner.2 hsteps.2)
    | _ => cases hinner.1

theorem Quiet.undisturbed_marks (hw : Quiet w) (hkey : Registry.find? w (some ()) key = some o) {s : Step}
    (hs : s.isPlain = true) (huses : s.Uses leavesText) (e : WindowEvent) :
    List.IsChain Window.Undisturbed ((e, window w o) :: World.marks key o w w' s) := by
  have hnone : List.IsChain Window.Undisturbed [(e, window w o)] := List.isChain_singleton _
  have hone {e' : WindowEvent} (hne : e' ≠ .redraw) : List.IsChain Window.Undisturbed
      [(e, window w o), (e', window w' o)] := List.isChain_pair.mpr (Window.undisturbed_of_ne hne)
  have hite {P : Prop} [Decidable P] {c c' : List (WindowEvent × Window)}
      (hc : List.IsChain Window.Undisturbed ((e, window w o) :: c))
      (hc' : List.IsChain Window.Undisturbed ((e, window w o) :: c')) :
      List.IsChain Window.Undisturbed ((e, window w o) :: if P then c else c') := by
    split
    · exact hc
    · exact hc'
  cases s with
  | openWindow => exact hite hnone (hone (by simp))
  | dispatch => exact hite (hone (by simp)) hnone
  | heartbeat | tick => exact hone (by simp)
  | host h step =>
    cases step with
    | send => exact hite (hone (by simp)) hnone
    | runTimers => exact hite hnone (hone (by simp))
    | _ => exact hnone
  | window place step =>
    cases place with
    | slot => exact hite ((hw.solo hkey).undisturbed_recordStep huses e) hnone
    | current => exact hnone
  | within => exact hite ((hw.solo hkey).undisturbed_recordSteps hs huses e) hnone
  | _ => exact hnone

theorem Annals.undisturbed_step (h : Annals true key w c) (hc : c.IsChain Window.Undisturbed) (hw : Quiet w)
    (hwatched : Watched 0 w) {s : Step} (hs : s.isPlain = true) (huses : s.Uses leavesText) :
    (c ++ record key w s).IsChain Window.Undisturbed := by
  cases hkey : Registry.find? (World.runStep (scripted 0) none s w).2 (some ()) key with
  | none =>
    have hrecord : record key w s = [] := by simp only [record, hkey]
    rwa [hrecord, List.append_nil]
  | some o =>
    have hrecord : record key w s = World.marks key o w (World.runStep (scripted 0) none s w).2 s := by
      simp only [record, hkey]
    rw [hrecord]
    cases hw.marks hwatched (fun _ _ _ _ ↦ rfl) hs hkey with
    | lives hkey₀ => exact (h.live hkey₀).isChain_append hc (hw.undisturbed_marks hkey₀ hs huses)
    | opened config platform _ hmarks =>
      -- whatever the key stood for before, the window is opened, not redrawn
      rw [hmarks]
      refine List.isChain_append.mpr ⟨hc, List.isChain_singleton _, fun p _ p' hp' ↦ ?_⟩
      rw [List.head?_cons, Option.mem_some_iff] at hp'
      exact Window.undisturbed_of_ne (by simp [← hp'])

theorem Annals.undisturbed (h : Annals true key w c) (hc : c.IsChain Window.Undisturbed) (hw : Quiet w)
    (hwatched : Watched 0 w) {steps : List Step} (hplain : ∀ s ∈ steps, s.isPlain = true)
    (hsteps : Step.UsesAll leavesText steps) :
    (c ++ chronicle key w steps).IsChain Window.Undisturbed := by
  induction steps generalizing w c with
  | nil => rwa [chronicle, List.append_nil]
  | cons s rest ih =>
    obtain ⟨hs, hrest⟩ := List.forall_mem_cons.mp hplain
    obtain ⟨hw', hwatched'⟩ := hw.runStep hwatched s
    have hannals := h.step hw hwatched (fun _ _ _ _ ↦ rfl) hs
    rw [chronicle, ← List.append_assoc]
    exact ih hannals (h.undisturbed_step hc hw hwatched hs hsteps.1) hw' hwatched' hrest hsteps.2

/-- Characters are text unless they are control characters. In every script that is not nested and
ends no frame of a GUI itself, and for every frame a window begins in it, the frames up to that one
were handed the text that was typed before it while no frame was open, each character once and in
order. So they were handed all text if and only if none was typed while a frame was open. -/
theorem frames_are_handed_text (hosts : List HostSetup) {steps : List Step}
    (hplain : ∀ s ∈ steps, s.isPlain = true) (hsteps : Step.UsesAll leavesText steps) {key : Key}
    {before : List (WindowEvent × Window)} {win : Window}
    (hbegin : before ++ [(.begin, win)] <+: chronicle key (World.empty hosts) steps) :
    (∀ codepoint c, typed? codepoint = some c ↔
      (32 ≤ codepoint.toNat ∧ ¬(127 ≤ codepoint.toNat ∧ codepoint.toNat ≤ 159)) ∧ c.val = codepoint) ∧
    Window.handedOver (before ++ [(.begin, win)]) = Window.typedBetween before ∧
    (Window.handedOver (before ++ [(.begin, win)]) = Window.typed before ↔
      ∀ p ∈ before, p.1.typed?.isSome = true → p.2.inFrame = false) := by
  have hquiet := quiet_empty hosts
  have hwatched := watched_empty hosts
  have hempty := annals_empty true key hosts
  obtain ⟨-, hannals⟩ := annals_run (P := fun w ↦ Quiet w ∧ Watched 0 w) (fun hs ↦ hs)
    (fun hw ↦ ⟨hw.1, hw.2, fun _ _ _ _ ↦ rfl⟩) (fun _ hw ↦ hw.1.runStep hw.2 _) hplain
    ⟨hquiet, hwatched⟩ hempty
  have hchain := hempty.undisturbed .nil hquiet hwatched hplain hsteps
  rw [List.nil_append] at hannals hchain
  obtain ⟨win', hwhole⟩ := hannals.told fun hnil ↦ by simp [hnil] at hbegin
  have hchronicle := hwhole.take hbegin
  obtain ⟨rest, hrest⟩ := hbegin
  rw [← hrest] at hchain
  rw [hchronicle.handedOver_begin hchain.left_of_append]
  exact ⟨fun _ _ ↦ typed?_eq_some_iff, rfl, Window.typedBetween_eq_iff⟩

/-- One character is typed before a frame, one while it is open and one after it. -/
theorem frames_are_handed_text_around :
    let steps : List Step :=
      [.openWindow 0 {} "a" 0 0 9 9, .dispatch (.slot 0) (.char 97), .window (.slot 0) .enterFrame,
        .dispatch (.slot 0) (.char 98), .heartbeat, .dispatch (.slot 0) (.char 99),
        .window (.slot 0) .enterFrame]
    let c := chronicle ⟨1, 1⟩ (World.empty [{}]) steps
    Window.typed c = ['a', 'b', 'c'] ∧ Window.handedOver c = ['a', 'c'] := by
  intro steps c
  have hplain : ∀ s ∈ steps, s.isPlain = true := by decide
  have hsteps : Step.UsesAll leavesText steps := by simp [steps, Step.UsesAll, Step.Uses, leavesText]
  have hlast : c.getLast?.map (·.1) = some .begin := by decide +kernel
  obtain ⟨⟨e, win⟩, hwin, heq⟩ := Option.map_eq_some_iff.mp hlast
  obtain rfl : e = .begin := heq
  obtain ⟨before, hbefore⟩ := List.getLast?_eq_some_iff.mp hwin
  have hbegin : before ++ [(.begin, win)] <+: c := hbefore ▸ List.prefix_refl _
  obtain ⟨-, hhanded, -⟩ := frames_are_handed_text [{}] hplain hsteps hbegin
  rw [← hbefore] at hhanded
  have hdropped : before = c.dropLast := by rw [hbefore, List.dropLast_concat]
  refine ⟨by decide +kernel, hhanded.trans ?_⟩
  rw [hdropped]
  decide +kernel

/-- A character that is typed while a frame is open reaches no frame. -/
theorem text_typed_in_frame_lost :
    let steps : List Step :=
      [.openWindow 0 {} "a" 0 0 10 10, .window (.slot 0) .enterFrame, .dispatch (.slot 0) (.char 97),
        .window (.slot 0) (.endFrame true), .window (.slot 0) .enterFrame]
    let c := chronicle ⟨1, 1⟩ (World.empty [{}]) steps
    WindowEvent.ofChronicle c =
        [.opened {} .fallback, .begin, .message (.char 97), .finish true, .begin] ∧
      Window.typed c = ['a'] ∧ Window.handedOver c = [] := by
  decide +kernel

end World

end Casement
