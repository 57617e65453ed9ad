import Casement.World.Frame

namespace Casement

/-- `begin` is to enter a window that is not in a frame, `enter` one that is. Input given to a
window directly counts as its message. -/
inductive WindowEvent where
  | opened (config : ContextConfig) (platform : Platform)
  | begin
  | enter
  | finish (render : Bool)
  | ask
  | message (message : Message)
  | tick
  | redraw
  deriving DecidableEq, Repr

namespace Window

def frameInput (win : Window) : ButtonsDown × Vec2 × Wheel × Modifiers :=
  let io := win.context.io
  (io.mouseDown, io.mousePos, io.wheel, io.modifiers)

/-- The window after it began a frame, on a host that its renderer may have changed in between. A
GUI that is in a frame of its own stays there. -/
def begun (host host' : Host) (scale : Single) (captures : Bool) (win : Window) : Window :=
  let win := { win with keepAlive := true, inFrame := true }
  let win := (win.readFrameInfo host scale).readInput host'
  if win.context.inFrame then win else { win with context := win.context.begin captures }

def ended (win : Window) : Window :=
  if win.inFrame then { win with inFrame := false, context := win.context.finish } else win

def received (win : Window) : Message → Window
  | .close => { win with closeRequested := true }
  | .mouseWheel axis delta => win.turnWheel axis delta
  | .buttonDown button => { win with buttons := win.buttons.press button }
  | .buttonUp button => { win with buttons := win.buttons.release button }
  | .key code down => win.keyInput code down
  | .char codepoint => win.charInput codepoint
  | .destroy | .mouseMove | .setCursor _ | .other .. => win

def retires (win : Window) : Bool := win.closeRequested || !win.inFrame && !win.keepAlive

def beaten (win : Window) : Window :=
  if win.retires then { win with closeRequested := false, keepAlive := false }
  else { win.ended with keepAlive := false }

def entry (win : Window) : WindowEvent := if win.inFrame then .enter else .begin

/-- How a window reacts. `spared` says whether a window that was to be retired may live on. -/
inductive Reacts (spared : Bool) (win : Window) : WindowEvent → Window → Prop
  | begin (host host' : Host) (scale : Single) (captures : Bool) (hidle : win.inFrame = false) :
      Reacts spared win .begin (win.begun host host' scale captures)
  | enter (hopen : win.inFrame = true) : Reacts spared win .enter { win with keepAlive := true }
  | finish (render : Bool) : Reacts spared win (.finish render) win.ended
  | ask : Reacts spared win .ask { win with closeRequested := true }
  | message (m : Message) : Reacts spared win (.message m) (win.received m)
  | tick (hstays : win.retires = true → spared = true) : Reacts spared win .tick win.beaten
  | redraw (color : Color) (context : Context)
      (hwheel : context.io.wheel = win.context.io.wheel ∨ context.io.wheel = {}) :
      Reacts spared win .redraw { win with clearColor := color, context }

/-- The window goes through some events; each stands with the window after it. -/
inductive Lives (spared : Bool) : Window → List (WindowEvent × Window) → Window → Prop
  | nil (win : Window) : Lives spared win [] win
  | cons {e : WindowEvent} {win win' win'' : Window} {c : List (WindowEvent × Window)} :
      Reacts spared win e win' → Lives spared win' c win'' → Lives spared win ((e, win') :: c) win''

structure IsNew (win : Window) : Prop where
  inFrame : win.inFrame = false
  closeRequested : win.closeRequested = false
  keepAlive : win.keepAlive = true
  buttons : win.buttons = {}
  wheel : win.wheel = {}
  ioWheel : win.context.io.wheel = {}
  queue : win.context.io.queue = []

inductive Chronicle (spared : Bool) : List (WindowEvent × Window) → Window → Prop
  | opened (config : ContextConfig) (platform : Platform) {win : Window} (hnew : win.IsNew)
      (hnotch : win.notch = config.wheelDelta.getD platform.wheelNotch) :
      Chronicle spared [(.opened config platform, win)] win
  | snoc {c : List (WindowEvent × Window)} {e : WindowEvent} {win win' : Window} :
      Chronicle spared c win → Reacts spared win e win' → Chronicle spared (c ++ [(e, win')]) win'

variable {spared : Bool} {c c' : List (WindowEvent × Window)} {e : WindowEvent}
  {win win' win'' : Window}

theorem Lives.one (h : Reacts spared win e win') : Lives spared win [(e, win')] win' :=
  .cons h (.nil win')

theorem Lives.append (h : Lives spared win c win') (h' : Lives spared win' c' win'') :
    Lives spared win (c ++ c') win'' := by
  induction h with
  | nil win => exact h'
  | cons hr _ ih => exact .cons hr (ih h')

theorem Chronicle.append (h : Chronicle spared c win) (h' : Lives spared win c' win') :
    Chronicle spared (c ++ c') win' := by
  induction h' generalizing c with
  | nil win => simpa using h
  | cons hr _ ih => simpa using ih (h.snoc hr)

theorem Chronicle.take (h : Chronicle spared c win)
    (hbefore : c' ++ [(e, win')] <+: c) : Chronicle spared (c' ++ [(e, win')]) win' := by
  induction h with
  | @opened config platform win hnew hnotch =>
    obtain ⟨rfl, heq⟩ : c' = [] ∧ (e, win') = (.opened config platform, win) := by
      have hlen := hbefore.length_le
      cases c' with
      | nil => exact ⟨rfl, by simpa using hbefore⟩
      | cons => simp at hlen
    cases heq
    exact .opened config platform hnew hnotch
  | snoc h hr ih =>
    rcases List.prefix_concat_iff.mp hbefore with hall | hbefore
    · obtain ⟨rfl, hlast⟩ := List.append_inj' hall rfl
      cases hlast
      exact h.snoc hr
    · exact ih hbefore

end Window

namespace WindowEvent

def ofChronicle (c : List (WindowEvent × Window)) : List WindowEvent := c.map (·.1)

@[simp] theorem ofChronicle_snoc (c : List (WindowEvent × Window)) (e : WindowEvent) (win : Window) :
    ofChronicle (c ++ [(e, win)]) = ofChronicle c ++ [e] := by simp [ofChronicle]

def asks : WindowEvent → Bool
  | .ask | .message .close => true
  | _ => false

def isTick : WindowEvent → Bool
  | .tick => true
  | _ => false

def refreshes : WindowEvent → Bool
  | .opened .. | .begin | .enter => true
  | _ => false

def after (p : WindowEvent → Bool) (es : List WindowEvent) : List WindowEvent :=
  (es.reverse.takeWhile fun e => !p e).reverse

theorem after_snoc (p : WindowEvent → Bool) (es : List WindowEvent) (e : WindowEvent) :
    after p (es ++ [e]) = if p e then [] else after p es ++ [e] := by
  simp only [after, List.reverse_append, List.reverse_singleton, List.singleton_append,
    List.takeWhile_cons]
  cases p e <;> simp

end WindowEvent

namespace Window

open WindowEvent

variable {spared : Bool} {c : List (WindowEvent × Window)} {e : WindowEvent} {win win' : Window}

theorem ended_of_idle (h : win.inFrame = false) : win.ended = win := by simp [ended, h]

@[simp] theorem inFrame_ended : win.ended.inFrame = false := by
  unfold ended
  split
  · rfl
  · next h => exact Bool.eq_false_iff.mpr h

@[simp] theorem closeRequested_ended : win.ended.closeRequested = win.closeRequested := by
  unfold ended
  split <;> rfl

@[simp] theorem keepAlive_ended : win.ended.keepAlive = win.keepAlive := by
  unfold ended
  split <;> rfl

theorem beaten_of_stays (h : win.retires = false) :
    win.beaten = { win.ended with keepAlive := false } := by simp [beaten, h]

theorem begun_eq (host host' : Host) (scale : Single) (captures : Bool) :
    ∃ context, win.begun host host' scale captures =
      { ({ win with keepAlive := true, inFrame := true }.readFrameInfo host scale).readInput host' with
        context } := by
  unfold begun
  dsimp only
  split
  · exact ⟨_, rfl⟩
  · exact ⟨_, rfl⟩

theorem flags_received (m : Message) :
    (win.received m).inFrame = win.inFrame ∧ (win.received m).keepAlive = win.keepAlive ∧
      (win.received m).closeRequested = (win.closeRequested || m = .close) := by
  cases m with
  | close => simp [received]
  | char codepoint =>
    simp only [received, charInput]
    split <;> simp [modifyIo]
  | _ => simp [received, turnWheel, keyInput, modifyIo]

theorem flags_begun (host host' : Host) (scale : Single) (captures : Bool) :
    (win.begun host host' scale captures).inFrame = true ∧ (win.begun host host' scale captures).keepAlive = true ∧
      (win.begun host host' scale captures).closeRequested = win.closeRequested := by
  obtain ⟨context, heq⟩ := win.begun_eq host host' scale captures
  rw [heq]
  exact ⟨rfl, rfl, rfl⟩

theorem Chronicle.closeRequested_eq (h : Chronicle false c win) :
    win.closeRequested = (ofChronicle c).any asks := by
  induction h with
  | opened config platform hnew => exact hnew.closeRequested
  | snoc _ hr ih =>
    rw [ofChronicle_snoc, List.any_append, ← ih]
    cases hr with
    | message m =>
      rw [(flags_received m).2.2]
      cases m <;> simp [asks]
    | begin host host' scale captures => simp [asks, flags_begun]
    | tick hstays =>
      rw [beaten_of_stays (by simpa using hstays)]
      simp [asks]
    | finish | enter | ask | redraw => simp [asks]

theorem Chronicle.keepAlive_eq (h : Chronicle spared c win) :
    win.keepAlive = (after isTick (ofChronicle c)).any refreshes := by
  induction h with
  | opened config platform hnew => exact hnew.keepAlive
  | snoc _ hr ih =>
    rw [ofChronicle_snoc, after_snoc]
    cases hr with
    | message m => simpa [isTick, refreshes, flags_received m] using ih
    | begin => simp [isTick, refreshes, flags_begun]
    | tick =>
      unfold beaten
      split <;> rfl
    | enter => simp [isTick, refreshes]
    | finish | ask | redraw => simpa [isTick, refreshes] using ih

/-- A frame is presented before the heartbeat lets go of what kept its window alive. -/
theorem Chronicle.keepAlive_of_inFrame (h : Chronicle false c win) (hopen : win.inFrame = true) :
    win.keepAlive = true := by
  induction h with
  | opened config platform hnew => exact hnew.keepAlive
  | snoc _ hr ih =>
    cases hr with
    | message m =>
      rw [(flags_received m).1] at hopen
      rw [(flags_received m).2.1]
      exact ih hopen
    | tick hstays =>
      rw [beaten_of_stays (by simpa using hstays)] at hopen
      simp at hopen
    | finish => simp at hopen
    | begin => exact (flags_begun ..).2.1
    | enter => rfl
    | ask | redraw => exact ih hopen

/-- The three flags of a window tell what a heartbeat is to do from what happened before. -/
theorem Chronicle.retires_eq (h : Chronicle false c win) :
    win.retires =
      ((ofChronicle c).any asks || !(after isTick (ofChronicle c)).any refreshes) := by
  have hopen := h.keepAlive_of_inFrame
  rw [← h.closeRequested_eq, ← h.keepAlive_eq]
  unfold retires
  cases hframe : win.inFrame with
  | false => simp
  | true => simp [hopen hframe]

end Window

namespace WindowEvent

def isBegin : WindowEvent → Bool
  | .begin => true
  | _ => false

def press? (button : MouseButton) : WindowEvent → Option Bool
  | .message (.buttonDown b) => if b = button then some true else none
  | .message (.buttonUp b) => if b = button then some false else none
  | _ => none

def isHeld (button : MouseButton) (es : List WindowEvent) : Bool :=
  (es.filterMap (press? button)).getLast?.getD false

def turn? (axis : WheelAxis) : WindowEvent → Option Int16
  | .message (.mouseWheel a delta) => if a = axis then some delta else none
  | _ => none

/-- The movement of the wheel that counts as one notch, as the window was opened with. -/
def wheelNotch : List WindowEvent → Single
  | .opened config platform :: _ => config.wheelDelta.getD platform.wheelNotch
  | _ => .zero

def notches (axis : WheelAxis) (notch : Single) (es : List WindowEvent) : Single :=
  (es.filterMap (turn? axis)).foldl (fun sum delta => sum + Single.ofInt delta.toInt / notch) .zero

theorem isHeld_snoc (button : MouseButton) (es : List WindowEvent) (e : WindowEvent) :
    isHeld button (es ++ [e]) = (press? button e).getD (isHeld button es) := by
  simp only [isHeld, List.filterMap_append, List.filterMap_cons, List.filterMap_nil]
  cases press? button e <;> simp

theorem notches_snoc (axis : WheelAxis) (notch : Single) (es : List WindowEvent) (e : WindowEvent) :
    notches axis notch (es ++ [e]) = match turn? axis e with
      | some delta => notches axis notch es + Single.ofInt delta.toInt / notch
      | none => notches axis notch es := by
  simp only [notches, List.filterMap_append, List.filterMap_cons, List.filterMap_nil]
  cases turn? axis e <;> simp

theorem wheelNotch_snoc {es : List WindowEvent} (h : es ≠ []) (e : WindowEvent) :
    wheelNotch (es ++ [e]) = wheelNotch es := by
  cases es with
  | nil => exact absurd rfl h
  | cons e' es => cases e' <;> rfl

end WindowEvent

namespace MouseButtons

@[simp] theorem get_press (m : MouseButtons) (button b : MouseButton) :
    (m.press button).get b = if button = b then (m.get b).press else m.get b := by
  cases button <;> cases b <;> rfl

@[simp] theorem get_release (m : MouseButtons) (button b : MouseButton) :
    (m.release button).get b = if button = b then (m.get b).release else m.get b := by
  cases button <;> cases b <;> rfl

@[simp] theorem get_read (m : MouseButtons) (b : MouseButton) : m.read.get b = (m.get b).read := by
  cases b <;> rfl

theorem get_seen (m : MouseButtons) (b : MouseButton) : m.seen.get b = (m.get b).seen := by
  cases b <;> rfl

end MouseButtons

namespace Window

open WindowEvent

variable {spared : Bool} {c : List (WindowEvent × Window)} {e : WindowEvent} {win win' : Window}

@[simp] theorem buttons_ended : win.ended.buttons = win.buttons := by
  unfold ended
  split <;> rfl

@[simp] theorem wheel_ended : win.ended.wheel = win.wheel := by
  unfold ended
  split <;> rfl

@[simp] theorem notch_ended : win.ended.notch = win.notch := by
  unfold ended
  split <;> rfl

@[simp] theorem buttons_beaten : win.beaten.buttons = win.buttons := by
  unfold beaten
  split <;> simp

@[simp] theorem wheel_beaten : win.beaten.wheel = win.wheel := by
  unfold beaten
  split <;> simp

@[simp] theorem notch_beaten : win.beaten.notch = win.notch := by
  unfold beaten
  split <;> simp

@[simp] theorem buttons_charInput (codepoint : UInt32) :
    (win.charInput codepoint).buttons = win.buttons := by
  unfold charInput
  split <;> rfl

@[simp] theorem wheel_charInput (codepoint : UInt32) : (win.charInput codepoint).wheel = win.wheel := by
  unfold charInput
  split <;> rfl

@[simp] theorem notch_charInput (codepoint : UInt32) : (win.charInput codepoint).notch = win.notch := by
  unfold charInput
  split <;> rfl

theorem input_begun (host host' : Host) (scale : Single) (captures : Bool) :
    (win.begun host host' scale captures).buttons = win.buttons.read ∧
      (win.begun host host' scale captures).wheel = {} ∧
      (win.begun host host' scale captures).notch = win.notch := by
  obtain ⟨context, heq⟩ := win.begun_eq host host' scale captures
  rw [heq]
  exact ⟨rfl, rfl, rfl⟩

theorem io_begun (win : Window) (host host' : Host) (scale : Single) (captures : Bool) :
    (win.begun host host' scale captures).context.io.mouseDown = win.buttons.seen ∧
      (win.begun host host' scale captures).context.io.wheel = win.context.io.wheel.add win.wheel := by
  unfold begun
  dsimp only
  split
  · exact ⟨rfl, rfl⟩
  · exact ⟨rfl, rfl⟩

theorem Chronicle.buttons_eq (h : Chronicle spared c win) (b : MouseButton) :
    (win.buttons.get b).down = isHeld b (ofChronicle c) ∧
      (win.buttons.get b).unread =
        (after isBegin (ofChronicle c)).contains (.message (.buttonDown b)) := by
  induction h with
  | opened config platform hnew =>
    rw [hnew.buttons]
    cases b <;> exact ⟨rfl, rfl⟩
  | snoc _ hr ih =>
    obtain ⟨hdown, hunread⟩ := ih
    rw [ofChronicle_snoc, isHeld_snoc, after_snoc]
    cases hr with
    | message m =>
      cases m with
      | buttonDown button =>
        by_cases heq : button = b
        · simp [received, press?, isBegin, ButtonState.press, heq]
        · simp [received, press?, isBegin, heq, Ne.symm heq, hdown, hunread]
      | buttonUp button =>
        by_cases heq : button = b
        · simp [received, press?, isBegin, ButtonState.release, heq, hunread]
        · simp [received, press?, isBegin, heq, hdown, hunread]
      | _ => simp [received, press?, isBegin, turnWheel, keyInput, modifyIo, hdown, hunread]
    | begin => simp [press?, isBegin, input_begun, ButtonState.read, hdown]
    | _ => simp [press?, isBegin, hdown, hunread]

theorem Chronicle.ne_nil (h : Chronicle spared c win) : c ≠ [] := by
  cases h with
  | opened => simp
  | snoc => simp

theorem Chronicle.notch_eq (h : Chronicle spared c win) : win.notch = wheelNotch (ofChronicle c) := by
  induction h with
  | opened config platform _ hnotch => exact hnotch
  | snoc h hr ih =>
    rw [ofChronicle_snoc, wheelNotch_snoc (by simpa [ofChronicle] using h.ne_nil), ← ih]
    cases hr with
    | message m => cases m <;> simp [received, turnWheel, keyInput, modifyIo]
    | begin => exact (input_begun ..).2.2
    | finish | tick => simp
    | enter | ask | redraw => rfl

theorem Chronicle.wheel_eq (h : Chronicle spared c win) :
    win.wheel = ⟨notches .vertical win.notch (after isBegin (ofChronicle c)),
      notches .horizontal win.notch (after isBegin (ofChronicle c))⟩ := by
  induction h with
  | opened config platform hnew => exact hnew.wheel
  | snoc _ hr ih =>
    rw [ofChronicle_snoc, after_snoc]
    cases hr with
    | message m =>
      cases m with
      | mouseWheel axis delta =>
        cases axis <;> simp [received, turnWheel, Wheel.turn, isBegin, notches_snoc, turn?, ih]
      | _ => simp [received, keyInput, modifyIo, isBegin, notches_snoc, turn?, ih]
    | begin => simp [isBegin, notches, input_begun]
    | _ => simp [isBegin, notches_snoc, turn?, ih]

theorem frameInput_received (m : Message) : (win.received m).frameInput = win.frameInput := by
  cases m with
  | char codepoint =>
    simp only [received, charInput]
    split <;> rfl
  | _ => rfl

theorem Chronicle.ioWheel_of_idle (h : Chronicle spared c win) (hidle : win.inFrame = false) :
    win.context.io.wheel = {} := by
  have hended {win : Window} (hwheel : win.inFrame = false → win.context.io.wheel = {}) :
      win.ended.context.io.wheel = {} := by
    unfold ended
    split
    · rfl
    · next hopen => exact hwheel (Bool.eq_false_iff.mpr hopen)
  induction h with
  | opened config platform hnew => exact hnew.ioWheel
  | snoc _ hr ih =>
    cases hr with
    | begin => simp [flags_begun] at hidle
    | enter hopen => simp [hopen] at hidle
    | finish => exact hended ih
    | tick =>
      unfold beaten at hidle ⊢
      split at hidle
      · next hretires =>
        rw [if_pos hretires]
        exact ih hidle
      · next hretires =>
        rw [if_neg hretires]
        exact hended ih
    | message m =>
      have hwheel := ih ((flags_received m).1.symm.trans hidle)
      exact (congrArg (·.2.2.1) (frameInput_received m)).trans hwheel
    | redraw _ _ hwheel =>
      rcases hwheel with hwheel | hwheel
      · exact hwheel.trans (ih hidle)
      · exact hwheel
    | ask => exact ih hidle

theorem Chronicle.of_begin (h : Chronicle spared (c ++ [(.begin, win')]) win) :
    ∃ win₀, Chronicle spared c win₀ ∧ Reacts spared win₀ .begin win := by
  generalize hall : c ++ [(WindowEvent.begin, win')] = all at h
  cases h with
  | opened config platform =>
    cases c with
    | nil => simp at hall
    | cons => simp at hall
  | @snoc _ _ win₀ _ h₀ hr =>
    obtain ⟨rfl, hlast⟩ := List.append_inj' hall rfl
    cases hlast
    exact ⟨win₀, h₀, hr⟩

/-- A frame sees every button that was pressed since the frame before it began or that is held, and
what the wheel was turned since then. -/
theorem Chronicle.io_begin (h : Chronicle spared (c ++ [(.begin, win')]) win) :
    (∀ b, win.context.io.mouseDown.get b =
      ((after isBegin (ofChronicle c)).contains (.message (.buttonDown b)) ||
        isHeld b (ofChronicle c))) ∧
    win.context.io.wheel =
      ⟨.zero + notches .vertical (wheelNotch (ofChronicle c)) (after isBegin (ofChronicle c)),
        .zero + notches .horizontal (wheelNotch (ofChronicle c)) (after isBegin (ofChronicle c))⟩ := by
  obtain ⟨win₀, h₀, hr⟩ := h.of_begin
  cases hr with
  | begin host host' scale captures hidle =>
    obtain ⟨hdown, hwheel⟩ := win₀.io_begun host host' scale captures
    refine ⟨fun b ↦ ?_, ?_⟩
    · obtain ⟨hheld, hunread⟩ := h₀.buttons_eq b
      rw [hdown, MouseButtons.get_seen, ← hheld, ← hunread, Bool.or_comm]
      rfl
    · rw [hwheel, h₀.ioWheel_of_idle hidle, h₀.wheel_eq, h₀.notch_eq]
      rfl

end Window

end Casement
