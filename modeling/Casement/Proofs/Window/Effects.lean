import Casement.Proofs.Window.Events
import Casement.Script.Step

namespace Casement

/-- What a window finds around it when it begins a frame: its host before and after the call of the
renderer, the scale, and whether the GUI wants the keyboard. -/
structure Surroundings where
  host : Host
  host' : Host
  scale : Single
  captures : Bool
  deriving Inhabited

/-- What a window keeps to itself. `guiInFrame` is whether its GUI is in a frame of its own. -/
structure Interior where
  inFrame : Bool
  closeRequested : Bool
  keepAlive : Bool
  buttons : MouseButtons
  wheel : Wheel
  notch : Single
  mouseDown : ButtonsDown
  ioWheel : Wheel
  keysDown : List Bool
  queue : List Char
  guiInFrame : Bool
  deriving DecidableEq, Repr

namespace Window

def interior (win : Window) : Interior where
  inFrame := win.inFrame
  closeRequested := win.closeRequested
  keepAlive := win.keepAlive
  buttons := win.buttons
  wheel := win.wheel
  notch := win.notch
  mouseDown := win.context.io.mouseDown
  ioWheel := win.context.io.wheel
  keysDown := win.context.io.keysDown
  queue := win.context.io.queue
  guiInFrame := win.context.inFrame

def entered (s : Surroundings) (win : Window) : Window :=
  if win.inFrame then { win with keepAlive := true }
  else win.begun s.host s.host' s.scale s.captures

/-- Whether to enter the window is a fault: its GUI is in a frame that the window knows nothing of. -/
def faults (win : Window) : Bool := !win.inFrame && win.context.inFrame

end Window

def WindowStep.effect (s : Surroundings) (win : Window) : WindowStep → Window
  | .enterFrame => win.entered s
  | .endFrame _ => win.ended
  | .frame _ => if win.faults then win.entered s else (win.entered s).ended
  | .requestClose => { win with closeRequested := true }
  | .setClearColor color => { win with clearColor := color }
  | .mouseDown button => win.received (.buttonDown button)
  | .mouseUp button => win.received (.buttonUp button)
  | .mouseWheel axis delta => win.received (.mouseWheel axis delta)
  | .keyInput code down => win.received (.key code down)
  | .charInput codepoint => win.received (.char codepoint)
  | .contextNewFrame =>
    if win.context.inFrame then win else { win with context := win.context.begin s.captures }
  | .contextRender | .contextEndFrame => { win with context := win.context.finish }
  | .contextStyle style => { win with context := { win.context with style } }
  | .resizeKeys count => win.modifyIo (·.resizeKeys count)
  | .wantKeyboard on => win.modifyIo ({ · with wantsKeyboard := on })
  | .setWheel wheel => win.modifyIo ({ · with wheel })
  | _ => win

namespace Window

def Works : List WindowStep → Window → Window → Prop
  | [], win, win' => win' = win
  | step :: rest, win, win' => ∃ s, Works rest (step.effect s win) win'

variable {s s' : Surroundings} {win win' win₁ win₁' : Window}

theorem interior_ended (h : win.interior = win'.interior) : win.ended.interior = win'.ended.interior := by
  have hframe : win.inFrame = win'.inFrame := congrArg Interior.inFrame h
  simp only [interior, Interior.mk.injEq] at h
  unfold ended
  rw [hframe]
  split <;> simp [interior, Context.finish, h]

theorem interior_received (h : win.interior = win'.interior) (m : Message) :
    (win.received m).interior = (win'.received m).interior := by
  simp only [interior, Interior.mk.injEq] at h
  cases m with
  | char codepoint =>
    simp only [received, charInput]
    cases typed? codepoint <;> simp [interior, modifyIo, Context.modifyIo, Io.type, h]
  | _ => simp [received, turnWheel, keyInput, modifyIo, Context.modifyIo, Io.setKey, interior, h]

theorem retires_congr (h : win.interior = win'.interior) : win.retires = win'.retires := by
  simp only [interior, Interior.mk.injEq] at h
  simp [retires, h]

theorem interior_beaten (h : win.interior = win'.interior) :
    win.beaten.interior = win'.beaten.interior := by
  unfold beaten
  rw [retires_congr h]
  split
  · exact congrArg (fun i : Interior ↦ { i with closeRequested := false, keepAlive := false }) h
  · exact congrArg (fun i : Interior ↦ { i with keepAlive := false }) (interior_ended h)

theorem interior_begun (h : win.interior = win'.interior) :
    (win.begun s.host s.host' s.scale s.captures).interior =
      (win'.begun s'.host s'.host' s'.scale s'.captures).interior := by
  have hgui : win.context.inFrame = win'.context.inFrame := congrArg Interior.guiInFrame h
  simp only [interior, Interior.mk.injEq] at h
  cases hopen : win'.context.inFrame <;> rw [hopen] at hgui <;>
    simp [begun, readInput, readFrameInfo, modifyIo, Context.modifyIo, Context.begin, interior, hgui,
      hopen, h]

theorem interior_entered (h : win.interior = win'.interior) :
    (win.entered s).interior = (win'.entered s').interior := by
  have hframe : win.inFrame = win'.inFrame := congrArg Interior.inFrame h
  unfold entered
  by_cases hopen : win'.inFrame = true
  · rw [if_pos hopen, if_pos (hframe.trans hopen)]
    exact congrArg (fun i : Interior ↦ { i with keepAlive := true }) h
  · rw [if_neg hopen, if_neg (hframe ▸ hopen)]
    exact interior_begun h

/-- Whatever is around it, the interior of a window after a step follows from its interior before. -/
theorem interior_effect (h : win.interior = win'.interior) (step : WindowStep) :
    (step.effect s win).interior = (step.effect s' win').interior := by
  cases step with
  | enterFrame => exact interior_entered h
  | endFrame => exact interior_ended h
  | frame =>
    have hfaults : win.faults = win'.faults := by
      simp only [interior, Interior.mk.injEq] at h
      simp [faults, h]
    unfold WindowStep.effect
    simp only [hfaults]
    split
    · exact interior_entered h
    · exact interior_ended (interior_entered h)
  | mouseDown button => exact interior_received h _
  | mouseUp button => exact interior_received h _
  | mouseWheel axis delta => exact interior_received h _
  | keyInput code down => exact interior_received h _
  | charInput codepoint => exact interior_received h _
  | contextNewFrame =>
    have hgui : win.context.inFrame = win'.context.inFrame := congrArg Interior.guiInFrame h
    simp only [interior, Interior.mk.injEq] at h
    unfold WindowStep.effect
    simp only [hgui]
    split <;> simp [interior, Context.begin, h]
  | _ =>
    simp only [interior, Interior.mk.injEq] at h
    unfold WindowStep.effect
    simp [interior, modifyIo, Context.modifyIo, Context.finish, Io.resizeKeys, h]

theorem interior_works {steps : List WindowStep} (hworks : Works steps win win₁)
    (hworks' : Works steps win' win₁') (h : win.interior = win'.interior) :
    win₁.interior = win₁'.interior := by
  induction steps generalizing win win' with
  | nil =>
    rw [hworks, hworks']
    exact h
  | cons step rest ih =>
    obtain ⟨s, hrest⟩ := hworks
    obtain ⟨s', hrest'⟩ := hworks'
    exact ih hrest hrest' (interior_effect h step)

end Window

end Casement
