import Casement.Proofs.World.History

namespace Casement.World

open WindowEvent

/-- In every script that is not nested and does not write to the input itself, and for every frame a
window begins in it: a button shows as down if it was pressed since the last frame began or is still
held, and the wheel shows what it was turned since then. A message that arrives while a frame is
open changes none of its input. -/
theorem frames_see_input (hosts : List HostSetup) {steps : List Step}
    (hplain : ∀ s ∈ steps, s.isPlain = true) :
    (∀ key before win, before ++ [(.begin, win)] <+: chronicle key (World.empty hosts) steps →
      let es := ofChronicle before
      (∀ b, win.context.io.mouseDown.get b = true ↔
        .message (.buttonDown b) ∈ after isBegin es ∨ isHeld b es = true) ∧
      win.context.io.wheel.vertical =
        .zero + notches .vertical (wheelNotch es) (after isBegin es) ∧
      win.context.io.wheel.horizontal =
        .zero + notches .horizontal (wheelNotch es) (after isBegin es)) ∧
    ∀ native m key o,
      let w := (Session.run hosts steps).2
      let w' := (dispatch (scripted 0) native m w).2
      Registry.find? w' (some ()) key = some o → (window w o).inFrame = true →
        (window w' o).inFrame = true ∧ (window w' o).frameInput = (window w o).frameInput := by
  have hrun (key : Key) := annals_run (P := fun w ↦ Quiet w ∧ Watched 0 w)
    (fun hs ↦ hs) (fun hw ↦ ⟨hw.1, hw.2, fun _ _ _ _ ↦ rfl⟩)
    (fun _ hw ↦ hw.1.runStep hw.2 _) hplain ⟨quiet_empty hosts, watched_empty hosts⟩
    (annals_empty true key hosts)
  refine ⟨fun key before win hbegin ↦ ?_, fun native m key o ↦ ?_⟩
  · obtain ⟨-, hannals⟩ := hrun key
    rw [List.nil_append] at hannals
    obtain ⟨win', hchronicle⟩ := hannals.told fun hnil ↦ by simp [hnil] at hbegin
    obtain ⟨hdown, hwheel⟩ := (hchronicle.take hbegin).io_begin
    refine ⟨fun b ↦ ?_, congrArg Wheel.vertical hwheel, congrArg Wheel.horizontal hwheel⟩
    rw [hdown, Bool.or_eq_true, List.contains_iff_mem]
  · intro w w' hkey hopen
    have hw : Quiet w := by
      have := (hrun key).1.1
      rwa [← run_of_isPlain hosts hplain] at this
    obtain ⟨-, hwindow⟩ := hw.dispatch native m hkey
    rw [hwindow]
    split
    · exact ⟨(Window.flags_received m).1.trans hopen, Window.frameInput_received m⟩
    · exact ⟨hopen, rfl⟩

/-- A click shorter than a frame, and a press while the frame is open. -/
theorem frames_see_input_click :
    let steps : List Step :=
      [.openWindow 0 {} "a" 0 0 9 9, .dispatch (.slot 0) (.buttonDown .left),
        .dispatch (.slot 0) (.mouseWheel .vertical 120), .dispatch (.slot 0) (.buttonUp .left),
        .window (.slot 0) .enterFrame, .dispatch (.slot 0) (.buttonDown .right)]
    let c := chronicle (World.empty [{}]).entries.nextKey (World.empty [{}]) steps
    (∀ s ∈ steps, s.isPlain = true) ∧
      ofChronicle c = [.opened {} .fallback, .message (.buttonDown .left),
        .message (.mouseWheel .vertical 120), .message (.buttonUp .left), .begin,
        .message (.buttonDown .right)] ∧
      ∃ before win, before ++ [(.begin, win)] <+: c ∧
        win.context.io.mouseDown.get .left = true ∧ win.context.io.mouseDown.get .right = false := by
  intro steps c
  have hplain : ∀ s ∈ steps, s.isPlain = true := by decide
  have hevents : ofChronicle c = [.opened {} .fallback, .message (.buttonDown .left),
      .message (.mouseWheel .vertical 120), .message (.buttonUp .left), .begin,
      .message (.buttonDown .right)] := by decide +kernel
  refine ⟨hplain, hevents, ?_⟩
  have hframes := (frames_see_input [{}] hplain).1 (World.empty [{}]).entries.nextKey
  change ∀ before win, before ++ [(.begin, win)] <+: c → _ at hframes
  generalize c = c at hevents hframes ⊢
  simp only [ofChronicle, List.map_eq_cons_iff, List.map_eq_nil_iff] at hevents
  obtain ⟨⟨_, win₁⟩, _, rfl, rfl, ⟨_, win₂⟩, _, rfl, rfl, ⟨_, win₃⟩, _, rfl, rfl, ⟨_, win₄⟩, _, rfl, rfl,
    ⟨_, win₅⟩, _, rfl, rfl, ⟨_, win₆⟩, _, rfl, rfl, rfl⟩ := hevents
  have hbegin := List.prefix_append [(WindowEvent.opened {} .fallback, win₁),
    (.message (.buttonDown .left), win₂), (.message (.mouseWheel .vertical 120), win₃),
    (.message (.buttonUp .left), win₄), (.begin, win₅)] [(.message (.buttonDown .right), win₆)]
  obtain ⟨hdown, -⟩ := hframes [_, _, _, _] win₅ hbegin
  simp only [ofChronicle, List.map_cons, List.map_nil] at hdown
  refine ⟨[_, _, _, _], win₅, hbegin, (hdown .left).mpr (.inl ?_), ?_⟩
  · decide
  · rw [← Bool.not_eq_true, hdown]
    decide

end Casement.World
