import TermBridge.Proofs.Launch.SessionArguments

namespace TermBridge.Launch

-- What a launch comes to in a session that has its terminal's slave or has given it away.
theorem launch_spawn_eq (start : EnvironmentChanges → List String → Except SpawnError Unix.Behaviour)
    (c : Command) (s : PtySession) :
    (launch c (PtySession.spawn start) s).1 =
      if s.slaveHeld then
        ((start s.environment (CommandLine.split c.sessionCommandLine)).map fun _ => ()).mapError
          (.spawn c.childCommandLine)
      else .error (.spawn c.childCommandLine (.internal "a child was already spawned")) := by
  cases hs : s.slaveHeld with
  | true =>
    rw [launch_spawn start c hs, Command.sessionArguments_eq_split, if_pos rfl]
    cases start s.environment (CommandLine.split c.sessionCommandLine) <;> rfl
  | false => simp [launch, PtySession.spawn, hs]

-- Wide text holds a unit for each character up to U+FFFF and two for each one beyond, and a zero unit at
-- its end which is no part of the text. It determines the text, and a session reads the launched line.
theorem wide_text_is_faithful (text : String) :
    (WideString.ofString text).toStringLossy = text ∧
    (WideString.ofString text).units = text.toList.flatMap Utf16.encodeChar ∧
    (∀ c, (Utf16.encodeChar c).length = if c.toNat ≤ 0xFFFF then 1 else 2) ∧
    (WideString.ofString text).memory = (WideString.ofString text).units ++ [0] ∧
    (∀ other, (WideString.ofString text).units = (WideString.ofString other).units ↔ text = other) ∧
    ∀ (start : EnvironmentChanges → List String → Except SpawnError Unix.Behaviour) (c : Command)
      (s : PtySession),
      (launch c (PtySession.spawn start) s).1 =
        if s.slaveHeld then
          ((start s.environment (CommandLine.split c.sessionCommandLine)).map fun _ => ()).mapError
            (.spawn c.childCommandLine)
        else .error (.spawn c.childCommandLine (.internal "a child was already spawned")) := by
  refine ⟨WideString.toStringLossy_ofString text, WideString.units_ofString text,
    Utf16.length_encodeChar, WideString.memory_ofString text, ?_, launch_spawn_eq⟩
  intro other
  exact WideString.units_ofString_inj

end TermBridge.Launch
