import NodeBus.Proofs.LineGrammar
import NodeBus.Proofs.MonitorReplies

/-!
# What a line brings about

The documented commands are a closed set (`IsCommand`). A line that is none of them is answered `ER` and leaves everything
as it was, and a switch changes only what it switches, with one exception: a text that goes on behind the two letters of a
switch (`GoesOn`) is no command, and is carried out as if it were one. `onlyCommandsAct_iff` says that nothing else is,
and `goesOn_acts` gives a line that is.
-/
namespace NodeBus

namespace Monitor

/-- The text of a command. -/
inductive IsCommand : List Char → Prop where
  | call {digits : List Char} (complete : IsCallDigits digits) : IsCommand ('C' :: 'A' :: digits)
  | interruptsOn : IsCommand ['I', 'E']
  | interruptsOff : IsCommand ['I', 'D']

/-- The text begins as a switch does, and goes on behind it. -/
def GoesOn (text : List Char) : Prop :=
  ∃ first behind, text = 'I' :: 'E' :: first :: behind ∨ text = 'I' :: 'D' :: first :: behind

theorem IsCommand.known {text : List Char} (command : IsCommand text) : ∃ opcode ∈ opcodes, opcode <+: text := by
  cases command with
  | call complete => exact ⟨['C', 'A'], by decide, _, rfl⟩
  | interruptsOn => exact ⟨['I', 'E'], by decide, [], rfl⟩
  | interruptsOff => exact ⟨['I', 'D'], by decide, [], rfl⟩

namespace GoesOn

variable {text : List Char}

theorem known (goesOn : GoesOn text) : ∃ opcode ∈ opcodes, opcode <+: text := by
  obtain ⟨first, behind, rfl | rfl⟩ := goesOn
  · exact ⟨['I', 'E'], by decide, first :: behind, rfl⟩
  · exact ⟨['I', 'D'], by decide, first :: behind, rfl⟩

theorem not_isCommand (goesOn : GoesOn text) : ¬ IsCommand text := by
  obtain ⟨first, behind, rfl | rfl⟩ := goesOn <;> nofun

end GoesOn

/-- Refused is what is neither a command nor a switch that goes on. -/
theorem parse_refuses_iff (line : List Char) : (∃ error, parse line = .error error) ↔
    ¬ IsCommand (trimEnd line) ∧ ¬ GoesOn (trimEnd line) := by
  rcases parse_cases line with ⟨digits, text, result⟩ | ⟨behind, text, result⟩ | ⟨behind, text, result⟩ | ⟨unknown, result⟩
  · have callOnly : IsCommand (trimEnd line) ↔ IsCallDigits digits := by
      rw [text]
      exact ⟨fun | .call complete => complete, .call⟩
    have noSwitch : ¬ GoesOn (trimEnd line) := by simp [GoesOn, text]
    rw [result, callOnly, ← exists_parseCall_iff]
    cases parseCall digits <;> simp [Except.map, noSwitch]
  · cases behind with
    | nil => simp [result, text, IsCommand.interruptsOn]
    | cons first behind => simp [result, text, GoesOn]
  · cases behind with
    | nil => simp [result, text, IsCommand.interruptsOff]
    | cons first behind => simp [result, text, GoesOn]
  · -- commands and what goes on behind a switch both begin with an opcode
    have strange : ¬ ∃ opcode ∈ opcodes, opcode <+: trimEnd line := by
      rintro ⟨opcode, listed, begins⟩
      exact unknown opcode listed begins
    exact iff_of_true ⟨_, result⟩ ⟨fun command => strange command.known, fun goesOn => strange goesOn.known⟩

end Monitor

namespace Service

open Monitor

variable (controller : Controller) (report : Bool) {line : List Char}

theorem answerLine_of_error {error : LineError} (refused : parse line = .error error) :
    answerLine controller report line = { reply := errorReply, report, controller } := by
  simp only [answerLine, refused]

theorem answerLine_of_interruptsOn {behind : List Char} (text : trimEnd line = 'I' :: 'E' :: behind) :
    answerLine controller report line = { reply := okReply, report := true, controller } := by
  have read : parse line = .ok .interruptsOn := by simp only [parse, text]
  simp only [answerLine, read]

theorem answerLine_of_interruptsOff {behind : List Char} (text : trimEnd line = 'I' :: 'D' :: behind) :
    answerLine controller report line = { reply := okReply, report := false, controller } := by
  have read : parse line = .ok .interruptsOff := by simp only [parse, text]
  simp only [answerLine, read]

/-- What goes on behind a switch makes no difference to the answer. -/
theorem reply_of_goesOn (goesOn : GoesOn (trimEnd line)) : (answerLine controller report line).reply.text = "OK\n" := by
  obtain ⟨first, behind, text | text⟩ := goesOn
  · rw [answerLine_of_interruptsOn controller report text]
    exact okReply_written.1
  · rw [answerLine_of_interruptsOff controller report text]
    exact okReply_written.1

/-- What a line comes to: the text of the answer, whether interrupts are announced from now on, and the controller with
its bus, statistics, nodes and settings. -/
def outcomeOf (answered : Answered) : String × Bool × Controller :=
  (answered.reply.text, answered.report, answered.controller)

/-- Only commands bring something about: any other text is refused and leaves all as it was, and a switch changes nothing
but what it switches. -/
structure OnlyCommandsAct (line : List Char) : Prop where
  refused : ¬ IsCommand (trimEnd line) → outcomeOf (answerLine controller report line) = ("ER\n", report, controller)
  on : trimEnd line = ['I', 'E'] → outcomeOf (answerLine controller report line) = ("OK\n", true, controller)
  off : trimEnd line = ['I', 'D'] → outcomeOf (answerLine controller report line) = ("OK\n", false, controller)

theorem not_onlyCommandsAct (goesOn : GoesOn (trimEnd line)) : ¬ OnlyCommandsAct controller report line := by
  intro only
  have refused := congrArg Prod.fst (only.refused goesOn.not_isCommand)
  have answered : "OK\n" = "ER\n" := (reply_of_goesOn controller report goesOn).symm.trans refused
  exact absurd answered (by decide)

/-- **Only commands bring something about, but for switches that go on.** -/
theorem onlyCommandsAct_iff (controller : Controller) (report : Bool) (line : List Char) :
    OnlyCommandsAct controller report line ↔ ¬ GoesOn (trimEnd line) := by
  refine ⟨fun only goesOn => not_onlyCommandsAct controller report goesOn only, fun stops => ?_⟩
  refine { refused := ?_, on := ?_, off := ?_ }
  · intro noCommand
    obtain ⟨error, read⟩ := (parse_refuses_iff line).mpr ⟨noCommand, stops⟩
    rw [answerLine_of_error controller report read, outcomeOf, errorReply_written.1]
  · intro text
    rw [answerLine_of_interruptsOn controller report text, outcomeOf, okReply_written.1]
  · intro text
    rw [answerLine_of_interruptsOff controller report text, outcomeOf, okReply_written.1]

/-- A text that is no command subscribes the monitor that sends it. -/
theorem goesOn_acts : ¬ IsCommand (trimEnd ['I', 'E', 'x']) ∧
    outcomeOf (answerLine {} false ['I', 'E', 'x']) = ("OK\n", true, {}) ∧
    ¬ OnlyCommandsAct {} false ['I', 'E', 'x'] := by
  have text : trimEnd ['I', 'E', 'x'] = ['I', 'E', 'x'] := by decide
  have goesOn : GoesOn (trimEnd ['I', 'E', 'x']) := ⟨'x', [], .inl text⟩
  refine ⟨goesOn.not_isCommand, ?_, not_onlyCommandsAct {} false goesOn⟩
  rw [answerLine_of_interruptsOn {} false text, outcomeOf, okReply_written.1]

end Service

end NodeBus
