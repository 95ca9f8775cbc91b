import NodeBus.Outcome

/-!
# The helper program

Some requests are passed to an external program as its only argument. Whether the program could be
started, in time and with success decides the status of the request.
-/
namespace NodeBus

inductive Ending where
  | exited (code : Nat)
  | signalled (signal : Nat)
  deriving DecidableEq, Repr

structure ProgramRun where
  milliseconds : Nat
  ending : Ending
  deriving DecidableEq, Repr

inductive Program where
  | missing
  | notExecutable
  | executable (run : String → ProgramRun)

/-- The helper: its program, if one is configured, and how long it may run. -/
structure Helper where
  program : Option Program := none
  timeout : Nat := 30000

/-- The longest argument of a program, in bytes. -/
def maxArgument : Nat := 131071

/-- No argument of a program may hold the character that ends it, nor be longer than the system takes. -/
def canBeArgument (text : String) : Bool :=
  !text.toList.contains '\x00' && text.utf8ByteSize ≤ maxArgument

/-- Runs the helper. A program that runs longer than it may is killed. -/
def Helper.run (helper : Helper) (command : String) : Status :=
  match helper.program with
  | none => .helperConfigError
  | some .missing | some .notExecutable => .helperSpawnError
  | some (.executable run) =>
    if !canBeArgument command then .helperSpawnError
    else if helper.timeout < (run command).milliseconds then .helperError
    else if (run command).ending = .exited 0 then .ok
    else .helperError

end NodeBus
