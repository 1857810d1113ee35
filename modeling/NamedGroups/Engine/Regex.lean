import NamedGroups.Engine.Backtracking
import NamedGroups.Engine.Parser
import NamedGroups.RegexEngine

/-!
# Compiled patterns of the engine

A pattern without hard parts runs as one program, and its searches always give
an answer.  Any other pattern runs as a machine, whose searches may give up.
-/

namespace NamedGroups.Engine

/-- What runs a pattern. -/
inductive Runner where
  | program (instructions : Array Instruction)
  | machine (node : Node) (registers : Nat)

/-- A compiled pattern. -/
structure Regex where
  source : Text
  /-- The number of slots of a match: the whole match and its capture groups. -/
  slots : Nat
  runner : Runner

namespace Regex

def compile (pattern : Text) : Except SyntaxError Regex := do
  let parsed ← parse pattern
  if parsed.expression.isHard parsed.references then
    let slots := parsed.groups + 1
    let (node, registers) ←
      (Node.ofExpr parsed.references true parsed.expression).run (2 * slots)
    return ⟨pattern, slots, .machine node registers⟩
  else
    let program ← Program.ofExpr parsed.expression
    return ⟨pattern, parsed.expression.liveGroups.foldl max 0 + 1,
      .program program⟩

def span? (registers : Registers) (slot : Nat) : Option Span := do
  let start ← (registers[2 * slot]?).join
  let stop ← (registers[2 * slot + 1]?).join
  return ⟨start, stop⟩

/-- The first match at or behind a byte offset: the span of each slot, the whole
match first.  What stands before the offset is still seen by assertions and
lookbehinds. -/
def search (regex : Regex) (text : Text) (offset : Nat) :
    Except SearchError (Option (List (Option Span))) := do
  let registers ←
    match regex.runner with
    | .program instructions =>
        pure (Simulation.run instructions (2 * regex.slots) false
          (Cursor.atOffset text offset))
    | .machine node registers => MachineState.search node registers text offset
  return registers.map fun registers =>
    (List.range regex.slots).map (span? registers)

end Regex

end NamedGroups.Engine
