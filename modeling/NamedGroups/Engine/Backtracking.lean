import NamedGroups.Engine.Machine

/-!
# Running machines

A machine works through a list of tasks and keeps the choices that it could
still make otherwise, the latest first.  When a task fails, the machine goes
back to the latest choice.  A choice holds the whole state to go on with, so
going back undoes everything that was noted since.  Committing to what has been
found and refuting a negated look both drop the choices made since a given
moment.

The number of times that the machine may go back is limited.
-/

namespace NamedGroups.Engine

/-- Why a search gives no answer. -/
inductive SearchError where
  | backtrackLimit
deriving DecidableEq

def SearchError.message : SearchError → Text
  | .backtrackLimit =>
      "Error executing regex: Max limit for backtracking count exceeded".toList

mutual

/-- Something that is left to be done. -/
inductive Task where
  | run (node : Node)
  /-- Goes on with a repetition that has begun. -/
  | again (node : Node)
  | save (register : Nat)
  | goTo (cursor : Cursor)
  /-- Keeps what has been found since these were the choices. -/
  | commit (choices : List Choice)
  /-- Fails, and takes back the choices made since. -/
  | refute (choices : List Choice)

/-- A state to go on with. -/
inductive Choice where
  | mk (tasks : List Task) (cursor : Cursor) (registers : Registers)

end

/-- The state of a running machine. -/
structure MachineState where
  tasks : List Task
  cursor : Cursor
  registers : Registers
  choices : List Choice

namespace MachineState

def register (state : MachineState) (number : Nat) : Option Nat :=
  (state.registers[number]?).join

def setRegister (state : MachineState) (number value : Nat) : MachineState :=
  { state with registers := state.registers.set number (some value) }

/-- Goes on with the first tasks, and keeps the second as a choice. -/
def fork (state : MachineState) (first second : List Task) : MachineState :=
  { state with
    tasks := first
    choices := .mk second state.cursor state.registers :: state.choices }

def enterOrLeave (state : MachineState) (greedy : Bool)
    (body exit : List Task) : MachineState :=
  if greedy then state.fork body exit else state.fork exit body

def count (state : MachineState) (counter : Nat) : Nat :=
  (state.register counter).getD 0

def iterateCounted (state : MachineState) (greedy : Bool)
    (least most counter : Nat) (body : Node) (rest : List Task) :
    MachineState :=
  let count := state.count counter
  if count = most then { state with tasks := rest }
  else
    let entered := state.setRegister counter (count + 1)
    let tasks :=
      .run body :: .again (.counted greedy least most counter body) :: rest
    if least ≤ count then entered.enterOrLeave greedy tasks rest
    else { entered with tasks }

/-- Starts or goes on with a marked repetition.  Fails if the last iteration has
not moved on from the marked place. -/
def iterateMarked? (state : MachineState) (greedy : Bool)
    (least counter mark : Nat) (body : Node) (rest : List Task) :
    Option MachineState :=
  let count := state.count counter
  if 0 < count ∧ state.register mark = some state.cursor.offset then none
  else
    let entered := state.setRegister counter (count + 1)
    let tasks :=
      .run body :: .again (.marked greedy least counter mark body) :: rest
    if least ≤ count then
      some ((entered.setRegister mark state.cursor.offset).enterOrLeave greedy
        tasks rest)
    else some { entered with tasks }

def takeCaptures (registers captured : Registers) : List Nat → Registers
  | [] => registers
  | group :: groups =>
      takeCaptures ((registers.set (2 * group) (captured[2 * group]?).join).set
        (2 * group + 1) (captured[2 * group + 1]?).join) captured groups

/-- Moves past the first match of a program that starts at the cursor. -/
def delegate? (state : MachineState) (program : Array Instruction)
    (registers : Nat) (groups : List Nat) (rest : List Task) :
    Option MachineState := do
  let captured ← Simulation.run program registers true state.cursor
  let stop ← (captured[1]?).join
  return { state with
    tasks := rest
    cursor :=
      Cursor.seek stop state.cursor.before state.cursor.offset
        state.cursor.after
    registers := takeCaptures state.registers captured groups }

def captured? (state : MachineState) (text : Text) (group : Nat) :
    Option Text := do
  let start ← state.register (2 * group)
  let stop ← state.register (2 * group + 1)
  if start ≤ stop then return text.slice start stop else none

/-- Starts a node.  `rest` is what comes after it. -/
def runNode? (text : Text) (state : MachineState) (rest : List Task) :
    Node → Option MachineState
  | .text characters => do
      return { state with
        tasks := rest, cursor := ← Cursor.skipText? characters state.cursor }
  | .consume set => do
      let (character, cursor) ← state.cursor.next?
      if set.mem character then return { state with tasks := rest, cursor }
      else none
  | .assertion condition =>
      if condition.holds state.cursor.before.head? state.cursor.after.head? then
        some { state with tasks := rest }
      else none
  | .delegate program registers groups =>
      state.delegate? program registers groups rest
  | .sequence parts => some { state with tasks := parts.map .run ++ rest }
  | .choice [] => none
  | .choice [alternative] =>
      some { state with tasks := .run alternative :: rest }
  | .choice (alternative :: alternatives) =>
      some (state.fork (.run alternative :: rest)
        (.run (.choice alternatives) :: rest))
  | .capture number body =>
      some { state.setRegister (2 * number) state.cursor.offset with
        tasks := .run body :: .save (2 * number + 1) :: rest }
  | .optional greedy body =>
      some (state.enterOrLeave greedy (.run body :: rest) rest)
  | .loop greedy body =>
      some (state.enterOrLeave greedy
        (.run body :: .run (.loop greedy body) :: rest) rest)
  | .counted greedy least most counter body =>
      some ((state.setRegister counter 0).iterateCounted greedy least most
        counter body rest)
  | .marked greedy least counter mark body =>
      (state.setRegister counter 0).iterateMarked? greedy least counter mark
        body rest
  | .look distance negated body => do
      if negated then
        let forked := state.fork [] rest
        match Cursor.back? distance state.cursor with
        | none => return { state with tasks := rest }
        | some cursor =>
            return { forked with
              cursor, tasks := [.run body, .refute state.choices] }
      else
        return { state with
          cursor := ← Cursor.back? distance state.cursor
          tasks := .run body :: .goTo state.cursor :: rest }
  | .backreference number => do
      let captured ← state.captured? text number
      return { state with
        tasks := rest, cursor := ← Cursor.skipText? captured state.cursor }
  | .groupTest number =>
      if (state.register (2 * number)).isSome then
        some { state with tasks := rest }
      else none
  | .atomic body =>
      some { state with tasks := .run body :: .commit state.choices :: rest }
  | .conditional condition accepted rejected =>
      some (state.fork
        (.run condition :: .commit state.choices :: .run accepted :: rest)
        (.run rejected :: rest))

def perform? (text : Text) (state : MachineState) (rest : List Task) :
    Task → Option MachineState
  | .run node => state.runNode? text rest node
  | .again (.counted greedy least most counter body) =>
      some (state.iterateCounted greedy least most counter body rest)
  | .again (.marked greedy least counter mark body) =>
      state.iterateMarked? greedy least counter mark body rest
  | .again node => state.runNode? text rest node
  | .save register =>
      some { state.setRegister register state.cursor.offset with tasks := rest }
  | .goTo cursor => some { state with tasks := rest, cursor }
  | .commit choices => some { state with tasks := rest, choices }
  | .refute _ => none

/-- The choices to go back to when a task fails. -/
def choicesAfterFailure (state : MachineState) : List Choice :=
  match state.tasks with
  | .refute choices :: _ => choices
  | _ => state.choices

def backtrackLimit : Nat := 1000000

def taskLimit : Nat := 1000000000

/-- Runs a machine until nothing is left to be done, or no choice is left. -/
def run (text : Text) :
    Nat → Nat → MachineState → Except SearchError (Option Registers)
  | 0, _, _ => .error .backtrackLimit
  | fuel + 1, failures, state =>
      match state.tasks with
      | [] => .ok (some state.registers)
      | task :: rest =>
          match state.perform? text rest task with
          | some following => run text fuel failures following
          | none =>
              match state.choicesAfterFailure with
              | [] => .ok none
              | .mk tasks cursor registers :: choices =>
                  if failures < backtrackLimit then
                    run text fuel (failures + 1)
                      ⟨tasks, cursor, registers, choices⟩
                  else .error .backtrackLimit

/-- Searches a text from a byte offset on.  The match may start at any place
from there on. -/
def search (node : Node) (registers : Nat) (text : Text) (offset : Nat) :
    Except SearchError (Option Registers) :=
  run text taskLimit 0
    { tasks := [.run (.loop false (.consume .all)), .run (.capture 0 node)]
      cursor := Cursor.atOffset text offset
      registers := List.replicate registers none
      choices := [] }

end MachineState

end NamedGroups.Engine
