import NamedGroups.Engine.Cursor
import NamedGroups.Engine.Program

/-!
# Running programs side by side

A program is run on all ways through the text at once.  The ways are threads in
the order of their priority; at each place, a thread that reaches an instruction
after another one has been there is dropped, since the earlier one goes on in
the same way with a higher priority.  A thread that accepts ends all threads of
a lower priority.  The text is read once.
-/

namespace NamedGroups.Engine

/-- The places that a match has noted, by register: registers `2 * n` and
`2 * n + 1` hold the start and the end of group `n`. -/
abbrev Registers := List (Option Nat)

/-- A way through a program, stopped at an instruction that takes a character or
accepts. -/
structure Thread where
  address : Nat
  registers : Registers

namespace Simulation

/-- The threads at a place: the latest first, with the addresses that have been
visited as the bits of a number. -/
structure Crowd where
  visited : Nat
  threads : List Thread

def Crowd.empty : Crowd := ⟨0, []⟩

/-- The place between two neighbouring characters. -/
structure Place where
  previous : Option Char
  following : Option Char
  offset : Nat

/-- Runs the waiting threads up to an instruction that takes a character or
accepts. -/
def settle (program : Array Instruction) (place : Place) :
    Nat → List Thread → Crowd → Crowd
  | 0, _, crowd => crowd
  | _ + 1, [], crowd => crowd
  | fuel + 1, thread :: waiting, crowd =>
      if crowd.visited.testBit thread.address then
        settle program place fuel waiting crowd
      else
        let visited := crowd.visited ||| 1 <<< thread.address
        let address := thread.address + 1
        match program[thread.address]? with
        | some (.split preferred other) =>
            settle program place fuel (⟨preferred, thread.registers⟩ ::
              ⟨other, thread.registers⟩ :: waiting) { crowd with visited }
        | some (.jump target) =>
            settle program place fuel (⟨target, thread.registers⟩ :: waiting)
              { crowd with visited }
        | some (.save register) =>
            settle program place fuel
              (⟨address, thread.registers.set register (some place.offset)⟩ ::
                waiting)
              { crowd with visited }
        | some (.assertion condition) =>
            settle program place fuel
              (if condition.holds place.previous place.following then
                ⟨address, thread.registers⟩ :: waiting
              else waiting)
              { crowd with visited }
        | some (.consume _) =>
            settle program place fuel waiting ⟨visited, thread :: crowd.threads⟩
        | some .accept =>
            settle program place fuel waiting ⟨visited, thread :: crowd.threads⟩
        | none => settle program place fuel waiting { crowd with visited }

def Crowd.add (crowd : Crowd) (program : Array Instruction) (place : Place)
    (thread : Thread) : Crowd :=
  settle program place (2 * program.size + 2) [thread] crowd

/-- Lets each thread take a character, until one accepts. -/
def step (program : Array Instruction) (character : Char) (place : Place) :
    List Thread → Crowd → Crowd
  | [], crowd => crowd
  | thread :: threads, crowd =>
      match program[thread.address]? with
      | some (.consume set) =>
          step program character place threads
            (if set.mem character then
              crowd.add program place ⟨thread.address + 1, thread.registers⟩
            else crowd)
      | some .accept => crowd
      | _ => step program character place threads crowd

def accepted (program : Array Instruction) (threads : List Thread) :
    Option Registers :=
  (threads.find? fun thread => program[thread.address]? == some .accept).map
    (·.registers)

/-- The threads at a place in the order of their priority, and the best match so
far.  `seeking` tells whether a match may start here. -/
def arrive (program : Array Instruction) (start : Thread) (seeking : Bool)
    (place : Place) (crowd : Crowd) (best : Option Registers) :
    List Thread × Option Registers :=
  let crowd :=
    if seeking && best.isNone then crowd.add program place start else crowd
  let threads := crowd.threads.reverse
  (threads, (accepted program threads).or best)

def scan (program : Array Instruction) (start : Thread)
    (anchored seeking : Bool) (previous : Option Char) (offset : Nat)
    (crowd : Crowd) (best : Option Registers) : Text → Option Registers
  | [] => (arrive program start seeking ⟨previous, none, offset⟩ crowd best).2
  | character :: rest =>
      let (threads, best) :=
        arrive program start seeking ⟨previous, some character, offset⟩ crowd
          best
      if threads.isEmpty && (anchored || best.isSome) then best
      else
        let next := offset + character.utf8Size
        let crowd :=
          step program character ⟨some character, rest.head?, next⟩ threads
            .empty
        scan program start anchored (!anchored) (some character) next crowd best
          rest

/-- The first match at the cursor or, unless it has to start there, behind
it. -/
def run (program : Array Instruction) (registers : Nat) (anchored : Bool)
    (cursor : Cursor) : Option Registers :=
  scan program ⟨0, List.replicate registers none⟩ anchored true
    cursor.before.head? cursor.offset .empty none cursor.after

end Simulation

end NamedGroups.Engine
