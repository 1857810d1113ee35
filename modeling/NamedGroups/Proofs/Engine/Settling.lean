import Mathlib.Data.Finset.Card
import NamedGroups.Engine.Simulation

/-!
# Settling threads

At a place between two characters, waiting threads go on until they rest at an
instruction that takes a character or accepts.  One thread is handled at a time:
it is dropped where another has been, and otherwise replaced by its successors.
Each instruction is left at most once and for at most two others, so the fuel of
a settling is never used up.
-/

namespace NamedGroups.Engine.Simulation

/-- The threads that a thread goes on as at the same place. -/
def successors (program : Array Instruction) (place : Place) (thread : Thread) :
    List Thread :=
  match program[thread.address]? with
  | some (.split preferred other) =>
      [⟨preferred, thread.registers⟩, ⟨other, thread.registers⟩]
  | some (.jump target) => [⟨target, thread.registers⟩]
  | some (.save register) =>
      [⟨thread.address + 1, thread.registers.set register (some place.offset)⟩]
  | some (.assertion condition) =>
      if condition.holds place.previous place.following then
        [⟨thread.address + 1, thread.registers⟩]
      else []
  | _ => []

/-- Whether a thread waits for the next character or accepts. -/
def rests (program : Array Instruction) (thread : Thread) : Bool :=
  match program[thread.address]? with
  | some (.consume _) => true
  | some .accept => true
  | _ => false

/-- The crowd after a thread has been where no other has. -/
def Crowd.visit (crowd : Crowd) (program : Array Instruction)
    (thread : Thread) : Crowd :=
  ⟨crowd.visited ||| 1 <<< thread.address,
    if rests program thread then thread :: crowd.threads else crowd.threads⟩

theorem settle_nil (program : Array Instruction) (place : Place) (fuel : Nat)
    (crowd : Crowd) : settle program place fuel [] crowd = crowd := by
  cases fuel <;> rfl

/-- A thread is dropped where another has been, and goes on elsewhere. -/
theorem settle_cons (program : Array Instruction) (place : Place) (fuel : Nat)
    (thread : Thread) (waiting : List Thread) (crowd : Crowd) :
    settle program place (fuel + 1) (thread :: waiting) crowd =
      if crowd.visited.testBit thread.address then
        settle program place fuel waiting crowd
      else
        settle program place fuel (successors program place thread ++ waiting)
          (crowd.visit program thread) := by
  rw [settle]
  split
  · rfl
  · unfold successors Crowd.visit rests
    rcases program[thread.address]? with _ | instruction
    · rfl
    · cases instruction with
      | assertion condition =>
          dsimp only
          split <;> rfl
      | _ => rfl

@[simp] theorem testBit_visit (crowd : Crowd) (program : Array Instruction)
    (thread : Thread) (address : Nat) :
    (crowd.visit program thread).visited.testBit address =
      (crowd.visited.testBit address || decide (thread.address = address)) := by
  simp [Crowd.visit, Nat.one_shiftLeft, Nat.testBit_two_pow]

/-! ### The fuel is enough -/

/-- The number of instructions that no thread has been at. -/
def unvisited (program : Array Instruction) (crowd : Crowd) : Nat :=
  ((Finset.range program.size).filter fun address =>
    crowd.visited.testBit address = false).card

theorem unvisited_le (program : Array Instruction) (crowd : Crowd) :
    unvisited program crowd ≤ program.size := by
  simpa [unvisited] using Finset.card_filter_le (Finset.range program.size)
    (fun address => crowd.visited.testBit address = false)

private theorem length_successors_le (program : Array Instruction)
    (place : Place) (thread : Thread) :
    (successors program place thread).length ≤ 2 := by
  unfold successors
  split
  · simp
  · simp
  · simp
  · split <;> simp
  · simp

/-- Each thread that goes on takes an instruction away, for at most two new
ones. -/
theorem unvisited_visit (program : Array Instruction) (place : Place)
    {crowd : Crowd} {thread : Thread}
    (new : crowd.visited.testBit thread.address = false) :
    2 * unvisited program (crowd.visit program thread) +
        (successors program place thread).length ≤
      2 * unvisited program crowd := by
  have among : ∀ address,
      (crowd.visit program thread).visited.testBit address = false →
        crowd.visited.testBit address = false := by
    intro address notYet
    rw [testBit_visit, Bool.or_eq_false_iff] at notYet
    exact notYet.1
  by_cases inside : thread.address < program.size
  · have fewer :
        unvisited program (crowd.visit program thread) <
          unvisited program crowd := by
      apply Finset.card_lt_card
      rw [Finset.ssubset_iff_of_subset
        (Finset.monotone_filter_right _ fun address _ => among address)]
      exact ⟨thread.address, by simp [inside, new], by simp⟩
    have := length_successors_le program place thread
    omega
  · have none : successors program place thread = [] := by
      simp [successors, Array.getElem?_eq_none (Nat.le_of_not_lt inside)]
    have fewer :
        unvisited program (crowd.visit program thread) ≤
          unvisited program crowd :=
      Finset.card_le_card (Finset.monotone_filter_right _ fun address _ =>
        among address)
    rw [none, List.length_nil]
    omega

end NamedGroups.Engine.Simulation
