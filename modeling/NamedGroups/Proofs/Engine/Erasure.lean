import Mathlib.Data.List.Forall2
import NamedGroups.Proofs.Engine.Settling

/-!
# Programs without the registers of capture groups

What a program finds does not depend on the registers of its capture groups.
Taking their instructions out of a program moves the others to the front;
threads of the two programs go the same way, and note the same start and end of
the whole match.

The one thing that needs care is the set of visited addresses, for the
instructions that are taken out have addresses of their own.  A thread that
comes upon such an instruction goes on to the next one before any other thread
moves, so an address of this kind is visited only if the address that it leads
to is, or is about to be.
-/

namespace NamedGroups.Engine

namespace Instruction

/-- Whether an instruction notes the start or the end of a capture group. -/
def isInner : Instruction → Bool
  | save register => 2 ≤ register
  | _ => false

def relocate (landing : Nat → Nat) : Instruction → Instruction
  | split preferred other => split (landing preferred) (landing other)
  | jump target => jump (landing target)
  | instruction => instruction

end Instruction

def InnerAt (program : Array Instruction) (address : Nat) : Prop :=
  ∃ register, program[address]? = some (.save register) ∧ 2 ≤ register

/-- One program is another without the instructions for capture groups.
`landing` leads from the addresses of the one to those of the other. -/
structure Erases (program other : Array Instruction) (landing : Nat → Nat) :
    Prop where
  start : landing 0 = 0
  inner :
    ∀ address, InnerAt program address → landing (address + 1) = landing address
  kept : ∀ address,
    ¬ InnerAt program address → landing (address + 1) = landing address + 1
  instruction : ∀ address, ¬ InnerAt program address →
    other[landing address]? = (program[address]?).map (·.relocate landing)

namespace Erases

variable {program other : Array Instruction} {landing : Nat → Nat}

private theorem landing_mono (erases : Erases program other landing)
    {first second : Nat} (before : first ≤ second) :
    landing first ≤ landing second := by
  induction before with
  | refl => exact Nat.le_refl _
  | @step between _ induction =>
      by_cases inner : InnerAt program between
      · rw [erases.inner between inner]
        exact induction
      · rw [erases.kept between inner]
        omega

private theorem landing_lt (erases : Erases program other landing)
    {first second : Nat} (kept : ¬ InnerAt program first)
    (before : first < second) : landing first < landing second := by
  have passed := erases.landing_mono before
  rw [Nat.succ_eq_add_one, erases.kept first kept] at passed
  omega

theorem landing_eq_iff (erases : Erases program other landing)
    {first second : Nat} (firstKept : ¬ InnerAt program first)
    (secondKept : ¬ InnerAt program second) :
    landing first = landing second ↔ first = second := by
  refine ⟨fun equal => ?_, congrArg landing⟩
  rcases Nat.lt_trichotomy first second with before | same | behind
  · have := erases.landing_lt firstKept before
    omega
  · exact same
  · have := erases.landing_lt secondKept behind
    omega

end Erases

namespace Simulation

/-- Registers that agree on the start and the end of the whole match. -/
def SameSpan (registers others : Registers) : Prop :=
  registers[0]? = others[0]? ∧ registers[1]? = others[1]?

theorem SameSpan.set {registers others : Registers}
    (same : SameSpan registers others) (register : Nat) (value : Option Nat) :
    SameSpan (registers.set register value) (others.set register value) := by
  constructor
  · rw [List.getElem?_set', List.getElem?_set', same.1]
  · rw [List.getElem?_set', List.getElem?_set', same.2]

theorem SameSpan.set_inner {registers others : Registers}
    (same : SameSpan registers others) {register : Nat} (inner : 2 ≤ register)
    (value : Option Nat) : SameSpan (registers.set register value) others := by
  constructor
  · rw [List.getElem?_set_ne (by omega)]
    exact same.1
  · rw [List.getElem?_set_ne (by omega)]
    exact same.2

/-- Threads of two programs at the same place of both. -/
structure Follows (landing : Nat → Nat) (thread other : Thread) : Prop where
  address : other.address = landing thread.address
  registers : SameSpan thread.registers other.registers

/-- Threads of two programs that rest at the same places of both. -/
abbrev Resting (program : Array Instruction) (landing : Nat → Nat)
    (threads others : List Thread) : Prop :=
  List.Forall₂
    (fun thread other =>
      ¬ InnerAt program thread.address ∧ Follows landing thread other)
    threads others

/-- What two crowds have in common while threads are waiting, the next of them
at the address `next`. -/
structure InStep (program : Array Instruction) (landing : Nat → Nat)
    (next : Option Nat) (crowd other : Crowd) : Prop where
  threads : Resting program landing crowd.threads other.threads
  kept : ∀ address, ¬ InnerAt program address →
    other.visited.testBit (landing address) = crowd.visited.testBit address
  inner : ∀ address, InnerAt program address →
    crowd.visited.testBit address = true →
    other.visited.testBit (landing address) = true ∨
      ∃ head ∈ next, address < head ∧ landing address = landing head

section

variable {program other : Array Instruction} {landing : Nat → Nat}
  {crowd otherCrowd : Crowd} {thread otherThread : Thread}

theorem InStep.empty (program : Array Instruction) (landing : Nat → Nat) :
    InStep program landing none .empty .empty where
  threads := .nil
  kept address _ := by simp [Crowd.empty]
  inner address _ visited := by simp [Crowd.empty] at visited

theorem InStep.weaken (inStep : InStep program landing none crowd otherCrowd)
    (next : Option Nat) : InStep program landing next crowd otherCrowd where
  threads := inStep.threads
  kept := inStep.kept
  inner address inner visited := by
    refine .inl ?_
    simpa using inStep.inner address inner visited

/-- Where the next thread is another one has been: so it has in the other
program. -/
theorem InStep.reached {next : Nat}
    (inStep : InStep program landing (some next) crowd otherCrowd)
    (visited : crowd.visited.testBit next = true) :
    otherCrowd.visited.testBit (landing next) = true := by
  by_cases inner : InnerAt program next
  · obtain reached | ⟨head, isNext, before, -⟩ :=
      inStep.inner next inner visited
    · exact reached
    · rw [Option.mem_some] at isNext
      omega
  · rw [inStep.kept next inner, visited]

theorem InStep.settled {next : Nat}
    (inStep : InStep program landing (some next) crowd otherCrowd)
    (visited : otherCrowd.visited.testBit (landing next) = true) :
    InStep program landing none crowd otherCrowd where
  threads := inStep.threads
  kept := inStep.kept
  inner address inner isVisited := by
    obtain reached | ⟨head, isNext, -, same⟩ :=
      inStep.inner address inner isVisited
    · exact .inl reached
    · rw [Option.mem_some] at isNext
      subst isNext
      rw [same]
      exact .inl visited

theorem successors_inner (erases : Erases program other landing)
    (inner : InnerAt program thread.address)
    (follows : Follows landing thread otherThread) (place : Place) :
    ∃ next, successors program place thread = [next] ∧
      next.address = thread.address + 1 ∧ Follows landing next otherThread := by
  obtain ⟨register, found, isInner⟩ := inner
  refine ⟨⟨thread.address + 1,
    thread.registers.set register (some place.offset)⟩,
    by simp only [successors, found], rfl, ?_, ?_⟩
  · rw [erases.inner _ ⟨register, found, isInner⟩]
    exact follows.address
  · exact follows.registers.set_inner isInner _

private theorem rests_inner (inner : InnerAt program thread.address) :
    rests program thread = false := by
  obtain ⟨register, found, -⟩ := inner
  simp [rests, found]

private theorem rests_kept (erases : Erases program other landing)
    (kept : ¬ InnerAt program thread.address)
    (follows : Follows landing thread otherThread) :
    rests other otherThread = rests program thread := by
  rw [rests, rests, follows.address, erases.instruction _ kept]
  rcases program[thread.address]? with _ | instruction
  · rfl
  · cases instruction <;> rfl

private theorem successors_kept (erases : Erases program other landing)
    (kept : ¬ InnerAt program thread.address)
    (follows : Follows landing thread otherThread) (place : Place) :
    List.Forall₂ (Follows landing) (successors program place thread)
      (successors other place otherThread) := by
  have next : otherThread.address + 1 = landing (thread.address + 1) := by
    rw [erases.kept _ kept, follows.address]
  have same := follows.registers
  rw [successors, successors, next, follows.address, erases.instruction _ kept]
  rcases program[thread.address]? with _ | instruction
  · exact .nil
  · cases instruction with
    | consume set => exact .nil
    | split preferred other => exact .cons ⟨rfl, same⟩ (.cons ⟨rfl, same⟩ .nil)
    | jump target => exact .cons ⟨rfl, same⟩ .nil
    | save register => exact .cons ⟨rfl, same.set _ _⟩ .nil
    | assertion condition =>
        simp only [Option.map_some, Instruction.relocate]
        split
        · exact .cons ⟨rfl, same⟩ .nil
        · exact .nil
    | accept => exact .nil

theorem InStep.visit_inner (erases : Erases program other landing)
    (inner : InnerAt program thread.address)
    (inStep : InStep program landing (some thread.address) crowd otherCrowd) :
    InStep program landing (some (thread.address + 1))
      (crowd.visit program thread) otherCrowd where
  threads := by
    simpa [Crowd.visit, rests_inner inner] using inStep.threads
  kept address kept := by
    have apart : thread.address ≠ address := by
      rintro rfl
      exact kept inner
    rw [inStep.kept address kept, testBit_visit, decide_eq_false apart,
      Bool.or_false]
  inner address isInner visited := by
    have further := erases.inner _ inner
    rw [testBit_visit, Bool.or_eq_true, decide_eq_true_eq] at visited
    obtain before | rfl := visited
    · obtain reached | ⟨head, isNext, behind, same⟩ :=
        inStep.inner address isInner before
      · exact .inl reached
      · rw [Option.mem_some] at isNext
        subst isNext
        exact .inr ⟨_, rfl, by omega, by rw [same, further]⟩
    · exact .inr ⟨_, rfl, by omega, further.symm⟩

theorem InStep.visit_kept (erases : Erases program other landing)
    (kept : ¬ InnerAt program thread.address)
    (follows : Follows landing thread otherThread)
    (inStep : InStep program landing (some thread.address) crowd otherCrowd) :
    InStep program landing none (crowd.visit program thread)
      (otherCrowd.visit other otherThread) where
  threads := by
    rw [Crowd.visit, Crowd.visit, rests_kept erases kept follows]
    split
    · exact .cons ⟨kept, follows⟩ inStep.threads
    · exact inStep.threads
  kept address isKept := by
    rw [testBit_visit, testBit_visit, inStep.kept address isKept,
      follows.address]
    simp only [erases.landing_eq_iff kept isKept]
  inner address isInner visited := by
    have apart : thread.address ≠ address := by
      rintro rfl
      exact kept isInner
    rw [testBit_visit, decide_eq_false apart, Bool.or_false] at visited
    rw [testBit_visit, follows.address, Bool.or_eq_true, decide_eq_true_eq]
    obtain reached | ⟨head, isNext, -, same⟩ :=
      inStep.inner address isInner visited
    · exact .inl (.inl reached)
    · rw [Option.mem_some] at isNext
      subst isNext
      exact .inl (.inr same.symm)

/-- Settling the same threads keeps two crowds together. -/
theorem settle_inStep (erases : Erases program other landing) (place : Place)
    {fuel otherFuel : Nat} {waiting otherWaiting : List Thread}
    (following : List.Forall₂ (Follows landing) waiting otherWaiting)
    (inStep :
      InStep program landing (waiting.head?.map (·.address)) crowd otherCrowd)
    (enough : 2 * unvisited program crowd + waiting.length ≤ fuel)
    (otherEnough :
      2 * unvisited other otherCrowd + otherWaiting.length ≤ otherFuel) :
    InStep program landing none (settle program place fuel waiting crowd)
      (settle other place otherFuel otherWaiting otherCrowd) := by
  induction fuel
    generalizing otherFuel waiting otherWaiting crowd otherCrowd with
  | zero =>
      have nothing : waiting = [] := List.length_eq_zero_iff.mp (by omega)
      subst nothing
      cases following
      simpa [settle_nil] using inStep
  | succ fuel induction =>
      cases following with
      | nil => simpa [settle_nil] using inStep
      | @cons thread otherThread waiting otherWaiting follows following =>
          simp only [List.head?_cons, Option.map_some, List.length_cons]
            at inStep enough
          rw [List.length_cons] at otherEnough
          obtain ⟨otherFuel, rfl⟩ : ∃ less, otherFuel = less + 1 :=
            ⟨otherFuel - 1, by omega⟩
          rw [settle_cons]
          cases visited : crowd.visited.testBit thread.address with
          | true =>
              have reached := inStep.reached visited
              rw [if_pos rfl, settle_cons, follows.address, if_pos reached]
              exact induction following ((inStep.settled reached).weaken _)
                (by omega) (by omega)
          | false =>
              have less := unvisited_visit program place visited
              rw [if_neg Bool.false_ne_true]
              by_cases inner : InnerAt program thread.address
              · obtain ⟨next, successor, address, followsNext⟩ :=
                  successors_inner erases inner follows place
                rw [successor, List.length_singleton] at less
                rw [successor]
                refine induction (.cons followsNext following) ?_ ?_ ?_
                · simpa [address] using inStep.visit_inner erases inner
                · simp only [List.singleton_append, List.length_cons]
                  omega
                · simpa using otherEnough
              · have otherVisited :
                    otherCrowd.visited.testBit otherThread.address = false := by
                  rw [follows.address, inStep.kept _ inner, visited]
                have otherLess := unvisited_visit other place otherVisited
                rw [settle_cons, if_neg (by simp [otherVisited])]
                refine induction (List.rel_append
                  (successors_kept erases inner follows place) following)
                  ((inStep.visit_kept erases inner follows).weaken _) ?_ ?_
                · rw [List.length_append]
                  omega
                · rw [List.length_append]
                  omega

theorem add_inStep (erases : Erases program other landing) (place : Place)
    (inStep : InStep program landing none crowd otherCrowd)
    (follows : Follows landing thread otherThread) :
    InStep program landing none (crowd.add program place thread)
      (otherCrowd.add other place otherThread) := by
  have bound := unvisited_le program crowd
  have otherBound := unvisited_le other otherCrowd
  apply settle_inStep erases place (.cons follows .nil) (inStep.weaken _)
  · rw [List.length_singleton]
    omega
  · rw [List.length_singleton]
    omega

variable {threads otherThreads : List Thread}

theorem isEmpty_resting
    (resting : Resting program landing threads otherThreads) :
    threads.isEmpty = otherThreads.isEmpty := by
  cases resting <;> rfl

theorem step_inStep (erases : Erases program other landing) (character : Char)
    (place : Place) (resting : Resting program landing threads otherThreads)
    (inStep : InStep program landing none crowd otherCrowd) :
    InStep program landing none (step program character place threads crowd)
      (step other character place otherThreads otherCrowd) := by
  induction resting generalizing crowd otherCrowd with
  | nil => exact inStep
  | @cons thread otherThread _ _ here _ induction =>
      obtain ⟨kept, follows⟩ := here
      rw [step, step, follows.address, erases.instruction _ kept]
      rcases program[thread.address]? with _ | instruction
      · exact induction inStep
      · cases instruction with
        | consume set =>
            refine induction ?_
            split
            · refine add_inStep erases place inStep ⟨?_, follows.registers⟩
              rw [erases.kept _ kept]
            · exact inStep
        | accept => exact inStep
        | _ => exact induction inStep

private theorem accepted_sameSpan (erases : Erases program other landing)
    (resting : Resting program landing threads otherThreads) :
    Option.Rel SameSpan (accepted program threads)
      (accepted other otherThreads) := by
  induction resting with
  | nil => exact .none
  | @cons thread otherThread threads otherThreads here _ induction =>
      obtain ⟨kept, follows⟩ := here
      have same : (other[otherThread.address]? == some .accept) =
          (program[thread.address]? == some .accept) := by
        rw [follows.address, erases.instruction _ kept]
        rcases program[thread.address]? with _ | instruction
        · rfl
        · cases instruction <;> rfl
      unfold accepted at induction ⊢
      rw [List.find?_cons, List.find?_cons, same]
      split
      · exact .some follows.registers
      · exact induction

theorem isSome_same {best otherBest : Option Registers}
    (same : Option.Rel SameSpan best otherBest) :
    best.isSome = otherBest.isSome := by
  cases same <;> rfl

private theorem or_sameSpan
    {first second otherFirst otherSecond : Option Registers}
    (firstSame : Option.Rel SameSpan first otherFirst)
    (secondSame : Option.Rel SameSpan second otherSecond) :
    Option.Rel SameSpan (first.or second) (otherFirst.or otherSecond) := by
  cases firstSame with
  | some same => exact .some same
  | none => exact secondSame

private theorem arrive_sameSpan (erases : Erases program other landing)
    {start otherStart : Thread} (begins : Follows landing start otherStart)
    (seeking : Bool) (place : Place)
    (inStep : InStep program landing none crowd otherCrowd)
    {best otherBest : Option Registers}
    (same : Option.Rel SameSpan best otherBest) :
    Resting program landing (arrive program start seeking place crowd best).1
        (arrive other otherStart seeking place otherCrowd otherBest).1 ∧
      Option.Rel SameSpan (arrive program start seeking place crowd best).2
        (arrive other otherStart seeking place otherCrowd otherBest).2 := by
  have found : best.isNone = otherBest.isNone := by
    rw [← Option.not_isSome, ← Option.not_isSome, isSome_same same]
  have joined : InStep program landing none
      (if seeking && best.isNone then crowd.add program place start else crowd)
      (if seeking && otherBest.isNone then otherCrowd.add other place otherStart
        else otherCrowd) := by
    rw [found]
    split
    · exact add_inStep erases place inStep begins
    · exact inStep
  have resting := List.rel_reverse joined.threads
  exact ⟨resting, or_sameSpan (accepted_sameSpan erases resting) same⟩

/-- Both programs find the same match, as far as its start and its end go. -/
theorem scan_sameSpan (erases : Erases program other landing)
    {start otherStart : Thread} (begins : Follows landing start otherStart)
    (anchored seeking : Bool) (previous : Option Char) (offset : Nat)
    (inStep : InStep program landing none crowd otherCrowd)
    {best otherBest : Option Registers}
    (same : Option.Rel SameSpan best otherBest) (text : Text) :
    Option.Rel SameSpan
      (scan program start anchored seeking previous offset crowd best text)
      (scan other otherStart anchored seeking previous offset otherCrowd
        otherBest text) := by
  induction text
    generalizing seeking previous offset crowd otherCrowd best otherBest with
  | nil => exact (arrive_sameSpan erases begins seeking _ inStep same).2
  | cons character rest induction =>
      obtain ⟨resting, reached⟩ := arrive_sameSpan erases begins seeking
        ⟨previous, some character, offset⟩ inStep same
      have stopped := isEmpty_resting resting
      have found := isSome_same reached
      rw [scan, scan]
      dsimp only
      rw [stopped, found]
      split
      · exact reached
      · exact induction _ _ _
          (step_inStep erases character _ resting (.empty program landing))
          reached

/-- Programs that differ in the instructions for capture groups find matches
with the same start and end. -/
theorem run_sameSpan (erases : Erases program other landing)
    {registers otherRegisters : Nat} (spans : 2 ≤ registers)
    (otherSpans : 2 ≤ otherRegisters) (anchored : Bool) (cursor : Cursor) :
    Option.Rel SameSpan (run program registers anchored cursor)
      (run other otherRegisters anchored cursor) := by
  have begins : Follows landing ⟨0, List.replicate registers none⟩
      ⟨0, List.replicate otherRegisters none⟩ := by
    refine ⟨erases.start.symm, ?_, ?_⟩
    · rw [List.getElem?_replicate_of_lt (by omega),
        List.getElem?_replicate_of_lt (by omega)]
    · rw [List.getElem?_replicate_of_lt (by omega),
        List.getElem?_replicate_of_lt (by omega)]
  exact scan_sameSpan erases begins anchored true _ _ (.empty program landing)
    .none _

end

end Simulation

end NamedGroups.Engine
