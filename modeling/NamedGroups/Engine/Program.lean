import NamedGroups.Engine.Shape

/-!
# Programs for expressions without hard parts

Such an expression becomes a list of instructions with absolute targets.  A
split names two places to go on, the preferred one first, and so records the
priorities of alternatives and of greedy and lazy repetitions.  The body of a
repetition that may run any number of times is entered through a split of its
own, and repeated by a second split behind it, so that an iteration without
progress ends the repetition at its own priority.
-/

namespace NamedGroups.Engine

/-- An instruction of a program. -/
inductive Instruction where
  | consume (set : CharSet)
  | split (preferred other : Nat)
  | jump (target : Nat)
  | save (register : Nat)
  | assertion (condition : Assertion)
  | accept
deriving DecidableEq

namespace Program

def enterOrLeave (greedy : Bool) (body exit : Nat) : Instruction :=
  if greedy then .split body exit else .split exit body

def copies (body : Nat → List Instruction) : Nat → Nat → List Instruction
  | 0, _ => []
  | count + 1, base =>
      let first := body base
      first ++ copies body count (base + first.length)

/-- The body, at most the given number of times: each entry may leave for the
common exit. -/
def atMost (body : Nat → List Instruction) (greedy : Bool) (exit : Nat) :
    Nat → Nat → List Instruction
  | 0, _ => []
  | count + 1, base =>
      let first := body (base + 1)
      enterOrLeave greedy (base + 1) exit :: first ++
        atMost body greedy exit count (base + 1 + first.length)

def oneOrMore (body : Nat → List Instruction) (greedy : Bool) (base : Nat) :
    List Instruction :=
  let code := body base
  let next := base + code.length
  code ++ [enterOrLeave greedy base (next + 1)]

def anyNumber (body : Nat → List Instruction) (greedy : Bool) (base : Nat) :
    List Instruction :=
  let code := oneOrMore body greedy (base + 1)
  enterOrLeave greedy (base + 1) (base + 1 + code.length) :: code

def repeated (body : Nat → List Instruction) (least : Nat) (most : Option Nat)
    (greedy : Bool) (base : Nat) : List Instruction :=
  match most, least with
  | none, 0 => anyNumber body greedy base
  | none, count + 1 =>
      let first := copies body count base
      first ++ oneOrMore body greedy (base + first.length)
  | some most, least =>
      let first := copies body least base
      let start := base + first.length
      let exit := start + (most - least) * (1 + (body 0).length)
      first ++ atMost body greedy exit (most - least) start

mutual

/-- The instructions of an expression from the address `base` on.  Hard parts
have none. -/
def code (base : Nat) : Expr → List Instruction
  | .empty => []
  | .literal character => [.consume (.single character)]
  | .charSet set => [.consume set]
  | .assertion condition => [.assertion condition]
  | .concat parts => codeAll base parts
  | .alternation alternatives => codeFirst base alternatives
  | .group number body =>
      .save (2 * number) :: code (base + 1) body ++ [.save (2 * number + 1)]
  | .repetition body least most greedy =>
      repeated (fun start => code start body) least most greedy base
  | .look .. => []
  | .backreference _ => []
  | .groupTest _ => []
  | .atomic _ => []
  | .conditional .. => []

def codeAll (base : Nat) : List Expr → List Instruction
  | [] => []
  | part :: parts =>
      let first := code base part
      first ++ codeAll (base + first.length) parts

def codeFirst (base : Nat) : List Expr → List Instruction
  | [] => []
  | [alternative] => code base alternative
  | alternative :: next :: alternatives =>
      let first := code (base + 1) alternative
      let otherBase := base + 1 + first.length + 1
      let others := codeFirst otherBase (next :: alternatives)
      .split (base + 1) otherBase :: first ++
        .jump (otherBase + others.length) :: others

end

mutual

def size : Expr → Nat
  | .literal _ => 1
  | .charSet _ => 1
  | .assertion _ => 1
  | .concat parts => sizeAll parts
  | .alternation alternatives => sizeAll alternatives + 2 * alternatives.length
  | .group _ body => size body + 2
  | .repetition body least most _ =>
      (size body + 2) * (max least (most.getD least) + 1)
  | _ => 0

def sizeAll : List Expr → Nat
  | [] => 0
  | part :: parts => size part + sizeAll parts

end

def maxCount : Nat := 4294967295

mutual

/-- Whether every repetition asks for no more than it allows. -/
def hasValidCounts : Expr → Bool
  | .concat parts => haveValidCounts parts
  | .alternation alternatives => haveValidCounts alternatives
  | .group _ body => hasValidCounts body
  | .repetition body least most _ =>
      hasValidCounts body && least ≤
        maxCount && most.all fun most => least ≤ most ∧ most ≤ maxCount
  | _ => true

def haveValidCounts : List Expr → Bool
  | [] => true
  | part :: parts => hasValidCounts part && haveValidCounts parts

end

def maxSize : Nat := 327680

/-- The program for an expression without hard parts: the expression as group
zero. -/
def ofExpr (expression : Expr) : Except SyntaxError (Array Instruction) :=
  if !hasValidCounts expression then .error .badRepetition
  else if size expression > maxSize then .error .tooLarge
  else .ok (code 0 (.group 0 expression) ++ [Instruction.accept]).toArray

end Program

end NamedGroups.Engine
