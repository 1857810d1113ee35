import NamedGroups.Engine.Simulation

/-!
# Machines for expressions with hard parts

Hard parts need a machine that goes back to its last choice when it fails.  Its
parts are nodes.  Stretches without hard parts are delegated to programs, each
of which gives its first match and is not asked for another.  A stretch is
delegated where no other match of it could matter: at the start and the end of a
row if its size is fixed, and at the end of a body that is not looked into
again, whatever its size.

Repetitions without an upper count whose body may match the empty text keep a
count and a mark.  An iteration that starts where the marked one started fails.
-/

namespace NamedGroups.Engine

/-- A part of a machine. -/
inductive Node where
  /-- A given text. -/
  | text (characters : Text)
  /-- One character of a set. -/
  | consume (set : CharSet)
  | assertion (condition : Assertion)
  /-- A program that captures the given groups. -/
  | delegate (program : Array Instruction) (registers : Nat) (groups : List Nat)
  | sequence (parts : List Node)
  | choice (alternatives : List Node)
  | capture (number : Nat) (body : Node)
  | optional (greedy : Bool) (body : Node)
  /-- The body any number of times, where the body always takes a character. -/
  | loop (greedy : Bool) (body : Node)
  /-- The body between two counts, kept in a register. -/
  | counted (greedy : Bool) (least most counter : Nat) (body : Node)
  /-- The body any number of times from a count on, where the body may match the
  empty text. -/
  | marked (greedy : Bool) (least counter mark : Nat) (body : Node)
  /-- A look at the text that starts the given number of characters back. -/
  | look (distance : Nat) (negated : Bool) (body : Node)
  | backreference (number : Nat)
  | groupTest (number : Nat)
  | atomic (body : Node)
  | conditional (condition accepted rejected : Node)

namespace Node

/-- A step of the construction: it hands out registers and may fail. -/
abbrev Builder := StateT Nat (Except SyntaxError)

def newRegister : Builder Nat := do
  let register ← get
  set (register + 1)
  return register

def literals? : List Expr → Option Text
  | [] => some []
  | .literal character :: parts => (literals? parts).map (character :: ·)
  | _ => none

/-- The node of a row of expressions without hard parts. -/
def delegated (parts : List Expr) : Except SyntaxError Node :=
  match literals? parts, parts with
  | some characters, _ => .ok (.text characters)
  | none, [.charSet set] => .ok (.consume set)
  | none, parts => do
      let expression := Expr.concat parts
      let groups := expression.groups
      let highest := groups.foldl max 0
      return .delegate (← Program.ofExpr expression) (2 * (highest + 1)) groups

def delegatedRow (parts : List Expr) : Builder (List Node) :=
  if parts.isEmpty then return [] else return [← delegated parts]

/-- The nodes of a look with a fixed distance. -/
def lookNode (behind negated : Bool) (body : Expr) (node : Node) :
    Except SyntaxError Node :=
  if !behind then .ok (.look 0 negated node)
  else if body.isFixedSize then .ok (.look body.minSize negated node)
  else .error .lookbehindLength

def lookNodes (negated : Bool) :
    List Expr → List Node → Except SyntaxError (List Node)
  | body :: bodies, node :: nodes => do
      return (← lookNode true negated body node) ::
        (← lookNodes negated bodies nodes)
  | _, _ => .ok []

def repeated (body : Expr) (least : Nat) (most : Option Nat) (greedy : Bool)
    (node : Node) : Builder Node := do
  match least, most with
  | 0, some 1 => return .optional greedy node
  | least, none =>
      if body.minSize = 0 then
        return .marked greedy least (← newRegister) (← newRegister) node
      else
        match least with
        | 0 => return .loop greedy node
        | 1 => return .sequence [node, .loop greedy node]
        | least =>
            let counter ← newRegister
            return .sequence
              [.counted greedy least least counter node, .loop greedy node]
  | least, some most => return .counted greedy least most (← newRegister) node

mutual

/-- The node of an expression.  `inside` tells whether the machine may come back
into it for another match. -/
def ofExpr (references : List Nat) (inside : Bool) (expression : Expr) :
    Builder Node :=
  if !inside && !expression.isHard references then delegated [expression]
  else
    match expression with
    | .empty => return .sequence []
    | .literal character => return .text [character]
    | .charSet set => return .consume set
    | .assertion condition => return .assertion condition
    | .concat parts => do
        let canLead :=
          fun part : Expr => part.isFixedSize && !part.isHard references
        let canTrail := fun part : Expr =>
          (part.isFixedSize || !inside) && !part.isHard references
        let lead := (parts.takeWhile canLead).length
        let trail := ((parts.drop lead).reverse.takeWhile canTrail).length
        let middle := parts.length - lead - trail
        let first ← delegatedRow (parts.take lead)
        let between ← ofSlice references lead middle parts
        let last ← delegatedRow (parts.drop (lead + middle))
        return .sequence (first ++ between ++ last)
    | .alternation alternatives =>
        return .choice (← ofEach references inside alternatives)
    | .group number body =>
        return .capture number (← ofExpr references inside body)
    | .repetition body least most greedy => do
        let inside := if least = 0 ∧ most = some 1 then inside
          else inside || body.isHard references
        repeated body least most greedy (← ofExpr references inside body)
    | .look behind negated body =>
        match body with
        | .alternation alternatives =>
            if behind && !(Expr.alternation alternatives).isFixedSize then do
              let nodes ← ofEach references false alternatives
              let looks ← lookNodes negated alternatives nodes
              return if negated then .sequence looks else .choice looks
            else do
              let node ← ofExpr references false (.alternation alternatives)
              lookNode behind negated (.alternation alternatives) node
        | body => do
            lookNode behind negated body (← ofExpr references false body)
    | .backreference number => return .backreference number
    | .groupTest number => return .groupTest number
    | .atomic body => return .atomic (← ofExpr references false body)
    | .conditional condition accepted rejected =>
        return .conditional (← ofExpr references inside condition)
          (← ofExpr references inside accepted)
          (← ofExpr references inside rejected)

def ofEach (references : List Nat) (inside : Bool) :
    List Expr → Builder (List Node)
  | [] => return []
  | part :: parts =>
      return (← ofExpr references inside part) ::
        (← ofEach references inside parts)

/-- The nodes of the `count` expressions after the first `lead`. -/
def ofSlice (references : List Nat) :
    Nat → Nat → List Expr → Builder (List Node)
  | _, _, [] => return []
  | lead + 1, count, _ :: parts => ofSlice references lead count parts
  | 0, 0, _ => return []
  | 0, count + 1, part :: parts =>
      return (← ofExpr references true part) ::
        (← ofSlice references 0 count parts)

end

end Node

end NamedGroups.Engine
