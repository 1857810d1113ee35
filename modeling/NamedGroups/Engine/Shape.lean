import NamedGroups.Engine.Expr

/-!
# The shape of an expression

Three properties decide how an expression is run.  Its least size and whether
its size is fixed, both in characters, tell how far a lookbehind goes back.  An
expression is hard if it holds a part that cannot be decided character by
character: a lookaround, a reference or the group it refers to, an atomic part,
a conditional, or a word boundary.
-/

namespace NamedGroups.Engine.Expr

mutual

def minSize : Expr → Nat
  | empty => 0
  | literal _ => 1
  | charSet _ => 1
  | assertion _ => 0
  | concat parts => minSizeSum parts
  | alternation alternatives => minSizeLeast alternatives
  | group _ body => body.minSize
  | look .. => 0
  | repetition body least _ _ => body.minSize * least
  | backreference _ => 0
  | groupTest _ => 0
  | atomic body => body.minSize
  | conditional condition accepted rejected =>
      condition.minSize + min accepted.minSize rejected.minSize

def minSizeSum : List Expr → Nat
  | [] => 0
  | part :: parts => part.minSize + minSizeSum parts

def minSizeLeast : List Expr → Nat
  | [] => 0
  | [alternative] => alternative.minSize
  | alternative :: alternatives =>
      min alternative.minSize (minSizeLeast alternatives)

end

mutual

/-- Whether all matches have the same number of characters. -/
def isFixedSize : Expr → Bool
  | empty => true
  | literal _ => true
  | charSet _ => true
  | assertion _ => true
  | concat parts => isFixedSizeAll parts
  | alternation alternatives => isFixedSizeSame alternatives
  | group _ body => body.isFixedSize
  | look .. => true
  | repetition body least most _ => body.isFixedSize && most == some least
  | backreference _ => false
  | groupTest _ => true
  | atomic body => body.isFixedSize
  | conditional condition accepted rejected =>
      condition.isFixedSize && accepted.isFixedSize && rejected.isFixedSize &&
        condition.minSize + accepted.minSize == rejected.minSize

def isFixedSizeAll : List Expr → Bool
  | [] => true
  | part :: parts => part.isFixedSize && isFixedSizeAll parts

def isFixedSizeSame : List Expr → Bool
  | [] => true
  | [alternative] => alternative.isFixedSize
  | alternative :: next :: alternatives =>
      alternative.isFixedSize && alternative.minSize == next.minSize &&
        isFixedSizeSame (next :: alternatives)

end

/-- Whether an assertion looks at the kind of the neighbouring characters. -/
def isHardAssertion : Assertion → Bool
  | .wordBoundary => true
  | .notWordBoundary => true
  | _ => false

mutual

/-- Whether the expression is hard, given the groups that are referred to. -/
def isHard (references : List Nat) : Expr → Bool
  | empty => false
  | literal _ => false
  | charSet _ => false
  | assertion condition => isHardAssertion condition
  | concat parts => isHardAny references parts
  | alternation alternatives => isHardAny references alternatives
  | group number body => references.contains number || body.isHard references
  | look .. => true
  | repetition body _ _ _ => body.isHard references
  | backreference _ => true
  | groupTest _ => true
  | atomic _ => true
  | conditional .. => true

def isHardAny (references : List Nat) : List Expr → Bool
  | [] => false
  | part :: parts => part.isHard references || isHardAny references parts

end

mutual

def groups : Expr → List Nat
  | concat parts => groupsAll parts
  | alternation alternatives => groupsAll alternatives
  | group number body => number :: body.groups
  | look _ _ body => body.groups
  | repetition body _ _ _ => body.groups
  | atomic body => body.groups
  | conditional condition accepted rejected =>
      condition.groups ++ accepted.groups ++ rejected.groups
  | _ => []

def groupsAll : List Expr → List Nat
  | [] => []
  | part :: parts => part.groups ++ groupsAll parts

end

mutual

/-- The numbers of the capture groups that can take part in a match: those
outside of every repetition that is never entered. -/
def liveGroups : Expr → List Nat
  | concat parts => liveGroupsAll parts
  | alternation alternatives => liveGroupsAll alternatives
  | group number body => number :: body.liveGroups
  | look _ _ body => body.liveGroups
  | repetition body _ most _ => if most == some 0 then [] else body.liveGroups
  | atomic body => body.liveGroups
  | conditional condition accepted rejected =>
      condition.liveGroups ++ accepted.liveGroups ++ rejected.liveGroups
  | _ => []

def liveGroupsAll : List Expr → List Nat
  | [] => []
  | part :: parts => part.liveGroups ++ liveGroupsAll parts

end

end NamedGroups.Engine.Expr
