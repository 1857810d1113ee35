import NamedGroups.Engine.Escape

/-!
# Bracketed classes

A class is read in two steps.  `ClassSyntax.scan` finds its end: escapes are
resolved, and brackets are counted, with a closing bracket right at the start
taken as a member.  `ClassSyntax.parse` then reads the members: characters,
ranges, nested classes, named ASCII classes, and the operators `&&`, `--` and
`~~`, which bind alike and group to the left.
-/

namespace NamedGroups.Engine

/-- A symbol between the brackets of a class. -/
inductive ClassSymbol where
  | bare (character : Char)
  | escaped (character : Char)
  | set (set : CharSet)
deriving DecidableEq

/-- The operators between the parts of a class. -/
inductive ClassOperator where
  | intersection
  | difference
  | symmetricDifference
deriving DecidableEq

namespace ClassSyntax

/-- What the scan of a class passes over in patterns that allow blanks and
remarks. -/
abbrev Skip := Text → Except SyntaxError Text

/-- Reads symbols up to the closing bracket of the outermost of `depth` open
classes. -/
def scanSymbols (skip : Skip) :
    Nat → Nat → Text → Except SyntaxError (List ClassSymbol × Text)
  | 0, _, _ => .error .unclosedClass
  | fuel + 1, depth, text => do
      match ← skip text with
      | [] => .error .unclosedClass
      | '\\' :: rest =>
          if rest.head?.any Char.isDigit then .error .badClassMember
          else
            match ← Escape.read true rest with
            | (.character character, rest) =>
                let (symbols, rest) ← scanSymbols skip fuel depth rest
                return (.escaped character :: symbols, rest)
            | (.set set, rest) =>
                let (symbols, rest) ← scanSymbols skip fuel depth rest
                return (.set set :: symbols, rest)
            | (.assertion _, _) => .error .badClassMember
      | '[' :: rest =>
          let (symbols, rest) ← scanSymbols skip fuel (depth + 1) rest
          return (.bare '[' :: symbols, rest)
      | ']' :: rest =>
          if depth ≤ 1 then return ([.bare ']'], rest)
          else
            let (symbols, rest) ← scanSymbols skip fuel (depth - 1) rest
            return (.bare ']' :: symbols, rest)
      | character :: rest =>
          let (symbols, rest) ← scanSymbols skip fuel depth rest
          return (.bare character :: symbols, rest)

def scan (skip : Skip) (text : Text) :
    Except SyntaxError (List ClassSymbol × Text) := do
  let (caret, afterCaret) :=
    match text with
    | '^' :: rest => ([ClassSymbol.bare '^'], rest)
    | _ => ([], text)
  let (bracket, start) :=
    match afterCaret with
    | ']' :: rest => ([ClassSymbol.bare ']'], rest)
    | _ => ([], afterCaret)
  let (symbols, rest) ← scanSymbols skip (start.length + 1) 1 start
  return (caret ++ bracket ++ symbols, rest)

def namedClass? (name : String) : Option CharSet :=
  match name with
  | "alnum" => some (.ofRanges [('0', '9'), ('A', 'Z'), ('a', 'z')])
  | "alpha" => some (.ofRanges [('A', 'Z'), ('a', 'z')])
  | "ascii" => some (.range '\x00' '\x7f')
  | "blank" => some (.ofRanges [('\t', '\t'), (' ', ' ')])
  | "cntrl" => some (.ofRanges [('\x00', '\x1f'), ('\x7f', '\x7f')])
  | "digit" => some (.range '0' '9')
  | "graph" => some (.range '!' '~')
  | "lower" => some (.range 'a' 'z')
  | "print" => some (.range ' ' '~')
  | "punct" =>
      some (.ofRanges [('!', '/'), (':', '@'), ('[', '\x60'), ('\x7b', '~')])
  | "space" => some (.ofRanges [('\t', '\r'), (' ', ' ')])
  | "upper" => some (.range 'A' 'Z')
  | "word" => some (.ofRanges [('0', '9'), ('A', 'Z'), ('_', '_'), ('a', 'z')])
  | "xdigit" => some (.ofRanges [('0', '9'), ('A', 'F'), ('a', 'f')])
  | _ => none

def leadingLetters : List ClassSymbol → Text
  | .bare character :: symbols =>
      if character.isAlpha then character :: leadingLetters symbols else []
  | _ => []

/-- Reads `:name:]` or `:^name:]`, which follows an opening bracket. -/
def asciiClass? (ignoreCase : Bool) (symbols : List ClassSymbol) :
    Option (CharSet × List ClassSymbol) :=
  match symbols with
  | .bare ':' :: rest =>
      let (negated, rest) :=
        match rest with
        | .bare '^' :: rest => (true, rest)
        | _ => (false, rest)
      let letters := leadingLetters rest
      match rest.drop letters.length, namedClass? (String.ofList letters) with
      | .bare ':' :: .bare ']' :: rest, some set =>
          let folded := set.foldIf ignoreCase
          some (if negated then folded.complement else folded, rest)
      | _, _ => none
  | _ => none

def ClassOperator.apply (ignoreCase : Bool) (operator : ClassOperator)
    (left right : CharSet) : CharSet :=
  let left := left.foldIf ignoreCase
  let right := right.foldIf ignoreCase
  match operator with
  | .intersection => .inter left right
  | .difference => .diff left right
  | .symmetricDifference => .symmetricDifference left right

/-- Applies the operator that is waiting for its right side, if there is one. -/
def finish (ignoreCase : Bool) (waiting : Option (CharSet × ClassOperator))
    (right : CharSet) : CharSet :=
  match waiting with
  | none => right
  | some (left, operator) => ClassOperator.apply ignoreCase operator left right

def parseMember :
    List ClassSymbol → Except SyntaxError (CharSet × List ClassSymbol)
  | [] => .error .unclosedClass
  | first :: .bare '-' :: last :: rest =>
      if last = .bare ']' ∨ last = .bare '-' then
        .ok (memberSet first, .bare '-' :: last :: rest)
      else
        match character? first, character? last with
        | some first, some last =>
            if first ≤ last then .ok (.range first last, rest)
            else .error .badClassRange
        | _, _ => .error .badClassMember
  | first :: rest => .ok (memberSet first, rest)
where
  memberSet : ClassSymbol → CharSet
    | .bare character => .single character
    | .escaped character => .single character
    | .set set => set
  /-- The character of a symbol, unless it is a set. -/
  character? : ClassSymbol → Option Char
    | .bare character => some character
    | .escaped character => some character
    | .set _ => none

def leadingHyphens : List ClassSymbol → CharSet × List ClassSymbol
  | .bare '-' :: symbols =>
      let (_, rest) := leadingHyphens symbols
      (.single '-', rest)
  | symbols => (.empty, symbols)

/-- The start of a class: whether it is negated, its first members, and the
symbols after them. -/
def parseStart (symbols : List ClassSymbol) :
    Bool × CharSet × List ClassSymbol :=
  let (negated, symbols) :=
    match symbols with
    | .bare '^' :: rest => (true, rest)
    | _ => (false, symbols)
  match leadingHyphens symbols with
  | (.empty, .bare ']' :: rest) => (negated, .single ']', rest)
  | (members, rest) => (negated, members, rest)

mutual

def parseClass (ignoreCase : Bool) :
    Nat → List ClassSymbol → Except SyntaxError (CharSet × List ClassSymbol)
  | 0, _ => .error .unclosedClass
  | fuel + 1, symbols => do
      let (negated, members, rest) := parseStart symbols
      let (set, rest) ← parseMembers ignoreCase fuel none members rest
      let folded := set.foldIf ignoreCase
      return (if negated then folded.complement else folded, rest)

/-- Reads members up to the closing bracket.  `waiting` is an operator with its
left side, and `members` is what has been read after it. -/
def parseMembers (ignoreCase : Bool) :
    Nat → Option (CharSet × ClassOperator) → CharSet → List ClassSymbol →
      Except SyntaxError (CharSet × List ClassSymbol)
  | 0, _, _, _ => .error .unclosedClass
  | fuel + 1, waiting, members, symbols =>
      match symbols with
      | [] => .error .unclosedClass
      | .bare ']' :: rest => .ok (finish ignoreCase waiting members, rest)
      | .bare '&' :: .bare '&' :: rest =>
          parseMembers ignoreCase fuel
            (some (finish ignoreCase waiting members, .intersection)) .empty
            rest
      | .bare '-' :: .bare '-' :: rest =>
          parseMembers ignoreCase fuel
            (some (finish ignoreCase waiting members, .difference)) .empty rest
      | .bare '~' :: .bare '~' :: rest =>
          parseMembers ignoreCase fuel
            (some (finish ignoreCase waiting members, .symmetricDifference))
            .empty rest
      | .bare '[' :: rest => do
          let (set, rest) ←
            match asciiClass? ignoreCase rest with
            | some result => Except.ok result
            | none => parseClass ignoreCase fuel rest
          parseMembers ignoreCase fuel waiting (members.union set) rest
      | symbols => do
          let (set, rest) ← parseMember symbols
          parseMembers ignoreCase fuel waiting (members.union set) rest

end

def parse (ignoreCase : Bool) (symbols : List ClassSymbol) :
    Except SyntaxError CharSet := do
  let (set, rest) ← parseClass ignoreCase (2 * symbols.length + 2) symbols
  if rest.isEmpty then return set else .error .unclosedClass

end ClassSyntax

end NamedGroups.Engine
