import NamedGroups.Engine.ClassSyntax
import NamedGroups.Text.Decimal

/-!
# Parsing patterns

A pattern is read from left to right by recursive descent.  The state holds the
text that is still to be read, the flags in force, and what is known about
capture groups.  Flags set by `(?i)` and its like stay in force until they are
changed, even past the end of the group they are set in; `(?i:...)` restores the
flags at its end.

Every call has one step of fuel less than its caller.  A step that calls another
one without reading is followed by one that reads within a fixed number of
calls, so fuel in proportion to the length of the pattern is never used up.
-/

namespace NamedGroups.Engine

/-- The flags in force. -/
structure Modes where
  ignoreCase : Bool
  multiLine : Bool
  dotAll : Bool
  /-- Quantifiers are lazy unless marked, instead of greedy. -/
  swapGreed : Bool
  /-- Blanks and remarks between the parts of a pattern are passed over. -/
  verbose : Bool

namespace Parser

/-- The state of the parser. -/
structure State where
  rest : Text
  modes : Modes
  groups : Nat
  /-- The names of capture groups, the latest first. -/
  names : List (Text × Nat)
  references : List Nat
  /-- Whether a reference gives its group by number. -/
  numbered : Bool
  /-- References by number stay below this bound. -/
  referenceBound : Nat

end Parser

abbrev Parser := StateT Parser.State (Except SyntaxError)

namespace Parser

def maxDepth : Nat := 64

/-- What the text that is being passed over belongs to. -/
inductive Ignored where
  | nothing
  | comment
  /-- A remark, which ends with its line. -/
  | remark

/-- Passes over comment groups, and in verbose patterns over blanks and
remarks. -/
def skipIgnored (verbose : Bool) : Ignored → Text → Except SyntaxError Text
  | .nothing, '(' :: '?' :: '#' :: rest => skipIgnored verbose .comment rest
  | .nothing, character :: rest =>
      if verbose && character == '#' then skipIgnored verbose .remark rest
      else if verbose && [' ', '\t', '\r', '\n'].contains character then
        skipIgnored verbose .nothing rest
      else .ok (character :: rest)
  | .comment, ')' :: rest => skipIgnored verbose .nothing rest
  | .comment, '\\' :: _ :: rest => skipIgnored verbose .comment rest
  | .comment, _ :: rest => skipIgnored verbose .comment rest
  | .remark, '\n' :: rest => skipIgnored verbose .nothing rest
  | .remark, _ :: rest => skipIgnored verbose .remark rest
  | .comment, [] => .error .unclosedGroup
  | .nothing, [] => .ok []
  | .remark, [] => .ok []

def setRest (rest : Text) : Parser Unit :=
  modify fun state => { state with rest }

def skip : Parser Unit := do
  let state ← get
  setRest (← skipIgnored state.modes.verbose .nothing state.rest)

def accept (character : Char) : Parser Bool := do
  match (← get).rest with
  | next :: rest =>
      if next = character then setRest rest; return true else return false
  | [] => return false

def expectClosing : Parser Unit := do
  match (← get).rest with
  | ')' :: rest => setRest rest
  | [] => throw .unclosedGroup
  | _ => throw .closingExpected

def number? (text : Text) : Option (Nat × Text) :=
  let digits := text.takeWhile Char.isDigit
  (Text.readWord? digits).map fun number => (number, text.drop digits.length)

def isNameCharacter (character : Char) : Bool :=
  Unicode.isAlphanumeric character || character == '_'

def name? (closing : Char) (text : Text) : Option (Text × Text) :=
  let name := text.takeWhile isNameCharacter
  match text.drop name.length with
  | next :: rest =>
      if name ≠ [] ∧ next = closing then some (name, rest) else none
  | [] => none

/-- Reads the name in a reference, which may be a number counted back from the
present group. -/
def referenceName? (closing : Char) (text : Text) :
    Option (Bool × Text × Text) :=
  match text with
  | '-' :: rest =>
      (name? closing rest).map fun (name, rest) => (true, name, rest)
  | _ => (name? closing text).map fun (name, rest) => (false, name, rest)

def addReference (number : Nat) : Parser Unit :=
  modify fun state => { state with references := number :: state.references }

def numberedReference : Parser Nat := do
  let state ← get
  match number? state.rest with
  | some (number, rest) =>
      if number < state.referenceBound then
        set { state with rest, numbered := true }
        addReference number
        return number
      else throw .badReference
  | none => throw .badReference

/-- The group that a name, a number or a number counted back stands for. -/
def State.group? (state : State) (backwards : Bool) (name : Text) :
    Option Nat :=
  if backwards then
    match Text.readWord? name with
    | some distance =>
        if distance ≤ state.groups + 1 then some (state.groups + 1 - distance)
        else none
    | none => none
  else
    match state.names.lookup name with
    | some number => some number
    | none => Text.readWord? name

def namedReference (closing : Char) (relative : Bool) : Parser Nat := do
  let state ← get
  match referenceName? closing state.rest with
  | none => throw .badGroupName
  | some (backwards, name, rest) =>
      if backwards && !relative then throw .badGroupName
      match state.group? backwards name with
      | none => throw .badReference
      | some number =>
          setRest rest
          addReference number
          return number

def escapedReference : Parser Nat := do
  if ← accept '<' then namedReference '>' true
  else if ← accept '\x27' then namedReference '\x27' true
  else throw .badGroupName

def openGroup : Parser Nat := do
  let state ← get
  set { state with groups := state.groups + 1 }
  return state.groups + 1

def openNamedGroup : Parser Nat := do
  let number ← openGroup
  let state ← get
  match name? '>' state.rest with
  | none => throw .badGroupName
  | some (name, rest) =>
      set { state with rest, names := (name, number) :: state.names }
      return number

/-- Reads the counts between the braces of a repetition.  `none` if the text is
no repetition, so that its opening brace stands for itself. -/
def counts? (verbose : Bool) (text : Text) :
    Option (Nat × Option Nat × Text) := do
  let text ← (skipIgnored verbose .nothing text).toOption
  let (least, text) ←
    match text with
    | ',' :: _ => some (0, text)
    | _ => number? text
  let text ← (skipIgnored verbose .nothing text).toOption
  let (most, text) ←
    match text with
    | '\x7d' :: _ => some (some least, text)
    | ',' :: rest => do
        let rest ← (skipIgnored verbose .nothing rest).toOption
        match number? rest with
        | some (most, rest) => some (some most, rest)
        | none => some (none, rest)
    | _ => none
  let text ← (skipIgnored verbose .nothing text).toOption
  match text with
  | '\x7d' :: rest => some (least, most, rest)
  | _ => none

def quantifier? : Parser (Option (Nat × Option Nat)) := do
  let state ← get
  match state.rest with
  | '?' :: rest => setRest rest; return some (0, some 1)
  | '*' :: rest => setRest rest; return some (0, none)
  | '+' :: rest => setRest rest; return some (1, none)
  | '\x7b' :: rest =>
      match counts? state.modes.verbose rest with
      | some (least, most, rest) => setRest rest; return some (least, most)
      | none => return none
  | _ => return none

/-- A quantifier after an expression makes a repetition of it.  A question mark
after the quantifier reverses its greed, and a plus after that makes the
repetition atomic. -/
def quantified (expression : Expr) : Parser Expr := do
  skip
  match ← quantifier? with
  | none => return expression
  | some (least, most) =>
      if !expression.isRepeatable then throw .nothingToRepeat
      skip
      let marked ← accept '?'
      let greedy := (← get).modes.swapGreed == marked
      let repetition := Expr.repetition expression least most greedy
      if ← accept '+' then return .atomic repetition else return repetition

def escape : Parser Expr := do
  let state ← get
  match state.rest with
  | 'k' :: rest =>
      setRest rest
      return .backreference (← escapedReference)
  | next :: _ =>
      if next.isDigit then return .backreference (← numberedReference)
      else
        let (escape, rest) ← Escape.read false state.rest
        setRest rest
        match escape with
        | .character character => return literal state.modes character
        | .set set => return .charSet set
        | .assertion condition => return .assertion condition
  | [] => throw .trailingBackslash
where
  /-- A character, in either case if case is ignored. -/
  literal (modes : Modes) (character : Char) : Expr :=
    if modes.ignoreCase then .charSet (.anyCase (.single character))
    else .literal character

def bracketed : Parser Expr := do
  let state ← get
  let (symbols, rest) ←
    ClassSyntax.scan (skipIgnored state.modes.verbose .nothing) state.rest
  setRest rest
  return .charSet (← ClassSyntax.parse state.modes.ignoreCase symbols)

def setMode? (modes : Modes) (letter : Char) (value : Bool) : Option Modes :=
  match letter with
  | 'i' => some { modes with ignoreCase := value }
  | 'm' => some { modes with multiLine := value }
  | 's' => some { modes with dotAll := value }
  | 'U' => some { modes with swapGreed := value }
  | 'x' => some { modes with verbose := value }
  | 'u' => if value then some modes else none
  | _ => none

/-- Reads flags up to the mark that ends them, and tells whether it is a colon.
`fresh` is true at the start and right after a minus sign that stands there,
where a group may not end. -/
def flags : Nat → Bool → Bool → Parser Bool
  | 0, _, _ => throw .unknownFlag
  | fuel + 1, value, fresh => do
      skip
      let state ← get
      match state.rest with
      | [] => throw .unclosedGroup
      | ')' :: rest =>
          if fresh then throw .unknownFlag
          setRest rest
          return false
      | ':' :: rest =>
          if fresh && !value then throw .unknownFlag
          setRest rest
          return true
      | '-' :: rest =>
          if !value then throw .unknownFlag
          setRest rest
          flags fuel false fresh
      | letter :: rest =>
          match setMode? state.modes letter value with
          | none => throw .unknownFlag
          | some modes =>
              set { state with rest, modes }
              flags fuel value false

/-- Splits the body of a conditional at its first alternative. -/
def branches : Expr → Expr × Expr
  | .alternation [] => (.empty, .empty)
  | .alternation [accepted] => (accepted, .empty)
  | .alternation [accepted, rejected] => (accepted, rejected)
  | .alternation (accepted :: rejected) => (accepted, .alternation rejected)
  | body => (body, .empty)

def conditional (condition body : Expr) : Expr :=
  let condition :=
    match condition with
    | .backreference number => .groupTest number
    | _ => condition
  let (accepted, rejected) := branches body
  if accepted.isEmpty && rejected.isEmpty then condition
  else .conditional condition accepted rejected

mutual

def alternatives : Nat → Nat → Parser Expr
  | 0, _ => throw .tooDeep
  | fuel + 1, depth => do
      let first ← branch fuel depth
      match ← moreBranches fuel depth with
      | [] =>
          let state ← get
          if state.numbered && !state.names.isEmpty then
            throw .numberedReference
          return first
      | others => return .alternation (first :: others)

def moreBranches : Nat → Nat → Parser (List Expr)
  | 0, _ => throw .tooDeep
  | fuel + 1, depth => do
      skip
      if ← accept '|' then
        let next ← branch fuel depth
        return next :: (← moreBranches fuel depth)
      else return []

def branch : Nat → Nat → Parser Expr
  | 0, _ => throw .tooDeep
  | fuel + 1, depth => do
      match ← pieces fuel depth with
      | [] => return .empty
      | [part] => return part
      | parts => return .concat parts

/-- Reads the parts of an alternative, up to one that reads nothing. -/
def pieces : Nat → Nat → Parser (List Expr)
  | 0, _ => throw .tooDeep
  | fuel + 1, depth => do
      let before := (← get).rest
      if before.isEmpty then return []
      let part ← quantified (← atom fuel depth)
      if (← get).rest.length = before.length then return []
      let parts ← pieces fuel depth
      return if part.isEmpty then parts else part :: parts

/-- Reads a part without its quantifier.  Nothing is read before a quantifier, a
bar, a closing parenthesis or the end. -/
def atom : Nat → Nat → Parser Expr
  | 0, _ => throw .tooDeep
  | fuel + 1, depth => do
      skip
      let state ← get
      match state.rest with
      | [] => return .empty
      | '.' :: rest =>
          setRest rest
          return .charSet (if state.modes.dotAll then .all else .notNewline)
      | '^' :: rest =>
          setRest rest
          return .assertion
            (if state.modes.multiLine then .lineStart else .textStart)
      | '$' :: rest =>
          setRest rest
          return .assertion
            (if state.modes.multiLine then .lineEnd else .textEnd)
      | '(' :: rest =>
          setRest rest
          if depth + 1 < maxDepth then group fuel (depth + 1)
          else throw .tooDeep
      | '\\' :: rest =>
          setRest rest
          escape
      | '[' :: rest =>
          setRest rest
          bracketed
      | character :: rest =>
          if ['+', '*', '?', '|', ')'].contains character then return .empty
          setRest rest
          return escape.literal state.modes character

def group : Nat → Nat → Parser Expr
  | 0, _ => throw .tooDeep
  | fuel + 1, depth => do
      skip
      match (← get).rest with
      | '?' :: '=' :: rest => setRest rest; lookaround fuel depth false false
      | '?' :: '!' :: rest => setRest rest; lookaround fuel depth false true
      | '?' :: '<' :: '=' :: rest =>
          setRest rest; lookaround fuel depth true false
      | '?' :: '<' :: '!' :: rest =>
          setRest rest; lookaround fuel depth true true
      | '?' :: '<' :: rest =>
          setRest rest
          let number ← openNamedGroup
          return .group number (← enclosed fuel depth)
      | '?' :: 'P' :: '<' :: rest =>
          setRest rest
          let number ← openNamedGroup
          return .group number (← enclosed fuel depth)
      | '?' :: 'P' :: '=' :: rest =>
          setRest rest
          return .backreference (← namedReference ')' false)
      | '?' :: '>' :: rest =>
          setRest rest
          return .atomic (← enclosed fuel depth)
      | '?' :: '(' :: rest => setRest rest; conditionalGroup fuel depth
      | '?' :: rest => setRest rest; flagGroup fuel depth
      | _ =>
          let number ← openGroup
          return .group number (← enclosed fuel depth)

def enclosed : Nat → Nat → Parser Expr
  | 0, _ => throw .tooDeep
  | fuel + 1, depth => do
      let body ← alternatives fuel depth
      skip
      expectClosing
      return body

def lookaround : Nat → Nat → Bool → Bool → Parser Expr
  | 0, _, _, _ => throw .tooDeep
  | fuel + 1, depth, behind, negated => do
      return .look behind negated (← enclosed fuel depth)

def flagGroup : Nat → Nat → Parser Expr
  | 0, _ => throw .tooDeep
  | fuel + 1, depth => do
      let before := (← get).modes
      if ← flags ((← get).rest.length + 1) true true then
        let body ← alternatives fuel depth
        expectClosing
        modify fun state => { state with modes := before }
        return body
      else return .empty

def conditionalGroup : Nat → Nat → Parser Expr
  | 0, _ => throw .tooDeep
  | fuel + 1, depth => do
      let condition ←
        match (← get).rest with
        | [] => throw .unclosedGroup
        | '\x27' :: rest => do
            setRest rest
            pure (Expr.backreference (← namedReference '\x27' true))
        | '<' :: rest => do
            setRest rest
            pure (Expr.backreference (← namedReference '>' true))
        | next :: _ =>
            if next.isDigit then pure (Expr.backreference (← numberedReference))
            else alternatives fuel depth
      skip
      expectClosing
      let before := (← get).rest
      let body ← alternatives fuel depth
      if (← get).rest.length = before.length then
        match condition with
        | .backreference _ => pure ()
        | _ => throw .emptyConditional
      skip
      expectClosing
      return conditional condition body

end

def initialModes : Modes := ⟨false, false, false, false, false⟩

def enoughFuel (pattern : Text) : Nat := 12 * (pattern.length + 2)

def initialState (pattern : Text) : State :=
  ⟨pattern, initialModes, 0, [], [], false, Text.byteSize pattern / 2⟩

end Parser

/-- A parsed pattern. -/
structure Parsed where
  expression : Expr
  groups : Nat
  references : List Nat

/-- Parses a pattern.  A reference must lead to a capture group of the pattern,
wherever that group stands. -/
def parse (pattern : Text) : Except SyntaxError Parsed := do
  let (expression, state)
    ← (Parser.alternatives (Parser.enoughFuel pattern) 0).run
    (Parser.initialState pattern)
  if !state.rest.isEmpty then throw .endExpected
  if state.references.any fun number => number = 0 ∨ number > state.groups then
    throw .badReference
  return ⟨expression, state.groups, state.references⟩

end NamedGroups.Engine
