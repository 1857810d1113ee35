import NamedGroups.Engine.Parser

/-!
# The parentheses of the engine

Not every unescaped parenthesis opens a capture group of the engine.  `openings`
reads a pattern character by character and tells what each opening parenthesis
stands for.  It keeps the blanks and remarks of verbose patterns, comments,
classes and flags apart from the parts of the pattern, and remembers for each
open group whether its end brings back an earlier mode.
-/

namespace NamedGroups.Engine

/-- What an opening parenthesis stands for. -/
inductive Opening where
  | capture
  /-- A group that captures nothing, or a setting of flags. -/
  | group
  | condition
  /-- A part of a comment or a remark. -/
  | ignored
  /-- A member of a class. -/
  | member
deriving DecidableEq

/-- What a parenthesis opens, by what stands behind it. -/
inductive GroupKind where
  | capture
  | other
  | conditional
  | flags
deriving DecidableEq

def GroupKind.of (verbose : Bool) (rest : Text) : GroupKind :=
  match Parser.skipIgnored verbose .nothing rest with
  | .ok ('?' :: '=' :: _) => .other
  | .ok ('?' :: '!' :: _) => .other
  | .ok ('?' :: '<' :: '=' :: _) => .other
  | .ok ('?' :: '<' :: '!' :: _) => .other
  | .ok ('?' :: '<' :: _) => .capture
  | .ok ('?' :: 'P' :: '<' :: _) => .capture
  | .ok ('?' :: 'P' :: '=' :: _) => .other
  | .ok ('?' :: '>' :: _) => .other
  | .ok ('?' :: '(' :: _) => .conditional
  | .ok ('?' :: _) => .flags
  | _ => .capture

/-- A stretch of a pattern. -/
inductive Region where
  | parts
  | members (depth : Nat)
  /-- In front of the question mark of a conditional or of flags. -/
  | start (conditional : Bool)
  /-- Flags that are set or, behind a minus sign, taken back.  `outer` is the
  mode around them. -/
  | flags (outer value : Bool)
deriving DecidableEq

/-- What is known about the place that has been reached in a pattern. -/
structure Reading where
  /-- The number of characters that are passed over. -/
  passing : Nat
  ignored : Parser.Ignored
  region : Region
  verbose : Bool
  /-- The open groups, with the modes that their ends bring back. -/
  enclosing : List (Option Bool)

namespace Reading

def inParts (verbose : Bool) (enclosing : List (Option Bool)) : Reading :=
  ⟨0, .nothing, .parts, verbose, enclosing⟩

def enter (reading : Reading) (mode : Option Bool) : Reading :=
  { reading with region := .parts, enclosing := mode :: reading.enclosing }

def leave (reading : Reading) : Reading :=
  match reading.enclosing with
  | [] => reading
  | mode :: outer =>
      { reading with verbose := mode.getD reading.verbose, enclosing := outer }

/-- The number of characters behind an opening bracket that have a meaning of
their own there. -/
def classStart : Text → Nat
  | '^' :: ']' :: _ => 2
  | '^' :: _ => 1
  | ']' :: _ => 1
  | _ => 0

def asOpening (opening : Opening) (character : Char) : List Opening :=
  if character = '(' then [opening] else []

/-- Reads a character between the parts of a pattern. -/
def readPart (reading : Reading) (character : Char) (rest : Text) :
    List Opening × Reading :=
  if character = '(' then
    match GroupKind.of reading.verbose rest with
    | .capture => ([.capture], reading.enter none)
    | .other => ([.group], reading.enter none)
    | .conditional => ([.group], { reading with region := .start true })
    | .flags => ([.group], { reading with region := .start false })
  else if character = ')' then ([], reading.leave)
  else if character = '[' then
    ([], { reading with passing := classStart rest, region := .members 1 })
  else ([], reading)

def readMember (reading : Reading) (depth : Nat) (character : Char) : Reading :=
  if character = '[' then { reading with region := .members (depth + 1) }
  else if character = ']' then
    { reading with
      region := if depth ≤ 1 then .parts else .members (depth - 1) }
  else reading

def readFlag (reading : Reading) (outer value : Bool) (character : Char) :
    Reading :=
  if character = ')' then { reading with region := .parts }
  else if character = ':' then reading.enter (some outer)
  else if character = '-' then { reading with region := .flags outer false }
  else if character = 'x' then { reading with verbose := value }
  else reading

def readCharacter (reading : Reading) (character : Char) (rest : Text) :
    List Opening × Reading :=
  match reading.region with
  | .parts => reading.readPart character rest
  | .members depth =>
      (asOpening .member character, reading.readMember depth character)
  | .start true =>
      if character = '(' then ([.condition], (reading.enter none).enter none)
      else ([], reading)
  | .start false =>
      if character = '?' then
        ([], { reading with region := .flags reading.verbose true })
      else (asOpening .group character, reading)
  | .flags outer value =>
      (asOpening .group character, reading.readFlag outer value character)

/-- Reads a character.  `rest` is what stands behind it. -/
def step (reading : Reading) (character : Char) (rest : Text) :
    List Opening × Reading :=
  match reading.passing, reading.ignored with
  | count + 1, _ => ([], { reading with passing := count })
  | 0, .comment =>
      if character = ')' then ([], { reading with ignored := .nothing })
      else if character = '\\' then ([], { reading with passing := 1 })
      else (asOpening .ignored character, reading)
  | 0, .remark =>
      if character = '\n' then ([], { reading with ignored := .nothing })
      else if character = '\\' then
        ([], { reading with
          passing := if rest.head? = some '\n' then 0 else 1 })
      else (asOpening .ignored character, reading)
  | 0, .nothing =>
      if character = '\\' then ([], { reading with passing := 1 })
      else if character = '(' ∧ rest.take 2 = ['?', '#'] then
        ([.ignored], { reading with passing := 2, ignored := .comment })
      else if reading.verbose ∧ character = '#' then
        ([], { reading with ignored := .remark })
      else if reading.verbose ∧ character ∈ [' ', '\t', '\r', '\n'] then
        ([], reading)
      else reading.readCharacter character rest

/-- What the opening parentheses of a text stand for, in order. -/
def openings : Reading → Text → List Opening
  | _, [] => []
  | reading, character :: rest =>
      (reading.step character rest).1 ++
        openings (reading.step character rest).2 rest

end Reading

def openings (pattern : Text) : List Opening :=
  (Reading.inParts false []).openings pattern

end NamedGroups.Engine
