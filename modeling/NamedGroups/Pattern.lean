import NamedGroups.NamedRegex.Basic

/-!
# Patterns

Whatever has a source text can be used as a pattern.  A pattern has three
indicators, for the flags `i`, `m` and `g`, and a flags text.  Where nothing
else is known, the flags text holds the letters of the indicators that are true.
-/

namespace NamedGroups

/-- Something that a regular expression can be built from. -/
inductive Pattern (engine : RegexEngine) where
  | text (source : Text)
  | indicated (source : Text) (caseInsensitive multiLine global : Bool)
  /-- A compiled pattern of the engine, without flags. -/
  | compiled (regex : engine.Regex)
  /-- A regular expression with named groups: the pattern that it was built
  from. -/
  | named (regex : NamedRegex engine)
  /-- No pattern, which is the same as the empty one. -/
  | absent
  /-- A pattern that might have been absent. -/
  | present (pattern : Pattern engine)
  /-- Another handle on a pattern. -/
  | shared (pattern : Pattern engine)

namespace Pattern

variable {engine : RegexEngine}

def source : Pattern engine → Text
  | text source => source
  | indicated source _ _ _ => source
  | compiled regex => engine.source regex
  | named regex => regex.pattern
  | absent => []
  | present pattern => pattern.source
  | shared pattern => pattern.source

def caseInsensitive : Pattern engine → Bool
  | indicated _ caseInsensitive _ _ => caseInsensitive
  | named regex => regex.flags.caseInsensitive
  | shared pattern => pattern.caseInsensitive
  | _ => false

def multiLine : Pattern engine → Bool
  | indicated _ _ multiLine _ => multiLine
  | named regex => regex.flags.multiLine
  | shared pattern => pattern.multiLine
  | _ => false

def global : Pattern engine → Bool
  | indicated _ _ _ global => global
  | named regex => regex.flags.global
  | shared pattern => pattern.global
  | _ => false

/-- The letters of three indicators, in the order `i`, `m`, `g`. -/
def indicatorLetters (caseInsensitive multiLine global : Bool) : Text :=
  Flags.letter caseInsensitive 'i' ++ Flags.letter multiLine 'm' ++
    Flags.letter global 'g'

def flags : Pattern engine → Text
  | text _ => []
  | indicated _ caseInsensitive multiLine global =>
      indicatorLetters caseInsensitive multiLine global
  | compiled _ => []
  | named regex => regex.flags.text
  | absent => []
  | present pattern => pattern.flags
  | shared pattern => pattern.flags

end Pattern

end NamedGroups
