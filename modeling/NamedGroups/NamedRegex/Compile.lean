import NamedGroups.Pattern

/-!
# Compiling patterns

A pattern is made positional, its flags are read, and the engine compiles the
positional source behind a group that sets the flags it has to know about.
Flags that are given take the place of those of the pattern, unless they are
empty.
-/

namespace NamedGroups

/-- A positional pattern with its flags, which may still be invalid. -/
structure Generated extends Positional where
  flags : Text

/-- Why a pattern cannot be compiled. -/
inductive PatternError where
  | invalidFlags (flags : Text)
  | rejected (source : Text) (reason : EngineError)
deriving DecidableEq

def PatternError.message : PatternError → Text
  | .invalidFlags flags => "invalid flags `".toList ++ flags ++ "`".toList
  | .rejected source reason =>
      "invalid regular expression `".toList ++ source ++ "`: ".toList ++
        reason.message

/-- Reads a flags text.  One that is refused is handed back as it is. -/
def Flags.parse (text : Text) : Except PatternError Flags :=
  match parse? text with
  | some flags => .ok flags
  | none => .error (.invalidFlags text)

namespace Pattern

variable {engine : RegexEngine}

/-- The flags text that applies: the one given, unless it is missing or
empty. -/
def chooseFlags (pattern : Pattern engine) (flags : Option Text) : Text :=
  match flags with
  | none => pattern.flags
  | some [] => pattern.flags
  | some letters => letters

def generate (pattern : Pattern engine) (flags : Option Text) : Generated :=
  { Positional.ofPattern pattern.source with
    flags := pattern.chooseFlags flags }

end Pattern

namespace NamedRegex

/-- The text that the engine compiles. -/
def engineText (flags : Flags) (source : Text) : Text :=
  flags.inlinePrefix ++ source

def compile (engine : RegexEngine) (pattern : Pattern engine)
    (flags : Option Text) : Except PatternError (NamedRegex engine) :=
  let generated := pattern.generate flags
  match Flags.parse? generated.flags with
  | none => .error (.invalidFlags generated.flags)
  | some flags =>
      match engine.compile (engineText flags generated.source) with
      | .error reason => .error (.rejected generated.source reason)
      | .ok matcher =>
          .ok
            { matcher
              pattern := pattern.source
              source := generated.source
              flags
              groups := generated.groups
              named := generated.named }

end NamedRegex

end NamedGroups
