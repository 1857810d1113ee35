import NamedGroups.NamedRegex.Search
import NamedGroups.Template

/-!
# Replacing matches

A replacer gives the text that takes the place of a match.  It may have effects,
in a monad of its own choice, and it may be a template: then it is asked for the
template once, the placeholders of the template are resolved once, and each
match is replaced by an expansion of it.

The first match is replaced, or all of them with the global flag.  The loop goes
on while its searches get ahead in the text, which they always do if they answer
matches at or behind the offset they start from.
-/

namespace NamedGroups

/-- Something that replaces matches. -/
structure Replacer (m : Type → Type) where
  template : m (Option Text)
  append : Match → GroupIndex → m Text

namespace Replacer

variable {m : Type → Type} [Monad m]

def expandOnce (template : Text) (found : Match) (groups : GroupIndex) : Text :=
  Template.expand (Template.resolve groups template) found

def ofTemplate (template : Text) : Replacer m where
  template := pure (some template)
  append found groups := pure (expandOnce template found groups)

/-- A replacer that expands a template anew for each match, without being
one. -/
def eachTemplate (template : Text) : Replacer m where
  template := pure none
  append found groups := pure (expandOnce template found groups)

def literal (text : Text) : Replacer m where
  template := pure none
  append _ _ := pure text

def ofFunction (function : Match → GroupIndex → m Text) : Replacer m where
  template := pure none
  append := function

end Replacer

/-- The result of replacing matches in a text. -/
structure Replacement where
  text : Text
  /-- The number of matches that have been replaced. -/
  count : Nat
deriving DecidableEq

namespace Replacement

def replaced (replacement : Replacement) : Bool := replacement.count != 0

def prepend (piece inserted : Text) (replacement : Replacement) : Replacement :=
  ⟨piece ++ inserted ++ replacement.text, replacement.count + 1⟩

/-- The text from `last` on with its matches from `offset` on replaced. -/
def startingAt {m : Type → Type} [Monad m] (find : Finder)
    (render : Match → m Text) (everywhere : Bool) (text : Text)
    (last offset : Nat) : m (Except EngineError Replacement) :=
  if _inside : offset ≤ text.byteSize then
    match find offset with
    | .error error => pure (.error error)
    | .ok none => pure (.ok ⟨text.dropBytes last, 0⟩)
    | .ok (some found) => do
        let inserted ← render found
        let piece := text.slice last found.start
        let resume := found.resumeOffset text
        let tail ←
          if _ahead : everywhere ∧ offset < resume then
            startingAt find render everywhere text found.stop resume
          else pure (.ok ⟨text.dropBytes found.stop, 0⟩)
        return tail.map (prepend piece inserted)
  else pure (.ok ⟨text.dropBytes last, 0⟩)
termination_by text.byteSize + 1 - offset

/-- The text with its first match replaced, or all of its matches. -/
def replace {m : Type → Type} [Monad m] (find : Finder) (groups : GroupIndex)
    (everywhere : Bool) (text : Text) (replacer : Replacer m) :
    m (Except EngineError Replacement) := do
  match ← replacer.template with
  | some template =>
      let template := Template.resolve groups template
      startingAt find (fun found => pure (Template.expand template found))
        everywhere text 0 0
  | none =>
      startingAt find (fun found => replacer.append found groups) everywhere
        text 0 0

end Replacement

namespace NamedRegex

def replace {engine : RegexEngine} {m : Type → Type} [Monad m]
    (regex : NamedRegex engine) (text : Text) (replacer : Replacer m) :
    m (Except EngineError Replacement) :=
  Replacement.replace (regex.searchFrom text) regex.groups regex.flags.global
    text replacer

end NamedRegex

end NamedGroups
