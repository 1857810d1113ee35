import NamedGroups.Engine.BuiltIn
import NamedGroups.NamedRegex.Search

/-!
# Three ways to the first match

An engine is asked in three ways for the first match of a text: whether there is
one, where it is, and by a search from the start of the text.  Most results only
rest on the searches.  Those that compare the three name what they expect.
-/

namespace NamedGroups

/-- Wherever a search from the start has an answer, the other two questions have
the same one. -/
structure RegexEngine.AgreesOnFirst (engine : RegexEngine) : Prop where
  isMatch : ∀ {regex : engine.Regex} {text : Text}
    {slots? : Option (List (Option Span))},
    engine.search regex text 0 = .ok slots? →
      engine.isMatch regex text = .ok slots?.isSome
  find : ∀ {regex : engine.Regex} {text : Text}
    {slots? : Option (List (Option Span))},
    engine.search regex text 0 = .ok slots? →
      engine.find regex text =
        .ok (slots?.map fun slots => slots.head?.join.getD ⟨0, 0⟩)

/-- The same of a single answer to whether there is a match. -/
def Searches.Tells (searches : Searches) (isMatch : Except EngineError Bool) :
    Prop :=
  ∀ slots?, searches 0 = .ok slots? → isMatch = .ok slots?.isSome

theorem RegexEngine.AgreesOnFirst.tells {engine : RegexEngine}
    (agrees : engine.AgreesOnFirst) (regex : NamedRegex engine) (text : Text) :
    (regex.searches text).Tells (regex.test text) :=
  fun _ searched => agrees.isMatch searched

private theorem mapError_map_of_eq_ok {ε δ α β : Type} {result : Except ε α}
    {rename : ε → δ} {answer : α}
    (answered : result.mapError rename = .ok answer) (read : α → β) :
    (result.map read).mapError rename = .ok (read answer) := by
  cases result with
  | error problem => cases answered
  | ok value =>
      cases answered
      rfl

theorem Engine.builtIn_agreesOnFirst : Engine.builtIn.AgreesOnFirst where
  isMatch searched := mapError_map_of_eq_ok searched Option.isSome
  find searched := mapError_map_of_eq_ok searched _

end NamedGroups
