import NamedGroups.Proofs.Fragment.OpenedTexts

/-!
# Walks over fragments

A walk goes over fragments that are cut as a pattern is, with no empty group
among them, and marks the capture groups that it passes.  Walks that meet are
put together, which is how the output of a pattern grows while it is written.
-/

namespace NamedGroups.Fragment

open GroupSyntax

/-- What stands right in front of a place between two fragments. -/
inductive Spot where
  | outside
  | opened
  | text (opened : Bool) (content : Text)

/-- The marks tell which of the texts behind an opening parenthesis start a
capture group. -/
inductive Walk : Spot → List Fragment → List Bool → Spot → Prop where
  | nil (spot : Spot) : Walk spot [] [] spot
  | outside {text : Text} {fragments : List Fragment} {marks : List Bool}
      {last : Spot} :
      isSolid text → Walk (.text false text) fragments marks last →
      Walk .outside (.plain text :: fragments) marks last
  | opened {text : Text} {fragments : List Fragment} {marks : List Bool}
      {last : Spot} :
      isSolid text → Walk (.text true text) fragments marks last →
      Walk .opened (.plain text :: fragments) (isCapturing text :: marks) last
  | opening {opened : Bool} {text : Text} {fragments : List Fragment}
      {marks : List Bool} {last : Spot} :
      text.isComplete → Walk .opened fragments marks last →
      Walk (.text opened text) (.opening :: fragments) marks last
  | closing {opened : Bool} {text : Text} {fragments : List Fragment}
      {marks : List Bool} {last : Spot} :
      text.isComplete → ¬ (opened = true ∧ text = []) →
      Walk .outside fragments marks last →
      Walk (.text opened text) (.closing :: fragments) marks last

namespace Walk

theorem append {first second third : Spot} {fragments others : List Fragment}
    {marks more : List Bool} (walk : Walk first fragments marks second)
    (next : Walk second others more third) :
    Walk first (fragments ++ others) (marks ++ more) third := by
  induction walk with
  | nil spot => exact next
  | outside solid _ induction => exact .outside solid (induction next)
  | opened solid _ induction => exact .opened solid (induction next)
  | opening complete _ induction => exact .opening complete (induction next)
  | closing complete filled _ induction =>
      exact .closing complete filled (induction next)

/-- What a walk says of the fragments, by where it starts. -/
def Sound : Spot → List Fragment → Prop
  | .outside, fragments => Cut fragments ∧ ¬ HasEmptyGroup fragments
  | .opened, fragments =>
      Cut fragments ∧ ¬ HasEmptyGroup (.opening :: fragments)
  | .text isOpened text, fragments =>
      isSolid text → Cut (.plain text :: fragments) ∧
        ¬ HasEmptyGroup (behind isOpened (.plain text :: fragments))

theorem sound {spot : Spot} {fragments : List Fragment} {marks : List Bool}
    {isOpened : Bool} {text : Text}
    (walk : Walk spot fragments marks (.text isOpened text)) :
    Sound spot fragments := by
  generalize ends : Spot.text isOpened text = last at walk
  induction walk with
  | nil spot =>
      subst ends
      exact fun solid => ⟨.last solid, hasEmptyGroup_behind_last isOpened text⟩
  | outside solid _ induction =>
      obtain ⟨cut, filled⟩ := induction ends solid
      exact ⟨cut, filled⟩
  | opened solid _ induction =>
      obtain ⟨cut, filled⟩ := induction ends solid
      exact ⟨cut, filled⟩
  | opening complete _ induction =>
      obtain ⟨cut, filled⟩ := induction ends
      intro solid
      refine ⟨.opening solid complete cut, ?_⟩
      rw [hasEmptyGroup_behind_opening]
      exact filled
  | closing complete nonempty _ induction =>
      obtain ⟨cut, filled⟩ := induction ends
      intro solid
      refine ⟨.closing solid complete cut, ?_⟩
      rw [hasEmptyGroup_behind_closing]
      rintro (empty | later)
      · exact nonempty empty
      · exact filled later

def fromSpot : Spot → List Fragment → List Fragment
  | .opened, fragments => .opening :: fragments
  | _, fragments => fragments

theorem marks_eq {spot : Spot} {fragments : List Fragment} {marks : List Bool}
    {isOpened : Bool} {text : Text}
    (walk : Walk spot fragments marks (.text isOpened text)) :
    marks = (openedTexts (fromSpot spot fragments)).map
      fun text => isCapturing text := by
  generalize ends : Spot.text isOpened text = last at walk
  induction walk with
  | nil spot =>
      subst ends
      rfl
  | outside _ _ induction => simpa [fromSpot] using induction ends
  | opened _ _ induction => simpa [fromSpot] using induction ends
  | opening _ _ induction => simpa [fromSpot] using induction ends
  | closing _ _ _ induction => simpa [fromSpot] using induction ends

end Walk

end NamedGroups.Fragment
