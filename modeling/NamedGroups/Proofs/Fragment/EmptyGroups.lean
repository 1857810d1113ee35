import NamedGroups.Proofs.Fragment.Balance

/-!
# Empty groups and the fragments around them

Deleting every `()` of a text deletes an opening parenthesis, an empty text and
a closing parenthesis of its fragments, and brings the texts on both sides
together.  So a text behind an opening parenthesis may become longer than it
was.
-/

namespace NamedGroups.Fragment

/-- The fragments without the empty groups.  This is one pass: what comes
together by a deletion stays. -/
def dropEmptyGroups : List Fragment → List Fragment
  | .plain text :: .opening :: .plain [] :: .closing :: fragments =>
      extend text (dropEmptyGroups fragments)
  | fragment :: fragments => fragment :: dropEmptyGroups fragments
  | [] => []

/-- What comes up to the place in front of the fragments when the empty groups
there are deleted. -/
def movedUp : List Fragment → Text
  | .opening :: .plain [] :: .closing :: .plain text :: fragments =>
      text ++ movedUp fragments
  | _ => []

/-- The texts behind the opening parentheses that are not deleted, each with
what comes up to it. -/
def remainingTexts : List Fragment → List (Text × Text)
  | .opening :: .plain [] :: .closing :: fragments => remainingTexts fragments
  | .opening :: .plain text :: fragments =>
      (text, movedUp fragments) :: remainingTexts fragments
  | _ :: fragments => remainingTexts fragments
  | [] => []

variable {text : Text} {fragments : List Fragment}

theorem removeEmptyGroups_of_isSolid (solid : isSolid text) :
    removeEmptyGroups text = text := by
  apply removeEmptyGroups_eq_self
  rw [split_of_isSolid solid]
  exact hasEmptyGroup_behind_last false text

section Opening

variable (other : ¬ [.plain [], .closing] <+: fragments)
include other

theorem dropEmptyGroups_opening (text : Text) :
    dropEmptyGroups (.plain text :: .opening :: fragments) =
      .plain text :: .opening :: dropEmptyGroups fragments := by
  rw [dropEmptyGroups]
  · rfl
  · rintro _ others - same
    cases same
    exact other ⟨others, rfl⟩

theorem movedUp_opening : movedUp (.opening :: fragments) = [] := by
  unfold movedUp
  split
  · rename_i text others same
    cases same
    exact absurd ⟨_, rfl⟩ other
  · rfl

theorem remainingTexts_opening {others : List Fragment}
    (starts : fragments = .plain text :: others) :
    remainingTexts (.opening :: fragments) =
      (text, movedUp others) :: remainingTexts others := by
  subst starts
  rw [remainingTexts]
  rintro rest rfl rfl
  exact other ⟨rest, rfl⟩

end Opening

namespace Cut

/-- Induction along fragments in which an empty group goes together with the
text in front.  What follows an empty group is two parentheses away, so the
motive is proved for both. -/
@[elab_as_elim]
theorem groupInduction
    {motive : (fragments : List Fragment) → Cut fragments → Prop}
    (last : ∀ (text : Text) (solid : isSolid text),
      motive [.plain text] (.last solid))
    (empty :
      ∀ (text : Text) (fragments : List Fragment) (solid : isSolid text)
        (complete : text.isComplete) (cut : Cut fragments),
        motive fragments cut →
          motive (.plain text :: .opening :: .plain [] :: .closing :: fragments)
            (.opening solid complete (.closing rfl rfl cut)))
    (opening :
      ∀ (text : Text) (fragments : List Fragment) (solid : isSolid text)
        (complete : text.isComplete) (cut : Cut fragments),
        ¬ [.plain [], .closing] <+: fragments → motive fragments cut →
          motive (.plain text :: .opening :: fragments)
            (.opening solid complete cut))
    (closing :
      ∀ (text : Text) (fragments : List Fragment) (solid : isSolid text)
        (complete : text.isComplete) (cut : Cut fragments),
        motive fragments cut →
          motive (.plain text :: .closing :: fragments)
            (.closing solid complete cut)) {fragments : List Fragment}
    (cut : Cut fragments) : motive fragments cut := by
  suffices both :
      motive fragments cut ∧
        ∀ others (rest : Cut others),
          fragments = .plain [] :: .closing :: others → motive others rest
    from both.1
  induction cut with
  | last solid =>
      constructor
      · exact last _ solid
      · rintro others rest same
        cases same
  | closing solid complete rest induction =>
      constructor
      · exact closing _ _ solid complete rest induction.1
      · rintro others rest same
        cases same
        exact induction.1
  | @opening text fragments solid complete rest induction =>
      constructor
      · by_cases isEmpty : [.plain [], .closing] <+: fragments
        · obtain ⟨others, rfl⟩ := isEmpty
          cases rest with
          | closing _ _ further =>
              exact empty _ _ solid complete further (induction.2 _ further rfl)
        · exact opening _ _ solid complete rest isEmpty induction.1
      · rintro others rest same
        cases same

private theorem extend (cut : Cut fragments) (solid : isSolid text)
    (complete : text.isComplete) : Cut (extend text fragments) := by
  rw [← cut.split_renderAll, ← split_append solid complete]
  exact .of_split _

private theorem dropEmptyGroups (cut : Cut fragments) :
    Cut (dropEmptyGroups fragments) := by
  induction cut using groupInduction with
  | last text solid => exact .last solid
  | empty text fragments solid complete _ induction =>
      exact induction.extend solid complete
  | opening text fragments solid complete _ other induction =>
      rw [dropEmptyGroups_opening other]
      exact .opening solid complete induction
  | closing text fragments solid complete _ induction =>
      exact .closing solid complete induction

/-- What is left is written as the text without its `()`. -/
theorem renderAll_dropEmptyGroups (cut : Cut fragments) :
    renderAll (Fragment.dropEmptyGroups fragments) =
      removeEmptyGroups (renderAll fragments) := by
  induction cut using groupInduction with
  | last text solid =>
      simp [Fragment.dropEmptyGroups, render,
        removeEmptyGroups_of_isSolid solid]
  | empty text fragments solid complete _ induction =>
      rw [Fragment.dropEmptyGroups, renderAll_extend, induction]
      simp only [renderAll_cons, render, List.nil_append, List.singleton_append]
      rw [removeEmptyGroups_append complete (by simp),
        removeEmptyGroups_of_isSolid solid, removeEmptyGroups]
  | opening text fragments solid complete cut other induction =>
      have notClosing : (renderAll fragments).head? ≠ some ')' := by
        rwa [Ne, ← prefix_split_iff, cut.split_renderAll]
      rw [dropEmptyGroups_opening other]
      simp only [renderAll_cons, render, induction, List.singleton_append]
      rw [removeEmptyGroups_append complete (by simp),
        removeEmptyGroups_of_isSolid solid,
        removeEmptyGroups_opening notClosing]
  | closing text fragments solid complete _ induction =>
      simp only [Fragment.dropEmptyGroups, renderAll_cons, render, induction,
        List.singleton_append]
      rw [removeEmptyGroups_append_of complete fun _ =>
        ⟨0, Text.depthAfter_of_isSolid solid 0⟩,
        removeEmptyGroups_of_isSolid solid,
        removeEmptyGroups_bare (by decide) (by decide)]

/-- What comes up to a text in front goes into it, and the texts behind the
parentheses that are left are the remaining ones. -/
theorem dropEmptyGroups_plain (cut : Cut (.plain text :: fragments)) :
    ∃ others,
      Fragment.dropEmptyGroups (.plain text :: fragments) =
          .plain (text ++ movedUp fragments) :: others ∧
        openedTexts others =
          (remainingTexts fragments).map fun pair => pair.1 ++ pair.2 := by
  generalize whole : Fragment.plain text :: fragments = fragments' at cut
  induction cut using groupInduction generalizing text fragments with
  | last text solid =>
      cases whole
      exact ⟨[], by simp [Fragment.dropEmptyGroups, movedUp], rfl⟩
  | empty text fragments solid complete cut induction =>
      cases whole
      obtain ⟨first, rest, rfl⟩ := cut.starts_with_text
      obtain ⟨others, dropped, texts⟩ := induction rfl
      refine ⟨others, ?_, ?_⟩
      · rw [Fragment.dropEmptyGroups, dropped]
        rfl
      · rw [texts]
        rfl
  | opening text fragments solid complete cut other induction =>
      cases whole
      obtain ⟨first, rest, rfl⟩ := cut.starts_with_text
      obtain ⟨others, dropped, texts⟩ := induction rfl
      refine ⟨.opening :: Fragment.dropEmptyGroups (.plain first :: rest), ?_,
        ?_⟩
      · rw [dropEmptyGroups_opening other, movedUp_opening other,
          List.append_nil]
      · rw [dropped, remainingTexts_opening other rfl,
          openedTexts_opening_plain, texts, List.map_cons]
  | closing text fragments solid complete cut induction =>
      cases whole
      obtain ⟨first, rest, rfl⟩ := cut.starts_with_text
      obtain ⟨others, dropped, texts⟩ := induction rfl
      refine ⟨.closing :: Fragment.dropEmptyGroups (.plain first :: rest), ?_,
        ?_⟩
      · rw [movedUp, List.append_nil]
        · rfl
        · simp
      · rw [dropped, openedTexts_closing, openedTexts_plain, texts]
        rfl

end Cut

/-- Deleting every `()` of a text deletes the empty groups of its fragments. -/
theorem split_removeEmptyGroups (text : Text) :
    split (removeEmptyGroups text) = dropEmptyGroups (split text) := by
  have cut := Cut.of_split text
  rw [← cut.dropEmptyGroups.split_renderAll, cut.renderAll_dropEmptyGroups,
    renderAll_split]

theorem openedTexts_removeEmptyGroups (text : Text) :
    openedTexts (split (removeEmptyGroups text)) =
      (remainingTexts (split text)).map fun pair => pair.1 ++ pair.2 := by
  have cut := Cut.of_split text
  rw [split_removeEmptyGroups]
  obtain ⟨first, others, starts⟩ := cut.starts_with_text
  rw [starts] at cut ⊢
  obtain ⟨left, dropped, texts⟩ := cut.dropEmptyGroups_plain
  rw [dropped, openedTexts_plain, texts]
  rfl

/-- A deleted group has nothing behind its parenthesis, so what is true of every
text behind one is true of those that are left. -/
theorem forall_openedTexts_iff {property : Text → Prop} (nothing : property [])
    (fragments : List Fragment) :
    (∀ text ∈ openedTexts fragments, property text) ↔
      ∀ pair ∈ remainingTexts fragments, property pair.1 := by
  fun_induction remainingTexts fragments with
  | case1 fragments induction => simp [nothing, induction]
  | case2 fragments text notEmpty induction => simp [induction]
  | case3 fragment fragments _ notOpened induction =>
      rw [← induction]
      cases fragment with
      | plain text => rw [openedTexts_plain]
      | closing => rw [openedTexts_closing]
      | opening =>
          rw [openedTexts]
          rintro text others - rfl
          exact notOpened text others rfl rfl
  | case4 => exact iff_of_true (by simp [openedTexts]) (by simp)

/-! ### The texts behind the parentheses of a longer text -/

private theorem Cut.openedTexts_append_opening (cut : Cut fragments)
    (opened : Bool) (others : List Fragment) :
    openedTexts (behind opened (fragments ++ .opening :: others)) =
      openedTexts (behind opened fragments) ++
        openedTexts (behind true others) := by
  induction cut generalizing opened with
  | last _ => simp
  | opening _ _ _ induction => simpa using induction true
  | closing _ _ _ induction => simpa using induction false

theorem openedTexts_split_opening {front : Text} (complete : front.isComplete)
    (back : Text) :
    openedTexts (split (front ++ '(' :: back)) =
      openedTexts (split front) ++ openedTexts (behind true (split back)) := by
  rw [split_append_opening complete]
  exact (Cut.of_split front).openedTexts_append_opening false (split back)

theorem openedTexts_split_closing {front : Text} (complete : front.isComplete)
    (back : Text) :
    openedTexts (split (front ++ ')' :: back)) =
      openedTexts (split front) ++ openedTexts (split back) := by
  rw [split_append_closing complete]
  exact (Cut.of_split front).openedTexts_append_closing false (split back)

end NamedGroups.Fragment
