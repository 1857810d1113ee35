import NamedGroups.Proofs.Fragment.EmptyGroups
import NamedGroups.Proofs.Tracker.Recording

/-!
# Names in the source

Of two headers in a row only the first one is erased, and the deletion of `()`
may put a header together from what stands on its sides.  There is no other way
for a header or a reference to get behind an opening parenthesis of the source.
-/

namespace NamedGroups

open Fragment GroupSyntax Text

namespace GroupSyntax

/-- What follows a text does not matter to the header at its start. -/
theorem header?_append {text name rest : Text}
    (found : header? text = some (name, rest)) (more : Text) :
    header? (text ++ more) = some (name, rest ++ more) := by
  obtain ⟨mark, isMark, rfl, -, -⟩ := header?_eq_some found
  have same := header?_of_isName isMark (isName_of_header found) (rest ++ more)
  simpa using same

/-- A reference stays a reference, though its name may become longer. -/
theorem reference?_append {text name : Text}
    (found : reference? text = some name) (more : Text) :
    (reference? (text ++ more)).isSome := by
  obtain ⟨mark, isMark, whole⟩ := reference?_eq_some found
  have valid := isName_of_reference found
  cases name with
  | nil => cases valid
  | cons first rest =>
      have starts : isNameStart first := valid.1
      rw [whole]
      rcases isMark with rfl | rfl <;>
        simp [reference?, referenceTail?, leadingName, starts]

end GroupSyntax

namespace Tracker

variable {fragments : List Fragment} {opening : Nat} {text : Text}

theorem IsNameless.of_append {front back : Text}
    (nameless : IsNameless (front ++ back)) : IsNameless front := by
  constructor
  · cases found : header? front with
    | none => rfl
    | some header =>
        have unnamed := nameless.1
        rw [header?_append found] at unnamed
        cases unnamed
  · cases found : reference? front with
    | none => rfl
    | some name =>
        have unreferring := reference?_append found back
        rw [nameless.2] at unreferring
        cases unreferring

/-- A header is left where it stands behind another one. -/
theorem header?_bodyOf_eq_none_iff (text : Text) (closes : Bool) :
    header? (bodyOf text closes) = none ↔
      header? (afterHeader text) = none := by
  unfold bodyOf afterHeader
  cases header? text with
  | none => rfl
  | some header =>
      dsimp only
      split
      · rename_i empty
        rw [List.isEmpty_iff.mp (Bool.and_eq_true_iff.mp empty).1]
        exact iff_of_true rfl rfl
      · rfl

/-- What is written behind an opening parenthesis where nothing is referred
to. -/
theorem outputAt_unreferring
    (opened : openedText? fragments opening = some text)
    (unreferring : reference? (afterHeader text) = none) :
    outputAt fragments (opening + 2) =
      outputAt fragments (opening + 1) ++
        bodyOf text (fragments[opening + 2]? == some .closing) := by
  have plain : ∀ member ∈ captured true text, ¬ Refers member := by
    intro member listed
    have same : member = text := by
      unfold captured at listed
      split at listed
      · exact List.mem_singleton.mp listed
      · cases listed
    rw [same, refers_iff, unreferring]
    simp
  rw [outputAt_opened opened, written_eq_erased plain]
  rfl

/-! ### What stands behind the parentheses of the output -/

section Openings

variable (cut : Cut fragments) {position : Nat}
include cut

theorem openedTexts_outputAt_opening
    (found : fragments[position]? = some .opening) :
    openedTexts (split (outputAt fragments (position + 1))) =
      openedTexts (split (outputAt fragments position)) ++ [[]] := by
  have inside := (List.getElem?_eq_some_iff.mp found).1
  rw [outputAt_opening found, outputAt,
    openedTexts_split_opening (sealed_stateAt cut inside).complete, split_nil,
    openedTexts_behind_last, if_pos rfl]

theorem openedTexts_outputAt_closing
    (found : fragments[position]? = some .closing) :
    openedTexts (split (outputAt fragments (position + 1))) =
      openedTexts (split (outputAt fragments position)) := by
  have inside := (List.getElem?_eq_some_iff.mp found).1
  rw [outputAt_closing found, outputAt,
    openedTexts_split_closing (sealed_stateAt cut inside).complete]
  simp [openedTexts]

private theorem openedTexts_outputAt_unopened
    (plain : fragments[position]? = some (.plain text))
    (unopened : opensBefore fragments position = false) :
    openedTexts (split (outputAt fragments (position + 1))) =
      openedTexts (split (outputAt fragments position)) := by
  have solid := (cut.plain_at plain).1
  have written := outputAt_plain plain
  rw [unopened] at written
  change _ = _ ++ text at written
  cases position with
  | zero =>
      rw [written, outputAt_zero, List.nil_append, split_of_isSolid solid]
      simp [openedTexts]
  | succ position =>
      have found := cut.closing_in_front plain unopened
      have inside := (List.getElem?_eq_some_iff.mp found).1
      rw [openedTexts_outputAt_closing cut found, written,
        outputAt_closing found, outputAt, List.append_assoc,
        List.singleton_append,
        openedTexts_split_closing (sealed_stateAt cut inside).complete,
        split_of_isSolid solid]
      simp [openedTexts]

/-- What is written for a text behind an opening parenthesis stands behind this
parenthesis. -/
theorem openedTexts_outputAt_opened {characters : Text}
    (found : fragments[position]? = some .opening)
    (written :
      outputAt fragments (position + 2) =
        outputAt fragments (position + 1) ++ characters) :
    openedTexts (split (outputAt fragments (position + 2))) =
      openedTexts (split (outputAt fragments position)) ++
        openedTexts (behind true (split characters)) := by
  have inside := (List.getElem?_eq_some_iff.mp found).1
  rw [written, outputAt_opening found, List.append_assoc, List.singleton_append,
    outputAt, openedTexts_split_opening (sealed_stateAt cut inside).complete]

/-- What a recorded source has behind its parentheses stands in the output in
front of it. -/
theorem openedTexts_source {name source : Text}
    (known : (stateAt fragments position).named.get? name = some source) :
    ∃ earlier < position, openedTexts (behind true (split source)) ⊆
      openedTexts (split (outputAt fragments earlier)) := by
  obtain ⟨pair, closed, -, written⟩ := get?_stateAt_iff.mp known
  obtain ⟨ordered, before, found, -⟩ := (nested_nesting _ _).paired pair closed
  have opened := (List.getElem?_eq_some_iff.mp found).1
  refine ⟨pair.2, before, ?_⟩
  rw [← written, outputAt_opening found, List.append_assoc,
    List.singleton_append, outputAt,
    openedTexts_split_opening (sealed_stateAt cut opened).complete]
  exact List.subset_append_right _ _

/-- A step changes nothing behind the parentheses of the output, or it writes a
further one, or it reads the text behind one. -/
theorem openedTexts_outputAt_succ (position : Nat) :
    openedTexts (split (outputAt fragments (position + 1))) =
        openedTexts (split (outputAt fragments position)) ∨
      openedTexts (split (outputAt fragments (position + 1))) =
        openedTexts (split (outputAt fragments position)) ++ [[]] ∨
      ∃ opening text,
        position = opening + 1 ∧ openedText? fragments opening = some text := by
  cases found : fragments[position]? with
  | none => exact .inl (by rw [outputAt_end found])
  | some fragment =>
      cases fragment with
      | opening => exact .inr (.inl (openedTexts_outputAt_opening cut found))
      | closing => exact .inl (openedTexts_outputAt_closing cut found)
      | plain text =>
          cases behind : opensBefore fragments position with
          | false => exact .inl (openedTexts_outputAt_unopened cut found behind)
          | true =>
              obtain ⟨opening, here, opened⟩ := exists_openedText behind found
              exact .inr (.inr ⟨opening, text, here, opened⟩)

/-- What stands behind a parenthesis of the output stays there, unless it is
nothing so far. -/
theorem openedTexts_outputAt_later {later : Nat} (before : position ≤ later)
    (filled : text ≠ [])
    (member : text ∈ openedTexts (split (outputAt fragments position))) :
    text ∈ openedTexts (split (outputAt fragments later)) := by
  induction before with
  | refl => exact member
  | @step later _ induction =>
      rcases openedTexts_outputAt_succ cut later
        with same | further | ⟨opening, content, rfl, opened⟩
      · rwa [same]
      · rw [further]
        exact List.mem_append_left _ induction
      · have found := (openedText?_eq_some_iff.mp opened).1
        rw [openedTexts_outputAt_opening cut found, List.mem_append,
          List.mem_singleton] at induction
        rw [openedTexts_outputAt_opened cut found (outputAt_opened opened)]
        exact List.mem_append_left _ (induction.resolve_right filled)

end Openings

/-! ### Names in the output -/

/-- What is written for a text behind an opening parenthesis brings no names if
the text has no second header, and if there are none in what has been written
before. -/
theorem nameless_opened (cut : Cut fragments)
    (opened : openedText? fragments opening = some text)
    (single : header? (afterHeader text) = none)
    (earlier : ∀ position ≤ opening,
      ∀ text ∈ openedTexts (split (outputAt fragments position)),
        IsNameless text) :
    ∀ text ∈ openedTexts (split (outputAt fragments (opening + 2))),
      IsNameless text := by
  obtain ⟨isOpening, plain⟩ := openedText?_eq_some_iff.mp opened
  have inFront := earlier opening (Nat.le_refl _)
  cases referring : reference? (afterHeader text) with
  | none =>
      have solid :=
        isSolid_bodyOf (cut.plain_at plain).1
          (fragments[opening + 2]? == some .closing)
      rw [openedTexts_outputAt_opened cut isOpening
        (outputAt_unreferring opened referring), List.forall_mem_append,
        split_of_isSolid solid, openedTexts_behind_last, if_pos rfl,
        List.forall_mem_singleton]
      refine ⟨inFront, (header?_bodyOf_eq_none_iff _ _).mpr single, ?_⟩
      rw [reference?_bodyOf, referring]
  | some name =>
      rw [openedTexts_outputAt_opened cut isOpening
        (outputAt_reference opened referring), List.forall_mem_append]
      refine ⟨inFront, ?_⟩
      cases known : (stateAt fragments opening).named.get? name with
      | none =>
          rw [Option.getD_none, split_nil, openedTexts_behind_last, if_pos rfl,
            List.forall_mem_singleton]
          exact ⟨rfl, rfl⟩
      | some source =>
          obtain ⟨position, before, copied⟩ := openedTexts_source cut known
          intro text member
          exact earlier position (Nat.le_of_lt before) text (copied member)

/-- In front of each position there are no names in the output if no text has a
second header.  A reference brings what was written further left, not only one
step before. -/
theorem nameless_outputAt (cut : Cut fragments)
    (single : ∀ text ∈ openedTexts fragments, header? (afterHeader text) = none)
    (position : Nat) :
    ∀ text ∈ openedTexts (split (outputAt fragments position)),
      IsNameless text := by
  induction position using Nat.strong_induction_on with
  | _ position induction =>
      cases position with
      | zero => simp [outputAt_zero, openedTexts]
      | succ position =>
          have before := induction position (Nat.lt_succ_self _)
          rcases openedTexts_outputAt_succ cut position with
            same | further | ⟨opening, text, rfl, opened⟩
          · rwa [same]
          · rw [further, List.forall_mem_append, List.forall_mem_singleton]
            exact ⟨before, rfl, rfl⟩
          · apply nameless_opened cut opened
            · exact single text (mem_openedTexts_iff.mpr ⟨opening, opened⟩)
            · exact fun earlier inFront => induction earlier (by omega)

private theorem header?_of_nameless (cut : Cut fragments)
    (nameless :
      ∀ text ∈ openedTexts (split (outputAt fragments fragments.length)),
        IsNameless text) {text : Text} (member : text ∈ openedTexts fragments) :
    header? (afterHeader text) = none := by
  obtain ⟨opening, opened⟩ := mem_openedTexts_iff.mp member
  obtain ⟨isOpening, plain⟩ := openedText?_eq_some_iff.mp opened
  cases referring : reference? (afterHeader text) with
  | some name => exact header?_of_reference referring
  | none =>
      have solid :=
        isSolid_bodyOf (cut.plain_at plain).1
          (fragments[opening + 2]? == some .closing)
      apply (header?_bodyOf_eq_none_iff text
        (fragments[opening + 2]? == some .closing)).mp
      generalize written :
          bodyOf text (fragments[opening + 2]? == some .closing) = body
        at solid ⊢
      by_cases filled : body = []
      · rw [filled]
        rfl
      · have inside := (List.getElem?_eq_some_iff.mp plain).1
        refine (nameless body
          (openedTexts_outputAt_later cut inside filled ?_)).1
        rw [openedTexts_outputAt_opened cut isOpening
          (written ▸ outputAt_unreferring opened referring),
          split_of_isSolid solid]
        simp

/-- Where no text behind an opening parenthesis has a header, no names are
found. -/
theorem headerAt?_eq_none
    (unnamed : ∀ text ∈ openedTexts fragments, header? text = none)
    (opening : Nat) : headerAt? fragments opening = none := by
  rw [Option.eq_none_iff_forall_ne_some]
  intro name header
  obtain ⟨text, opened, found⟩ := headerAt?_eq_some_iff.mp header
  rw [headerName?, unnamed text (mem_openedTexts_iff.mpr ⟨opening, opened⟩)]
    at found
  cases found

end Tracker

namespace Positional

open Tracker

/-- A pattern without headers has no names, and nothing is recorded for it. -/
theorem names_of_unnamed {pattern : Text}
    (unnamed : ∀ text ∈ openedTexts (split pattern), header? text = none) :
    (∀ name, (ofPattern pattern).groups.hasName name = false) ∧
      (ofPattern pattern).named.keys = [] := by
  have none := headerAt?_eq_none unnamed
  constructor
  · intro name
    rw [← Bool.not_eq_true, hasName_ofPattern_iff]
    rintro ⟨opening, header⟩
    rw [none opening] at header
    cases header
  · rw [keys_named_ofPattern, List.filterMap_eq_nil_iff]
    intro pair _
    rw [ownedName?, none]
    rfl

/-- A source has no header and no reference behind an opening parenthesis,
unless a header stands behind another one in the pattern, or the deletion of
`()` puts one together.  Where it has none, it has no names as a pattern. -/
theorem nameless_source_iff (pattern : Text) :
    ((∀ text ∈ openedTexts (split (ofPattern pattern).source),
      IsNameless text) ↔
      (∀ text ∈ openedTexts (split pattern),
        header? (afterHeader text) = none) ∧
        ∀ pair ∈ remainingTexts
          (split (outputAt (split pattern) (split pattern).length)),
          pair.2 ≠ [] → IsNameless (pair.1 ++ pair.2)) ∧
      ((∀ text ∈ openedTexts (split (ofPattern pattern).source),
        IsNameless text) →
        (∀ name,
          (ofPattern (ofPattern pattern).source).groups.hasName name = false) ∧
          (ofPattern (ofPattern pattern).source).named.keys = []) := by
  have cut := Cut.of_split pattern
  have nothing : IsNameless [] := ⟨rfl, rfl⟩
  constructor
  · rw [source_eq_outputAt, openedTexts_removeEmptyGroups, List.forall_mem_map]
    constructor
    · intro nameless
      constructor
      · intro text member
        apply header?_of_nameless cut _ member
        apply (forall_openedTexts_iff nothing _).mpr
        exact fun pair remaining => (nameless pair remaining).of_append
      · exact fun pair remaining _ => nameless pair remaining
    · rintro ⟨single, moved⟩ pair remaining
      by_cases unmoved : pair.2 = []
      · rw [unmoved, List.append_nil]
        have nameless := nameless_outputAt cut single (split pattern).length
        exact (forall_openedTexts_iff nothing _).mp nameless pair remaining
      · exact moved pair remaining unmoved
  · intro nameless
    exact names_of_unnamed fun text member => (nameless text member).1

/-- The deletion of an empty group puts a parenthesis in front of what looks
like a header then. -/
theorem not_nameless_source_joined :
    ¬ (∀ text ∈ openedTexts
      (split (ofPattern ['(', '(', ')', '?', '<', 'n', '>', 'x', ')']).source),
      IsNameless text) ∧
      (ofPattern ['(', '(', ')', '?', '<', 'n', '>', 'x', ')']).source =
        ['(', '?', '<', 'n', '>', 'x', ')'] ∧
      (ofPattern (ofPattern ['(', '(', ')', '?', '<', 'n', '>', 'x',
        ')']).source).groups.hasName ['n'] := by
  decide

end Positional

end NamedGroups
