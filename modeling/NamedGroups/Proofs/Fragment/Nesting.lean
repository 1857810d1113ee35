import Mathlib.Data.List.Nodup
import NamedGroups.Proofs.Fragment.OpenedTexts

/-!
# Parentheses and their positions

A closing parenthesis belongs to the innermost one that is open in front of it,
if there is any.  `nesting` tells for each position which parentheses are open
there and which pairs have closed before, from the positions of the parentheses
alone.
-/

namespace NamedGroups.Fragment

/-- The text right behind the opening parenthesis at a position. -/
def openedText? (fragments : List Fragment) (position : Nat) : Option Text :=
  match fragments[position]?, fragments[position + 1]? with
  | some .opening, some (.plain text) => some text
  | _, _ => none

def opensBefore (fragments : List Fragment) : Nat → Bool
  | 0 => false
  | position + 1 => fragments[position]? == some .opening

/-- The parentheses in front of a position. -/
structure Nesting where
  /-- The positions of those that are still open, innermost first. -/
  opened : List Nat
  /-- The positions of those that have closed, pair by pair, in the order in
  which they have. -/
  pairs : List (Nat × Nat)
deriving DecidableEq

/-- Goes past the fragment at a position.  A closing parenthesis that matches
none does not count. -/
def Nesting.pass (nesting : Nesting) (position : Nat) :
    Option Fragment → Nesting
  | some .opening => { nesting with opened := position :: nesting.opened }
  | some .closing =>
      match nesting.opened with
      | [] => nesting
      | innermost :: outer => ⟨outer, nesting.pairs ++ [(innermost, position)]⟩
  | _ => nesting

/-- The parentheses in front of the fragment at a position. -/
def nesting (fragments : List Fragment) : Nat → Nesting
  | 0 => ⟨[], []⟩
  | position + 1 =>
      (nesting fragments position).pass position fragments[position]?

/-- The pairs of parentheses, in the order of the closing ones. -/
def closedPairs (fragments : List Fragment) : List (Nat × Nat) :=
  (nesting fragments fragments.length).pairs

variable {fragments : List Fragment} {position : Nat}

theorem openedText?_eq_some_iff {text : Text} :
    openedText? fragments position = some text ↔
      fragments[position]? = some .opening ∧
        fragments[position + 1]? = some (.plain text) := by
  unfold openedText?
  constructor
  · intro found
    split at found
    · cases found
      exact ⟨‹_›, ‹_›⟩
    · cases found
  · rintro ⟨opening, plain⟩
    rw [opening, plain]

/-- Right behind an opening parenthesis stands a text, or nothing is opened
there. -/
theorem openedText?_eq_none
    (other : ∀ text, fragments[position + 1]? ≠ some (.plain text)) :
    openedText? fragments position = none := by
  rw [Option.eq_none_iff_forall_ne_some]
  intro text opened
  exact other text (openedText?_eq_some_iff.mp opened).2

/-- The texts behind opening parentheses are those that stand at some
position. -/
theorem mem_openedTexts_iff {text : Text} :
    text ∈ openedTexts fragments ↔
      ∃ opening, openedText? fragments opening = some text := by
  fun_induction openedTexts fragments with
  | case1 first fragments induction =>
      rw [List.mem_cons, induction]
      constructor
      · rintro (rfl | ⟨opening, opened⟩)
        · exact ⟨0, rfl⟩
        · exact ⟨opening + 2, opened⟩
      · rintro ⟨opening, opened⟩
        match opening with
        | 0 => exact .inl (Option.some.inj opened).symm
        | 1 => simp [openedText?] at opened
        | opening + 2 => exact .inr ⟨opening, opened⟩
  | case2 fragment fragments notOpened induction =>
      rw [induction]
      constructor
      · rintro ⟨opening, opened⟩
        exact ⟨opening + 1, opened⟩
      · rintro ⟨opening, opened⟩
        match opening with
        | 0 =>
            obtain ⟨isOpening, plain⟩ := openedText?_eq_some_iff.mp opened
            obtain ⟨others, rfl⟩ :=
              List.head?_eq_some_iff.mp (List.head?_eq_getElem? ▸ plain)
            exact absurd rfl (notOpened text others (Option.some.inj isOpening))
        | opening + 1 => exact ⟨opening, opened⟩
  | case3 => simp [openedText?]

theorem opensBefore_succ_iff :
    opensBefore fragments (position + 1) = true ↔
      fragments[position]? = some .opening := by
  simp [opensBefore]

/-- A text with an opening parenthesis in front is the text behind this
parenthesis. -/
theorem exists_openedText (opened : opensBefore fragments position = true)
    {text : Text} (plain : fragments[position]? = some (.plain text)) :
    ∃ earlier,
      position = earlier + 1 ∧ openedText? fragments earlier = some text := by
  cases position with
  | zero => cases opened
  | succ earlier =>
      exact ⟨earlier, rfl,
        openedText?_eq_some_iff.mpr ⟨opensBefore_succ_iff.mp opened, plain⟩⟩

theorem nesting_opening (opening : fragments[position]? = some .opening) :
    nesting fragments (position + 1) =
      { nesting fragments position with
        opened := position :: (nesting fragments position).opened } := by
  rw [nesting, opening]
  rfl

theorem nesting_closing (closing : fragments[position]? = some .closing)
    {opening : Nat} {outer : List Nat}
    (innermost : (nesting fragments position).opened = opening :: outer) :
    nesting fragments (position + 1) =
      ⟨outer, (nesting fragments position).pairs ++ [(opening, position)]⟩ := by
  rw [nesting, closing, Nesting.pass, innermost]

theorem nesting_closing_unmatched
    (closing : fragments[position]? = some .closing)
    (closed : (nesting fragments position).opened = []) :
    nesting fragments (position + 1) = nesting fragments position := by
  rw [nesting, closing, Nesting.pass, closed]

theorem nesting_other (notOpening : fragments[position]? ≠ some .opening)
    (notClosing : fragments[position]? ≠ some .closing) :
    nesting fragments (position + 1) = nesting fragments position := by
  rw [nesting]
  unfold Nesting.pass
  split
  · contradiction
  · contradiction
  · rfl

theorem prefix_pairs {earlier later : Nat} (before : earlier ≤ later) :
    (nesting fragments earlier).pairs <+: (nesting fragments later).pairs := by
  induction before with
  | refl => exact List.prefix_rfl
  | step _ induction =>
      apply induction.trans
      rw [nesting]
      unfold Nesting.pass
      split
      · exact List.prefix_rfl
      · split
        · exact List.prefix_rfl
        · exact List.prefix_append _ _
      · exact List.prefix_rfl

theorem mem_pairs_of_closed {earlier later : Nat} (before : earlier ≤ later)
    {pair : Nat × Nat} (member : pair ∈ (nesting fragments later).pairs)
    (closed : pair.2 < earlier) : pair ∈ (nesting fragments earlier).pairs := by
  induction before with
  | refl => exact member
  | @step later before induction =>
      apply induction
      rw [nesting] at member
      unfold Nesting.pass at member
      split at member
      · exact member
      · split at member
        · exact member
        · rcases List.mem_append.mp member with already | added
          · exact already
          · rw [List.mem_singleton.mp added] at closed
            exact absurd before (Nat.not_le_of_gt closed)
      · exact member

/-- What is known of the parentheses in front of a position. -/
structure Nested (fragments : List Fragment) (position : Nat)
    (nesting : Nesting) : Prop where
  opened : ∀ opening ∈ nesting.opened,
    opening < position ∧ fragments[opening]? = some .opening
  paired : ∀ pair ∈ nesting.pairs,
    pair.1 < pair.2 ∧ pair.2 < position ∧ fragments[pair.1]? = some .opening ∧
      fragments[pair.2]? = some .closing
  /-- No opening parenthesis is open twice, or closes twice. -/
  once : (nesting.opened ++ nesting.pairs.map Prod.fst).Nodup

namespace Nested

variable {nesting : Nesting}

theorem advance (nested : Nested fragments position nesting) :
    Nested fragments (position + 1) nesting where
  opened opening member :=
    ⟨Nat.lt_succ_of_lt (nested.opened opening member).1,
      (nested.opened opening member).2⟩
  paired pair member := by
    obtain ⟨ordered, before, kinds⟩ := nested.paired pair member
    exact ⟨ordered, Nat.lt_succ_of_lt before, kinds⟩
  once := nested.once

theorem notMem (nested : Nested fragments position nesting) :
    position ∉ nesting.opened ++ nesting.pairs.map Prod.fst := by
  intro member
  rcases List.mem_append.mp member with stillOpen | closed
  · exact Nat.lt_irrefl _ (nested.opened position stillOpen).1
  · obtain ⟨pair, isPair, rfl⟩ := List.mem_map.mp closed
    obtain ⟨ordered, before, -⟩ := nested.paired pair isPair
    omega

theorem pass (nested : Nested fragments position nesting) :
    Nested fragments (position + 1)
      (nesting.pass position fragments[position]?) := by
  have advanced := nested.advance
  unfold Nesting.pass
  split
  · rename_i opening
    constructor
    · exact List.forall_mem_cons.mpr
        ⟨⟨Nat.lt_succ_self _, opening⟩, advanced.opened⟩
    · exact advanced.paired
    · exact List.nodup_cons.mpr ⟨nested.notMem, nested.once⟩
  · rename_i closing
    split
    · exact advanced
    · rename_i opening outer innermost
      have opened := nested.opened
      have once := nested.once
      rw [innermost, List.forall_mem_cons] at opened
      rw [innermost, List.cons_append] at once
      constructor
      · exact fun other member =>
          ⟨Nat.lt_succ_of_lt (opened.2 other member).1,
            (opened.2 other member).2⟩
      · rw [List.forall_mem_append]
        refine ⟨advanced.paired, ?_⟩
        intro pair member
        rw [List.mem_singleton.mp member]
        exact ⟨opened.1.1, Nat.lt_succ_self _, opened.1.2, closing⟩
      · apply List.Perm.nodup _ once
        simp only
          [List.map_append, List.map_cons, List.map_nil, ← List.append_assoc]
        exact (List.perm_append_singleton _ _).symm
  · exact advanced

end Nested

theorem nested_nesting (fragments : List Fragment) (position : Nat) :
    Nested fragments position (nesting fragments position) := by
  induction position with
  | zero =>
      constructor
      · intro opening member
        cases member
      · intro pair member
        cases member
      · exact List.nodup_nil
  | succ position induction => exact induction.pass

theorem closing_unique {opening closing other : Nat}
    (first : (opening, closing) ∈ (nesting fragments position).pairs)
    (second : (opening, other) ∈ (nesting fragments position).pairs) :
    closing = other := by
  have distinct :=
    List.Nodup.of_append_right (nested_nesting fragments position).once
  have same := List.inj_on_of_nodup_map distinct first second rfl
  exact congrArg Prod.snd same

namespace Cut

/-- A text that is not the last fragment has a parenthesis behind it, and ends
outside of an escape. -/
theorem plain_at (cut : Cut fragments) {text : Text}
    (plain : fragments[position]? = some (.plain text)) :
    isSolid text ∧
      (position + 1 < fragments.length →
        text.isComplete ∧
          (fragments[position + 1]? = some .opening ∨
            fragments[position + 1]? = some .closing)) := by
  induction cut generalizing position with
  | @last content solid =>
      cases position with
      | zero =>
          cases plain
          exact ⟨solid, fun inside => absurd inside (by simp)⟩
      | succ position => simp at plain
  | opening solid complete _ induction =>
      match position with
      | 0 =>
          cases plain
          exact ⟨solid, fun _ => ⟨complete, .inl rfl⟩⟩
      | 1 => simp at plain
      | position + 2 =>
          obtain ⟨solid, followed⟩ := induction plain
          refine ⟨solid, fun inside => followed ?_⟩
          simp only [List.length_cons] at inside
          omega
  | closing solid complete _ induction =>
      match position with
      | 0 =>
          cases plain
          exact ⟨solid, fun _ => ⟨complete, .inr rfl⟩⟩
      | 1 => simp at plain
      | position + 2 =>
          obtain ⟨solid, followed⟩ := induction plain
          refine ⟨solid, fun inside => followed ?_⟩
          simp only [List.length_cons] at inside
          omega

theorem closing_in_front (cut : Cut fragments) {text : Text}
    (plain : fragments[position + 1]? = some (.plain text))
    (unopened : opensBefore fragments (position + 1) = false) :
    fragments[position]? = some .closing := by
  have inside := (List.getElem?_eq_some_iff.mp plain).1
  have inFront := List.getElem?_eq_getElem (Nat.lt_of_succ_lt inside)
  cases found : fragments[position] with
  | closing => rw [inFront, found]
  | opening =>
      rw [found] at inFront
      rw [opensBefore_succ_iff.mpr inFront] at unopened
      cases unopened
  | plain other =>
      rw [found] at inFront
      rcases ((cut.plain_at inFront).2 inside).2
          with parenthesis | parenthesis <;> cases plain.symm.trans parenthesis

theorem plain_behind (cut : Cut fragments) {parenthesis : Fragment}
    (found : fragments[position]? = some parenthesis)
    (isParenthesis : parenthesis = .opening ∨ parenthesis = .closing) :
    ∃ text, fragments[position + 1]? = some (.plain text) := by
  induction cut generalizing position with
  | last _ =>
      match position with
      | 0 =>
          cases found
          rcases isParenthesis with same | same <;> cases same
      | position + 1 => simp at found
  | opening _ _ rest induction =>
      match position with
      | 0 =>
          cases found
          rcases isParenthesis with same | same <;> cases same
      | 1 =>
          obtain ⟨text, others, rfl⟩ := rest.starts_with_text
          exact ⟨text, rfl⟩
      | position + 2 => simpa using induction found
  | closing _ _ rest induction =>
      match position with
      | 0 =>
          cases found
          rcases isParenthesis with same | same <;> cases same
      | 1 =>
          obtain ⟨text, others, rfl⟩ := rest.starts_with_text
          exact ⟨text, rfl⟩
      | position + 2 => simpa using induction found

end Cut

end NamedGroups.Fragment
