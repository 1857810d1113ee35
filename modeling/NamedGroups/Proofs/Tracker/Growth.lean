import Mathlib.Tactic.Linarith
import NamedGroups.Proofs.Fragment.EmptyGroups
import NamedGroups.Proofs.Tracker.Recording

/-!
# The size of positional patterns

A reference is replaced by a source that may be as long as all that has been
written before, so each reference at most doubles the output.  Everything else
makes a pattern at most twice as long.  There is no bound that is proportional
to the pattern and holds for any number of references: with as many references
as a source has characters, the output grows with the square of the pattern.
-/

namespace NamedGroups

open Fragment GroupSyntax Text

theorem Text.byteSize_replicate (count : Nat) (character : Char) :
    byteSize (List.replicate count character) = count * character.utf8Size := by
  induction count with
  | zero => simp
  | succ count induction =>
      rw [List.replicate_succ, byteSize_cons, induction, Nat.succ_mul,
        Nat.add_comm]

namespace Fragment

theorem byteSize_removeEmptyGroups_le (text : Text) :
    (removeEmptyGroups text).byteSize ≤ text.byteSize := by
  fun_induction removeEmptyGroups text with
  | case1 => exact Nat.le_refl _
  | case2 escaped rest induction => simp [induction]
  | case3 rest induction =>
      simp only [byteSize_cons]
      omega
  | case4 character rest _ _ induction => simp [induction]

/-- A header takes at least four bytes. -/
theorem byteSize_header_le {text name rest : Text}
    (found : header? text = some (name, rest)) :
    rest.byteSize + 4 ≤ text.byteSize := by
  obtain ⟨mark, isMark, rfl, filled, -⟩ := header?_eq_some found
  have marked : 2 ≤ mark.byteSize := by
    rcases isMark with rfl | rfl | rfl <;> decide
  have named : 1 ≤ name.byteSize := by
    cases name with
    | nil => exact absurd rfl filled
    | cons character others =>
        have := character.utf8Size_pos
        simp only [byteSize_cons]
        omega
  have closed : Char.utf8Size '>' = 1 := rfl
  simp only [byteSize_append, byteSize_cons]
  omega

/-- The text that an empty body is replaced by is shorter than two headers. -/
theorem byteSize_bodyOf_le (text : Text) (closes : Bool) :
    (bodyOf text closes).byteSize ≤ 2 * text.byteSize := by
  unfold bodyOf
  split
  · omega
  · rename_i name rest found
    have header := byteSize_header_le found
    split
    · have : Tracker.anyNonEmpty.byteSize = 7 := rfl
      omega
    · omega

end Fragment

namespace Tracker

/-- The number of texts that ask for another group. -/
def referenceCount (texts : List Text) : Nat :=
  texts.countP fun text => Refers text

private theorem referenceCount_append (front back : List Text) :
    referenceCount (front ++ back) =
      referenceCount front + referenceCount back :=
  List.countP_append

/-- No recorded source is longer than the output. -/
def Bounded (tracker : Tracker) : Prop :=
  ∀ source ∈ tracker.named.entries.map Prod.snd,
    source.byteSize ≤ tracker.output.byteSize

namespace Bounded

variable {tracker : Tracker} {text : Text}

theorem resolved (bounded : Bounded tracker) (name : Text) :
    ((tracker.named.get? name).getD []).byteSize ≤ tracker.output.byteSize := by
  cases found : tracker.named.get? name with
  | none => exact Nat.zero_le _
  | some source => exact bounded source (OrderedMap.value_mem_of_get? found)

theorem read (bounded : Bounded tracker) (opened : Bool) (text : Text)
    (closes : Bool) : Bounded (tracker.read opened text closes) := by
  intro source member
  rw [named_read] at member
  rw [output_read, byteSize_append]
  exact Nat.le_add_right_of_le (bounded source member)

theorem openGroup (bounded : Bounded tracker) : Bounded tracker.openGroup := by
  intro source member
  rw [output_openGroup, byteSize_append]
  exact Nat.le_add_right_of_le (bounded source member)

theorem closeGroup (bounded : Bounded tracker) :
    Bounded tracker.closeGroup := by
  intro source member
  rw [output_closeGroup, byteSize_append]
  apply Nat.le_add_right_of_le
  cases pending : tracker.pending with
  | nil =>
      apply bounded
      simpa [Tracker.closeGroup, pending] using member
  | cons group outer =>
      have recorded :
          source ∈ (record tracker.named group).entries.map Prod.snd := by
        simpa [Tracker.closeGroup, pending] using member
      obtain ⟨entry, isEntry, rfl⟩ := List.mem_map.mp recorded
      rcases mem_entries_record isEntry with old | ⟨-, body⟩
      · exact bounded entry.2 (List.mem_map_of_mem old)
      · rw [← body, output, pending]
        simp
        omega

/-- A reference at most doubles what has been written, and another text adds at
most twice its own size. -/
theorem byteSize_read_le (bounded : Bounded tracker) (opened : Bool)
    (text : Text) (closes : Bool) :
    (tracker.read opened text closes).output.byteSize ≤
      2 ^ referenceCount (captured opened text) *
        (tracker.output.byteSize + 2 * text.byteSize) := by
  have small :
      (tracker.written opened text closes).byteSize ≤ 2 * text.byteSize →
        tracker.output.byteSize +
            (tracker.written opened text closes).byteSize ≤
          2 ^ referenceCount (captured opened text) *
            (tracker.output.byteSize + 2 * text.byteSize) := by
    intro few
    exact (Nat.add_le_add_left few _).trans
      (Nat.le_mul_of_pos_left _ (Nat.two_pow_pos _))
  rw [output_read, byteSize_append]
  by_cases capturing : opened && isCapturing text
  · obtain ⟨rfl, kind⟩ := Bool.and_eq_true_iff.mp capturing
    have written : tracker.written true text closes = _ :=
      written_of_capturing kind closes
    rw [resolve, reference?_bodyOf] at written
    cases referring : reference? (afterHeader text) with
    | none =>
        rw [referring] at written
        apply small
        rw [written]
        exact byteSize_bodyOf_le text closes
    | some name =>
        rw [referring] at written
        change _ = (tracker.named.get? name).getD [] at written
        have one : referenceCount (captured true text) = 1 := by
          simp [referenceCount, captured, kind, refers_iff, referring]
        have source := bounded.resolved name
        rw [one, written]
        omega
  · apply small
    rw [Tracker.written, if_neg capturing]
    omega

/-- The bounds of a text and of what stands behind the parenthesis next to
it. -/
theorem doubled_le {size first second before text rest : Nat}
    (bound : size ≤ 2 ^ first * (before + 2 * text)) :
    2 ^ second * (size + 1 + 2 * rest) ≤
      2 ^ (first + second) * (before + 2 * (text + (1 + rest))) := by
  have behind : 2 * (1 + rest) ≤ 2 ^ first * (2 * (1 + rest)) :=
    Nat.le_mul_of_pos_left _ (Nat.two_pow_pos _)
  calc
    2 ^ second * (size + 1 + 2 * rest) ≤
        2 ^ second *
          (2 ^ first * (before + 2 * text) + 2 ^ first * (2 * (1 + rest))) := by
      apply Nat.mul_le_mul_left
      omega
    _ = 2 ^ (first + second) * (before + 2 * (text + (1 + rest))) := by
      rw [← Nat.mul_add, ← Nat.mul_assoc, ← Nat.pow_add,
        Nat.add_comm second first, Nat.add_assoc, ← Nat.mul_add]

theorem run {fragments : List Fragment} (cut : Cut fragments)
    (bounded : Bounded tracker) (opened : Bool) :
    (tracker.run opened fragments).output.byteSize ≤
      2 ^ referenceCount (captureTextsBehind opened fragments) *
        (tracker.output.byteSize + 2 * (renderAll fragments).byteSize) := by
  have one : byteSize ['('] = 1 ∧ byteSize [')'] = 1 := ⟨rfl, rfl⟩
  induction cut generalizing tracker opened with
  | @last text _ =>
      rw [run_last, captureTextsBehind_last]
      simpa [render] using bounded.byteSize_read_le opened text false
  | @opening text fragments _ _ _ induction =>
      have rest := induction (bounded.read opened text false).openGroup true
      rw [output_openGroup, byteSize_append, one.1] at rest
      rw [run_opening, captureTextsBehind_opening, referenceCount_append,
        renderAll_cons, renderAll_cons, byteSize_append, byteSize_append,
        render, render, one.1]
      exact rest.trans (doubled_le (bounded.byteSize_read_le opened text false))
  | @closing text fragments _ _ _ induction =>
      have rest := induction (bounded.read opened text true).closeGroup false
      rw [output_closeGroup, byteSize_append, one.2] at rest
      rw [run_closing, captureTextsBehind_closing, referenceCount_append,
        renderAll_cons, renderAll_cons, byteSize_append, byteSize_append,
        render, render, one.2]
      exact rest.trans (doubled_le (bounded.byteSize_read_le opened text true))

end Bounded

/-! ### A source that is used many times -/

def references (name : Text) : Nat → Text
  | 0 => []
  | count + 1 => '(' :: '?' :: '&' :: (name ++ ')' :: references name count)

def copies (body : Text) : Nat → Text
  | 0 => []
  | count + 1 => '(' :: (body ++ ')' :: copies body count)

theorem byteSize_references (name : Text) (count : Nat) :
    (references name count).byteSize = count * (name.byteSize + 4) := by
  have marks : byteSize ['(', '?', '&', ')'] = 4 := rfl
  induction count with
  | zero => simp [references]
  | succ count induction =>
      simp only
          [references, byteSize_cons, byteSize_append, induction, byteSize_nil]
        at marks ⊢
      rw [Nat.succ_mul]
      omega

theorem byteSize_copies (body : Text) (count : Nat) :
    (copies body count).byteSize = count * (body.byteSize + 2) := by
  have marks : byteSize ['(', ')'] = 2 := rfl
  induction count with
  | zero => simp [copies]
  | succ count induction =>
      simp only
          [copies, byteSize_cons, byteSize_append, induction, byteSize_nil]
        at marks ⊢
      rw [Nat.succ_mul]
      omega

theorem removeEmptyGroups_copies {body : Text} (solid : isSolid body)
    (complete : body.isComplete) (filled : body ≠ []) (count : Nat) :
    removeEmptyGroups (copies body count) = copies body count := by
  induction count with
  | zero => rfl
  | succ count induction =>
      have notClosing :
          (body ++ ')' :: copies body count).head? ≠ some ')' := by
        cases body with
        | nil => exact absurd rfl filled
        | cons character rest =>
            rintro ⟨⟩
            cases solid
      rw [copies, removeEmptyGroups_opening notClosing,
        removeEmptyGroups_append_of complete fun _ =>
          ⟨0, depthAfter_of_isSolid solid 0⟩,
        removeEmptyGroups_of_isSolid solid,
        removeEmptyGroups_bare (by decide) (by decide), induction]

/-- Every reference brings the source once more, in its own parentheses. -/
theorem output_run_references {name source : Text} (valid : IsName name)
    {tracker : Tracker} (known : tracker.named.get? name = some source)
    (count : Nat) :
    (tracker.run false (split (references name count))).output =
      tracker.output ++ copies source count := by
  induction count generalizing tracker with
  | zero =>
      rw [references, split_nil, run_last, output_read]
      rfl
  | succ count induction =>
      let next := (tracker.addOrdinals 1).emit ('(' :: source ++ [')'])
      have written : tracker.run false (split (references name (count + 1))) =
          next.run false (split (references name count)) := by
        rw [references, split_opening, run_opening]
        change ((tracker.emit []).openGroup).run true _ = _
        rw [emit_nil, run_reference valid, known, Option.getD_some,
          addOrdinals_openGroup, closeGroup_openGroup_emit]
      have alike := alike_addOrdinals tracker 1 0
      have stillKnown : next.named.get? name = some source := by
        rw [named_emit, alike.named]
        exact known
      have output :
          next.output = tracker.output ++ ('(' :: source ++ [')']) := by
        rw [output_emit, alike.output]
        rfl
      rw [written, induction stillKnown, output]
      simp [copies]

/-- A named group that is read first is recorded with what stands in it. -/
theorem run_definition {name body : Text} (valid : IsName name)
    (solid : isSolid body) (complete : body.isComplete) (filled : body ≠ [])
    (unreferring : reference? body = none) (back : Text) :
    ∃ tracker : Tracker,
      start.run false (split ('(' :: '?' :: '<' ::
        (name ++ '>' :: (body ++ ')' :: back)))) =
          tracker.run false (split back) ∧
        tracker.named.get? name = some body ∧
        tracker.output = '(' :: (body ++ [')']) := by
  have found :
      header? ('?' :: '<' :: (name ++ '>' :: body)) = some (name, body) :=
    header?_of_isName (.inl rfl) valid body
  obtain ⟨header, whole, unmarked⟩ := unmarked_header found
  have fragments :
      split ('?' :: '<' :: (name ++ '>' :: (body ++ ')' :: back))) =
        .plain ('?' :: '<' :: (name ++ '>' :: body)) :: .closing ::
          split back := by
    have textSolid : isSolid ('?' :: '<' :: (name ++ '>' :: body)) := by
      rwa [whole, isSolid_append_of_unmarked unmarked]
    have textComplete :
        Text.isComplete ('?' :: '<' :: (name ++ '>' :: body)) := by
      rwa [whole, isComplete_append_of_unmarked unmarked]
    have split := split_append_closing textComplete back
    rw [split_of_isSolid textSolid] at split
    simpa using split
  have notEmpty : body.isEmpty = false := by simpa using filled
  refine ⟨(start.openGroup.read true ('?' :: '<' :: (name ++ '>' :: body))
    true).closeGroup, ?_, ?_⟩
  · rw [split_opening, fragments, run_opening, run_closing]
    rfl
  · have fresh : start.openGroup.groups.hasName name = false := rfl
    have read :
        start.openGroup.read true ('?' :: '<' :: (name ++ '>' :: body)) true =
          (start.openGroup.addName name).emit body := by
      simp [Tracker.read, capture, enterCapture, resolve,
        isCapturing_of_header found, found, fresh, notEmpty, unreferring]
    have closed : ((start.openGroup.addName name).emit body).closeGroup.named =
        (∅ : NamedSources).insert name body := rfl
    rw [read, closed, OrderedMap.get?_insert, if_pos rfl, output_closeGroup,
      output_emit]
    exact ⟨rfl, by simp [output, start, Tracker.openGroup, addName]⟩

end Tracker

namespace Positional

open Tracker

/-- A source is at most twice as long as its pattern, and twice as long again
for each reference. -/
theorem byteSize_source_le (pattern : Text) :
    (ofPattern pattern).source.byteSize ≤
      2 ^ (referenceCount (captureTexts (split pattern)) + 1) *
        pattern.byteSize := by
  have bounded : Bounded start := by
    intro source member
    cases member
  calc
    (ofPattern pattern).source.byteSize ≤
        (start.run false (split pattern)).output.byteSize :=
      byteSize_removeEmptyGroups_le _
    _ ≤ 2 ^ referenceCount (captureTexts (split pattern)) *
        (start.output.byteSize + 2 * (renderAll (split pattern)).byteSize) :=
      bounded.run (Cut.of_split pattern) false
    _ =
        2 ^ (referenceCount (captureTexts (split pattern)) + 1) *
          pattern.byteSize := by
      rw [output_start, byteSize_nil, Nat.zero_add, renderAll_split,
        Nat.pow_succ, Nat.mul_assoc]

/-- A group and a number of references to it become so many copies of the
group. -/
theorem source_of_references {name body : Text} (valid : IsName name)
    (solid : isSolid body) (complete : body.isComplete) (filled : body ≠ [])
    (unreferring : reference? body = none) (count : Nat) :
    (ofPattern ('(' :: '?' :: '<' ::
      (name ++ '>' :: (body ++ ')' :: references name count)))).source =
      copies body (count + 1) := by
  obtain ⟨tracker, reached, known, output⟩ :=
    run_definition valid solid complete filled unreferring
      (references name count)
  have written := output_run_references valid known count
  rw [← reached, output] at written
  have whole :
      '(' :: (body ++ [')']) ++ copies body count =
        copies body (count + 1) := by
    simp [copies]
  change removeEmptyGroups (start.run false _).output = _
  rw [written, whole]
  exact removeEmptyGroups_copies solid complete filled (count + 1)

def repeated (count : Nat) : Text :=
  '(' :: '?' :: '<' :: (['a'] ++ '>' :: (List.replicate (count + 1) 'x' ++
    ')' :: references ['a'] count))

private theorem byteSize_repeated (count : Nat) :
    (repeated count).byteSize = 6 * count + 7 := by
  have marks : byteSize ['(', '?', '<', 'a', '>', ')'] = 6 := rfl
  have body : byteSize (List.replicate (count + 1) 'x') = (count + 1) * 1 :=
    byteSize_replicate _ _
  have referring : byteSize (references ['a'] count) = count * 5 :=
    byteSize_references _ _
  simp only
      [repeated, byteSize_cons, byteSize_append, body, referring, byteSize_nil]
    at marks ⊢
  omega

private theorem byteSize_source_repeated (count : Nat) :
    (ofPattern (repeated count)).source.byteSize =
      (count + 1) * (count + 3) := by
  have valid : IsName ['a'] := by decide
  have unmarked :
      ∀ character ∈ List.replicate (count + 1) 'x', Unmarked character := by
    intro character member
    rw [List.eq_of_mem_replicate member]
    decide
  have solid : isSolid (List.replicate (count + 1) 'x') := by
    simpa using isSolid_append_of_unmarked unmarked []
  have complete : Text.isComplete (List.replicate (count + 1) 'x') := by
    simpa using isComplete_append_of_unmarked unmarked []
  have body : byteSize (List.replicate (count + 1) 'x') = (count + 1) * 1 :=
    byteSize_replicate _ _
  have source := source_of_references valid solid complete (by simp) rfl count
  change (ofPattern (repeated count)).source = _ at source
  rw [source, byteSize_copies, body, Nat.mul_one]

/-- No bound that is proportional to the pattern holds for all patterns: with
one more character in a group and one more reference to it, the pattern grows by
six bytes, and the source by more and more. -/
theorem not_byteSize_source_proportional :
    ¬ ∃ constant, ∀ pattern, (ofPattern pattern).source.byteSize ≤
      constant * (pattern.byteSize + 1) := by
  rintro ⟨constant, proportional⟩
  have bound := proportional (repeated (8 * constant))
  rw [byteSize_source_repeated, byteSize_repeated] at bound
  nlinarith

end Positional

end NamedGroups
