import NamedGroups.Proofs.Tracker.Recording

/-!
# Empty bodies

A header with nothing behind it does not leave an empty group.  But the body of
a named group may be a reference, and then it is empty if the reference stands
for nothing.  The deletion of `()` takes such a group away, and no other one
that a name of the index belongs to.
-/

namespace NamedGroups

open GroupSyntax Text

namespace Fragment

/-- Whether every named group that is no more than a reference refers to a named
group that has closed in front of it. -/
def ResolvesBodies (fragments : List Fragment) : Prop :=
  ∀ opening name text other, ownedName? fragments opening = some name →
    openedText? fragments opening = some text →
    fragments[opening + 2]? = some .closing →
    reference? (afterHeader text) = some other →
    ∃ pair ∈ (nesting fragments opening).pairs,
      ownedName? fragments pair.1 = some other

variable {fragments : List Fragment}

theorem mem_closedPairs {opening : Nat} {text : Text}
    (opened : openedText? fragments opening = some text)
    (closes : fragments[opening + 2]? = some .closing) :
    (opening, opening + 2) ∈ closedPairs fragments := by
  obtain ⟨isOpening, plain⟩ := openedText?_eq_some_iff.mp opened
  have innermost : (nesting fragments (opening + 2)).opened =
      opening :: (nesting fragments opening).opened := by
    rw [nesting_other (by simp [plain]) (by simp [plain]),
      nesting_opening isOpening]
  have inside := (List.getElem?_eq_some_iff.mp closes).1
  apply (prefix_pairs inside).subset
  simp [nesting_closing closes innermost]

end Fragment

namespace Tracker

open Fragment

variable {fragments : List Fragment} {opening : Nat} {name source text : Text}

/-- The text behind the parenthesis of a group that owns a name. -/
theorem exists_header (owned : ownedName? fragments opening = some name) :
    ∃ text, openedText? fragments opening = some text ∧
      headerName? text = some name :=
  headerAt?_eq_some_iff.mp (ownedName?_eq_some_iff.mp owned).1

/-- A header and what is behind it are written as nothing only if it is a
reference. -/
theorem resolve_bodyOf_eq_nil_iff (named : NamedSources)
    (header : headerName? text = some name) :
    resolve named (bodyOf text true) = [] ↔
      ∃ other, reference? (afterHeader text) = some other ∧
        (named.get? other).getD [] = [] := by
  have filled : bodyOf text true ≠ [] := by
    apply bodyOf_ne_nil
    rintro rfl
    cases header
  unfold resolve
  rw [reference?_bodyOf]
  cases reference? (afterHeader text) with
  | none => simp [filled]
  | some other => simp

/-- Where nothing has been written between two parentheses, nothing but a text
stands there. -/
theorem closing_of_nothing (cut : Cut fragments) {pair : Nat × Nat}
    (closed : pair ∈ closedPairs fragments)
    (nothing : outputAt fragments (pair.1 + 1) = outputAt fragments pair.2) :
    pair.2 = pair.1 + 2 := by
  obtain ⟨ordered, inside, isOpening, isClosing⟩ :=
    (nested_nesting _ _).paired pair closed
  obtain ⟨text, plain⟩ := cut.plain_behind isOpening (.inl rfl)
  have apart : pair.2 ≠ pair.1 + 1 := by
    intro same
    rw [same, plain] at isClosing
    cases isClosing
  rcases Nat.lt_or_eq_of_le (show pair.1 + 2 ≤ pair.2 by omega)
    with further | same
  · exfalso
    have longer : (outputAt fragments (pair.1 + 2)).length <
        (outputAt fragments (pair.1 + 3)).length := by
      rcases ((cut.plain_at plain).2 (by omega)).2 with opening | closing
      · rw [outputAt_opening opening]
        simp
      · rw [outputAt_closing closing]
        simp
    have before :=
      (prefix_outputAt fragments (Nat.le_succ (pair.1 + 1))).length_le
    have behind := (prefix_outputAt fragments further).length_le
    rw [nothing] at before
    exact absurd (Nat.lt_of_le_of_lt before longer) (Nat.not_lt_of_le behind)
  · exact same.symm

/-- The source of a name is empty if its group is no more than a reference that
stands for nothing. -/
theorem source_eq_nil_iff (cut : Cut fragments) {pair : Nat × Nat}
    (closed : pair ∈ closedPairs fragments)
    (owned : ownedName? fragments pair.1 = some name)
    (written :
      outputAt fragments (pair.1 + 1) ++ source = outputAt fragments pair.2) :
    source = [] ↔
      pair.2 = pair.1 + 2 ∧
        ∃ text other, openedText? fragments pair.1 = some text ∧
          reference? (afterHeader text) = some other ∧
          ((stateAt fragments pair.1).named.get? other).getD [] = [] := by
  obtain ⟨text, opened, header⟩ := exists_header owned
  have isClosing := ((nested_nesting _ _).paired pair closed).2.2.2
  have named :
      (stateAt fragments (pair.1 + 1)).named =
        (stateAt fragments pair.1).named := by
    rw [stateAt_opening (openedText?_eq_some_iff.mp opened).1]
    rfl
  have body : pair.2 = pair.1 + 2 →
      source = resolve (stateAt fragments pair.1).named (bodyOf text true) := by
    intro next
    have capturing : isCapturing text := by
      obtain ⟨rest, found, -⟩ := Option.map_eq_some_iff.mp header
      exact isCapturing_of_header found
    rw [next] at isClosing written
    rw [outputAt_opened opened, isClosing, written_of_capturing capturing,
      named] at written
    exact List.append_cancel_left written
  constructor
  · rintro rfl
    have next :=
      closing_of_nothing cut closed (by rw [← written, List.append_nil])
    obtain ⟨other, referring, nothing⟩ :=
      (resolve_bodyOf_eq_nil_iff _ header).mp (body next).symm
    exact ⟨next, text, other, opened, referring, nothing⟩
  · rintro ⟨next, same, other, isOpened, referring, nothing⟩
    cases opened.symm.trans isOpened
    rw [body next, resolve_bodyOf_eq_nil_iff _ header]
    exact ⟨other, referring, nothing⟩

/-- The groups that own a name have something between their parentheses if all
references that stand for a whole body can be resolved. -/
theorem source_ne_nil (cut : Cut fragments)
    (resolves : ResolvesBodies fragments) {pair : Nat × Nat}
    (closed : pair ∈ closedPairs fragments)
    (owned : ownedName? fragments pair.1 = some name)
    (written :
      outputAt fragments (pair.1 + 1) ++ source = outputAt fragments pair.2) :
    source ≠ [] := by
  induction last : pair.2 using Nat.strong_induction_on
    generalizing pair name source with
  | _ closing induction =>
      intro empty
      obtain ⟨next, text, other, opened, referring, nothing⟩ :=
        (source_eq_nil_iff cut closed owned written).mp empty
      obtain ⟨ordered, inside, -, isClosing⟩ :=
        (nested_nesting _ _).paired pair closed
      rw [next] at isClosing
      obtain ⟨earlier, earlierClosed, earlierOwned⟩ :=
        resolves pair.1 name text other owned opened isClosing referring
      obtain ⟨passed, earlierWritten⟩ := exists_source earlierClosed
      have before := ((nested_nesting _ _).paired earlier earlierClosed).2.1
      have known :=
        get?_stateAt_iff.mpr ⟨earlier, earlierClosed, earlierOwned,
          earlierWritten⟩
      rw [known, Option.getD_some] at nothing
      have member :=
        (prefix_pairs (show pair.1 ≤ fragments.length by omega)).subset
          earlierClosed
      exact induction earlier.2 (by omega) member earlierOwned earlierWritten
        rfl nothing

/-- All references that stand for a whole body can be resolved if no source is
empty. -/
theorem resolvesBodies_of_sources (cut : Cut fragments)
    (filled : ∀ pair ∈ closedPairs fragments, ∀ name source,
      ownedName? fragments pair.1 = some name →
        outputAt fragments (pair.1 + 1) ++ source = outputAt fragments pair.2 →
        source ≠ []) : ResolvesBodies fragments := by
  intro opening name text other owned opened closes referring
  have closed := mem_closedPairs opened closes
  obtain ⟨source, written⟩ := exists_source closed
  have resolved :
      ((stateAt fragments opening).named.get? other).getD [] ≠ [] := by
    intro nothing
    apply filled _ closed name source owned written
    exact (source_eq_nil_iff cut closed owned written).mpr
      ⟨rfl, text, other, opened, referring, nothing⟩
  cases known : (stateAt fragments opening).named.get? other with
  | none => exact absurd (by rw [known]; rfl) resolved
  | some earlier =>
      obtain ⟨pair, inFront, other, -⟩ := get?_stateAt_iff.mp known
      exact ⟨pair, inFront, other⟩

/-- What is written in front of a position starts with what is written in front
of an earlier one, and goes on as the whole output does. -/
theorem prefix_of_output {position : Nat} {front characters rest : Text}
    (before : position ≤ fragments.length)
    (whole : outputAt fragments fragments.length = front ++ rest)
    (written : outputAt fragments position = front ++ characters) :
    characters <+: rest := by
  have started := prefix_outputAt fragments before
  rwa [written, whole, List.prefix_append_right_inj] at started

/-- A closing parenthesis is written right behind an opening one only where it
stands right behind the text of the opening one, and where nothing is written
for this text. -/
theorem closing_of_output (cut : Cut fragments) {later : Text}
    (opened : openedText? fragments opening = some text)
    (whole : outputAt fragments fragments.length =
      outputAt fragments (opening + 1) ++ ')' :: later) :
    fragments[opening + 2]? = some .closing ∧
      outputAt fragments (opening + 2) = outputAt fragments (opening + 1) := by
  obtain ⟨isOpening, plain⟩ := openedText?_eq_some_iff.mp opened
  have inside := (List.getElem?_eq_some_iff.mp plain).1
  obtain ⟨solid, followed⟩ := cut.plain_at plain
  have balanced := (sealed_stateAt cut inside).depthAfter_written solid true
    (fragments[opening + 2]? == some .closing) 0
  have written := outputAt_opened opened
  have front := prefix_of_output inside whole written
  generalize (stateAt fragments (opening + 1)).written true text
        (fragments[opening + 2]? == some .closing) = characters
    at balanced front written
  cases characters with
  | cons character others =>
      rw [(List.cons_prefix_cons.mp front).1, depthAfter_closing_zero]
        at balanced
      cases balanced
  | nil =>
      rw [List.append_nil] at written
      refine ⟨?_, written⟩
      rcases Nat.lt_or_eq_of_le
          (show opening + 2 ≤ fragments.length from inside) with more | last
      · rcases (followed more).2 with further | closes
        · have opens := outputAt_opening further
          rw [written] at opens
          have next := prefix_of_output more whole opens
          exact absurd (List.cons_prefix_cons.mp next).1 (by decide)
        · exact closes
      · rw [← last, written] at whole
        simp at whole

/-- The parenthesis of a group that owns a name is followed by a closing one in
the output if the source of the name is empty. -/
theorem output_owned (cut : Cut fragments)
    (owned : ownedName? fragments opening = some name) :
    ∃ rest,
      outputAt fragments fragments.length =
          outputAt fragments opening ++ '(' :: rest ∧
        (rest.head? = some ')' ↔
          (stateAt fragments fragments.length).named.get? name = some []) := by
  obtain ⟨text, opened, -⟩ := exists_header owned
  obtain ⟨isOpening, plain⟩ := openedText?_eq_some_iff.mp opened
  have inside := Nat.le_of_lt (List.getElem?_eq_some_iff.mp plain).1
  obtain ⟨rest, whole⟩ := prefix_outputAt fragments inside
  refine ⟨rest, by rw [← whole, outputAt_opening isOpening]; simp, ?_⟩
  constructor
  · intro closes
    obtain ⟨later, rfl⟩ := List.head?_eq_some_iff.mp closes
    obtain ⟨isClosing, nothing⟩ := closing_of_output cut opened whole.symm
    apply get?_stateAt_iff.mpr
    refine ⟨(opening, opening + 2), mem_closedPairs opened isClosing, owned, ?_⟩
    rw [List.append_nil, nothing]
  · intro known
    obtain ⟨pair, closed, same, written⟩ := get?_stateAt_iff.mp known
    obtain rfl := ownedName?_unique owned same
    obtain ⟨-, before, -, isClosing⟩ := (nested_nesting _ _).paired pair closed
    rw [List.append_nil] at written
    have closes := outputAt_closing isClosing
    rw [← written] at closes
    obtain ⟨later, rfl⟩ := prefix_of_output before whole.symm closes
    rfl

end Tracker

namespace Positional

open Fragment Tracker

/-- No recorded source is empty if all references that stand for a whole body
can be resolved.  And the deletion of `()` takes the group that a name belongs
to away if its source is empty, and leaves it otherwise. -/
theorem sources_ne_nil_iff (pattern : Text) :
    ((∀ source ∈ (ofPattern pattern).named.entries.map Prod.snd, source ≠ []) ↔
        ResolvesBodies (split pattern)) ∧
      ∀ opening name, ownedName? (split pattern) opening = some name →
        ∃ rest, outputAt (split pattern) (split pattern).length =
            outputAt (split pattern) opening ++ '(' :: rest ∧
          ((ofPattern pattern).named.get? name ≠ some [] →
            (ofPattern pattern).source =
              removeEmptyGroups (outputAt (split pattern) opening) ++
                '(' :: removeEmptyGroups rest) ∧
          ((ofPattern pattern).named.get? name = some [] →
            ∃ later, rest = ')' :: later ∧
              (ofPattern pattern).source =
                removeEmptyGroups (outputAt (split pattern) opening) ++
                  removeEmptyGroups later) := by
  have cut := Cut.of_split pattern
  constructor
  · rw [named_eq_stateAt]
    constructor
    · intro filled
      apply resolvesBodies_of_sources cut
      intro pair closed name source owned written
      have known := get?_stateAt_iff.mpr ⟨pair, closed, owned, written⟩
      exact filled source (OrderedMap.value_mem_of_get? known)
    · intro resolves source member
      obtain ⟨entry, recorded, rfl⟩ := List.mem_map.mp member
      obtain ⟨pair, closed, owned, written⟩ :=
        (traced_stateAt _ _).sources entry recorded
      exact source_ne_nil cut resolves closed owned written
  · intro opening name owned
    obtain ⟨rest, whole, empty⟩ := output_owned cut owned
    obtain ⟨text, opened, -⟩ := exists_header owned
    have plain := (openedText?_eq_some_iff.mp opened).2
    have inside := Nat.lt_of_succ_lt (List.getElem?_eq_some_iff.mp plain).1
    have source : (ofPattern pattern).source =
        removeEmptyGroups (outputAt (split pattern) opening) ++
          removeEmptyGroups ('(' :: rest) := by
      rw [source_eq_outputAt, whole]
      exact removeEmptyGroups_append (sealed_stateAt cut inside).complete
        (by simp)
    rw [named_eq_stateAt, source]
    refine ⟨rest, whole, ?_, ?_⟩
    · intro filled
      rw [removeEmptyGroups_opening fun closes => filled (empty.mp closes)]
    · intro nothing
      obtain ⟨later, rfl⟩ := List.head?_eq_some_iff.mp (empty.mpr nothing)
      exact ⟨later, rfl, by rw [removeEmptyGroups]⟩

/-- A group that is no more than a reference to an unknown name is deleted, and
its name stands for the group behind it. -/
theorem not_sources_ne_nil_unknown :
    ¬ (∀ source ∈ (ofPattern ['(', '?', '<', 'a', '>', '?', '&', 'u', ')', '(',
      'b', ')']).named.entries.map Prod.snd, source ≠ []) ∧
      (ofPattern ['(', '?', '<', 'a', '>', '?', '&', 'u', ')', '(', 'b',
        ')']).source = ['(', 'b', ')'] ∧
      (ofPattern ['(', '?', '<', 'a', '>', '?', '&', 'u', ')', '(', 'b',
        ')']).groups.entries = [(.name ['a'], 1), (.ordinal 0, 2)] := by
  decide

end Positional

end NamedGroups
