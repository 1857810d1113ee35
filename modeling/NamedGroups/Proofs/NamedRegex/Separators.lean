import NamedGroups.Proofs.NamedRegex.JoinedPieces

/-!
# The separators of a text

Splitting a text loses nothing of it: the pieces and the separators between them
make up the text again.  Every separator ends behind the one in front of it and
starts in front of the end of the text, so an empty match that would cut nothing
off is never one.
-/

namespace NamedGroups.Splitting

/-- A series of separators behind a place. -/
inductive Separates (text : Text) : Nat → List Match → Prop where
  | nil {last : Nat} : Separates text last []
  | cons {last : Nat} {found : Match} {series : List Match} :
      found.Within text last → found.start < text.byteSize → found.stop ≠ last →
        Separates text found.stop series → Separates text last (found :: series)

variable {find : Finder} {text : Text} {last offset : Nat} {series : List Match}

/-- If every search is answered, the pieces are those between a series of
separators, each of which has been found by one of the searches. -/
theorem exists_separators (forward : find.Forward text)
    (answers : ∀ offset < text.byteSize,
      find.SearchedFrom true text offset → ∃ answer, find offset = .ok answer)
    (boundary : text.Boundary last) (passed : last ≤ offset)
    (here :
      offset < text.byteSize →
        text.Boundary offset ∧ find.SearchedFrom true text offset) :
    ∃ series, pieces find text last offset = .ok (separated text last series) ∧
      Separates text last series ∧
      ∀ found ∈ series,
        ∃ start, text.Boundary start ∧ find start = .ok (some found) := by
  induction left : text.byteSize - offset using Nat.strongRecOn
    generalizing last offset with
  | ind left induction =>
      subst left
      by_cases outside : text.byteSize ≤ offset
      · exact ⟨[], pieces_of_outside outside, .nil, by simp⟩
      have inside : offset < text.byteSize := by omega
      obtain ⟨place, searched⟩ := here inside
      obtain ⟨_ | found, answered⟩ := answers offset inside searched
      · exact ⟨[], pieces_of_none inside answered, .nil, by simp⟩
      have within := forward offset found place answered
      by_cases atEnd : text.byteSize ≤ found.start
      · exact ⟨[], pieces_of_atEnd inside answered atEnd, .nil, by simp⟩
      have before : found.start < text.byteSize := by omega
      have ahead := within.lt_resumeOffset
      have resumes : found.resumeOffset text < text.byteSize →
          text.Boundary (found.resumeOffset text) ∧
            find.SearchedFrom true text (found.resumeOffset text) := by
        intro more
        exact ⟨within.boundary_resumeOffset (by omega),
          .resume searched answered rfl (by omega)⟩
      by_cases again : found.stop = last
      · have ordered := within.ordered
        have behind := within.behind
        have empty : found.start = found.stop := by omega
        rw [Match.resumeOffset_of_empty empty] at ahead resumes
        obtain ⟨series, further, separates, searches⟩ :=
          induction _ (by omega) boundary (by omega) resumes rfl
        refine ⟨series, ?_, separates, searches⟩
        rw [pieces_of_stop_eq inside answered before again behind, further]
      · obtain ⟨series, further, separates, searches⟩ :=
          induction _ (by omega) within.stops
            (Match.Within.stop_le_resumeOffset found text) resumes rfl
        refine ⟨found :: series, ?_,
          .cons (within.weaken passed) before again separates, ?_⟩
        · rw [pieces_of_separator inside answered before again ahead, further]
          rfl
        · exact List.forall_mem_cons.mpr ⟨⟨offset, place, answered⟩, searches⟩

theorem length_separated {captures : Nat}
    (sized : ∀ found ∈ series, found.size = captures + 1) (text : Text)
    (last : Nat) :
    (separated text last series).length =
      1 + series.length * (captures + 1) := by
  induction series generalizing last with
  | nil => simp [separated]
  | cons found series induction =>
      rw [List.forall_mem_cons] at sized
      obtain ⟨size, sized⟩ := sized
      have width : found.captures.length = captures := by
        rw [found.length_captures, size, Nat.add_sub_cancel]
      rw [separated, List.length_cons, List.length_append, width,
        induction sized, List.length_cons, Nat.add_mul]
      omega

namespace Separates

/-- The pieces are slices of the text, each from the end of a separator to the
start of the next. -/
theorem between_eq (separates : Separates text last series)
    (boundary : text.Boundary last) :
    between text last series =
      List.zipWith text.slice (last :: series.map Match.stop)
        (series.map Match.start ++ [text.byteSize]) := by
  induction separates with
  | nil => simp [between, boundary.slice_byteSize]
  | cons within _ _ _ induction => simp [between, induction within.stops]

/-- With the separators in between, the pieces make up the text. -/
theorem flatten_between (separates : Separates text last series)
    (boundary : text.Boundary last) :
    (List.zipWith (· ++ ·) (between text last series)
      (series.map Match.text ++ [[]])).flatten = text.dropBytes last := by
  induction separates with
  | nil => simp [between]
  | cons within _ _ _ induction =>
      have others := induction within.stops
      rw [between, List.map_cons, List.cons_append, List.zipWith_cons_cons,
        List.flatten_cons, others]
      exact Replacement.slice_append_text within boundary (Nat.le_refl _)

theorem forall_within (separates : Separates text last series) :
    ∀ found ∈ series, found.Within text last ∧ found.start < text.byteSize ∧
      last < found.stop := by
  induction separates with
  | nil => simp
  | @cons last found series within before other _ induction =>
      have behind := within.behind
      have ordered := within.ordered
      refine List.forall_mem_cons.mpr
        ⟨⟨within, before, by omega⟩, fun later member => ?_⟩
      obtain ⟨further, starts, stops⟩ := induction later member
      exact ⟨further.weaken (by omega), starts, by omega⟩

private theorem pairwise_bounds (separates : Separates text last series)
    (bounded : last ≤ text.byteSize) :
    (last :: series.flatMap (fun found => [found.start, found.stop]) ++
      [text.byteSize]).Pairwise (· ≤ ·) := by
  induction separates with
  | nil => simpa using bounded
  | @cons last found series within before other further induction =>
      have behind := within.behind
      have ordered := within.ordered
      have sorted := induction within.stops.le_byteSize
      have later :
          ∀ place ∈ found.stop :: series.flatMap
            (fun found => [found.start, found.stop]) ++ [text.byteSize],
            found.stop ≤ place := by
        intro place member
        obtain rfl | among := List.mem_cons.mp member
        · exact Nat.le_refl _
        · exact List.rel_of_pairwise_cons sorted among
      refine List.pairwise_cons.mpr ⟨fun place member => ?_,
        List.pairwise_cons.mpr ⟨fun place member => ?_, sorted⟩⟩
      · obtain rfl | among := List.mem_cons.mp member
        · exact behind
        · have := later place among
          omega
      · have := later place member
        omega

/-- An empty separator does not stand at the end of the one in front of it. -/
theorem pairwise_apart (separates : Separates text last series) :
    series.Pairwise fun earlier later =>
      earlier.stop ≤ later.start ∧ earlier.stop < later.stop := by
  induction separates with
  | nil => exact .nil
  | cons _ _ _ further induction =>
      refine List.pairwise_cons.mpr ⟨fun later member => ?_, induction⟩
      obtain ⟨within, -, stops⟩ := further.forall_within later member
      exact ⟨within.behind, stops⟩

end Separates

/-- Where the engine only gets ahead, a text that is not empty is split at a
series of separators.  At every place of a piece there is one, the pieces are
the slices between the separators, and with the separators they make up the
text.  No separator is an empty match at the start or the end of the text, or at
the end of the separator in front of it.  `NamedRegex.split` is this for the
searches of its own engine, of which it makes those in front of the end of the
text. -/
theorem split_conserves_text (searches : Searches) (text : Text)
    (groups : GroupIndex) (captures : Nat) (filled : text ≠ [])
    (forward : searches.Forward text)
    (slots : searches.HasSlots text (captures + 1))
    (answers : ∀ offset < text.byteSize,
      (Finder.ofSearches searches text groups).SearchedFrom true text offset →
        ∃ answer, searches offset = .ok answer)
    (isMatch : Except EngineError Bool) :
    ∃ (separators : List Match) (kept : List Text),
      split isMatch (Finder.ofSearches searches text groups) text =
          .ok (separated text 0 separators) ∧
        (separated text 0 separators).length =
          1 + separators.length * (captures + 1) ∧
        kept.length = separators.length + 1 ∧
        (∀ number, (separated text 0 separators)[number * (captures + 1)]? =
          kept[number]?.map some) ∧
        kept =
          List.zipWith text.slice (0 :: separators.map Match.stop)
            (separators.map Match.start ++ [text.byteSize]) ∧
        (0 :: separators.flatMap (fun found => [found.start, found.stop]) ++
          [text.byteSize]).Pairwise (· ≤ ·) ∧
        (List.zipWith (· ++ ·) kept
          (separators.map Match.text ++ [[]])).flatten = text ∧
        (∀ found ∈ separators, found.Within text 0 ∧
          (∃ offset, text.Boundary offset ∧
            Finder.ofSearches searches text groups offset = .ok (some found)) ∧
          (found.start = found.stop →
            found.start ≠ 0 ∧ found.start ≠ text.byteSize)) ∧
        separators.Pairwise fun earlier later =>
          later.start = later.stop → later.start ≠ earlier.stop := by
  have finds := Finder.forward_ofSearches forward groups
  have start : text.Boundary 0 := .zero text
  obtain ⟨separators, splits, separates, searched⟩ := exists_separators finds
    (fun offset inside searched =>
      Finder.exists_ofSearches (answers offset inside searched) text groups)
    start (Nat.le_refl 0) (fun _ => ⟨start, .start⟩)
  have sized : ∀ found ∈ separators, found.size = captures + 1 := by
    intro found member
    obtain ⟨offset, boundary, matched⟩ := searched found member
    exact slots.size_eq boundary matched
  refine ⟨separators, between text 0 separators,
    by rw [split_of_ne_nil filled isMatch, splits],
    length_separated sized text 0, length_between text 0 separators,
    getElem?_separated sized text 0, separates.between_eq start,
    separates.pairwise_bounds (Nat.zero_le _), ?_, fun found member => ?_, ?_⟩
  · rw [separates.flatten_between start, Text.dropBytes_zero]
  · obtain ⟨within, before, behind⟩ := separates.forall_within found member
    exact ⟨within, searched found member, fun empty => by omega⟩
  · refine separates.pairwise_apart.imp fun apart empty => ?_
    omega

/-- A separator, an empty match behind it that is none, and an empty one that
is. -/
theorem split_conserves_text_commas :
    ∃ regex separators,
      NamedRegex.compile Engine.builtIn (.text ['(', ',', ')', '?']) none =
          .ok regex ∧
        regex.split ['é', ',', 'a', 'b'] =
          .ok (separated ['é', ',', 'a', 'b'] 0 separators) ∧
        regex.split ['é', ',', 'a', 'b'] =
          .ok [some ['é'], some [','], some ['a'], none, some ['b']] ∧
        separators.length = 2 ∧
        (0 ::
          separators.flatMap (fun found : Match => [found.start, found.stop]) ++
          [5]).Pairwise (· ≤ ·) := by
  obtain ⟨regex, compiled, checked⟩ :=
    NamedRegex.exists_of_checked Engine.builtIn
      (.text ['(', ',', ')', '?']) none
      (fun regex =>
        decide ((regex.searches ['é', ',', 'a', 'b']).Forward
          ['é', ',', 'a', 'b']) &&
        decide (∀ offset : Nat, offset < 6 →
          (regex.searches ['é', ',', 'a', 'b'] offset).toOption.isSome ∧
            ∀ slots ∈
              (regex.searches ['é', ',', 'a', 'b'] offset).toOption.join,
              slots.length = 2) &&
        decide ((regex.split ['é', ',', 'a', 'b']).toOption =
          some [some ['é'], some [','], some ['a'], none, some ['b']]))
      (by decide +kernel)
  simp only [Bool.and_eq_true, decide_eq_true_eq] at checked
  obtain ⟨⟨forward, answered⟩, split⟩ := checked
  obtain ⟨separators, kept, splits, length, -, -, -, sorted, -⟩ :=
    split_conserves_text
    (regex.searches ['é', ',', 'a', 'b']) ['é', ',', 'a', 'b'] regex.groups 1
    (by simp) forward
    (fun offset found boundary searched => by
      have inside : offset ≤ 5 := boundary.le_byteSize
      exact (answered offset (by omega)).2 found
        (by simp [searched, Except.toOption]))
    (fun offset inside _ => by
      have inside : offset < 5 := inside
      exact exists_eq_ok_of_isSome (answered offset (by omega)).1)
    (regex.test ['é', ',', 'a', 'b'])
  have same := eq_ok_of_toOption split
  have pieces := Except.ok.inj (splits.symm.trans same)
  rw [pieces] at length
  refine ⟨regex, separators, compiled, splits, same, ?_, sorted⟩
  simp only [List.length_cons, List.length_nil] at length
  omega

end NamedGroups.Splitting
