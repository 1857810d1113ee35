import NamedGroups.Proofs.NamedRegex.AnchoredSplitting
import NamedGroups.Proofs.NamedRegex.SplicedMatches

/-!
# Joining the pieces of a text

Where no match is empty, splitting a text goes through the same matches as
replacing all of them.  So the pieces between the separators, joined with a
text, are the text in which each match is replaced by that text, whatever is in
it.
-/

namespace NamedGroups

/-- Whether all matches have the given number of slots. -/
def Searches.HasSlots (searches : Searches) (text : Text) (count : Nat) :
    Prop :=
  ∀ offset slots, text.Boundary offset → searches offset = .ok (some slots) →
    slots.length = count

theorem Searches.HasSlots.size_eq {searches : Searches} {text : Text}
    {count : Nat} (slots : searches.HasSlots text count) {groups : GroupIndex}
    {offset : Nat} (boundary : text.Boundary offset) {found : Match}
    (matched :
      Finder.ofSearches searches text groups offset = .ok (some found)) :
    found.size = count := by
  obtain ⟨_, answered, rfl⟩ := Finder.ofSearches_eq_some matched
  exact slots offset _ boundary answered

/-- Whether no match is empty. -/
def Searches.Nonempty (searches : Searches) (text : Text) : Prop :=
  ∀ offset slots span, text.Boundary offset →
    searches offset = .ok (some slots) → slots.head? = some (some span) →
    span.start ≠ span.stop

namespace Finder.Successive

variable {find : Finder} {everywhere : Bool} {text : Text} {offset : Nat}
    {series : List Match}

theorem exists_search (forward : find.Forward text)
    (successive : Successive find everywhere text offset series)
    (here : offset ≤ text.byteSize → text.Boundary offset) :
    ∀ found ∈ series,
      ∃ start, text.Boundary start ∧ find start = .ok (some found) := by
  induction successive with
  | beyond _ => simp
  | none _ _ => simp
  | only inside searched _ => simpa using ⟨_, here inside, searched⟩
  | more inside searched _ _ induction =>
      have within := forward _ _ (here inside) searched
      exact List.forall_mem_cons.mpr
        ⟨⟨_, here inside, searched⟩, induction within.boundary_resumeOffset⟩

end Finder.Successive

theorem Match.length_captures (found : Match) :
    found.captures.length = found.size - 1 := by
  simp [captures]

namespace Splitting

/-- The pieces of a text from `last` on that has the given separators. -/
def separated (text : Text) (last : Nat) : List Match → List (Option Text)
  | [] => [some (text.dropBytes last)]
  | found :: series =>
      some (text.slice last found.start) ::
        (found.captures ++ separated text found.stop series)

def between (text : Text) (last : Nat) : List Match → List Text
  | [] => [text.dropBytes last]
  | found :: series =>
      text.slice last found.start :: between text found.stop series

theorem length_between (text : Text) (last : Nat) (series : List Match) :
    (between text last series).length = series.length + 1 := by
  induction series generalizing last with
  | nil => rfl
  | cons found series induction => simp [between, induction]

/-- Between one piece and the next one stand the texts of the capture groups. -/
theorem getElem?_separated {captures : Nat} {series : List Match}
    (sized : ∀ found ∈ series, found.size = captures + 1) (text : Text)
    (last number : Nat) :
    (separated text last series)[number * (captures + 1)]? =
      (between text last series)[number]?.map some := by
  induction series generalizing last number with
  | nil => cases number <;> simp [separated, between, Nat.add_mul]
  | cons found series induction =>
      rw [List.forall_mem_cons] at sized
      obtain ⟨size, sized⟩ := sized
      have width : found.captures.length = captures := by
        rw [found.length_captures, size, Nat.add_sub_cancel]
      cases number with
      | zero => simp [separated, between]
      | succ number =>
          have place : (number + 1) * (captures + 1) =
              found.captures.length + number * (captures + 1) + 1 := by
            rw [width, Nat.add_mul]
            omega
          rw [separated, between, place, List.getElem?_cons_succ,
            List.getElem?_append_right (Nat.le_add_right _ _),
            Nat.add_sub_cancel_left, induction sized, List.getElem?_cons_succ]

/-- Joining what is between the separators puts the same text in the place of
each. -/
theorem intercalate_between (text inserted : Text) (last : Nat)
    (series : List Match) :
    List.intercalate inserted (between text last series) =
      Replacement.splice text last series (series.map fun _ => inserted) := by
  induction series generalizing last with
  | nil => simp [between, Replacement.splice]
  | cons found series induction =>
      rw [List.map_cons, Replacement.splice, ← induction]
      cases series <;> simp [between, List.intercalate_cons_cons]

variable {find : Finder} {text : Text} {series : List Match}

/-- Where no match is empty, the separators are the matches that follow one
another. -/
theorem pieces_eq_separated (forward : find.Forward text) {offset : Nat}
    (successive : find.Successive true text offset series)
    (nonempty : ∀ found ∈ series, found.start ≠ found.stop)
    (here : offset ≤ text.byteSize → text.Boundary offset) :
    pieces find text offset offset = .ok (separated text offset series) := by
  induction successive with
  | beyond outside => exact pieces_of_outside (Nat.le_of_lt outside)
  | @none offset inside nothing =>
      by_cases atEnd : text.byteSize ≤ offset
      · exact pieces_of_outside atEnd
      · exact pieces_of_none (by omega) nothing
  | only _ _ single => cases single
  | @more offset found others inside searched _ _ induction =>
      rw [List.forall_mem_cons] at nonempty
      obtain ⟨filled, nonempty⟩ := nonempty
      have within := forward _ _ (here inside) searched
      have behind := within.behind
      have ordered := within.ordered
      have bound := within.stops.le_byteSize
      have resume : found.resumeOffset text = found.stop := if_neg filled
      have further := induction nonempty within.boundary_resumeOffset
      rw [resume] at further
      rw [pieces_of_separator (by omega) searched (by omega) (by omega)
        (by omega), resume, further]
      rfl

private theorem split_eq_separated (forward : find.Forward text)
    (successive : find.Successive true text 0 series)
    (nonempty : ∀ found ∈ series, found.start ≠ found.stop)
    {isMatch : Except EngineError Bool}
    (asked : find 0 = .ok none → isMatch = .ok false) :
    split isMatch find text = .ok (separated text 0 series) := by
  cases text with
  | cons character rest =>
      exact pieces_eq_separated forward successive nonempty fun _ => .zero _
  | nil =>
      rw [split_nil]
      cases successive with
      | beyond outside => cases outside
      | none _ nothing =>
          rw [asked nothing]
          rfl
      | only _ _ single => cases single
      | @more _ found others _ searched _ _ =>
          have within := forward 0 found (.zero _) searched
          have starts : found.start = 0 :=
            Nat.le_zero.mp within.starts.le_byteSize
          have stops : found.stop = 0 := Nat.le_zero.mp within.stops.le_byteSize
          exact absurd (starts.trans stops.symm)
            (nonempty found List.mem_cons_self)

/-- Where the engine only gets ahead and finds no empty match, the pieces that
stand between the separators of a text, joined with another text, are the text
in which that one is written in the place of each match.  `NamedRegex.split` and
`NamedRegex.replace` are these for the searches of their own engine. -/
theorem split_joined_eq_replace (searches : Searches) (text : Text)
    (groups : GroupIndex) (captures : Nat) (forward : searches.Forward text)
    (nonempty : searches.Nonempty text)
    (slots : searches.HasSlots text (captures + 1))
    (answers : ∀ offset,
      (Finder.ofSearches searches text groups).SearchedFrom true text offset →
        ∃ answer, searches offset = .ok answer)
    (isMatch : Except EngineError Bool) (asked : searches.Tells isMatch)
    (inserted : Text) :
    ∃ (pieces : List (Option Text)) (joined : List Text) (count : Nat),
      split isMatch (Finder.ofSearches searches text groups) text = .ok pieces ∧
        (∀ number,
          pieces[number * (captures + 1)]? = joined[number]?.map some) ∧
        joined.length = count + 1 ∧
        ∀ {m : Type → Type} [Monad m] [LawfulMonad m],
          Replacement.replace (m := m) (Finder.ofSearches searches text groups)
              groups true text (.literal inserted) =
            pure (.ok ⟨List.intercalate inserted joined, count⟩) := by
  have finds := Finder.forward_ofSearches forward groups
  obtain ⟨series, successive⟩ := Finder.exists_successive finds
    (fun offset searched =>
      Finder.exists_ofSearches (answers offset searched) text groups)
    (fun _ => ⟨.zero text, .start⟩)
  have searched := successive.exists_search finds fun _ => .zero text
  have filled : ∀ found ∈ series, found.start ≠ found.stop := by
    intro found member
    obtain ⟨offset, boundary, matched⟩ := searched found member
    obtain ⟨slots, answered, rfl⟩ := Finder.ofSearches_eq_some matched
    obtain ⟨span, first, -⟩ := forward offset slots boundary answered
    have apart := nonempty offset slots span boundary answered first
    simpa [Match.start, Match.stop, Match.span, Match.ofSlots, first]
      using apart
  have sized : ∀ found ∈ series, found.size = captures + 1 := by
    intro found member
    obtain ⟨offset, boundary, matched⟩ := searched found member
    exact slots.size_eq boundary matched
  have untold : Finder.ofSearches searches text groups 0 = .ok none →
      isMatch = .ok false := by
    intro nothing
    obtain ⟨answer, answered⟩ := answers 0 .start
    rw [Finder.ofSearches_of_ok answered] at nothing
    rw [asked answer answered,
      Option.map_eq_none_iff.mp (Except.ok.inj nothing)]
    rfl
  refine ⟨separated text 0 series, between text 0 series, series.length,
    split_eq_separated finds successive filled untold,
    getElem?_separated sized text 0,
    length_between text 0 series, ?_⟩
  intro m _ _
  rw [Replacement.replace_eq_ofSeries finds successive, intercalate_between]
  simp [Replacer.literal, Replacement.ofSeries]

/-- Two separators side by side, one of them without a capture, and one at the
end of the text. -/
theorem split_joined_eq_replace_adjacent :
    ∃ regex joined count,
      NamedRegex.compile Engine.builtIn (.text ['(', 'b', ')', '|', 'c', '+'])
            (some ['g']) = .ok regex ∧
        regex.split ['a', 'b', 'c', 'c', 'é', 'b'] =
          .ok [some ['a'], some ['b'], some [], none, some ['é'], some ['b'],
            some []] ∧
        joined = [['a'], [], ['é'], []] ∧
        regex.replace (m := Id) ['a', 'b', 'c', 'c', 'é', 'b']
            (.literal ['$', '1']) =
          .ok ⟨List.intercalate ['$', '1'] joined, count⟩ := by
  obtain ⟨regex, compiled, checked⟩ :=
    NamedRegex.exists_of_checked Engine.builtIn
      (.text ['(', 'b', ')', '|', 'c', '+']) (some ['g']) (fun regex =>
        regex.flags.global &&
          decide ((regex.searches ['a', 'b', 'c', 'c', 'é', 'b']).Forward
            ['a', 'b', 'c', 'c', 'é', 'b']) &&
          decide (∀ offset : Nat, offset < 8 →
            (regex.searches ['a', 'b', 'c', 'c', 'é', 'b']
              offset).toOption.isSome ∧
              ∀ slots ∈ (regex.searches ['a', 'b', 'c', 'c', 'é', 'b']
                offset).toOption.join, slots.length = 2 ∧
                ∀ span ∈ slots.head?.join, span.start ≠ span.stop) &&
          decide ((regex.split ['a', 'b', 'c', 'c', 'é', 'b']).toOption =
            some [some ['a'], some ['b'], some [], none, some ['é'], some ['b'],
              some []])) (by decide +kernel)
  simp only [Bool.and_eq_true, decide_eq_true_eq] at checked
  obtain ⟨⟨⟨everywhere, forward⟩, answered⟩, split⟩ := checked
  obtain ⟨pieces, joined, count, splits, places, length, replaces⟩ :=
    split_joined_eq_replace
    (regex.searches ['a', 'b', 'c', 'c', 'é', 'b'])
    ['a', 'b', 'c', 'c', 'é', 'b'] regex.groups 1 forward
    (fun offset found span boundary searched first => by
      have inside : offset ≤ 7 := boundary.le_byteSize
      exact ((answered offset (by omega)).2 found
        (by simp [searched, Except.toOption])).2 span (by simp [first]))
    (fun offset found boundary searched => by
      have inside : offset ≤ 7 := boundary.le_byteSize
      exact ((answered offset (by omega)).2 found
        (by simp [searched, Except.toOption])).1)
    (fun offset searched => by
      have inside : offset ≤ 7 := searched.le_byteSize
      exact exists_eq_ok_of_isSome (answered offset (by omega)).1)
    (regex.test ['a', 'b', 'c', 'c', 'é', 'b'])
    (Engine.builtIn_agreesOnFirst.tells regex _) ['$', '1']
  have same := eq_ok_of_toOption split
  obtain rfl := Except.ok.inj (splits.symm.trans same)
  refine ⟨regex, joined, count, compiled, same, ?_, ?_⟩
  · apply List.ext_getElem?
    intro number
    apply (Option.map_inj_right fun _ _ => Option.some.inj).mp
    rw [← places]
    rcases number with _ | _ | _ | _ | number
    · rfl
    · rfl
    · rfl
    · rfl
    · simp
      omega
  · have replaced := replaces (m := Id)
    rw [NamedRegex.replace, everywhere]
    exact replaced

end Splitting

end NamedGroups
