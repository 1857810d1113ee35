import NamedGroups.NamedRegex.Split
import NamedGroups.Proofs.NamedRegex.FirstMatches
import NamedGroups.Proofs.NamedRegex.SuccessiveMatches

/-!
# Splitting by trying each place

A text can be split by trying the pattern at one place after the other: where it
matches, a piece ends, unless the match ends where the piece has started.
Searching for the separators gives the same pieces, whatever the pattern does at
each place, as long as a search finds the match at the first place that has one.
-/

namespace NamedGroups

/-- What a pattern does when it is tried at each place of a text: where it ends,
and what its capture groups cover. -/
structure Attempts (text : Text) where
  attempt : Nat → Option (Nat × List (Option Span))
  stops : ∀ {place stop spans}, attempt place = some (stop, spans) →
    place ≤ stop ∧ text.Boundary stop

namespace Attempts

variable {text : Text} (attempts : Attempts text)

def captured (text : Text) (spans : List (Option Span)) : List (Option Text) :=
  spans.map (Option.map fun span => text.slice span.start span.stop)

/-- The pieces from `last` on, where the pattern is tried next at `place`. -/
def pieces (last place : Nat) : List (Option Text) :=
  if _inside : place < text.byteSize then
    match _tried : attempts.attempt place with
    | none => pieces last (text.nextOffset place)
    | some (stop, spans) =>
        if stop = last then pieces last (text.nextOffset place)
        else
          some (text.slice last place) ::
            (captured text spans ++ pieces stop stop)
  else [some (text.dropBytes last)]
termination_by (text.byteSize - place, if last = place then 0 else 1)
decreasing_by
  · have := text.lt_nextOffset place
    exact .left _ _ (by omega)
  · have := text.lt_nextOffset place
    exact .left _ _ (by omega)
  · have ordered := (attempts.stops _tried).1
    by_cases ahead : place < stop
    · exact .left _ _ (by omega)
    · obtain rfl : place = stop := by omega
      have started : ¬ last = place := by omega
      simp only [started, if_true, if_false]
      exact .right _ (by decide)

/-- The pieces of the text, by trying the pattern at each place. -/
def split : List (Option Text) :=
  if text.isEmpty then
    if (attempts.attempt 0).isSome then [] else [some text]
  else attempts.pieces 0 0

def FailsBetween (start bound : Nat) : Prop :=
  ∀ place, text.Boundary place → start ≤ place → place < bound →
    attempts.attempt place = none

end Attempts

/-- Whether a search from a boundary finds the match at the first place that has
one. -/
def Searches.Leftmost (searches : Searches) {text : Text}
    (attempts : Attempts text) : Prop :=
  ∀ offset, text.Boundary offset →
    (searches offset = .ok none ∧
      attempts.FailsBetween offset (text.byteSize + 1)) ∨
      ∃ place stop spans, text.Boundary place ∧ offset ≤ place ∧
        attempts.FailsBetween offset place ∧
        attempts.attempt place = some (stop, spans) ∧
        searches offset = .ok (some (some ⟨place, stop⟩ :: spans))

namespace Attempts

variable {text : Text} {attempts : Attempts text}

theorem pieces_of_outside {place : Nat} (outside : text.byteSize ≤ place)
    (last : Nat) :
    attempts.pieces last place = [some (text.dropBytes last)] := by
  rw [pieces, dif_neg (by omega)]

/-- Where the pattern fails, the next place is tried. -/
theorem pieces_of_none {place : Nat} (inside : place < text.byteSize)
    (fails : attempts.attempt place = none) (last : Nat) :
    attempts.pieces last place =
      attempts.pieces last (text.nextOffset place) := by
  rw [pieces, dif_pos inside]
  split
  · rfl
  · simp_all

theorem pieces_of_stop_eq {place last : Nat} {spans : List (Option Span)}
    (inside : place < text.byteSize)
    (tried : attempts.attempt place = some (last, spans)) :
    attempts.pieces last place =
      attempts.pieces last (text.nextOffset place) := by
  rw [pieces, dif_pos inside]
  split
  · rfl
  · simp_all

theorem pieces_of_stop_ne {place last stop : Nat} {spans : List (Option Span)}
    (inside : place < text.byteSize)
    (tried : attempts.attempt place = some (stop, spans))
    (other : stop ≠ last) :
    attempts.pieces last place =
      some (text.slice last place) ::
        (captured text spans ++ attempts.pieces stop stop) := by
  rw [pieces, dif_pos inside]
  split
  · simp_all
  · rename_i again
    rw [tried] at again
    cases again
    rw [if_neg other]

/-- Places where the pattern fails are passed over. -/
theorem pieces_skip {start bound : Nat} (here : text.Boundary start)
    (later : text.Boundary bound) (ordered : start ≤ bound)
    (fails : attempts.FailsBetween start bound) (last : Nat) :
    attempts.pieces last start = attempts.pieces last bound := by
  induction distance : bound - start using Nat.strongRecOn
    generalizing start with
  | ind distance induction =>
      subst distance
      by_cases same : start = bound
      · rw [same]
      · have before : start < bound := by omega
        have inside : start < text.byteSize :=
          Nat.lt_of_lt_of_le before later.le_byteSize
        have ahead := text.lt_nextOffset start
        have within := here.nextOffset_le later before
        rw [pieces_of_none inside (fails start here (Nat.le_refl _) before)]
        exact induction (bound - text.nextOffset start) (by omega)
          (here.nextOffset inside) within
          (fun place boundary behind => fails place boundary (by omega)) rfl

end Attempts

namespace Splitting

variable {find : Finder} {text : Text} {last offset : Nat} {found : Match}

theorem pieces_of_outside (outside : text.byteSize ≤ offset) :
    pieces find text last offset = .ok [some (text.dropBytes last)] := by
  rw [pieces, dif_neg (by omega)]

theorem pieces_of_none (inside : offset < text.byteSize)
    (nothing : find offset = .ok none) :
    pieces find text last offset = .ok [some (text.dropBytes last)] := by
  rw [pieces, dif_pos inside, nothing]

/-- A match at the end of the text is no separator. -/
theorem pieces_of_atEnd (inside : offset < text.byteSize)
    (matched : find offset = .ok (some found))
    (atEnd : text.byteSize ≤ found.start) :
    pieces find text last offset = .ok [some (text.dropBytes last)] := by
  rw [pieces, dif_pos inside, matched]
  exact if_pos atEnd

theorem pieces_of_stop_eq (inside : offset < text.byteSize)
    (matched : find offset = .ok (some found))
    (before : found.start < text.byteSize) (started : found.stop = last)
    (ahead : offset ≤ found.start) :
    pieces find text last offset =
      pieces find text last (text.nextOffset found.start) := by
  have further := text.lt_nextOffset found.start
  rw [pieces, dif_pos inside, matched]
  dsimp only
  rw [if_neg (by omega), if_pos started, dif_pos (by omega)]

theorem pieces_of_separator (inside : offset < text.byteSize)
    (matched : find offset = .ok (some found))
    (before : found.start < text.byteSize) (other : found.stop ≠ last)
    (ahead : offset < found.resumeOffset text) :
    pieces find text last offset =
      (pieces find text found.stop (found.resumeOffset text)).map fun others =>
        some (text.slice last found.start) :: (found.captures ++ others) := by
  rw [pieces, dif_pos inside, matched]
  dsimp only
  rw [if_neg (by omega), if_neg other, dif_pos ahead]
  rfl

section Leftmost

variable {attempts : Attempts text} {searches : Searches}

private theorem captures_ofSlots (span : Span) (spans : List (Option Span))
    (groups : GroupIndex) :
    (Match.ofSlots text (some span :: spans) groups).captures =
      Attempts.captured text spans := by
  apply List.ext_getElem?
  intro position
  by_cases inside : position < spans.length
  · simp [Match.captures, Match.size, Match.ofSlots, Match.get?, Match.slotText,
      Attempts.captured, inside]
  · simp [Match.captures, Match.size, Match.ofSlots, Attempts.captured, inside]

private theorem exists_match {place stop : Nat} {spans : List (Option Span)}
    (searched : searches offset = .ok (some (some ⟨place, stop⟩ :: spans)))
    (text : Text) (groups : GroupIndex) :
    ∃ found, Finder.ofSearches searches text groups offset = .ok (some found) ∧
      found.start = place ∧ found.stop = stop ∧
      found.captures = Attempts.captured text spans :=
  ⟨_, Finder.ofSearches_of_ok searched text groups, rfl, rfl,
    captures_ofSlots _ _ _⟩

/-- The search for separators keeps in step with the trials. -/
theorem pieces_eq_pieces (leftmost : searches.Leftmost attempts)
    (groups : GroupIndex) (here : offset < text.byteSize → text.Boundary offset)
    (passed : last ≤ offset) :
    pieces (Finder.ofSearches searches text groups) text last offset =
      .ok (attempts.pieces last offset) := by
  induction left : text.byteSize - offset using Nat.strongRecOn
    generalizing last offset with
  | ind left induction =>
      subst left
      by_cases outside : text.byteSize ≤ offset
      · rw [pieces_of_outside outside, Attempts.pieces_of_outside outside]
      have inside : offset < text.byteSize := by omega
      obtain ⟨nothing, fails⟩ |
          ⟨place, stop, spans, boundary, behind, fails, tried, searched⟩ :=
        leftmost offset (here inside)
      · have passes : attempts.FailsBetween offset text.byteSize :=
          fun place boundary later before =>
            fails place boundary later (by omega)
        rw [pieces_of_none inside (Finder.ofSearches_of_ok nothing text groups),
          Attempts.pieces_skip (here inside) (.whole text) (by omega) passes,
          Attempts.pieces_of_outside (Nat.le_refl _)]
      obtain ⟨found, matched, rfl, rfl, captures⟩ :=
        exists_match searched text groups
      have ordered := (attempts.stops tried).1
      have further := text.lt_nextOffset found.start
      rw [Attempts.pieces_skip (here inside) boundary behind fails]
      by_cases atEnd : text.byteSize ≤ found.start
      · rw [pieces_of_atEnd inside matched atEnd,
          Attempts.pieces_of_outside atEnd]
      have before : found.start < text.byteSize := by omega
      by_cases again : found.stop = last
      · rw [pieces_of_stop_eq inside matched before again behind]
        rw [again] at tried
        rw [Attempts.pieces_of_stop_eq before tried]
        exact induction _ (by omega) (fun _ => boundary.nextOffset before)
          (by omega) rfl
      rw [Attempts.pieces_of_stop_ne before tried again, ← captures]
      by_cases empty : found.start = found.stop
      · have resume :
            found.resumeOffset text = text.nextOffset found.start := by
          rw [Match.resumeOffset, if_pos empty, empty]
        rw [pieces_of_separator inside matched before again (by omega), resume,
          induction _ (by omega) (fun _ => boundary.nextOffset before)
            (by omega) rfl]
        rw [← empty] at tried ⊢
        rw [Attempts.pieces_of_stop_eq before tried]
        rfl
      · have resume : found.resumeOffset text = found.stop := if_neg empty
        rw [pieces_of_separator inside matched before again (by omega), resume,
          induction _ (by omega) (fun _ => (attempts.stops tried).2)
            (Nat.le_refl _) rfl]
        rfl

end Leftmost

theorem split_nil (isMatch : Except EngineError Bool) (find : Finder) :
    split isMatch find [] =
      isMatch.map fun matched => if matched then [] else [some []] := by
  cases isMatch <;>
    simp [split, Except.map, bind, Except.bind, pure, Except.pure]

theorem split_of_ne_nil (filled : text ≠ [])
    (isMatch : Except EngineError Bool) :
    split isMatch find text = pieces find text 0 0 :=
  if_neg (by simpa using filled)

/-- Splitting by searches gives the pieces that trying each place of the text
gives, if a question for a match is answered as the search from the start is. -/
theorem split_eq_split (text : Text) (attempts : Attempts text)
    (searches : Searches) (leftmost : searches.Leftmost attempts)
    (isMatch : Except EngineError Bool) (asked : searches.Tells isMatch)
    (groups : GroupIndex) :
    split isMatch (Finder.ofSearches searches text groups) text =
      .ok attempts.split := by
  cases text with
  | nil =>
      obtain ⟨nothing, fails⟩ |
          ⟨place, stop, spans, boundary, -, -, tried, searched⟩ :=
        leftmost 0 (.zero _)
      · have untried : attempts.attempt 0 = none :=
          fails 0 (.zero _) (by simp) (by simp)
        rw [split_nil, asked _ nothing, Attempts.split, untried]
        rfl
      · obtain rfl : place = 0 := Nat.le_zero.mp boundary.le_byteSize
        rw [split_nil, asked _ searched, Attempts.split, tried]
        rfl
  | cons character rest =>
      exact pieces_eq_pieces leftmost groups (fun _ => .zero _) (Nat.le_refl 0)

def optionalAttempts : Attempts ['é', 'b', 'c'] where
  attempt place :=
    if place = 2 then some (3, [some ⟨2, 3⟩])
    else if place = 0 ∨ place = 3 ∨ place = 4 then some (place, [none])
    else none
  stops := by
    intro place stop spans tried
    split at tried
    · cases tried
      subst place
      decide
    · split at tried
      · rename_i isPlace
        cases tried
        obtain rfl | rfl | rfl := isPlace <;> decide
      · cases tried

theorem split_eq_split_optional : ∃ regex,
    NamedRegex.compile Engine.builtIn (.text ['(', 'b', ')', '?']) none =
        .ok regex ∧
      regex.split ['é', 'b', 'c'] = .ok optionalAttempts.split ∧
      optionalAttempts.split = [some ['é'], some ['b'], some ['c']] := by
  obtain ⟨regex, compiled, checked⟩ :=
    NamedRegex.exists_of_checked Engine.builtIn
      (.text ['(', 'b', ')', '?']) none
      (fun regex =>
        ([0, 2, 3, 4].all fun offset =>
          (optionalAttempts.attempt offset).any fun (stop, spans) =>
            (regex.searches ['é', 'b', 'c'] offset).toOption ==
              some (some (some ⟨offset, stop⟩ :: spans))) &&
        (regex.split ['é', 'b', 'c']).toOption ==
          some [some ['é'], some ['b'], some ['c']])
      (by decide +kernel)
  simp only [Bool.and_eq_true, List.all_eq_true, Option.any_eq_true, beq_iff_eq]
    at checked
  obtain ⟨searched, pieces⟩ := checked
  have places : ∀ offset ≤ 4,
      Text.Boundary ['é', 'b', 'c'] offset → offset ∈ [0, 2, 3, 4] := by
    decide
  have refines := split_eq_split ['é', 'b', 'c'] optionalAttempts
    (regex.searches ['é', 'b', 'c']) (fun offset boundary => .inr (by
      obtain ⟨⟨stop, spans⟩, tried, answered⟩ :=
        searched offset (places offset boundary.le_byteSize boundary)
      refine ⟨offset, stop, spans, boundary, Nat.le_refl _, ?_, tried,
        eq_ok_of_toOption answered⟩
      intro place _ behind before
      omega)) (regex.test ['é', 'b', 'c'])
    (Engine.builtIn_agreesOnFirst.tells regex ['é', 'b', 'c']) regex.groups
  refine ⟨regex, compiled, refines, ?_⟩
  have same := congrArg Except.toOption refines
  exact Option.some.inj (same.symm.trans pieces)

end Splitting

end NamedGroups
