import NamedGroups.NamedRegex.Search
import NamedGroups.Proofs.NamedRegex.Compilation
import NamedGroups.Proofs.Text.Boundaries

/-!
# One match after the other

A text is gone through from match to match: the next search starts where the
last match ended, or behind the character that follows if the match was empty.
All that is asked of the engine is that a search from a boundary finds a match
at or behind it, between two boundaries.  Then the searches get ahead, they come
to an end, and the matches lie apart from each other.
-/

namespace NamedGroups

namespace Match

/-- A match of a text that lies at or behind an offset. -/
structure Within (found : Match) (text : Text) (offset : Nat) : Prop where
  input : found.input = text
  behind : offset ≤ found.start
  ordered : found.start ≤ found.stop
  starts : text.Boundary found.start
  stops : text.Boundary found.stop

theorem resumeOffset_of_empty {found : Match} (empty : found.start = found.stop)
    (text : Text) : found.resumeOffset text = text.nextOffset found.start := by
  rw [resumeOffset, if_pos empty, empty]

namespace Within

variable {found : Match} {text : Text} {offset : Nat}

theorem weaken (within : found.Within text offset) {earlier : Nat}
    (before : earlier ≤ offset) : found.Within text earlier :=
  { within with behind := Nat.le_trans before within.behind }

theorem start_lt_resumeOffset (within : found.Within text offset) :
    found.start < found.resumeOffset text := by
  have ordered := within.ordered
  unfold resumeOffset
  split
  · rename_i empty
    rw [empty]
    exact text.lt_nextOffset found.stop
  · omega

theorem stop_le_resumeOffset (found : Match) (text : Text) :
    found.stop ≤ found.resumeOffset text := by
  unfold resumeOffset
  split
  · exact Nat.le_of_lt (text.lt_nextOffset found.stop)
  · exact Nat.le_refl _

theorem lt_resumeOffset (within : found.Within text offset) :
    offset < found.resumeOffset text :=
  Nat.lt_of_le_of_lt within.behind within.start_lt_resumeOffset

/-- The next search starts from a boundary, or from behind the end of the
text. -/
theorem boundary_resumeOffset (within : found.Within text offset)
    (inside : found.resumeOffset text ≤ text.byteSize) :
    text.Boundary (found.resumeOffset text) := by
  unfold resumeOffset at inside ⊢
  split at inside
  · have further := text.lt_nextOffset found.stop
    simpa [‹found.start = found.stop›] using within.stops.nextOffset (by omega)
  · simpa [‹¬ found.start = found.stop›] using within.stops

end Within

end Match

/-- What is asked of an engine: whatever it finds from a boundary of a text is
at or behind that place, and between two boundaries. -/
def Searches.Forward (searches : Searches) (text : Text) : Prop :=
  ∀ offset slots, text.Boundary offset → searches offset = .ok (some slots) →
    ∃ span : Span, slots.head? = some (some span) ∧ offset ≤ span.start ∧
      span.start ≤ span.stop ∧ text.Boundary span.start ∧
      text.Boundary span.stop

instance (searches : Searches) (text : Text) :
    Decidable (searches.Forward text) :=
  decidable_of_iff (∀ offset ≤ text.byteSize, text.Boundary offset →
    ∀ slots ∈ (searches offset).toOption.join, ∃ span ∈ slots.head?.join,
      offset ≤ span.start ∧ span.start ≤ span.stop ∧ text.Boundary span.start ∧
        text.Boundary span.stop) <| by
    constructor
    · intro checked offset slots here searched
      obtain ⟨span, first, facts⟩ :=
        checked offset here.le_byteSize here slots
          (by simp [searched, Except.toOption])
      exact ⟨span, Option.join_eq_some_iff.mp first, facts⟩
    · intro forward offset _ here slots searched
      obtain ⟨span, first, facts⟩ := forward offset slots here (by
        cases answer : searches offset <;> simp_all [Except.toOption])
      exact ⟨span, by simp [first], facts⟩

namespace Finder

/-- The same of the matches that are made from the answers of an engine. -/
def Forward (find : Finder) (text : Text) : Prop :=
  ∀ offset found, text.Boundary offset → find offset = .ok (some found) →
    found.Within text offset

theorem ofSearches_of_ok {searches : Searches} {offset : Nat}
    {answer : Option (List (Option Span))}
    (answered : searches offset = .ok answer) (text : Text)
    (groups : GroupIndex) :
    ofSearches searches text groups offset =
      .ok (answer.map fun slots => Match.ofSlots text slots groups) := by
  rw [ofSearches, answered]
  rfl

theorem exists_ofSearches {searches : Searches} {offset : Nat}
    (answers : ∃ answer, searches offset = .ok answer) (text : Text)
    (groups : GroupIndex) :
    ∃ answer, ofSearches searches text groups offset = .ok answer := by
  obtain ⟨answer, answered⟩ := answers
  exact ⟨_, ofSearches_of_ok answered text groups⟩

theorem ofSearches_eq_some {searches : Searches} {text : Text}
    {groups : GroupIndex} {offset : Nat} {found : Match}
    (matched : ofSearches searches text groups offset = .ok (some found)) :
    ∃ slots, searches offset = .ok (some slots) ∧
      found = Match.ofSlots text slots groups := by
  unfold ofSearches at matched
  rcases searched : searches offset with error | _ | slots <;>
    rw [searched] at matched <;> cases matched
  exact ⟨slots, rfl, rfl⟩

theorem forward_ofSearches {searches : Searches} {text : Text}
    (forward : searches.Forward text) (groups : GroupIndex) :
    (ofSearches searches text groups).Forward text := by
  intro offset found here matched
  obtain ⟨slots, searched, rfl⟩ := ofSearches_eq_some matched
  obtain ⟨span, first, behind, ordered, starts, stops⟩ :=
    forward offset slots here searched
  have same : (Match.ofSlots text slots groups).span = span := by
    simp [Match.span, Match.ofSlots, first]
  rw [← same] at behind ordered starts stops
  exact ⟨rfl, behind, ordered, starts, stops⟩

/-- The matches of a text from an offset on, each searched for where the one
before leaves off.  Unless they are wanted everywhere, there is no more than the
first one. -/
inductive Successive (find : Finder) (everywhere : Bool) (text : Text) :
    Nat → List Match → Prop where
  | beyond {offset : Nat} :
      text.byteSize < offset → Successive find everywhere text offset []
  | none {offset : Nat} : offset ≤ text.byteSize → find offset = .ok none →
      Successive find everywhere text offset []
  | only {offset : Nat} {found : Match} : offset ≤ text.byteSize →
      find offset = .ok (some found) → everywhere = false →
      Successive find everywhere text offset [found]
  | more {offset : Nat} {found : Match} {others : List Match} :
      offset ≤ text.byteSize → find offset = .ok (some found) →
        everywhere = true →
        Successive find everywhere text (found.resumeOffset text) others →
        Successive find everywhere text offset (found :: others)

/-- The offsets from which the matches of a text are searched for. -/
inductive SearchedFrom (find : Finder) (everywhere : Bool) (text : Text) :
    Nat → Prop where
  | start : SearchedFrom find everywhere text 0
  | resume {offset : Nat} {found : Match} :
      SearchedFrom find everywhere text offset →
        find offset = .ok (some found) → everywhere = true →
        found.resumeOffset text ≤ text.byteSize →
        SearchedFrom find everywhere text (found.resumeOffset text)

variable {find : Finder} {everywhere : Bool} {text : Text} {offset : Nat}

theorem SearchedFrom.le_byteSize
    (searched : SearchedFrom find everywhere text offset) :
    offset ≤ text.byteSize := by
  cases searched with
  | start => exact Nat.zero_le _
  | resume _ _ _ inside => exact inside

namespace Successive

theorem unique {left right : List Match}
    (first : Successive find everywhere text offset left)
    (second : Successive find everywhere text offset right) : left = right := by
  induction first generalizing right with
  | beyond outside => cases second <;> first | rfl | omega
  | none inside nothing => cases second <;> simp_all
  | only inside searched single => cases second <;> first | omega | simp_all
  | @more offset found others inside searched all _ induction =>
      cases second with
      | beyond outside => omega
      | none _ nothing => simp [searched] at nothing
      | only _ _ single => simp [all] at single
      | more _ again _ further =>
          rw [searched] at again
          cases again
          rw [induction further]

/-- Each of the matches is one of the text, at or behind the offset of the first
search. -/
theorem forall_within (forward : find.Forward text) {series : List Match}
    (successive : Successive find everywhere text offset series)
    (here : offset ≤ text.byteSize → text.Boundary offset) :
    ∀ found ∈ series, found.Within text offset := by
  induction successive with
  | beyond _ => simp
  | none _ _ => simp
  | only inside searched _ =>
      simpa using forward _ _ (here inside) searched
  | more inside searched _ _ induction =>
      have within := forward _ _ (here inside) searched
      refine List.forall_mem_cons.mpr ⟨within, fun later member => ?_⟩
      exact (induction within.boundary_resumeOffset later member).weaken
        (Nat.le_of_lt within.lt_resumeOffset)

/-- A match ends before the next one starts, and no two of them start
together. -/
theorem pairwise (forward : find.Forward text) {series : List Match}
    (successive : Successive find everywhere text offset series)
    (here : offset ≤ text.byteSize → text.Boundary offset) :
    series.Pairwise fun earlier later =>
      earlier.stop ≤ later.start ∧ earlier.start < later.start := by
  induction successive with
  | beyond _ => exact .nil
  | none _ _ => exact .nil
  | only _ _ _ => exact List.pairwise_singleton _ _
  | more inside searched _ further induction =>
      have within := forward _ _ (here inside) searched
      refine List.pairwise_cons.mpr
        ⟨fun later member => ?_, induction within.boundary_resumeOffset⟩
      have laterWithin :=
        further.forall_within forward within.boundary_resumeOffset later member
      exact ⟨Nat.le_trans (Match.Within.stop_le_resumeOffset _ _)
        laterWithin.behind,
        Nat.lt_of_lt_of_le within.start_lt_resumeOffset laterWithin.behind⟩

end Successive

/-- If every search is answered, the searches come to an end, since each of them
leaves less of the text. -/
theorem exists_successive (forward : find.Forward text)
    (answers : ∀ offset, SearchedFrom find everywhere text offset →
      ∃ answer, find offset = .ok answer)
    (here : offset ≤ text.byteSize →
      text.Boundary offset ∧ SearchedFrom find everywhere text offset) :
    ∃ series, Successive find everywhere text offset series := by
  induction left : text.byteSize + 1 - offset using Nat.strongRecOn
    generalizing offset with
  | ind left induction =>
      subst left
      by_cases inside : offset ≤ text.byteSize
      · obtain ⟨boundary, searched⟩ := here inside
        obtain ⟨_ | found, answered⟩ := answers offset searched
        · exact ⟨[], .none inside answered⟩
        cases all : everywhere with
        | false => exact ⟨[found], .only inside answered rfl⟩
        | true =>
            subst all
            have within := forward offset found boundary answered
            have ahead := within.lt_resumeOffset
            obtain ⟨others, further⟩ := induction
              (text.byteSize + 1 - found.resumeOffset text) (by omega)
              (fun more => ⟨within.boundary_resumeOffset more,
                .resume searched answered rfl more⟩) rfl
            exact ⟨found :: others, .more inside answered rfl further⟩
      · exact ⟨[], .beyond (by omega)⟩

end Finder

end NamedGroups
