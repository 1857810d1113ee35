import NamedGroups.Proofs.NamedRegex.NamedCaptures
import NamedGroups.Proofs.NamedRegex.SlotCount
import NamedGroups.Proofs.Tracker.Pasting

/-!
# Slots and pasted groups

The index numbers the capture groups of the pattern, and the engine those of the
source.  A source that stands in the place of a reference may bring capture
groups of its own, which the index does not count: a match gets a slot for each
of them, and every later group of the pattern is in a later slot than its number
tells.  Groups that the engine gives no slot count the other way.
-/

namespace NamedGroups

open Fragment

namespace Origin

/-- The place of a capture group of the pattern among the opening parentheses of
the source. -/
def place : List Origin → Nat → Nat
  | [], _ => 0
  | .own :: _, 0 => 0
  | .own :: origins, number + 1 => place origins number + 1
  | _ :: origins, number => place origins number + 1

def pastedBefore (origins : List Origin) (number : Nat) : Nat :=
  (origins.take (place origins number)).count (.pasted true)

theorem count_captures_take {origins : List Origin} {number : Nat}
    (inside : number < origins.count .own) :
    ((origins.map captures).take (place origins number + 1)).count true =
      number + 1 + pastedBefore origins number := by
  induction origins generalizing number with
  | nil => simp at inside
  | cons origin origins induction =>
      cases origin with
      | own =>
          cases number with
          | zero => simp [place, pastedBefore, captures]
          | succ number =>
              have later := @induction number (by simpa using inside)
              simp only [pastedBefore] at later
              simp [place, pastedBefore, captures, later]
              omega
      | cluster =>
          have later := @induction number (by simpa using inside)
          simp only [pastedBefore] at later
          simp [place, pastedBefore, captures, later]
      | pasted capturing =>
          have later := @induction number (by simpa using inside)
          simp only [pastedBefore] at later
          cases capturing <;> simp [place, pastedBefore, captures, later]
          omega

theorem getElem?_place {origins : List Origin} {number : Nat}
    (inside : number < origins.count .own) :
    origins[place origins number]? = some .own := by
  induction origins generalizing number with
  | nil => simp at inside
  | cons origin origins induction =>
      cases origin with
      | own =>
          cases number with
          | zero => rfl
          | succ number =>
              have later := @induction number (by simpa using inside)
              simpa [place] using later
      | cluster =>
          have later := @induction number (by simpa using inside)
          simpa [place] using later
      | pasted capturing =>
          have later := @induction number (by simpa using inside)
          simpa [place] using later

theorem pastedBefore_le (origins : List Origin) (number : Nat) :
    pastedBefore origins number ≤ origins.count (.pasted true) :=
  (List.take_sublist _ _).count_le _

theorem count_captures (origins : List Origin) :
    (origins.map captures).count true =
      origins.count .own + origins.count (.pasted true) := by
  induction origins with
  | nil => rfl
  | cons origin origins induction =>
      cases origin with
      | own =>
          simp [captures, induction]
          omega
      | cluster => simp [captures, induction]
      | pasted capturing =>
          cases capturing <;> simp [captures, induction]
          omega

end Origin

/-- The number of places that only the second list marks. -/
def missedMarks (marks others : List Bool) : Nat :=
  (marks.zip others).count (false, true)

private theorem count_add_missedMarks {marks others : List Bool}
    (implies : List.Forall₂ (fun mark other => mark = true → other = true)
      marks others) :
    marks.count true + missedMarks marks others = others.count true := by
  induction implies with
  | nil => rfl
  | @cons mark other marks others here _ induction =>
      unfold missedMarks at induction ⊢
      cases mark <;> cases other
      · simpa using induction
      · simp
        omega
      · simp at here
      · simp
        omega

private theorem missedMarks_take_le (marks others : List Bool) (count : Nat) :
    missedMarks (marks.take count) (others.take count) ≤
      missedMarks marks others := by
  rw [missedMarks, List.zip, ← List.take_zipWith]
  exact (List.take_sublist _ _).count_le _

private theorem getElem?_of_missedMarks_eq_zero {marks others : List Bool}
    (paired : marks.length = others.length)
    (none_missed : missedMarks marks others = 0) {place : Nat}
    (marked : others[place]? = some true) : marks[place]? = some true := by
  obtain ⟨inside, -⟩ := List.getElem?_eq_some_iff.mp marked
  obtain ⟨mark, found⟩ : ∃ mark, marks[place]? = some mark :=
    ⟨_, List.getElem?_eq_getElem (paired ▸ inside)⟩
  cases mark with
  | true => exact found
  | false =>
      have both : (marks.zip others)[place]? = some (false, true) := by
        rw [List.getElem?_zip_eq_some]
        exact ⟨found, marked⟩
      exact absurd (List.mem_of_getElem? both)
        (List.count_eq_zero.mp none_missed)

namespace NamedRegex

variable {engine : RegexEngine}

/-- The opening parentheses of the source that look like capture groups. -/
def captureMarks (regex : NamedRegex engine) : List Bool :=
  (Positional.origins regex.pattern).map Origin.captures

def placeOf (regex : NamedRegex engine) (number : Nat) : Nat :=
  Origin.place (Positional.origins regex.pattern) (number - 1)

/-- The number of capture groups that references bring. -/
def pastedGroups (regex : NamedRegex engine) : Nat :=
  (Positional.origins regex.pattern).count (.pasted true)

/-- The number of them in front of a capture group of the pattern. -/
def pastedBefore (regex : NamedRegex engine) (number : Nat) : Nat :=
  Origin.pastedBefore (Positional.origins regex.pattern) (number - 1)

section Marks

variable (regex : NamedRegex engine) (marks : Text → List Bool)

/-- The number of groups of the source for which the engine has no slot. -/
def lostGroups : Nat :=
  missedMarks (regex.sourceMarks marks) regex.captureMarks

/-- The number of them up to a capture group of the pattern. -/
def lostUpTo (number : Nat) : Nat :=
  missedMarks ((regex.sourceMarks marks).take (regex.placeOf number + 1))
    (regex.captureMarks.take (regex.placeOf number + 1))

/-- The slot of a capture group of the pattern, if the engine has one for it. -/
def slotOf (number : Nat) : Option Nat :=
  if (regex.sourceMarks marks)[regex.placeOf number]? = some true then
    some
      (((regex.sourceMarks marks).take (regex.placeOf number + 1)).count true)
  else none

/-- Whether the slots of a match are those that the index asks for. -/
def Aligned (found : Match) : Prop :=
  found.size = regex.groups.size + 1 ∧
    ∀ name number, regex.groups.named? name = some number →
      regex.slotOf marks number = some number

end Marks

section Matches

variable {pattern : Pattern engine} {flags : Option Text}
  {regex : NamedRegex engine} {marks : Text → List Bool}

/-- The engine has slots only for groups of the source. -/
theorem marks_imply_captures (groups : engine.MarksGroups marks)
    (compiled : compile engine pattern flags = .ok regex)
    (filled : ¬ HasEmptyGroup (Fragment.split pattern.source))
    (simple : Positional.IsSimple pattern.source) :
    List.Forall₂ (fun mark other => mark = true → other = true)
      (regex.sourceMarks marks) regex.captureMarks := by
  have built := compile_eq_ok_iff.mp compiled
  have fit := sourceMarks_fit groups compiled
  rw [captureMarks, built.pattern, ← Positional.captures_origins simple filled,
    List.forall₂_map_right_iff, ← built.source]
  exact fit.imp fun mark text opens marked =>
    RegexEngine.isCapturing_of_opensGroup (opens marked)

private theorem number_inside
    (compiled : compile engine pattern flags = .ok regex)
    {name : Text} {number : Nat}
    (indexed : regex.groups.named? name = some number) :
    1 ≤ number ∧
      number - 1 < (Positional.origins regex.pattern).count .own := by
  have built := compile_eq_ok_iff.mp compiled
  rw [built.groups] at indexed
  obtain ⟨positive, bounded⟩ := Positional.named?_bounds indexed
  rw [built.pattern, Positional.count_own_ofPattern]
  omega

/-- The engine keeps a capture group of the pattern behind those that are pasted
in front of it, except for the lost ones. -/
theorem slotOf_add_lostUpTo (groups : engine.MarksGroups marks)
    (compiled : compile engine pattern flags = .ok regex)
    (filled : ¬ HasEmptyGroup (Fragment.split pattern.source))
    (simple : Positional.IsSimple pattern.source) {name : Text} {number : Nat}
    (indexed : regex.groups.named? name = some number) {slot : Nat}
    (kept : regex.slotOf marks number = some slot) :
    slot + regex.lostUpTo marks number =
      number + regex.pastedBefore number := by
  have implies := marks_imply_captures groups compiled filled simple
  have counted := count_add_missedMarks
    (List.forall₂_take (regex.placeOf number + 1) implies)
  obtain ⟨positive, inside⟩ := number_inside compiled indexed
  have own : (regex.captureMarks.take (regex.placeOf number + 1)).count true =
      number - 1 + 1 + regex.pastedBefore number :=
    Origin.count_captures_take inside
  simp only [slotOf, Option.ite_none_right_eq_some, Option.some.injEq] at kept
  unfold lostUpTo
  omega

/-- A match has a slot more for each pasted group, and one less for each lost
one. -/
theorem size_add_lostGroups (groups : engine.MarksGroups marks)
    (compiled : compile engine pattern flags = .ok regex)
    (filled : ¬ HasEmptyGroup (Fragment.split pattern.source))
    (simple : Positional.IsSimple pattern.source)
    {text : Text} {offset : Nat} {found : Match}
    (matched : regex.searchFrom text offset = .ok (some found)) :
    found.size + regex.lostGroups marks =
      regex.groups.size + 1 + regex.pastedGroups := by
  have built := compile_eq_ok_iff.mp compiled
  have size := size_of_searchFrom groups compiled matched
  have index : regex.groups.size =
      (Positional.origins regex.pattern).count .own := by
    rw [built.groups, Tracker.size_ofPattern, built.pattern,
      Positional.count_own_ofPattern]
  have counted := count_add_missedMarks
    (marks_imply_captures groups compiled filled simple)
  have captured : regex.captureMarks.count true =
      (Positional.origins regex.pattern).count .own + regex.pastedGroups :=
    Origin.count_captures _
  unfold lostGroups
  omega

/-- Where the engine has a slot for every group of the source, it has one for
every group of the pattern. -/
theorem slotOf_of_lostGroups_eq_zero (groups : engine.MarksGroups marks)
    (compiled : compile engine pattern flags = .ok regex)
    (filled : ¬ HasEmptyGroup (Fragment.split pattern.source))
    (simple : Positional.IsSimple pattern.source)
    (complete : regex.lostGroups marks = 0) {name : Text} {number : Nat}
    (indexed : regex.groups.named? name = some number) :
    regex.slotOf marks number = some (number + regex.pastedBefore number) := by
  have implies := marks_imply_captures groups compiled filled simple
  have owned : regex.captureMarks[regex.placeOf number]? = some true := by
    have place := Origin.getElem?_place (number_inside compiled indexed).2
    rw [captureMarks, placeOf, List.getElem?_map, place]
    rfl
  have marked :=
    getElem?_of_missedMarks_eq_zero implies.length_eq complete owned
  obtain ⟨slot, kept⟩ : ∃ slot, regex.slotOf marks number = some slot :=
    ⟨_, if_pos marked⟩
  have unlost : regex.lostUpTo marks number ≤ regex.lostGroups marks :=
    missedMarks_take_le _ _ _
  have shifted :=
    slotOf_add_lostUpTo groups compiled filled simple indexed kept
  rw [kept]
  congr 1
  omega

/-- A named group is as many slots behind its number as capture groups are
pasted in front of it.  So, unless the engine gives some group no slot, the
slots are those of the index exactly if no capture group is pasted at all. -/
theorem aligned_iff_pasted (groups : engine.MarksGroups marks)
    (compiled : compile engine pattern flags = .ok regex)
    (filled : ¬ HasEmptyGroup (Fragment.split pattern.source))
    (simple : Positional.IsSimple pattern.source)
    {text : Text} {offset : Nat} {found : Match}
    (matched : regex.searchFrom text offset = .ok (some found)) :
    found.size + regex.lostGroups marks =
        regex.groups.size + 1 + regex.pastedGroups ∧
      (∀ name number, regex.groups.named? name = some number →
        found.named? name = found.get? number ∧
          ∀ slot, regex.slotOf marks number = some slot →
            slot + regex.lostUpTo marks number =
              number + regex.pastedBefore number) ∧
      (regex.Aligned marks found ↔
        regex.lostGroups marks = regex.pastedGroups ∧
          ∀ name number, regex.groups.named? name = some number →
            (regex.slotOf marks number).isSome ∧
              regex.lostUpTo marks number = regex.pastedBefore number) ∧
      (regex.lostGroups marks = 0 →
        (∀ name number, regex.groups.named? name = some number →
          regex.slotOf marks number =
            some (number + regex.pastedBefore number)) ∧
        (regex.Aligned marks found ↔ regex.pastedGroups = 0)) := by
  have size := size_add_lostGroups groups compiled filled simple matched
  have shifted : ∀ name number, regex.groups.named? name = some number →
      ∀ slot, regex.slotOf marks number = some slot →
        slot + regex.lostUpTo marks number =
          number + regex.pastedBefore number :=
    fun _ _ indexed _ kept =>
      slotOf_add_lostUpTo groups compiled filled simple indexed kept
  refine ⟨size, fun name number indexed => ⟨?_, shifted name number indexed⟩,
    ⟨?_, ?_⟩, fun complete => ⟨?_, ⟨?_, ?_⟩⟩⟩
  · obtain ⟨slots, -, rfl⟩ := Finder.ofSearches_eq_some matched
    exact (Match.sameText_ofSlots indexed text slots).named
  · rintro ⟨expected, owned⟩
    refine ⟨by omega, fun name number indexed => ?_⟩
    have kept := owned name number indexed
    have here := shifted name number indexed number kept
    exact ⟨by rw [kept]; rfl, by omega⟩
  · rintro ⟨balanced, unpasted⟩
    refine ⟨by omega, fun name number indexed => ?_⟩
    obtain ⟨isKept, equal⟩ := unpasted name number indexed
    obtain ⟨slot, kept⟩ := Option.isSome_iff_exists.mp isKept
    have here := shifted name number indexed slot kept
    rw [kept]
    congr 1
    omega
  · intro name number indexed
    exact slotOf_of_lostGroups_eq_zero groups compiled filled simple complete
      indexed
  · rintro ⟨expected, -⟩
    omega
  · intro unpasted
    refine ⟨by omega, fun name number indexed => ?_⟩
    have before : regex.pastedBefore number ≤ regex.pastedGroups :=
      Origin.pastedBefore_le _ _
    rw [slotOf_of_lostGroups_eq_zero groups compiled filled simple complete
      indexed]
    congr 1
    omega

theorem aligned_of_unnested_reference : ∃ regex found,
    compile Engine.builtIn
        (.text ['(', '?', '<', 'a', '>', 'x', ')', '(', '?', '&', 'a', ')'])
        none = .ok regex ∧
      regex.searchFrom ['x', 'x'] 0 = .ok (some found) ∧
      regex.Aligned Engine.slotMarks found := by
  obtain ⟨regex, found, compiled, matched, holds⟩ :=
    exists_of_matched Engine.builtIn
      (.text ['(', '?', '<', 'a', '>', 'x', ')', '(', '?', '&', 'a', ')'])
      ['x', 'x']
      (fun regex => decide (regex.lostGroups Engine.slotMarks = 0 ∧
        regex.pastedGroups = 0))
      (by decide +kernel)
  obtain ⟨complete, unpasted⟩ := of_decide_eq_true holds
  refine ⟨regex, found, compiled, matched, ?_⟩
  exact ((aligned_iff_pasted Engine.builtIn_marksGroups compiled (by decide)
    (by decide) matched).2.2.2 complete).2.mpr unpasted

/-- The reference brings a capture group, and the name behind it stands for an
earlier slot than the one of its group. -/
theorem named_shifted_of_nested_reference :
    ¬ HasEmptyGroup (Fragment.split ['(', '?', '<', 'a', '>', '(', 'x', ')',
      'y', ')', '(', '?', '&', 'a', ')', '(', '?', '<', 'b', '>', 'z', ')']) ∧
    Positional.IsSimple ['(', '?', '<', 'a', '>', '(', 'x', ')', 'y', ')',
      '(', '?', '&', 'a', ')', '(', '?', '<', 'b', '>', 'z', ')'] ∧
    (compile Engine.builtIn (.text ['(', '?', '<', 'a', '>', '(', 'x', ')',
        'y', ')', '(', '?', '&', 'a', ')', '(', '?', '<', 'b', '>', 'z', ')'])
        none).toOption.bind (fun regex =>
      (regex.searchFrom ['x', 'y', 'x', 'y', 'z'] 0).toOption.join.map
        fun found =>
          ((regex.groups.size, found.size), regex.groups.named? ['b'],
            found.named? ['b'],
            (regex.slotOf Engine.slotMarks 4).bind found.get?)) =
      some ((4, 6), some 4, some ['x'], some ['z']) := by
  decide +kernel

end Matches

end NamedRegex

end NamedGroups
