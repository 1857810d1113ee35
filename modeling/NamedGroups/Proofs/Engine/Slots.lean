import NamedGroups.Engine.BuiltIn
import NamedGroups.Proofs.Engine.Agreement
import NamedGroups.Proofs.Engine.Parsing

/-!
# The capture groups of the built-in engine

A match has a slot for each capture group of the engine, except that a program
has none for the groups behind the last one that can take part in a match.  So
the groups with a slot are the first of those that the engine opens.
-/

namespace NamedGroups.Engine

open Fragment

namespace Expr

mutual

theorem liveGroups_subset :
    ∀ expression : Expr, expression.liveGroups ⊆ expression.groups
  | empty => by simp [liveGroups]
  | literal _ => by simp [liveGroups]
  | charSet _ => by simp [liveGroups]
  | assertion _ => by simp [liveGroups]
  | concat parts => by
      simpa only [liveGroups, groups] using liveGroupsAll_subset parts
  | alternation alternatives => by
      simpa only [liveGroups, groups] using liveGroupsAll_subset alternatives
  | group number body => by
      simpa only [liveGroups, groups]
        using List.cons_subset_cons number (liveGroups_subset body)
  | look _ _ body => by
      simpa only [liveGroups, groups] using liveGroups_subset body
  | repetition body _ most _ => by
      simp only [liveGroups, groups]
      split
      · exact List.nil_subset _
      · exact liveGroups_subset body
  | backreference _ => by simp [liveGroups]
  | groupTest _ => by simp [liveGroups]
  | atomic body => by
      simpa only [liveGroups, groups] using liveGroups_subset body
  | conditional condition accepted rejected => by
      have ofCondition := liveGroups_subset condition
      have ofAccepted := liveGroups_subset accepted
      have ofRejected := liveGroups_subset rejected
      simp only [liveGroups, groups]
      grind

theorem liveGroupsAll_subset : ∀ expressions : List Expr,
    liveGroupsAll expressions ⊆ groupsAll expressions
  | [] => List.nil_subset _
  | part :: parts => by
      have ofPart := liveGroups_subset part
      have ofParts := liveGroupsAll_subset parts
      simp only [liveGroupsAll, groupsAll]
      grind

end

end Expr

private theorem foldl_max_spec (numbers : List Nat) :
    numbers.foldl max 0 ∈ 0 :: numbers ∧
      ∀ number ∈ 0 :: numbers, number ≤ numbers.foldl max 0 :=
  List.max?_eq_some_iff.mp List.max?_cons'

namespace Parsed

/-- The last capture group that has a slot. -/
def lastSlot (parsed : Parsed) : Nat :=
  if parsed.expression.isHard parsed.references then parsed.groups
  else parsed.expression.liveGroups.foldl max 0

end Parsed

section Parsing

variable {pattern : Text} {parsed : Parsed}

private theorem le_groups_of_live (accepted : parse pattern = .ok parsed) :
    ∀ number ∈ parsed.expression.liveGroups, number ≤ parsed.groups := by
  intro number isLive
  have isMember := parsed.expression.liveGroups_subset isLive
  rw [(groups_of_parse accepted).2, List.mem_range'_1] at isMember
  omega

theorem lastSlot_le (accepted : parse pattern = .ok parsed) :
    parsed.lastSlot ≤ parsed.groups := by
  unfold Parsed.lastSlot
  split
  · exact Nat.le_refl _
  · obtain ⟨isMember, -⟩ := foldl_max_spec parsed.expression.liveGroups
    rw [List.mem_cons] at isMember
    obtain none | isLive := isMember
    · rw [none]
      exact Nat.zero_le _
    · exact le_groups_of_live accepted _ isLive

end Parsing

theorem compile_eq_ok {pattern : Text} {regex : Regex}
    (compiled : Regex.compile pattern = .ok regex) :
    ∃ parsed,
      parse pattern = .ok parsed ∧ regex.slots = parsed.lastSlot + 1 := by
  obtain ⟨parsed, accepted, success⟩ := except_bind_eq_ok.mp compiled
  refine ⟨parsed, accepted, ?_⟩
  unfold Parsed.lastSlot
  split at success
  · rename_i isHard
    obtain ⟨_, _, returned⟩ := except_bind_eq_ok.mp success
    cases returned
    rw [if_pos isHard]
  · rename_i isSoft
    obtain ⟨_, _, returned⟩ := except_bind_eq_ok.mp success
    cases returned
    rw [if_neg isSoft]

theorem length_of_search {regex : Regex} {text : Text} {offset : Nat}
    {slots : List (Option Span)}
    (found : regex.search text offset = .ok (some slots)) :
    slots.length = regex.slots := by
  simp only [Regex.search] at found
  split at found
  · obtain ⟨registers, _, returned⟩ := except_bind_eq_ok.mp found
    cases registers with
    | none => cases returned
    | some registers =>
        cases returned
        simp
  · obtain ⟨registers, _, returned⟩ := except_bind_eq_ok.mp found
    cases registers with
    | none => cases returned
    | some registers =>
        cases returned
        simp

def keepFirst : Nat → List Bool → List Bool
  | _, [] => []
  | 0, _ :: marks => false :: keepFirst 0 marks
  | count + 1, true :: marks => true :: keepFirst count marks
  | count + 1, false :: marks => false :: keepFirst (count + 1) marks

theorem count_keepFirst (count : Nat) (marks : List Bool) :
    (keepFirst count marks).count true = min count (marks.count true) := by
  induction count, marks using keepFirst.induct with
  | case1 count => simp [keepFirst]
  | case2 mark marks induction => simp [keepFirst, induction]
  | case3 count marks induction =>
      simp [keepFirst, induction]
  | case4 count marks induction => simpa [keepFirst] using induction

theorem keepFirst_fits {marks : List Bool} {texts : List Text}
    {opens : Text → Bool}
    (fits : List.Forall₂ (fun mark text => mark = true → opens text = true)
      marks texts) (count : Nat) :
    List.Forall₂ (fun mark text => mark = true → opens text = true)
      (keepFirst count marks) texts := by
  induction fits generalizing count with
  | nil => exact .nil
  | @cons mark text marks texts here _ induction =>
      cases count with
      | zero => exact .cons (by simp) (induction 0)
      | succ count =>
          cases mark with
          | false => exact .cons (by simp) (induction (count + 1))
          | true => exact .cons here (induction count)

/-- The opening parentheses whose groups have a slot. -/
def slotMarks (pattern : Text) : List Bool :=
  match parse pattern with
  | .ok parsed =>
      keepFirst parsed.lastSlot ((openings pattern).map (· == .capture))
  | .error _ => []

private theorem count_map_capture (kinds : List Opening) :
    (kinds.map (· == .capture)).count true = kinds.count .capture := by
  simp [List.count, List.countP_map, Function.comp_def]

private theorem openings_map_fit (pattern : Text) :
    List.Forall₂
      (fun mark text => mark = true → RegexEngine.opensGroup text = true)
      ((openings pattern).map (· == .capture))
      (openedTexts (split pattern)) := by
  have fit := openings_fit (Reading.inParts false []) pattern
    (by simp [Reading.inParts])
  rw [List.forall₂_map_left_iff]
  exact fit.imp fun opening text fits marked => fits (by simpa using marked)

theorem mapError_eq_ok {ε δ α : Type} {result : Except ε α} {rename : ε → δ}
    {value : α} : result.mapError rename = .ok value ↔ result = .ok value := by
  cases result <;> simp [Except.mapError]

theorem builtIn_marksGroups : builtIn.MarksGroups slotMarks where
  fits {pattern regex} compiled := by
    obtain ⟨parsed, accepted, -⟩ := compile_eq_ok (mapError_eq_ok.mp compiled)
    rw [slotMarks, accepted]
    exact keepFirst_fits (openings_map_fit pattern) parsed.lastSlot
  slots {pattern regex text offset slots} compiled searched := by
    obtain ⟨parsed, accepted, sized⟩ :=
      compile_eq_ok (mapError_eq_ok.mp compiled)
    rw [length_of_search (mapError_eq_ok.mp searched), sized, slotMarks,
      accepted]
    simp only [count_keepFirst, count_map_capture,
      ← (groups_of_parse accepted).1, Nat.min_eq_left (lastSlot_le accepted)]

end NamedGroups.Engine
