import NamedGroups.Engine.Regex
import NamedGroups.Proofs.Engine.Bare
import NamedGroups.Proofs.Engine.Parsing

/-!
# Dropping an empty capture group

An empty capture group can be dropped from an expression without hard parts: the
program gets no longer, asks for the same counts, and finds the same text.  What
has been in a row with the group moves together, which is no matter to the
parsed expression, though it may be to the way in which the pattern is read.
-/

namespace NamedGroups.Engine

namespace Expr

def renumber (dropped number : Nat) : Nat :=
  if dropped < number then number - 1 else number

mutual

/-- The expression without its empty capture group of the given number. -/
def dropGroup (dropped : Nat) : Expr → Expr
  | concat parts => ofParts (dropGroupAll dropped parts)
  | alternation alternatives => alternation (dropGroupAll dropped alternatives)
  | group number body =>
      if number = dropped ∧ body.isEmpty = true then empty
      else group (renumber dropped number) (body.dropGroup dropped)
  | look behind negated body => look behind negated (body.dropGroup dropped)
  | repetition body least most greedy =>
      repetition (body.dropGroup dropped) least most greedy
  | backreference number => backreference (renumber dropped number)
  | groupTest number => groupTest (renumber dropped number)
  | atomic body => atomic (body.dropGroup dropped)
  | conditional condition accepted rejected =>
      conditional (condition.dropGroup dropped) (accepted.dropGroup dropped)
        (rejected.dropGroup dropped)
  | expression => expression

def dropGroupAll (dropped : Nat) : List Expr → List Expr
  | [] => []
  | part :: parts => part.dropGroup dropped :: dropGroupAll dropped parts

end

/-! ### Rows of parts -/

@[simp] theorem ofParts_singleton (part : Expr) : ofParts [part] = part := by
  cases isEmpty : part.isEmpty with
  | true =>
      rw [isEmpty_iff] at isEmpty
      subst isEmpty
      rfl
  | false => simp [ofParts, isEmpty]

theorem ofParts_cases (parts : List Expr) :
    (parts.filter (fun part => !part.isEmpty) = [] ∧ ofParts parts = empty) ∨
      (∃ part, parts.filter (fun part => !part.isEmpty) = [part] ∧
        ofParts parts = part) ∨
      ofParts parts = concat (parts.filter fun part => !part.isEmpty) := by
  unfold ofParts
  split
  · exact .inl ⟨‹_›, rfl⟩
  · exact .inr (.inl ⟨_, ‹_›, rfl⟩)
  · exact .inr (.inr rfl)

theorem apply_filter {α : Type} (ofAll : List Expr → α)
    (skip : ∀ parts, ofAll (empty :: parts) = ofAll parts)
    (keep : ∀ part parts others, ofAll parts = ofAll others →
      ofAll (part :: parts) = ofAll (part :: others)) (parts : List Expr) :
    ofAll (parts.filter fun part => !part.isEmpty) = ofAll parts := by
  induction parts with
  | nil => rfl
  | cons part parts induction =>
      cases isEmpty : part.isEmpty with
      | true =>
          rw [isEmpty_iff] at isEmpty
          subst isEmpty
          rw [skip]
          exact induction
      | false =>
          rw [List.filter_cons_of_pos (by simp [isEmpty])]
          exact keep part _ _ induction

theorem bare_ofParts (parts : List Expr) :
    (ofParts parts).bare = ofParts (bareAll parts) := by
  have filtered :=
    apply_filter (fun parts => (bareAll parts).filter fun part => !part.isEmpty)
      (fun _ => rfl) (fun part parts others same =>
        by simp only [bareAll, List.filter_cons, same]) parts
  have same : ofParts (bareAll (parts.filter fun part => !part.isEmpty)) =
      ofParts (bareAll parts) := by
    unfold ofParts
    rw [filtered]
  rw [← same]
  obtain ⟨kept, row⟩ | ⟨part, kept, row⟩ | row := ofParts_cases parts
  · rw [row, kept]
    rfl
  · rw [row, kept, bareAll, bareAll, ofParts_singleton]
  · rw [row, bare]

theorem isHard_ofParts (parts : List Expr) :
    (ofParts parts).isHard [] = isHardAny [] parts := by
  rw [← apply_filter (isHardAny []) (fun _ => rfl)
    (fun part parts others same => by rw [isHardAny, isHardAny, same])]
  obtain ⟨kept, row⟩ | ⟨part, kept, row⟩ | row := ofParts_cases parts
  · rw [row, kept]
    rfl
  · rw [row, kept]
    simp [isHardAny]
  · rw [row, isHard]

theorem hasValidCounts_ofParts (parts : List Expr) :
    Program.hasValidCounts (ofParts parts) = Program.haveValidCounts parts := by
  rw [← apply_filter Program.haveValidCounts (fun _ => rfl) (fun part parts
    others same =>
    by rw [Program.haveValidCounts, Program.haveValidCounts, same])]
  obtain ⟨kept, row⟩ | ⟨part, kept, row⟩ | row := ofParts_cases parts
  · rw [row, kept]
    rfl
  · rw [row, kept]
    simp [Program.haveValidCounts]
  · rw [row, Program.hasValidCounts]

private theorem size_ofParts (parts : List Expr) :
    Program.size (ofParts parts) = Program.sizeAll parts := by
  rw [← apply_filter Program.sizeAll
    (fun parts => by simp [Program.sizeAll, Program.size]) (fun part parts
      others same => by rw [Program.sizeAll, Program.sizeAll, same])]
  obtain ⟨kept, row⟩ | ⟨part, kept, row⟩ | row := ofParts_cases parts
  · rw [row, kept]
    rfl
  · rw [row, kept]
    rfl
  · rw [row, Program.size]

/-! ### Lighter expressions -/

/-- Whether an expression without hard parts does what another one does, in a
program that is no longer. -/
structure Lightens (part whole : Expr) : Prop where
  bare : part.bare = whole.bare
  soft : part.isHard [] = false
  counts : Program.hasValidCounts part = Program.hasValidCounts whole
  size : Program.size part ≤ Program.size whole

/-- The same for several expressions. -/
structure LightensAll (parts wholes : List Expr) : Prop where
  bare : bareAll parts = bareAll wholes
  soft : isHardAny [] parts = false
  counts : Program.haveValidCounts parts = Program.haveValidCounts wholes
  size : Program.sizeAll parts ≤ Program.sizeAll wholes
  length : parts.length = wholes.length

mutual

theorem lightens_dropGroup (dropped : Nat) :
    ∀ expression : Expr, expression.isHard [] = false →
      Lightens (expression.dropGroup dropped) expression
  | empty, _ => ⟨rfl, rfl, rfl, Nat.le_refl _⟩
  | literal _, _ => ⟨rfl, rfl, rfl, Nat.le_refl _⟩
  | charSet _, _ => ⟨rfl, rfl, rfl, Nat.le_refl _⟩
  | assertion _, soft => ⟨rfl, soft, rfl, Nat.le_refl _⟩
  | concat parts, soft => by
      rw [isHard] at soft
      have ofAll := lightensAll_dropGroupAll dropped parts soft
      rw [dropGroup]
      exact {
        bare := by rw [bare_ofParts, ofAll.bare, bare]
        soft := by rw [isHard_ofParts, ofAll.soft]
        counts := by
          rw [hasValidCounts_ofParts, ofAll.counts, Program.hasValidCounts]
        size := by
          rw [size_ofParts, Program.size]
          exact ofAll.size }
  | alternation alternatives, soft => by
      rw [isHard] at soft
      have ofAll := lightensAll_dropGroupAll dropped alternatives soft
      rw [dropGroup]
      exact {
        bare := by rw [bare, bare, ofAll.bare]
        soft := by rw [isHard, ofAll.soft]
        counts := by
          rw [Program.hasValidCounts, Program.hasValidCounts, ofAll.counts]
        size := by
          rw [Program.size, Program.size, ofAll.length]
          exact Nat.add_le_add_right ofAll.size _ }
  | group number body, soft => by
      have softBody : body.isHard [] = false := by simpa [isHard] using soft
      have ofBody := lightens_dropGroup dropped body softBody
      rw [dropGroup]
      split
      · rename_i isDropped
        obtain rfl := isEmpty_iff.mp isDropped.2
        exact ⟨rfl, rfl, rfl, Nat.zero_le _⟩
      · exact {
          bare := by rw [bare, bare, ofBody.bare]
          soft := by simp [isHard, ofBody.soft]
          counts := by
            rw [Program.hasValidCounts, Program.hasValidCounts, ofBody.counts]
          size := by
            rw [Program.size, Program.size]
            exact Nat.add_le_add_right ofBody.size _ }
  | repetition body least most greedy, soft => by
      rw [isHard] at soft
      have ofBody := lightens_dropGroup dropped body soft
      rw [dropGroup]
      exact {
        bare := by rw [bare, bare, ofBody.bare]
        soft := by rw [isHard, ofBody.soft]
        counts := by
          rw [Program.hasValidCounts, Program.hasValidCounts, ofBody.counts]
        size := by
          rw [Program.size, Program.size]
          exact Nat.mul_le_mul_right _ (Nat.add_le_add_right ofBody.size _) }
  | look .., soft => by simp [isHard] at soft
  | backreference _, soft => by simp [isHard] at soft
  | groupTest _, soft => by simp [isHard] at soft
  | atomic _, soft => by simp [isHard] at soft
  | conditional .., soft => by simp [isHard] at soft

theorem lightensAll_dropGroupAll (dropped : Nat) : ∀ parts : List Expr,
    isHardAny [] parts = false → LightensAll (dropGroupAll dropped parts) parts
  | [], _ => ⟨rfl, rfl, rfl, Nat.le_refl _, rfl⟩
  | part :: parts, soft => by
      rw [isHardAny, Bool.or_eq_false_iff] at soft
      have ofPart := lightens_dropGroup dropped part soft.1
      have ofParts := lightensAll_dropGroupAll dropped parts soft.2
      rw [dropGroupAll]
      exact {
        bare := by rw [bareAll, bareAll, ofPart.bare, ofParts.bare]
        soft := by rw [isHardAny, ofPart.soft, ofParts.soft, Bool.or_false]
        counts := by
          rw [Program.haveValidCounts, Program.haveValidCounts, ofPart.counts,
            ofParts.counts]
        size := by
          rw [Program.sizeAll, Program.sizeAll]
          exact Nat.add_le_add ofPart.size ofParts.size
        length := by rw [List.length_cons, List.length_cons, ofParts.length] }

end

end Expr

/-! ### Searches -/

/-- The parsed pattern without its empty capture group of the given number. -/
def Parsed.dropGroup (parsed : Parsed) (dropped : Nat) : Parsed where
  expression := parsed.expression.dropGroup dropped
  groups := parsed.groups - 1
  references := parsed.references.map (Expr.renumber dropped)

/-- Whether a pattern runs as one program: it has no hard part, and no group is
referred to. -/
def Parsed.IsSoft (parsed : Parsed) : Prop :=
  parsed.references = [] ∧ parsed.expression.isHard [] = false

instance (parsed : Parsed) : Decidable parsed.IsSoft :=
  inferInstanceAs (Decidable (_ ∧ _))

private theorem Program.ofExpr_eq_ok {expression : Expr}
    {program : Array Instruction} :
    Program.ofExpr expression = .ok program ↔
      Program.hasValidCounts expression = true ∧
        Program.size expression ≤ Program.maxSize ∧
        (Program.instructions expression).toArray = program := by
  unfold Program.ofExpr
  split
  · simp_all
  · rename_i counts
    rw [Bool.not_eq_true, Bool.not_eq_false'] at counts
    split
    · rename_i tooLarge
      simp [Nat.not_le.mpr tooLarge]
    · rename_i fits
      simp [counts, Nat.not_lt.mp fits, Program.instructions]

namespace Regex

def ofSoft (pattern : Text) (expression : Expr) : Regex :=
  ⟨pattern, expression.liveGroups.foldl max 0 + 1,
    .program (Program.instructions expression).toArray⟩

theorem compile_eq_ok_iff {pattern : Text} {parsed : Parsed} {engine : Regex}
    (accepted : parse pattern = .ok parsed) (soft : parsed.IsSoft) :
    Regex.compile pattern = .ok engine ↔
      Program.hasValidCounts parsed.expression = true ∧
        Program.size parsed.expression ≤ Program.maxSize ∧
          ofSoft pattern parsed.expression = engine := by
  have unreferred : parsed.expression.isHard parsed.references = false := by
    rw [soft.1]
    exact soft.2
  have step : Regex.compile pattern =
      (Program.ofExpr parsed.expression >>= fun program =>
        pure ⟨pattern, parsed.expression.liveGroups.foldl max 0 + 1,
          .program program⟩) := by
    simp only [Regex.compile, accepted]
    change (if parsed.expression.isHard parsed.references = true then _
            else _) = _
    rw [if_neg (by simp [unreferred])]
  rw [step, except_bind_eq_ok]
  constructor
  · rintro ⟨program, built, returned⟩
    obtain ⟨counts, fits, rfl⟩ := Program.ofExpr_eq_ok.mp built
    exact ⟨counts, fits, Except.ok.inj returned⟩
  · rintro ⟨counts, fits, rfl⟩
    exact ⟨_, Program.ofExpr_eq_ok.mpr ⟨counts, fits, rfl⟩, rfl⟩

private theorem span?_same {registers others : Registers}
    (same : Simulation.SameSpan registers others) :
    span? registers 0 = span? others 0 := by
  simp [span?, same.1, same.2]

/-- The span of the whole match is the one that the bare form finds. -/
theorem head?_search_ofSoft {expression : Expr}
    (positive : ∀ number ∈ expression.groups, 1 ≤ number) (pattern text : Text)
    (offset : Nat) :
    ((ofSoft pattern expression).search text offset).map
        (Option.map List.head?) =
      .ok ((Simulation.run (Program.instructions expression.bare).toArray 2
        false (Cursor.atOffset text offset)).map fun registers =>
        some (span? registers 0)) := by
  have spans : 2 ≤ 2 * (expression.liveGroups.foldl max 0 + 1) := by omega
  have same :=
    Simulation.run_sameSpan (Program.erases_bare positive) spans (Nat.le_refl 2)
      false (Cursor.atOffset text offset)
  simp only [search, ofSoft, pure_bind]
  generalize Simulation.run (Program.instructions expression).toArray _ false
        _ = found at same ⊢
  generalize Simulation.run (Program.instructions expression.bare).toArray _
        false _ = bareFound at same ⊢
  cases same with
  | none => rfl
  | some same =>
      simp only [Option.map_some, ← span?_same same, List.range_succ_eq_map]
      rfl

private theorem head?_search_eq {first second : Expr}
    (firstPositive : ∀ number ∈ first.groups, 1 ≤ number)
    (secondPositive : ∀ number ∈ second.groups, 1 ≤ number)
    (same : first.bare = second.bare) (pattern other text : Text)
    (offset : Nat) :
    ((ofSoft pattern first).search text offset).map (Option.map List.head?) =
      ((ofSoft other second).search text offset).map
        (Option.map List.head?) := by
  rw [head?_search_ofSoft firstPositive, head?_search_ofSoft secondPositive,
    same]

/-- A pattern that reads as another one without one of its empty groups is
accepted where the other one is, and finds the same text. -/
theorem search_dropGroup {pattern other : Text} {whole : Parsed} {dropped : Nat}
    {engine : Regex} (accepted : parse pattern = .ok whole)
    (soft : whole.IsSoft) (compiled : Regex.compile pattern = .ok engine)
    (reads : parse other = .ok (whole.dropGroup dropped)) :
    ∃ lighter, Regex.compile other = .ok lighter ∧
      ∀ text offset, (lighter.search text offset).map (Option.map List.head?) =
        (engine.search text offset).map (Option.map List.head?) := by
  obtain ⟨counts, fits, rfl⟩ := (compile_eq_ok_iff accepted soft).mp compiled
  have lightens := Expr.lightens_dropGroup dropped whole.expression soft.2
  have softer : (whole.dropGroup dropped).IsSoft := by
    refine ⟨?_, lightens.soft⟩
    rw [Parsed.dropGroup, soft.1, List.map_nil]
  have positive : ∀ {pattern : Text} {parsed : Parsed},
      parse pattern = .ok parsed →
        ∀ number ∈ parsed.expression.groups, 1 ≤ number := by
    intro pattern parsed isRead number isMember
    rw [(groups_of_parse isRead).2, List.mem_range'_1] at isMember
    exact isMember.1
  refine ⟨_, (compile_eq_ok_iff reads softer).mpr ⟨?_, ?_, rfl⟩, ?_⟩
  · exact lightens.counts.trans counts
  · exact lightens.size.trans fits
  · intro text offset
    exact head?_search_eq (positive reads) (positive accepted) lightens.bare _ _
      text offset

end Regex

end NamedGroups.Engine
