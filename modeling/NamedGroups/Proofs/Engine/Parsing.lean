import NamedGroups.Proofs.Engine.Steps

/-!
# The groups of a parsed pattern

The parser numbers the capture groups of the engine as it reads their opening
parentheses.  The groups opened so far and those that `openings` finds in the
text ahead are as many at every step, so `openings` tells the number of groups
of every pattern that the engine accepts.
-/

namespace NamedGroups.Engine

namespace Parser

open Reading

/-- Where the reading of a pattern stands in a state. -/
def State.place (state : State) : List (Option Bool) → Reading :=
  inParts state.modes.verbose

/-- A part of a pattern is read from a place on.  The groups of the part are
numbered in the order of their opening parentheses, and each of them takes a
character at least. -/
structure Reads (place : List (Option Bool) → Reading) (before : State)
    (numbers : List Nat) (after : State) : Prop where
  numbers_eq : numbers = List.range' (before.groups + 1) numbers.length
  groups_eq : after.groups = before.groups + numbers.length
  size_le :
    after.groups + after.rest.length ≤ before.groups + before.rest.length
  total_eq : ∀ enclosing,
    before.groups + (place enclosing).captures before.rest =
      after.groups + (after.place enclosing).captures after.rest

variable {place : List (Option Bool) → Reading} {before between after : State}
  {numbers others : List Nat}

theorem Reads.of_leads (groups_eq : after.groups = before.groups)
    (leads : ∀ enclosing,
      (place enclosing).Leads before.rest (after.place enclosing) after.rest) :
    Reads place before [] after where
  numbers_eq := rfl
  groups_eq := groups_eq
  size_le := by
    have shorter := (leads []).length_le
    omega
  total_eq := by
    intro enclosing
    rw [groups_eq, (leads enclosing).captures_eq]

theorem Passes.reads (passes : Passes before after) :
    Reads before.place before [] after := by
  apply Reads.of_leads passes.groups_eq
  rw [State.place, State.place, passes.modes_eq]
  exact passes.leads

theorem Reads.append_within (inner : List (Option Bool) → List (Option Bool))
    (first : Reads place before numbers between)
    (second :
      Reads (fun enclosing => between.place (inner enclosing)) between others
        after) :
    Reads (fun enclosing => place (inner enclosing)) before (numbers ++ others)
      after where
  numbers_eq := by
    have continued := second.numbers_eq
    have start : between.groups + 1 = before.groups + 1 + numbers.length := by
      rw [first.groups_eq]
      omega
    rw [start] at continued
    calc numbers ++ others
        = List.range' (before.groups + 1) numbers.length ++
            List.range' (before.groups + 1 + numbers.length) others.length := by
          rw [← first.numbers_eq, ← continued]
      _ = List.range' (before.groups + 1) (numbers ++ others).length := by
          rw [List.range'_append_1, List.length_append]
  groups_eq := by
    rw [second.groups_eq, first.groups_eq, List.length_append]
    omega
  size_le := Nat.le_trans second.size_le first.size_le
  total_eq enclosing :=
    (first.total_eq (inner enclosing)).trans (second.total_eq enclosing)

theorem Reads.append (first : Reads place before numbers between)
    (second : Reads between.place between others after) :
    Reads place before (numbers ++ others) after :=
  first.append_within id second

theorem Reads.passes (reads : Reads place before numbers between)
    (passed : Passes between after) : Reads place before numbers after := by
  have appended := reads.append passed.reads
  rwa [List.append_nil] at appended

theorem Passes.append (passed : Passes before between)
    (reads : Reads between.place between numbers after) :
    Reads before.place before numbers after :=
  passed.reads.append reads

/-- What was read from one place on can be read from another that leads to
it. -/
theorem Reads.after_leads {start : State} {outer : List (Option Bool) → Reading}
    (reads : Reads place before numbers after)
    (groups_eq : before.groups = start.groups)
    (leads : ∀ enclosing,
      (outer enclosing).Leads start.rest (place enclosing) before.rest) :
    Reads outer start numbers after where
  numbers_eq := groups_eq ▸ reads.numbers_eq
  groups_eq := groups_eq ▸ reads.groups_eq
  size_le := by
    have shorter := (leads []).length_le
    have within := reads.size_le
    omega
  total_eq enclosing := by
    rw [← groups_eq, (leads enclosing).captures_eq]
    exact reads.total_eq enclosing

/-! ### Parentheses -/

section Parentheses

variable {verbose : Bool} {mode : Option Bool} {enclosing : List (Option Bool)}
    {rest : Text}

theorem leads_closing :
    (inParts verbose (mode :: enclosing)).Leads (')' :: rest)
      (inParts (mode.getD verbose) enclosing) rest :=
  .of_step (by simp [step, inParts, readCharacter, readPart, leave])
    (by simp [step, inParts, readCharacter, readPart])

theorem captures_capture (noComment : rest.take 2 ≠ ['?', '#'])
    (kind : GroupKind.of verbose rest = .capture) :
    (inParts verbose enclosing).captures ('(' :: rest) =
      1 + (inParts verbose (none :: enclosing)).captures rest := by
  rw [captures_cons]
  simp [step, inParts, readCharacter, readPart, enter, noComment, kind]

theorem leads_group (noComment : rest.take 2 ≠ ['?', '#'])
    (kind : GroupKind.of verbose rest = .other) :
    (inParts verbose enclosing).Leads ('(' :: rest)
      (inParts verbose (none :: enclosing)) rest :=
  .of_step
    (by simp [step, inParts, readCharacter, readPart, enter, noComment, kind])
    (by simp [step, inParts, readCharacter, readPart, noComment, kind])

theorem leads_conditional (noComment : rest.take 2 ≠ ['?', '#'])
    (kind : GroupKind.of verbose rest = .conditional) :
    (inParts verbose enclosing).Leads ('(' :: rest)
      (within (.start true) verbose enclosing) rest :=
  .of_step (by simp [step, inParts, readCharacter, readPart, noComment, kind])
    (by simp [step, inParts, readCharacter, readPart, noComment, kind])

theorem leads_flags (noComment : rest.take 2 ≠ ['?', '#'])
    (kind : GroupKind.of verbose rest = .flags) :
    (inParts verbose enclosing).Leads ('(' :: rest)
      (within (.start false) verbose enclosing) rest :=
  .of_step (by simp [step, inParts, readCharacter, readPart, noComment, kind])
    (by simp [step, inParts, readCharacter, readPart, noComment, kind])

theorem leads_condition (noComment : rest.take 2 ≠ ['?', '#']) :
    (within (.start true) verbose enclosing).Leads ('?' :: '(' :: rest)
      (inParts verbose (none :: none :: enclosing)) rest := by
  have question :
      (within (.start true) verbose enclosing).Leads ('?' :: '(' :: rest)
        (within (.start true) verbose enclosing) ('(' :: rest) :=
    .of_step (by simp [step, readCharacter]) (by simp [step, readCharacter])
  exact question.trans (.of_step
    (by simp [step, readCharacter, noComment, enter, inParts])
    (by simp [step, readCharacter, noComment]))

theorem leads_setting :
    (within (.start false) verbose enclosing).Leads ('?' :: rest)
      (within (.flags verbose true) verbose enclosing) rest :=
  .of_step (by simp [step, readCharacter]) (by simp [step, readCharacter])

end Parentheses

/-! ### The functions of the parser -/

/-- A group that is read from behind its opening on, up to its closing
parenthesis. -/
theorem Reads.close {rest : Text} {verbose : Bool}
    (body : Reads (inParts verbose) before numbers between) (mode : Option Bool)
    (modes : Modes) (closes : between.rest = ')' :: rest)
    (modes_eq : modes.verbose = mode.getD between.modes.verbose) :
    Reads (fun enclosing => inParts verbose (mode :: enclosing)) before numbers
      { between with rest, modes } where
  numbers_eq := body.numbers_eq
  groups_eq := body.groups_eq
  size_le := by
    have within := body.size_le
    rw [closes] at within
    simp only [List.length_cons] at within ⊢
    omega
  total_eq enclosing := by
    have total := body.total_eq (mode :: enclosing)
    rw [closes, State.place, leads_closing.captures_eq] at total
    rw [total, State.place, modes_eq]

/-- What the functions of the parser do, if they have the given fuel. -/
structure Contracts (fuel : Nat) : Prop where
  alternatives : ∀ {depth before result after},
    (alternatives fuel depth).run before = .ok (result, after) →
      Reads before.place before result.groups after
  moreBranches : ∀ {depth before result after},
    (moreBranches fuel depth).run before = .ok (result, after) →
      Reads before.place before (Expr.groupsAll result) after
  branch : ∀ {depth before result after},
    (branch fuel depth).run before = .ok (result, after) →
      Reads before.place before result.groups after
  pieces : ∀ {depth before result after},
    (pieces fuel depth).run before = .ok (result, after) →
      Reads before.place before (Expr.groupsAll result) after
  atom : ∀ {depth before result after},
    (atom fuel depth).run before = .ok (result, after) →
      Reads before.place before result.groups after
  group : ∀ {depth before result after}, before.rest.take 2 ≠ ['?', '#'] →
    (group fuel depth).run before = .ok (result, after) →
    Reads before.place { before with rest := '(' :: before.rest } result.groups
      after
  enclosed : ∀ {depth before result after},
    (enclosed fuel depth).run before = .ok (result, after) →
      Reads (fun enclosing => before.place (none :: enclosing)) before
        result.groups after
  lookaround : ∀ {depth behind negated before result after},
    (lookaround fuel depth behind negated).run before = .ok (result, after) →
      Reads (fun enclosing => before.place (none :: enclosing)) before
        result.groups after
  flagGroup : ∀ {depth before result after},
    (flagGroup fuel depth).run before = .ok (result, after) →
      Reads (within (.flags before.modes.verbose true) before.modes.verbose)
        before result.groups after
  conditionalGroup : ∀ {depth before result after},
    (conditionalGroup fuel depth).run before = .ok (result, after) →
      Reads (fun enclosing => before.place (none :: none :: enclosing)) before
        result.groups after

section Functions

variable {fuel depth : Nat}

theorem alternatives_reads (contracts : Contracts fuel) {result : Expr}
    (success :
      (alternatives (fuel + 1) depth).run before = .ok (result, after)) :
    Reads before.place before result.groups after := by
  rw [Parser.alternatives] at success
  obtain ⟨first, between, firstRead, success⟩ := run_bind_eq_ok.mp success
  obtain ⟨others, behind, othersRead, success⟩ := run_bind_eq_ok.mp success
  have reads :=
    (contracts.branch firstRead).append (contracts.moreBranches othersRead)
  split at success
  · replace success := run_get_bind.symm.trans success
    dsimp only at success
    split at success
    · cases run_throw_bind success
    · obtain ⟨rfl, rfl⟩ := run_pure_eq_ok.mp success
      simpa [Expr.groupsAll] using reads
  · obtain ⟨rfl, rfl⟩ := run_pure_eq_ok.mp success
    simpa [Expr.groups, Expr.groupsAll] using reads

theorem moreBranches_reads (contracts : Contracts fuel) {result : List Expr}
    (success :
      (moreBranches (fuel + 1) depth).run before = .ok (result, after)) :
    Reads before.place before (Expr.groupsAll result) after := by
  rw [Parser.moreBranches] at success
  obtain ⟨_, ahead, skipped, success⟩ := run_bind_eq_ok.mp success
  obtain ⟨barred, between, accepted, success⟩ := run_bind_eq_ok.mp success
  have upToBar :=
    (passes_skip skipped).trans (passes_accept (by decide) accepted)
  split at success
  · obtain ⟨next, behind, nextRead, success⟩ := run_bind_eq_ok.mp success
    obtain ⟨others, final, othersRead, success⟩ := run_bind_eq_ok.mp success
    obtain ⟨rfl, rfl⟩ := run_pure_eq_ok.mp success
    exact upToBar.append
      ((contracts.branch nextRead).append (contracts.moreBranches othersRead))
  · obtain ⟨rfl, rfl⟩ := run_pure_eq_ok.mp success
    exact upToBar.reads

theorem branch_reads (contracts : Contracts fuel) {result : Expr}
    (success : (branch (fuel + 1) depth).run before = .ok (result, after)) :
    Reads before.place before result.groups after := by
  rw [Parser.branch] at success
  obtain ⟨parts, between, partsRead, success⟩ := run_bind_eq_ok.mp success
  have reads := contracts.pieces partsRead
  split at success
  · obtain ⟨rfl, rfl⟩ := run_pure_eq_ok.mp success
    exact reads
  · obtain ⟨rfl, rfl⟩ := run_pure_eq_ok.mp success
    simpa [Expr.groupsAll] using reads
  · obtain ⟨rfl, rfl⟩ := run_pure_eq_ok.mp success
    simpa [Expr.groups] using reads

theorem groups_of_isEmpty {expression : Expr}
    (isEmpty : expression.isEmpty = true) : expression.groups = [] := by
  cases expression <;> simp_all [Expr.isEmpty, Expr.groups]

theorem Reads.of_length_eq (reads : Reads place before numbers after)
    (unread : after.rest.length = before.rest.length) : numbers = [] := by
  have grown := reads.groups_eq
  have within := reads.size_le
  exact List.length_eq_zero_iff.mp (by omega)

theorem pieces_reads (contracts : Contracts fuel) {result : List Expr}
    (success : (pieces (fuel + 1) depth).run before = .ok (result, after)) :
    Reads before.place before (Expr.groupsAll result) after := by
  rw [Parser.pieces] at success
  replace success := run_get_bind.symm.trans success
  dsimp only at success
  split at success
  · obtain ⟨rfl, rfl⟩ := run_pure_eq_ok.mp success
    exact (Passes.refl _).reads
  · obtain ⟨single, ahead, singleRead, success⟩ := run_bind_eq_ok.mp success
    obtain ⟨part, between, quantifierRead, success⟩ := run_bind_eq_ok.mp success
    obtain ⟨passed, groups_eq⟩ := run_quantified quantifierRead
    have partReads := (contracts.atom singleRead).passes passed
    rw [← groups_eq] at partReads
    replace success := run_get_bind.symm.trans success
    split at success
    · rename_i unread
      obtain ⟨rfl, rfl⟩ := run_pure_eq_ok.mp success
      rwa [partReads.of_length_eq unread] at partReads
    · obtain ⟨others, behind, othersRead, success⟩ := run_bind_eq_ok.mp success
      obtain ⟨rfl, rfl⟩ := run_pure_eq_ok.mp success
      have reads := partReads.append (contracts.pieces othersRead)
      split
      · rename_i isEmpty
        rwa [groups_of_isEmpty isEmpty] at reads
      · exact reads

theorem enclosed_reads (contracts : Contracts fuel) {result : Expr}
    (success : (enclosed (fuel + 1) depth).run before = .ok (result, after)) :
    Reads (fun enclosing => before.place (none :: enclosing)) before
      result.groups after := by
  rw [Parser.enclosed] at success
  obtain ⟨body, between, bodyRead, success⟩ := run_bind_eq_ok.mp success
  obtain ⟨_, behind, skipped, success⟩ := run_bind_eq_ok.mp success
  obtain ⟨_, final, closing, success⟩ := run_bind_eq_ok.mp success
  obtain ⟨rest, closes, closed⟩ := run_expectClosing closing
  obtain ⟨rfl, rfl⟩ := run_pure_eq_ok.mp success
  rw [closed]
  exact ((contracts.alternatives bodyRead).passes (passes_skip skipped)).close _
    _ closes rfl

theorem lookaround_reads (contracts : Contracts fuel) {behind negated : Bool}
    {result : Expr}
    (success :
      (lookaround (fuel + 1) depth behind negated).run before =
        .ok (result, after)) :
    Reads (fun enclosing => before.place (none :: enclosing)) before
      result.groups after := by
  rw [Parser.lookaround] at success
  obtain ⟨body, between, bodyRead, success⟩ := run_bind_eq_ok.mp success
  obtain ⟨rfl, rfl⟩ := run_pure_eq_ok.mp success
  simpa [Expr.groups] using contracts.enclosed bodyRead

theorem flagGroup_reads (contracts : Contracts fuel) {result : Expr}
    (success : (flagGroup (fuel + 1) depth).run before = .ok (result, after)) :
    Reads (within (.flags before.modes.verbose true) before.modes.verbose)
      before result.groups after := by
  rw [Parser.flagGroup] at success
  replace success := run_get_bind.symm.trans success
  replace success := run_get_bind.symm.trans success
  obtain ⟨colon, between, flagsRead, success⟩ := run_bind_eq_ok.mp success
  obtain ⟨groups_eq, leads⟩ := run_flags flagsRead
  split at success
  · rename_i isColon
    rw [isColon] at leads
    obtain ⟨body, behind, bodyRead, success⟩ := run_bind_eq_ok.mp success
    obtain ⟨_, outside, closing, success⟩ := run_bind_eq_ok.mp success
    obtain ⟨rest, closes, closed⟩ := run_expectClosing closing
    obtain ⟨_, final, modified, success⟩ := run_bind_eq_ok.mp success
    cases modified
    obtain ⟨rfl, rfl⟩ := run_pure_eq_ok.mp success
    rw [closed]
    have reads := (contracts.alternatives bodyRead).close
      (some before.modes.verbose) before.modes closes rfl
    exact reads.after_leads groups_eq (leads _)
  · rename_i isParenthesis
    rw [Bool.not_eq_true] at isParenthesis
    rw [isParenthesis] at leads
    obtain ⟨rfl, rfl⟩ := run_pure_eq_ok.mp success
    exact .of_leads groups_eq (leads _)

theorem atom_reads (contracts : Contracts fuel) {result : Expr}
    (success : (atom (fuel + 1) depth).run before = .ok (result, after)) :
    Reads before.place before result.groups after := by
  rw [Parser.atom] at success
  obtain ⟨_, ahead, skipped, success⟩ := run_bind_eq_ok.mp success
  refine (passes_skip skipped).append ?_
  obtain ⟨text, ignored, reached⟩ := run_skip skipped
  obtain ⟨noComment, noRemark⟩ := not_ignored_of_skipIgnored ignored
  have rest_eq : ahead.rest = text := by rw [reached]
  have modes_eq : ahead.modes = before.modes := by rw [reached]
  replace success := run_get_bind.symm.trans success
  split at success
  · obtain ⟨rfl, rfl⟩ := run_pure_eq_ok.mp success
    exact (Passes.refl _).reads
  · rename_i tail starts
    obtain ⟨passed, rfl⟩ := Passes.character starts (by decide) success
    exact passed.reads
  · rename_i tail starts
    obtain ⟨passed, rfl⟩ := Passes.character starts (by decide) success
    exact passed.reads
  · rename_i tail starts
    obtain ⟨passed, rfl⟩ := Passes.character starts (by decide) success
    exact passed.reads
  · rename_i tail starts
    replace success := run_setRest_bind.symm.trans success
    split at success
    · have inside : tail.take 2 ≠ ['?', '#'] := by
        rw [← rest_eq, starts] at noComment
        simpa using noComment
      have reads := contracts.group inside success
      simpa only [State.place, ← starts] using reads
    · cases run_throw success
  · rename_i tail starts
    replace success := run_setRest_bind.symm.trans success
    obtain ⟨passed, groups_eq⟩ := run_escape success
    rw [groups_eq]
    simpa only [← starts] using passed.reads
  · rename_i tail starts
    replace success := run_setRest_bind.symm.trans success
    obtain ⟨passed, groups_eq⟩ := run_bracketed success
    rw [groups_eq]
    simpa only [← starts] using passed.reads
  · rename_i character tail _ _ _ notOpening notBackslash notBracket starts
    split at success
    · obtain ⟨rfl, rfl⟩ := run_pure_eq_ok.mp success
      exact (Passes.refl _).reads
    · rename_i unlisted
      obtain ⟨_, between, moved, success⟩ := run_bind_eq_ok.mp success
      obtain ⟨rfl, rfl⟩ := run_pure_eq_ok.mp success
      rw [run_setRest_eq_ok.mp moved, groups_literal]
      have ordinary : character ∉ ['\\', '(', ')', '['] := by
        simp only [List.contains_eq_mem, List.mem_cons, List.not_mem_nil,
          or_false, decide_eq_true_eq, not_or] at unlisted ⊢
        exact ⟨notBackslash, notOpening, unlisted.2.2.2.2, notBracket⟩
      have noHash : ahead.modes.verbose = true → character ≠ '#' := by
        rw [← rest_eq, starts] at noRemark
        simpa [modes_eq] using noRemark
      exact (Passes.part starts ordinary noHash).reads

/-! ### Groups -/

theorem run_openGroup {number : Nat}
    (success : openGroup.run before = .ok (number, after)) :
    number = before.groups + 1 ∧
      after = { before with groups := before.groups + 1 } := by
  replace success := run_get_bind.symm.trans success
  cases success
  exact ⟨rfl, rfl⟩

theorem run_openNamedGroup {number : Nat}
    (success : openNamedGroup.run before = .ok (number, after)) :
    number = before.groups + 1 ∧ after.groups = before.groups + 1 ∧
      after.modes = before.modes ∧
      ∃ name, before.rest = name ++ '>' :: after.rest ∧ IsInert name := by
  obtain ⟨opened, between, opening, success⟩ := run_bind_eq_ok.mp success
  obtain ⟨rfl, rfl⟩ := run_openGroup opening
  replace success := run_get_bind.symm.trans success
  split at success
  · cases run_throw success
  · rename_i name rest named
    obtain ⟨_, final, stored, success⟩ := run_bind_eq_ok.mp success
    cases stored
    obtain ⟨rfl, rfl⟩ := run_pure_eq_ok.mp success
    exact ⟨rfl, rfl, rfl, name, name?_eq_some named⟩

/-- A capture group of the engine takes the next number. -/
theorem Reads.capture {rest : Text} {verbose : Bool}
    (noComment : rest.take 2 ≠ ['?', '#'])
    (kind : GroupKind.of verbose rest = .capture)
    (verbose_eq : verbose = before.modes.verbose)
    (opened : between.groups = before.groups + 1)
    (verbose_eq' : between.modes.verbose = verbose)
    (leads : ∀ enclosing,
      (inParts verbose enclosing).Leads rest (inParts verbose enclosing)
        between.rest)
    (body :
      Reads (fun enclosing => between.place (none :: enclosing)) between numbers
        after) :
    Reads before.place { before with rest := '(' :: rest }
      ((before.groups + 1) :: numbers) after where
  numbers_eq := by
    have continued := body.numbers_eq
    rw [opened] at continued
    rw [List.length_cons, List.range'_succ, ← continued]
  groups_eq := by
    have continued := body.groups_eq
    simp only [List.length_cons]
    omega
  size_le := by
    have shorter := (leads []).length_le
    have within := body.size_le
    simp only [List.length_cons]
    omega
  total_eq enclosing := by
    subst verbose_eq
    have total := body.total_eq enclosing
    rw [State.place, verbose_eq', ← (leads _).captures_eq, opened] at total
    rw [State.place, captures_capture noComment kind, ← total]
    simp only
    omega

theorem leads_ignored_append {rest passed tail : Text} {verbose : Bool}
    (ignored : skipIgnored verbose .nothing rest = .ok (passed ++ tail))
    (inert : IsInert passed) (enclosing : List (Option Bool)) :
    (inParts verbose enclosing).Leads rest (inParts verbose enclosing) tail :=
  (leads_skipIgnored ignored).trans (leads_part_append inert tail)

theorem leads_group_append {rest tail : Text} {verbose : Bool} (passed : Text)
    (noComment : rest.take 2 ≠ ['?', '#'])
    (kind : GroupKind.of verbose rest = .other)
    (ignored : skipIgnored verbose .nothing rest = .ok (passed ++ tail))
    (inert : IsInert passed) (enclosing : List (Option Bool)) :
    (inParts verbose enclosing).Leads ('(' :: rest)
      (inParts verbose (none :: enclosing)) tail :=
  (leads_group noComment kind).trans (leads_ignored_append ignored inert _)

private theorem not_run_pieces_question {depth : Nat} {rest : Text}
    {result : List Expr} (starts : before.rest = '?' :: rest) :
    ∀ fuel, ¬ (pieces fuel depth).run before = .ok (result, after)
  | 0, success => by
      rw [Parser.pieces] at success
      exact run_throw success
  | 1, success => by
      rw [Parser.pieces] at success
      replace success := run_get_bind.symm.trans success
      simp only [starts] at success
      obtain ⟨_, _, thrown, -⟩ := run_bind_eq_ok.mp success
      rw [Parser.atom] at thrown
      exact run_throw thrown
  | fuel + 2, success => by
      have settled :
          skipIgnored before.modes.verbose .nothing before.rest =
            .ok before.rest := by
        rw [starts]
        simp [skipIgnored]
      have skips : ∀ {result behind},
          skip.run before = .ok (result, behind) → behind = before := by
        intro _ behind skipped
        obtain ⟨text, ignored, rfl⟩ := run_skip skipped
        rw [settled] at ignored
        cases ignored
        rfl
      rw [Parser.pieces] at success
      replace success := run_get_bind.symm.trans success
      simp only [starts] at success
      obtain ⟨single, between, singleRead, success⟩ := run_bind_eq_ok.mp success
      obtain ⟨part, behind, quantifierRead, success⟩ :=
        run_bind_eq_ok.mp success
      rw [Parser.atom] at singleRead
      obtain ⟨_, ahead, skipped, singleRead⟩ := run_bind_eq_ok.mp singleRead
      rw [skips skipped] at singleRead
      replace singleRead := run_get_bind.symm.trans singleRead
      simp only [starts] at singleRead
      obtain ⟨rfl, rfl⟩ := run_pure_eq_ok.mp singleRead
      obtain ⟨_, ahead, skipped, quantifierRead⟩ :=
        run_bind_eq_ok.mp quantifierRead
      rw [skips skipped] at quantifierRead
      obtain ⟨counts, counted, counting, quantifierRead⟩ :=
        run_bind_eq_ok.mp quantifierRead
      replace counting := run_get_bind.symm.trans counting
      simp only [starts] at counting
      obtain ⟨_, moved, moving, counting⟩ := run_bind_eq_ok.mp counting
      obtain ⟨rfl, rfl⟩ := run_pure_eq_ok.mp counting
      dsimp only at quantifierRead
      obtain ⟨_, _, thrown, -⟩ := run_bind_eq_ok.mp quantifierRead
      exact run_throw thrown

private theorem not_run_alternatives_question {fuel depth : Nat} {rest : Text}
    {result : Expr} (starts : before.rest = '?' :: rest) :
    ¬ (alternatives fuel depth).run before = .ok (result, after) := by
  intro success
  match fuel with
  | 0 =>
      rw [Parser.alternatives] at success
      exact run_throw success
  | 1 =>
      rw [Parser.alternatives] at success
      obtain ⟨first, between, firstRead, success⟩ := run_bind_eq_ok.mp success
      rw [Parser.branch] at firstRead
      exact run_throw firstRead
  | fuel + 2 =>
      rw [Parser.alternatives] at success
      obtain ⟨first, between, firstRead, success⟩ := run_bind_eq_ok.mp success
      rw [Parser.branch] at firstRead
      obtain ⟨parts, ahead, partsRead, firstRead⟩ := run_bind_eq_ok.mp firstRead
      exact not_run_pieces_question starts fuel partsRead

theorem conditionalGroup_noComment {fuel depth : Nat} {result : Expr}
    (success : (conditionalGroup fuel depth).run before = .ok (result, after)) :
    before.rest.take 2 ≠ ['?', '#'] := by
  intro isComment
  obtain ⟨rest, starts⟩ : ∃ rest, before.rest = '?' :: rest := by
    cases text : before.rest with
    | nil =>
        rw [text] at isComment
        cases isComment
    | cons character rest =>
        rw [text] at isComment
        simp only [List.take_succ_cons, List.cons.injEq] at isComment
        exact ⟨rest, by rw [isComment.1]⟩
  cases fuel with
  | zero =>
      rw [Parser.conditionalGroup] at success
      exact run_throw success
  | succ fuel =>
      rw [Parser.conditionalGroup] at success
      replace success := run_get_bind.symm.trans success
      simp only [starts] at success
      obtain ⟨condition, between, conditionRead, -⟩ := run_bind_eq_ok.mp success
      exact not_run_alternatives_question starts conditionRead

section Kinds

variable {verbose : Bool} {rest tail : Text}

theorem kind_of_name
    (ignored : skipIgnored verbose .nothing rest = .ok ('?' :: '<' :: tail))
    (notBehind : ∀ after, tail = '=' :: after → False)
    (notNegated : ∀ after, tail = '!' :: after → False) :
    GroupKind.of verbose rest = .capture := by
  unfold GroupKind.of
  rw [ignored]
  grind

theorem kind_of_unstarted
    (ignored : skipIgnored verbose .nothing rest = .ok tail)
    (unstarted : ∀ after, tail = '?' :: after → False) :
    GroupKind.of verbose rest = .capture := by
  unfold GroupKind.of
  rw [ignored]
  split <;> simp_all

private theorem kind_of_flags
    (ignored : skipIgnored verbose .nothing rest = .ok ('?' :: tail))
    (notMark :
      ∀ mark ∈ ['=', '!', '<', '>', '('], ∀ after, tail = mark :: after → False)
    (notName : ∀ after, tail = 'P' :: '<' :: after → False)
    (notReference : ∀ after, tail = 'P' :: '=' :: after → False) :
    GroupKind.of verbose rest = .flags := by
  unfold GroupKind.of
  rw [ignored]
  split <;> simp_all

end Kinds

private theorem lookaroundGroup_reads (contracts : Contracts fuel)
    {behind negated : Bool} {tail : Text} {ahead : State} {result : Expr}
    (passed : Text) (noComment : before.rest.take 2 ≠ ['?', '#'])
    (kind : GroupKind.of before.modes.verbose before.rest = .other)
    (ignored :
      skipIgnored before.modes.verbose .nothing before.rest =
        .ok (passed ++ tail)) (inert : IsInert passed)
    (reached : ahead = { before with rest := passed ++ tail })
    (success :
      (do setRest tail; lookaround fuel depth behind negated).run ahead =
        .ok (result, after)) :
    Reads before.place { before with rest := '(' :: before.rest } result.groups
      after := by
  replace success := run_setRest_bind.symm.trans success
  rw [reached] at success
  exact (contracts.lookaround success).after_leads rfl
    (leads_group_append passed noComment kind ignored inert)

private theorem namedGroup_reads (contracts : Contracts fuel) {tail : Text}
    {ahead : State} {result : Expr} (passed : Text)
    (noComment : before.rest.take 2 ≠ ['?', '#'])
    (kind : GroupKind.of before.modes.verbose before.rest = .capture)
    (ignored :
      skipIgnored before.modes.verbose .nothing before.rest =
        .ok (passed ++ tail)) (inert : IsInert passed)
    (reached : ahead = { before with rest := passed ++ tail })
    (success : (do
      setRest tail
      let number ← openNamedGroup
      return Expr.group number (← enclosed fuel depth)).run ahead =
        .ok (result, after)) :
    Reads before.place { before with rest := '(' :: before.rest } result.groups
      after := by
  replace success := run_setRest_bind.symm.trans success
  rw [reached] at success
  obtain ⟨number, opened, opening, success⟩ := run_bind_eq_ok.mp success
  obtain ⟨rfl, groups_eq, modes_eq, name, named, inertName⟩ :=
    run_openNamedGroup opening
  obtain ⟨body, final, bodyRead, success⟩ := run_bind_eq_ok.mp success
  obtain ⟨rfl, rfl⟩ := run_pure_eq_ok.mp success
  simp only [Expr.groups]
  refine .capture noComment kind rfl groups_eq (by rw [modes_eq]) ?_
    (contracts.enclosed bodyRead)
  intro enclosing
  dsimp only at named
  refine (leads_ignored_append ignored inert enclosing).trans ?_
  rw [named]
  exact (leads_part_append inertName _).trans
    (leads_part _ (by decide) (by simp))

theorem group_reads (contracts : Contracts fuel) {result : Expr}
    (noComment : before.rest.take 2 ≠ ['?', '#'])
    (success : (group (fuel + 1) depth).run before = .ok (result, after)) :
    Reads before.place { before with rest := '(' :: before.rest } result.groups
      after := by
  rw [Parser.group] at success
  obtain ⟨_, ahead, skipped, success⟩ := run_bind_eq_ok.mp success
  obtain ⟨text, ignored, reached⟩ := run_skip skipped
  replace success := run_get_bind.symm.trans success
  have rest_eq : ahead.rest = text := by rw [reached]
  rw [← rest_eq] at ignored reached
  split at success
  · rename_i tail starts
    rw [starts] at ignored reached
    exact lookaroundGroup_reads contracts ['?', '='] noComment
      (by simp [GroupKind.of, ignored]) ignored (by decide) reached success
  · rename_i tail starts
    rw [starts] at ignored reached
    exact lookaroundGroup_reads contracts ['?', '!'] noComment
      (by simp [GroupKind.of, ignored]) ignored (by decide) reached success
  · rename_i tail starts
    rw [starts] at ignored reached
    exact lookaroundGroup_reads contracts ['?', '<', '='] noComment
      (by simp [GroupKind.of, ignored]) ignored (by decide) reached success
  · rename_i tail starts
    rw [starts] at ignored reached
    exact lookaroundGroup_reads contracts ['?', '<', '!'] noComment
      (by simp [GroupKind.of, ignored]) ignored (by decide) reached success
  · rename_i tail notBehind notNegated starts
    rw [starts] at ignored reached
    exact namedGroup_reads contracts ['?', '<'] noComment
      (kind_of_name ignored notBehind notNegated) ignored (by decide) reached
      success
  · rename_i tail starts
    rw [starts] at ignored reached
    exact namedGroup_reads contracts ['?', 'P', '<'] noComment
      (by simp [GroupKind.of, ignored]) ignored (by decide) reached success
  · rename_i tail starts
    rw [starts] at ignored reached
    replace success := run_setRest_bind.symm.trans success
    rw [reached] at success
    obtain ⟨number, final, referred, success⟩ := run_bind_eq_ok.mp success
    obtain ⟨rfl, rfl⟩ := run_pure_eq_ok.mp success
    obtain ⟨⟨passed, named, inert⟩, groups_eq, modes_eq⟩ :=
      run_namedReference referred
    have kind : GroupKind.of before.modes.verbose before.rest = .other := by
      simp [GroupKind.of, ignored]
    simp only [Expr.groups]
    refine .of_leads groups_eq fun enclosing => ?_
    refine (leads_group_append ['?', 'P', '='] noComment kind ignored
      (by decide) enclosing).trans ?_
    dsimp only at named
    rw [named, State.place, modes_eq]
    exact (leads_part_append inert _).trans leads_closing
  · rename_i tail starts
    rw [starts] at ignored reached
    replace success := run_setRest_bind.symm.trans success
    rw [reached] at success
    obtain ⟨body, final, bodyRead, success⟩ := run_bind_eq_ok.mp success
    obtain ⟨rfl, rfl⟩ := run_pure_eq_ok.mp success
    have kind : GroupKind.of before.modes.verbose before.rest = .other := by
      simp [GroupKind.of, ignored]
    simp only [Expr.groups]
    exact (contracts.enclosed bodyRead).after_leads rfl
      (leads_group_append ['?', '>'] noComment kind ignored (by decide))
  · rename_i tail starts
    rw [starts] at ignored reached
    replace success := run_setRest_bind.symm.trans success
    rw [reached] at success
    have kind :
        GroupKind.of before.modes.verbose before.rest = .conditional := by
      simp [GroupKind.of, ignored]
    refine (contracts.conditionalGroup success).after_leads rfl fun enclosing =>
      ?_
    refine (leads_conditional noComment kind).trans
      ((leads_skipIgnored ignored).trans ?_)
    exact leads_condition (conditionalGroup_noComment success)
  · rename_i tail _ _ _ _ notName notReference _ _ starts
    rw [starts] at ignored reached
    replace success := run_setRest_bind.symm.trans success
    rw [reached] at success
    have kind : GroupKind.of before.modes.verbose before.rest = .flags := by
      refine kind_of_flags ignored ?_ notName notReference
      simp only [List.forall_mem_cons]
      grind
    refine (contracts.flagGroup success).after_leads rfl fun enclosing => ?_
    exact (leads_flags noComment kind).trans
      ((leads_skipIgnored ignored).trans leads_setting)
  · rename_i unstarted
    have kind := kind_of_unstarted ignored unstarted
    obtain ⟨number, opened, opening, success⟩ := run_bind_eq_ok.mp success
    obtain ⟨number_eq, opened_eq⟩ := run_openGroup opening
    obtain ⟨body, final, bodyRead, success⟩ := run_bind_eq_ok.mp success
    obtain ⟨rfl, rfl⟩ := run_pure_eq_ok.mp success
    have groups_eq : ahead.groups = before.groups := by rw [reached]
    have modes_eq : ahead.modes = before.modes := by rw [reached]
    simp only [Expr.groups, number_eq, groups_eq]
    refine .capture noComment kind rfl ?_ ?_ ?_ (contracts.enclosed bodyRead)
    · simp only [opened_eq, groups_eq]
    · simp only [opened_eq, modes_eq]
    · intro enclosing
      simp only [opened_eq]
      exact leads_skipIgnored ignored

private theorem groups_branches (body : Expr) :
    (branches body).1.groups ++ (branches body).2.groups = body.groups := by
  unfold branches
  split <;> simp [Expr.groups, Expr.groupsAll]

private theorem groups_tested (tested body : Expr) :
    (if (branches body).1.isEmpty && (branches body).2.isEmpty then tested
      else .conditional tested (branches body).1 (branches body).2).groups =
        tested.groups ++ body.groups := by
  have split_eq := groups_branches body
  split
  · rename_i bothEmpty
    rw [Bool.and_eq_true] at bothEmpty
    rw [groups_of_isEmpty bothEmpty.1, groups_of_isEmpty bothEmpty.2]
      at split_eq
    rw [← split_eq, List.append_nil, List.append_nil]
  · simp only [Expr.groups, List.append_assoc, split_eq]

private theorem groups_conditional (condition body : Expr) :
    (conditional condition body).groups = condition.groups ++ body.groups := by
  refine (groups_tested _ body).trans ?_
  split <;> simp [Expr.groups]

def conditionalRest (fuel depth : Nat) (condition : Expr) : Parser Expr := do
  skip
  expectClosing
  let before := (← get).rest
  let body ← alternatives fuel depth
  if (← get).rest.length = before.length then
    match condition with
    | .backreference _ => pure ()
    | _ => throw .emptyConditional
  skip
  expectClosing
  return conditional condition body

private theorem conditionalRest_reads (contracts : Contracts fuel)
    {result : Expr} (condition : Expr)
    (conditionReads : Reads before.place before condition.groups between)
    (success :
      (conditionalRest fuel depth condition).run between =
        .ok (result, after)) :
    Reads (fun enclosing => before.place (none :: none :: enclosing)) before
      result.groups after := by
  obtain ⟨_, ahead, skipped, success⟩ := run_bind_eq_ok.mp success
  obtain ⟨_, inside, closing, success⟩ := run_bind_eq_ok.mp success
  obtain ⟨rest, closes, closed⟩ := run_expectClosing closing
  have upToCondition := (conditionReads.passes (passes_skip skipped)).close
    none ahead.modes closes rfl
  rw [← closed] at upToCondition
  replace success := run_get_bind.symm.trans success
  obtain ⟨body, behind, bodyRead, success⟩ := run_bind_eq_ok.mp success
  replace success := run_get_bind.symm.trans success
  have ends : ∀ {result : Expr}, (do
      skip
      expectClosing
      return conditional condition body : Parser Expr).run behind =
        .ok (result, after) →
        Reads (fun enclosing => before.place (none :: none :: enclosing)) before
          result.groups after := by
    intro result success
    obtain ⟨_, due, skipped, success⟩ := run_bind_eq_ok.mp success
    obtain ⟨_, final, closing, success⟩ := run_bind_eq_ok.mp success
    obtain ⟨rest, closes, closed⟩ := run_expectClosing closing
    obtain ⟨rfl, rfl⟩ := run_pure_eq_ok.mp success
    rw [groups_conditional, closed]
    have bodyReads :=
      ((contracts.alternatives bodyRead).passes (passes_skip skipped)).close
        none due.modes closes rfl
    exact upToCondition.append_within (fun enclosing => none :: enclosing)
      bodyReads
  dsimp only at success
  split at success
  · split at success
    · exact ends success
    · cases run_throw_bind success
  · exact ends success

private theorem conditionalGroup_reads (contracts : Contracts fuel)
    {result : Expr}
    (success :
      (conditionalGroup (fuel + 1) depth).run before = .ok (result, after)) :
    Reads (fun enclosing => before.place (none :: none :: enclosing)) before
      result.groups after := by
  rw [Parser.conditionalGroup] at success
  replace success := run_get_bind.symm.trans success
  dsimp only at success
  split at success
  · cases run_throw_bind success
  · rename_i tail starts
    replace success := run_setRest_bind.symm.trans success
    obtain ⟨number, named, referred, success⟩ := run_bind_eq_ok.mp success
    have passed := (Passes.part starts (by decide) (by simp)).trans
      (passes_namedReference (by decide) referred)
    exact conditionalRest_reads contracts (.backreference number)
      (by simpa [Expr.groups] using passed.reads) success
  · rename_i tail starts
    replace success := run_setRest_bind.symm.trans success
    obtain ⟨number, named, referred, success⟩ := run_bind_eq_ok.mp success
    have passed := (Passes.part starts (by decide) (by simp)).trans
      (passes_namedReference (by decide) referred)
    exact conditionalRest_reads contracts (.backreference number)
      (by simpa [Expr.groups] using passed.reads) success
  · split at success
    · obtain ⟨number, named, referred, success⟩ := run_bind_eq_ok.mp success
      have passed := passes_numberedReference referred
      exact conditionalRest_reads contracts (.backreference number)
        (by simpa [Expr.groups] using passed.reads) success
    · obtain ⟨condition, named, conditionRead, success⟩ :=
        run_bind_eq_ok.mp success
      exact conditionalRest_reads contracts condition
        (contracts.alternatives conditionRead) success

end Functions

/-- Every function of the parser keeps its contract, by induction on the
fuel. -/
theorem contracts (fuel : Nat) : Contracts fuel := by
  induction fuel with
  | zero =>
      constructor <;> intros <;> rename_i success
      · rw [Parser.alternatives] at success
        cases run_throw success
      · rw [Parser.moreBranches] at success
        cases run_throw success
      · rw [Parser.branch] at success
        cases run_throw success
      · rw [Parser.pieces] at success
        cases run_throw success
      · rw [Parser.atom] at success
        cases run_throw success
      · rw [Parser.group] at success
        cases run_throw success
      · rw [Parser.enclosed] at success
        cases run_throw success
      · rw [Parser.lookaround] at success
        cases run_throw success
      · rw [Parser.flagGroup] at success
        cases run_throw success
      · rw [Parser.conditionalGroup] at success
        cases run_throw success
  | succ fuel contracts =>
      exact {
        alternatives := alternatives_reads contracts
        moreBranches := moreBranches_reads contracts
        branch := branch_reads contracts
        pieces := pieces_reads contracts
        atom := atom_reads contracts
        group := group_reads contracts
        enclosed := enclosed_reads contracts
        lookaround := lookaround_reads contracts
        flagGroup := flagGroup_reads contracts
        conditionalGroup := conditionalGroup_reads contracts }

end Parser

/-- The engine has the capture groups that `openings` finds, and numbers them in
the order of their opening parentheses. -/
theorem groups_of_parse {pattern : Text} {parsed : Parsed}
    (accepted : parse pattern = .ok parsed) :
    parsed.groups = (openings pattern).count .capture ∧
      parsed.expression.groups = List.range' 1 parsed.groups := by
  obtain ⟨⟨expression, state⟩, run, success⟩ := except_bind_eq_ok.mp accepted
  have reads := (Parser.contracts _).alternatives run
  dsimp only at success
  split at success
  · cases success
  · rename_i complete
    split at success
    · cases success
    · cases success
      have ends : state.rest = [] := by simpa using complete
      have total := reads.total_eq []
      have numbered := reads.groups_eq
      rw [ends, Reading.captures_nil] at total
      simp only [Parser.initialState, Nat.zero_add, Nat.add_zero]
        at total numbered
      constructor
      · exact total.symm
      · rw [reads.numbers_eq, numbered]
        rfl

end NamedGroups.Engine
