import NamedGroups.Engine.Shape
import NamedGroups.Proofs.Engine.Captures

/-!
# The steps of the parser

A step of the parser that succeeds is taken apart into the steps it is made of.
The steps of this file read a stretch of the pattern that opens no capture
group.
-/

namespace NamedGroups.Engine.Parser

open Reading

section Runs

variable {first second : Type} {before after : State}

theorem run_bind_eq_ok {step : Parser first} {next : first → Parser second}
    {result : second} :
    (step >>= next).run before = .ok (result, after) ↔
      ∃ value between, step.run before = .ok (value, between) ∧
        (next value).run between = .ok (result, after) := by
  rw [StateT.run_bind, except_bind_eq_ok]
  exact ⟨fun ⟨⟨value, between⟩, run⟩ => ⟨value, between, run⟩,
    fun ⟨value, between, run⟩ => ⟨(value, between), run⟩⟩

theorem run_pure_eq_ok {value result : first} :
    (pure value : Parser first).run before = .ok (result, after) ↔
      result = value ∧ after = before := by
  rw [StateT.run_pure]
  constructor
  · intro equal
    cases equal
    exact ⟨rfl, rfl⟩
  · rintro ⟨rfl, rfl⟩
    rfl

-- A step that starts by asking for the state unfolds to the left side of this
-- equation.
theorem run_get_bind {next : State → Parser first} :
    (get >>= next).run before = (next before).run before :=
  rfl

theorem run_setRest_bind {rest : Text} {next : Unit → Parser first} :
    (setRest rest >>= next).run before = (next ()).run { before with rest } :=
  rfl

theorem run_lift_eq_ok {value : Except SyntaxError first} {result : first} :
    (liftM value : Parser first).run before = .ok (result, after) ↔
      value = .ok result ∧ after = before := by
  cases value with
  | error problem =>
      constructor
      · intro equal
        cases equal
      · rintro ⟨equal, -⟩
        cases equal
  | ok value =>
      constructor
      · intro equal
        cases equal
        exact ⟨rfl, rfl⟩
      · rintro ⟨equal, rfl⟩
        cases equal
        rfl

theorem run_throw {problem : SyntaxError} {result : first} :
    ¬ (throw problem : Parser first).run before = .ok (result, after) := by
  intro equal
  cases equal

theorem run_throw_bind {problem : SyntaxError} {next : first → Parser second}
    {result : second} :
    ¬ ((throw problem : Parser first) >>= next).run before =
      .ok (result, after) := by
  intro success
  obtain ⟨_, _, thrown, -⟩ := run_bind_eq_ok.mp success
  exact run_throw thrown

theorem run_setRest_eq_ok {rest : Text} {result : Unit} :
    (setRest rest).run before = .ok (result, after) ↔
      after = { before with rest } := by
  constructor
  · intro equal
    cases equal
    rfl
  · rintro rfl
    rfl

end Runs

variable {before after : State}

theorem run_skip {result : Unit}
    (success : skip.run before = .ok (result, after)) :
    ∃ rest, skipIgnored before.modes.verbose .nothing before.rest = .ok rest ∧
      after = { before with rest } := by
  replace success := run_get_bind.symm.trans success
  obtain ⟨rest, between, lifted, moved⟩ := run_bind_eq_ok.mp success
  obtain ⟨skipped, same⟩ := run_lift_eq_ok.mp lifted
  rw [same] at moved
  exact ⟨rest, skipped, run_setRest_eq_ok.mp moved⟩

theorem run_accept {character : Char} {result : Bool}
    (success : (accept character).run before = .ok (result, after)) :
    (result = true ∧
      ∃ rest, before.rest = character :: rest ∧ after = { before with rest }) ∨
      (result = false ∧ after = before) := by
  replace success := run_get_bind.symm.trans success
  split at success
  · rename_i next rest starts
    split at success
    · rename_i equal
      obtain ⟨_, _, moved, success⟩ := run_bind_eq_ok.mp success
      obtain ⟨rfl, rfl⟩ := run_pure_eq_ok.mp success
      exact .inl ⟨rfl, rest, by rw [starts, equal], run_setRest_eq_ok.mp moved⟩
    · exact .inr (run_pure_eq_ok.mp success)
  · exact .inr (run_pure_eq_ok.mp success)

theorem run_expectClosing {result : Unit}
    (success : expectClosing.run before = .ok (result, after)) :
    ∃ rest, before.rest = ')' :: rest ∧ after = { before with rest } := by
  replace success := run_get_bind.symm.trans success
  split at success
  · rename_i rest starts
    exact ⟨rest, starts, run_setRest_eq_ok.mp success⟩
  · cases run_throw success
  · cases run_throw success

/-- Reading opens no group, and sets no mode. -/
structure Passes (before after : State) : Prop where
  groups_eq : after.groups = before.groups
  modes_eq : after.modes = before.modes
  leads : ∀ enclosing,
    (inParts before.modes.verbose enclosing).Leads before.rest
      (inParts before.modes.verbose enclosing) after.rest

theorem Passes.refl (state : State) : Passes state state :=
  ⟨rfl, rfl, fun _ => .refl _ _⟩

theorem Passes.trans {first second third : State} (start : Passes first second)
    (next : Passes second third) : Passes first third := by
  refine ⟨next.groups_eq.trans start.groups_eq,
    next.modes_eq.trans start.modes_eq, ?_⟩
  intro enclosing
  have continued := next.leads enclosing
  rw [start.modes_eq] at continued
  exact (start.leads enclosing).trans continued

theorem Passes.part {state : State} {character : Char} {rest : Text}
    (starts : state.rest = character :: rest)
    (ordinary : character ∉ ['\\', '(', ')', '['])
    (noRemark : state.modes.verbose = true → character ≠ '#') :
    Passes state { state with rest } := by
  refine ⟨rfl, rfl, fun enclosing => ?_⟩
  rw [starts]
  exact leads_part rest ordinary noRemark

theorem passes_skip {result : Unit}
    (success : skip.run before = .ok (result, after)) :
    Passes before after := by
  obtain ⟨rest, skipped, rfl⟩ := run_skip success
  exact ⟨rfl, rfl, fun _ => leads_skipIgnored skipped⟩

theorem passes_accept {character : Char} {result : Bool}
    (ordinary : character ∉ '#' :: ['\\', '(', ')', '['])
    (success : (accept character).run before = .ok (result, after)) :
    Passes before after := by
  obtain ⟨-, rest, starts, rfl⟩ | ⟨-, rfl⟩ := run_accept success
  · simp only [List.mem_cons, not_or] at ordinary
    exact .part starts (by simp [ordinary]) fun _ => ordinary.1
  · exact .refl _

/-! ### References -/

theorem run_numberedReference {result : Nat}
    (success : numberedReference.run before = .ok (result, after)) :
    number? before.rest = some (result, after.rest) ∧
      after.groups = before.groups ∧ after.modes = before.modes := by
  replace success := run_get_bind.symm.trans success
  split at success
  · rename_i number rest counted
    split at success
    · obtain ⟨_, _, stored, success⟩ := run_bind_eq_ok.mp success
      cases stored
      obtain ⟨_, _, noted, success⟩ := run_bind_eq_ok.mp success
      cases noted
      obtain ⟨rfl, rfl⟩ := run_pure_eq_ok.mp success
      exact ⟨counted, rfl, rfl⟩
    · cases run_throw success
  · cases run_throw success

theorem passes_numberedReference {result : Nat}
    (success : numberedReference.run before = .ok (result, after)) :
    Passes before after := by
  obtain ⟨counted, groups_eq, modes_eq⟩ := run_numberedReference success
  exact ⟨groups_eq, modes_eq, fun _ => leads_number? counted⟩

theorem run_namedReference {closing : Char} {relative : Bool} {result : Nat}
    (success :
      (namedReference closing relative).run before = .ok (result, after)) :
    (∃ passed, before.rest = passed ++ closing :: after.rest ∧ IsInert passed) ∧
      after.groups = before.groups ∧ after.modes = before.modes := by
  replace success := run_get_bind.symm.trans success
  split at success
  · cases run_throw success
  · rename_i backwards name rest named
    dsimp only at success
    split at success
    · cases run_throw_bind success
    · split at success
      · cases run_throw success
      · obtain ⟨_, _, moved, success⟩ := run_bind_eq_ok.mp success
        cases run_setRest_eq_ok.mp moved
        obtain ⟨_, _, noted, success⟩ := run_bind_eq_ok.mp success
        cases noted
        obtain ⟨rfl, rfl⟩ := run_pure_eq_ok.mp success
        exact ⟨referenceName?_eq_some named, rfl, rfl⟩

theorem passes_namedReference {closing : Char} {relative : Bool} {result : Nat}
    (ordinary : closing ∉ '#' :: ['\\', '(', ')', '['])
    (success :
      (namedReference closing relative).run before = .ok (result, after)) :
    Passes before after := by
  obtain ⟨⟨passed, whole, inert⟩, groups_eq, modes_eq⟩ :=
    run_namedReference success
  simp only [List.mem_cons, not_or] at ordinary
  refine ⟨groups_eq, modes_eq, fun enclosing => ?_⟩
  rw [whole]
  exact (leads_part_append inert _).trans
    (leads_part after.rest (by simp [ordinary]) fun _ => ordinary.1)

theorem passes_escapedReference {result : Nat}
    (success : escapedReference.run before = .ok (result, after)) :
    Passes before after := by
  obtain ⟨named, between, accepted, success⟩ := run_bind_eq_ok.mp success
  refine (passes_accept (by decide) accepted).trans ?_
  split at success
  · exact passes_namedReference (by decide) success
  · obtain ⟨quoted, between, accepted, success⟩ := run_bind_eq_ok.mp success
    refine (passes_accept (by decide) accepted).trans ?_
    split at success
    · exact passes_namedReference (by decide) success
    · cases run_throw success

/-! ### Single parts -/

theorem Passes.character {first : Type} {character : Char} {rest : Text}
    {value result : first} (starts : before.rest = character :: rest)
    (ordinary : character ∉ ['\\', '(', ')', '[', '#'])
    (success :
      (do setRest rest; return value : Parser first).run before =
        .ok (result, after)) : Passes before after ∧ result = value := by
  replace success := run_setRest_bind.symm.trans success
  obtain ⟨rfl, rfl⟩ := run_pure_eq_ok.mp success
  simp only [List.mem_cons, List.not_mem_nil, or_false, not_or] at ordinary
  exact ⟨.part starts (by simp [ordinary]) (by simp [ordinary]), rfl⟩

private theorem passes_quantifier? {result : Option (Nat × Option Nat)}
    (success : quantifier?.run before = .ok (result, after)) :
    Passes before after := by
  replace success := run_get_bind.symm.trans success
  split at success
  · rename_i rest starts
    exact (Passes.character starts (by decide) success).1
  · rename_i rest starts
    exact (Passes.character starts (by decide) success).1
  · rename_i rest starts
    exact (Passes.character starts (by decide) success).1
  · rename_i rest starts
    split at success
    · rename_i least most final counted
      replace success := run_setRest_bind.symm.trans success
      obtain ⟨rfl, rfl⟩ := run_pure_eq_ok.mp success
      refine ⟨rfl, rfl, fun enclosing => ?_⟩
      rw [starts]
      have brace :
          (inParts before.modes.verbose enclosing).Leads ('\x7b' :: rest)
            (inParts before.modes.verbose enclosing) rest :=
        leads_part rest (by decide) (by simp)
      exact brace.trans (leads_counts? counted)
    · obtain ⟨rfl, rfl⟩ := run_pure_eq_ok.mp success
      exact .refl _
  · obtain ⟨rfl, rfl⟩ := run_pure_eq_ok.mp success
    exact .refl _

theorem run_quantified {expression result : Expr}
    (success : (quantified expression).run before = .ok (result, after)) :
    Passes before after ∧ result.groups = expression.groups := by
  obtain ⟨_, ahead, skipped, success⟩ := run_bind_eq_ok.mp success
  obtain ⟨found, counted, quantifier, success⟩ := run_bind_eq_ok.mp success
  have upToCounts := (passes_skip skipped).trans (passes_quantifier? quantifier)
  split at success
  · obtain ⟨rfl, rfl⟩ := run_pure_eq_ok.mp success
    exact ⟨upToCounts, rfl⟩
  · dsimp only at success
    split at success
    · cases run_throw_bind success
    · obtain ⟨_, behind, skippedAgain, success⟩ := run_bind_eq_ok.mp success
      obtain ⟨marked, greed, accepted, success⟩ := run_bind_eq_ok.mp success
      replace success := run_get_bind.symm.trans success
      obtain ⟨possessive, final, acceptedPlus, success⟩ :=
        run_bind_eq_ok.mp success
      have upToEnd :=
        upToCounts.trans ((passes_skip skippedAgain).trans ((passes_accept
          (by decide) accepted).trans (passes_accept (by decide) acceptedPlus)))
      split at success
      · obtain ⟨rfl, rfl⟩ := run_pure_eq_ok.mp success
        exact ⟨upToEnd, by simp [Expr.groups]⟩
      · obtain ⟨rfl, rfl⟩ := run_pure_eq_ok.mp success
        exact ⟨upToEnd, by simp [Expr.groups]⟩

theorem groups_literal (modes : Modes) (character : Char) :
    (escape.literal modes character).groups = [] := by
  unfold escape.literal
  split <;> simp [Expr.groups]

theorem run_escape {result : Expr}
    (success : escape.run before = .ok (result, after)) :
    Passes { before with rest := '\\' :: before.rest } after ∧
      result.groups = [] := by
  replace success := run_get_bind.symm.trans success
  split at success
  · rename_i rest starts
    replace success := run_setRest_bind.symm.trans success
    obtain ⟨number, _, referred, success⟩ := run_bind_eq_ok.mp success
    obtain ⟨rfl, rfl⟩ := run_pure_eq_ok.mp success
    obtain ⟨groups_eq, modes_eq, leads⟩ := passes_escapedReference referred
    refine ⟨⟨groups_eq, modes_eq, fun enclosing => ?_⟩, by simp [Expr.groups]⟩
    simp only [starts]
    exact (leads_backslash 'k' rest).trans (leads enclosing)
  · rename_i next rest _ starts
    split at success
    · rename_i isDigit
      obtain ⟨number, _, referred, success⟩ := run_bind_eq_ok.mp success
      obtain ⟨rfl, rfl⟩ := run_pure_eq_ok.mp success
      obtain ⟨counted, groups_eq, modes_eq⟩ := run_numberedReference referred
      refine ⟨⟨groups_eq, modes_eq, fun enclosing => ?_⟩, by simp [Expr.groups]⟩
      have digits := number?_eq_some counted
      rw [starts, List.takeWhile_cons_of_pos isDigit] at digits
      simp only [starts, digits, List.cons_append]
      exact (leads_backslash next _).trans
        (leads_part_append (takeWhile_isInert isDigit_of_structural rest) _)
    · obtain ⟨⟨escape, tail⟩, between, lifted, success⟩ :=
        run_bind_eq_ok.mp success
      obtain ⟨escaped, same⟩ := run_lift_eq_ok.mp lifted
      rw [same] at success
      dsimp only at success
      obtain ⟨_, between, moved, success⟩ := run_bind_eq_ok.mp success
      have read :
          Passes { before with rest := '\\' :: before.rest }
            { before with rest := tail } :=
        ⟨rfl, rfl, fun _ => leads_escape escaped⟩
      rw [← run_setRest_eq_ok.mp moved] at read
      split at success
      · obtain ⟨rfl, rfl⟩ := run_pure_eq_ok.mp success
        exact ⟨read, groups_literal _ _⟩
      · obtain ⟨rfl, rfl⟩ := run_pure_eq_ok.mp success
        exact ⟨read, by simp [Expr.groups]⟩
      · obtain ⟨rfl, rfl⟩ := run_pure_eq_ok.mp success
        exact ⟨read, by simp [Expr.groups]⟩
  · cases run_throw success

theorem run_bracketed {result : Expr}
    (success : bracketed.run before = .ok (result, after)) :
    Passes { before with rest := '[' :: before.rest } after ∧
      result.groups = [] := by
  replace success := run_get_bind.symm.trans success
  obtain ⟨⟨symbols, rest⟩, ahead, lifted, success⟩ := run_bind_eq_ok.mp success
  obtain ⟨scanned, same⟩ := run_lift_eq_ok.mp lifted
  rw [same] at success
  dsimp only at success
  obtain ⟨_, between, moved, success⟩ := run_bind_eq_ok.mp success
  obtain ⟨members, behind, lifted, success⟩ := run_bind_eq_ok.mp success
  obtain ⟨_, same⟩ := run_lift_eq_ok.mp lifted
  rw [same] at success
  obtain ⟨rfl, rfl⟩ := run_pure_eq_ok.mp success
  rw [run_setRest_eq_ok.mp moved]
  exact ⟨⟨rfl, rfl, fun _ => leads_scan scanned⟩, by simp [Expr.groups]⟩

/-! ### Flags -/

private theorem setMode?_eq_some {modes next : Modes} {letter : Char}
    {value : Bool} (success : setMode? modes letter value = some next) :
    letter ∈ ['i', 'm', 's', 'U', 'x', 'u'] ∧
      next.verbose = if letter = 'x' then value else modes.verbose := by
  unfold setMode? at success
  split at success <;> grind

theorem leads_flag {outer value verbose : Bool} {enclosing : List (Option Bool)}
    {character : Char}
    (ordinary : character ∉ ['\\', '(', '#', ' ', '\t', '\r', '\n'])
    (rest : Text) :
    (within (.flags outer value) verbose enclosing).Leads (character :: rest)
      ((within (.flags outer value) verbose enclosing).readFlag outer value
        character) rest := by
  simp only [List.mem_cons, List.not_mem_nil, or_false, not_or] at ordinary
  apply Leads.of_step
  · simp [step, readCharacter, ordinary]
  · simp [step, readCharacter, count_asOpening, ordinary]

/-- A letter of a mode stays among the flags, and may change how the text behind
it is read. -/
theorem leads_setMode? {outer value : Bool} {enclosing : List (Option Bool)}
    {modes next : Modes} {letter : Char}
    (known : setMode? modes letter value = some next) (rest : Text) :
    (within (.flags outer value) modes.verbose enclosing).Leads (letter :: rest)
      (within (.flags outer value) next.verbose enclosing) rest := by
  obtain ⟨isLetter, verbose_eq⟩ := setMode?_eq_some known
  simp only [List.mem_cons, List.not_mem_nil, or_false] at isLetter
  have read :
      (within (.flags outer value) modes.verbose enclosing).readFlag outer value
          letter = within (.flags outer value) next.verbose enclosing := by
    rw [verbose_eq]
    obtain rfl | rfl | rfl | rfl | rfl | rfl := isLetter <;> simp [readFlag]
  have ordinary : letter ∉ ['\\', '(', '#', ' ', '\t', '\r', '\n'] := by
    obtain rfl | rfl | rfl | rfl | rfl | rfl := isLetter <;> decide
  rw [← read]
  exact leads_flag ordinary rest

theorem run_flags {fuel : Nat} {value fresh colon : Bool}
    (success : (flags fuel value fresh).run before = .ok (colon, after)) :
    after.groups = before.groups ∧
      ∀ outer enclosing,
        (within (.flags outer value) before.modes.verbose enclosing).Leads
          before.rest (inParts after.modes.verbose
            (if colon then some outer :: enclosing else enclosing))
          after.rest := by
  induction fuel generalizing value fresh before with
  | zero => cases run_throw success
  | succ fuel induction =>
      obtain ⟨_, ahead, skipped, success⟩ := run_bind_eq_ok.mp success
      obtain ⟨rest, ignored, reached⟩ := run_skip skipped
      have leads : ∀ outer enclosing,
          (within (.flags outer value) before.modes.verbose enclosing).Leads
            before.rest
            (within (.flags outer value) before.modes.verbose enclosing) rest :=
        fun _ _ => leads_skipIgnored ignored
      rw [reached] at success
      replace success := run_get_bind.symm.trans success
      dsimp only at success
      split at success
      · cases run_throw success
      · rename_i tail
        split at success
        · cases run_throw_bind success
        · replace success := run_setRest_bind.symm.trans success
          obtain ⟨rfl, rfl⟩ := run_pure_eq_ok.mp success
          exact ⟨rfl, fun outer enclosing =>
            (leads outer enclosing).trans (leads_flag (by decide) tail)⟩
      · rename_i tail
        split at success
        · cases run_throw_bind success
        · replace success := run_setRest_bind.symm.trans success
          obtain ⟨rfl, rfl⟩ := run_pure_eq_ok.mp success
          exact ⟨rfl, fun outer enclosing =>
            (leads outer enclosing).trans (leads_flag (by decide) tail)⟩
      · rename_i tail
        split at success
        · cases run_throw_bind success
        · replace success := run_setRest_bind.symm.trans success
          obtain ⟨groups_eq, others⟩ := induction success
          exact ⟨groups_eq, fun outer enclosing => (leads outer enclosing).trans
            ((leads_flag (by decide) tail).trans (others outer enclosing))⟩
      · rename_i letter tail notClosing notColon notMinus
        split at success
        · cases run_throw success
        · rename_i modes known
          obtain ⟨_, between, stored, success⟩ := run_bind_eq_ok.mp success
          cases stored
          obtain ⟨groups_eq, others⟩ := induction success
          exact ⟨groups_eq, fun outer enclosing => (leads outer enclosing).trans
            ((leads_setMode? known tail).trans (others outer enclosing))⟩

end NamedGroups.Engine.Parser
