import Mathlib.Tactic.Ring
import NamedGroups.Engine.Parser
import NamedGroups.Proofs.Engine.Erasure

/-!
# Expressions without capture groups

Capture groups tell what has been found where, but not what is found.  The
program of an expression is that of its bare form, in which each group is
replaced by its body, with two further instructions for each group.  So two
patterns with the same bare form find the same text.
-/

namespace NamedGroups.Engine

namespace Expr

theorem isEmpty_iff {expression : Expr} :
    expression.isEmpty = true ↔ expression = empty := by
  cases expression <;> simp [isEmpty]

/-- Several parts in a row.  Empty ones are left out, and a single one stands
for itself. -/
def ofParts (parts : List Expr) : Expr :=
  match parts.filter fun part => !part.isEmpty with
  | [] => empty
  | [part] => part
  | kept => concat kept

mutual

/-- The expression with the body of each capture group in the place of the
group. -/
def bare : Expr → Expr
  | concat parts => ofParts (bareAll parts)
  | alternation alternatives => alternation (bareAll alternatives)
  | group _ body => body.bare
  | look behind negated body => look behind negated body.bare
  | repetition body least most greedy => repetition body.bare least most greedy
  | atomic body => atomic body.bare
  | conditional condition accepted rejected =>
      conditional condition.bare accepted.bare rejected.bare
  | expression => expression

def bareAll : List Expr → List Expr
  | [] => []
  | part :: parts => part.bare :: bareAll parts

end

end Expr

/-! ### Programs without the instructions of capture groups -/

namespace Program

/-- The instructions that do not belong to capture groups, with the targets that
they have among themselves. -/
def strip (landing : Nat → Nat) (code : List Instruction) : List Instruction :=
  (code.filter fun instruction => !instruction.isInner).map (·.relocate landing)

/-- Whether `landing` counts the instructions that stay, from the address `base`
on. -/
def Lands (landing : Nat → Nat) : Nat → List Instruction → Prop
  | _, [] => True
  | base, instruction :: code =>
      landing (base + 1) =
          landing base + (if instruction.isInner then 0 else 1) ∧
        Lands landing (base + 1) code

section Strip

variable {landing : Nat → Nat} {base : Nat}

theorem strip_append (first second : List Instruction) :
    strip landing (first ++ second) =
      strip landing first ++ strip landing second := by
  simp [strip]

theorem strip_kept {instruction : Instruction}
    (kept : instruction.isInner = false) (code : List Instruction) :
    strip landing (instruction :: code) =
      instruction.relocate landing :: strip landing code := by
  simp [strip, kept]

theorem strip_inner {instruction : Instruction}
    (inner : instruction.isInner = true) (code : List Instruction) :
    strip landing (instruction :: code) = strip landing code := by
  simp [strip, inner]

theorem lands_kept {instruction : Instruction}
    (kept : instruction.isInner = false) (code : List Instruction) :
    Lands landing base (instruction :: code) ↔
      landing (base + 1) = landing base + 1 ∧
        Lands landing (base + 1) code := by
  simp [Lands, kept]

theorem lands_inner {instruction : Instruction}
    (inner : instruction.isInner = true) (code : List Instruction) :
    Lands landing base (instruction :: code) ↔
      landing (base + 1) = landing base ∧ Lands landing (base + 1) code := by
  simp [Lands, inner]

theorem Lands.reached {code : List Instruction}
    (lands : Lands landing base code) :
    landing (base + code.length) =
      landing base + (strip landing code).length := by
  induction code generalizing base with
  | nil => rfl
  | cons instruction code induction =>
      rw [List.length_cons, Nat.add_comm code.length, ← Nat.add_assoc]
      cases inner : instruction.isInner with
      | true =>
          rw [lands_inner inner] at lands
          rw [induction lands.2, lands.1, strip_inner inner]
      | false =>
          rw [lands_kept inner] at lands
          rw [induction lands.2, lands.1, strip_kept inner, List.length_cons]
          omega

theorem lands_append (first second : List Instruction) :
    Lands landing base (first ++ second) ↔
      Lands landing base first ∧
        Lands landing (base + first.length) second := by
  induction first generalizing base with
  | nil => simp [Lands]
  | cons instruction first induction =>
      have length : base + 1 + first.length = base + (first.length + 1) := by
        omega
      simp only [List.cons_append, Lands, induction, List.length_cons,
        and_assoc, length]

end Strip

/-! ### Repetitions -/

theorem isInner_enterOrLeave (greedy : Bool) (body exit : Nat) :
    (enterOrLeave greedy body exit).isInner = false := by
  cases greedy <;> rfl

theorem relocate_enterOrLeave (landing : Nat → Nat) (greedy : Bool)
    (body exit : Nat) :
    (enterOrLeave greedy body exit).relocate landing =
      enterOrLeave greedy (landing body) (landing exit) := by
  cases greedy <;> rfl

/-- The instructions of a body at any address, as many of them at each. -/
def Fixed (body : Nat → List Instruction) : Prop :=
  ∀ base, (body base).length = (body 0).length

section Repeated

variable {body bareBody : Nat → List Instruction} {landing : Nat → Nat}

private theorem length_copies (fixed : Fixed body) (count base : Nat) :
    (copies body count base).length = count * (body 0).length := by
  induction count generalizing base with
  | zero => simp [copies]
  | succ count induction =>
      rw [copies, List.length_append, induction, fixed base]
      ring

theorem length_atMost (fixed : Fixed body) (greedy : Bool)
    (exit count base : Nat) :
    (atMost body greedy exit count base).length =
      count * (1 + (body 0).length) := by
  induction count generalizing base with
  | zero => simp [atMost]
  | succ count induction =>
      rw [atMost, List.cons_append, List.length_cons, List.length_append,
        induction, fixed (base + 1)]
      ring

theorem fixed_repeated (fixed : Fixed body) (least : Nat) (most : Option Nat)
    (greedy : Bool) : Fixed (repeated body least most greedy) := by
  intro base
  cases most with
  | some most => simp [repeated, length_copies fixed, length_atMost fixed]
  | none =>
      cases least with
      | zero =>
          simp [repeated, anyNumber, oneOrMore, fixed (base + 1), fixed (0 + 1)]
      | succ count =>
          simp [repeated, oneOrMore, length_copies fixed,
            fixed (base + count * (body 0).length),
            fixed (count * (body 0).length)]

/-- Whether a body stripped of its capture groups is another one. -/
def Strips (landing : Nat → Nat) (body bareBody : Nat → List Instruction) :
    Prop :=
  ∀ base, Lands landing base (body base) →
    bareBody (landing base) = strip landing (body base)

theorem strips_copies (strips : Strips landing body bareBody) (count : Nat) :
    Strips landing (copies body count) (copies bareBody count) := by
  induction count with
  | zero => exact fun _ _ => rfl
  | succ count induction =>
      intro base lands
      rw [copies, lands_append] at lands
      obtain ⟨first, others⟩ := lands
      rw [copies, copies, strip_append, ← strips base first,
        ← induction _ others, first.reached, strips base first]

private theorem strips_atMost (strips : Strips landing body bareBody)
    (greedy : Bool) (exit count : Nat) :
    Strips landing (atMost body greedy exit count)
      (atMost bareBody greedy (landing exit) count) := by
  induction count with
  | zero => exact fun _ _ => rfl
  | succ count induction =>
      intro base lands
      rw [atMost, List.cons_append, lands_kept (isInner_enterOrLeave ..),
        lands_append] at lands
      obtain ⟨here, first, others⟩ := lands
      rw [atMost, atMost, List.cons_append, List.cons_append,
        strip_kept (isInner_enterOrLeave ..), relocate_enterOrLeave,
        strip_append, ← strips _ first, ← induction _ others, first.reached,
        ← strips _ first, here]

theorem strips_oneOrMore (strips : Strips landing body bareBody)
    (greedy : Bool) :
    Strips landing (oneOrMore body greedy) (oneOrMore bareBody greedy) := by
  intro base lands
  rw [oneOrMore, lands_append, lands_kept (isInner_enterOrLeave ..)] at lands
  obtain ⟨first, last, -⟩ := lands
  rw [oneOrMore, oneOrMore, strip_append, strip_kept (isInner_enterOrLeave ..),
    relocate_enterOrLeave, last, first.reached, strips base first]
  rfl

private theorem strips_anyNumber (strips : Strips landing body bareBody)
    (greedy : Bool) :
    Strips landing (anyNumber body greedy) (anyNumber bareBody greedy) := by
  intro base lands
  rw [anyNumber, lands_kept (isInner_enterOrLeave ..)] at lands
  obtain ⟨here, inside⟩ := lands
  rw [anyNumber, anyNumber, strip_kept (isInner_enterOrLeave ..),
    relocate_enterOrLeave, inside.reached,
    ← strips_oneOrMore strips greedy _ inside, here]

theorem strips_repeated (fixed : Fixed body) (bareFixed : Fixed bareBody)
    (strips : Strips landing body bareBody) (least : Nat) (most : Option Nat)
    (greedy : Bool) :
    Strips landing (repeated body least most greedy)
      (repeated bareBody least most greedy) := by
  intro base lands
  cases most with
  | some most =>
      rw [repeated, lands_append] at lands
      obtain ⟨first, others⟩ := lands
      have reached := others.reached
      rw [length_atMost fixed, ← strips_atMost strips greedy _ _ _ others,
        length_atMost bareFixed, first.reached,
        ← strips_copies strips least base first] at reached
      rw [repeated, repeated, strip_append,
        ← strips_copies strips least base first,
        ← strips_atMost strips greedy _ _ _ others, reached, first.reached,
        ← strips_copies strips least base first]
  | none =>
      cases least with
      | zero => exact strips_anyNumber strips greedy base lands
      | succ count =>
          rw [repeated, lands_append] at lands
          obtain ⟨first, others⟩ := lands
          rw [repeated, repeated, strip_append,
            ← strips_copies strips count base first,
            ← strips_oneOrMore strips greedy _ others, first.reached,
            ← strips_copies strips count base first]

end Repeated

/-! ### Expressions -/

mutual

theorem fixed_code : ∀ expression : Expr, Fixed fun base => code base expression
  | .empty => fun _ => rfl
  | .literal _ => fun _ => rfl
  | .charSet _ => fun _ => rfl
  | .assertion _ => fun _ => rfl
  | .concat parts => by
      intro base
      simpa only [code] using fixed_codeAll parts base
  | .alternation alternatives => by
      intro base
      simpa only [code] using fixed_codeFirst alternatives base
  | .group _ body => by
      have ofBody : ∀ base, (code base body).length = (code 0 body).length :=
        fixed_code body
      intro base
      simp [code, ofBody (base + 1), ofBody 1]
  | .repetition body least most greedy => by
      intro base
      simpa only [code]
        using fixed_repeated (fixed_code body) least most greedy base
  | .look .. => fun _ => rfl
  | .backreference _ => fun _ => rfl
  | .groupTest _ => fun _ => rfl
  | .atomic _ => fun _ => rfl
  | .conditional .. => fun _ => rfl

theorem fixed_codeAll :
    ∀ parts : List Expr, Fixed fun base => codeAll base parts
  | [] => fun _ => rfl
  | part :: parts => by
      have ofPart : ∀ base, (code base part).length = (code 0 part).length :=
        fixed_code part
      have ofParts :
          ∀ base, (codeAll base parts).length = (codeAll 0 parts).length :=
        fixed_codeAll parts
      intro base
      simp only [codeAll, List.length_append]
      rw [ofPart, ofParts, ofParts (0 + _)]

theorem fixed_codeFirst :
    ∀ alternatives : List Expr, Fixed fun base => codeFirst base alternatives
  | [] => fun _ => rfl
  | [alternative] => by
      intro base
      simpa only [codeFirst] using fixed_code alternative base
  | alternative :: next :: alternatives => by
      have ofFirst : ∀ base,
          (code base alternative).length = (code 0 alternative).length :=
        fixed_code alternative
      have ofOthers : ∀ base, (codeFirst base (next :: alternatives)).length =
          (codeFirst 0 (next :: alternatives)).length :=
        fixed_codeFirst (next :: alternatives)
      intro base
      simp only [codeFirst, List.length_append, List.length_cons]
      rw [ofFirst, ofOthers, ofFirst (0 + 1), ofOthers (0 + 1 + _ + 1)]

end

private theorem codeAll_filter (parts : List Expr) (base : Nat) :
    codeAll base (parts.filter fun part => !part.isEmpty) =
      codeAll base parts := by
  induction parts generalizing base with
  | nil => rfl
  | cons part parts induction =>
      cases isEmpty : part.isEmpty with
      | true =>
          rw [Expr.isEmpty_iff] at isEmpty
          subst isEmpty
          exact induction base
      | false => simp [isEmpty, codeAll, induction]

private theorem code_ofParts (parts : List Expr) (base : Nat) :
    code base (Expr.ofParts parts) = codeAll base parts := by
  rw [← codeAll_filter, Expr.ofParts]
  split
  · rename_i none
    rw [none]
    rfl
  · rename_i part single
    rw [single]
    simp [codeAll]
  · rw [code]

variable {landing : Nat → Nat}

mutual

/-- The program of an expression, stripped of the instructions for capture
groups, is that of its bare form. -/
theorem strips_code :
    ∀ expression : Expr, (∀ number ∈ expression.groups, 1 ≤ number) →
      Strips landing (fun base => code base expression)
        (fun base => code base expression.bare)
  | .empty, _ => fun _ _ => rfl
  | .literal _, _ => fun _ _ => rfl
  | .charSet _, _ => fun _ _ => rfl
  | .assertion _, _ => fun _ _ => rfl
  | .concat parts, positive => by
      intro base lands
      rw [Expr.groups] at positive
      simp only [code, Expr.bare, code_ofParts] at lands ⊢
      exact strips_codeAll parts positive base lands
  | .alternation alternatives, positive => by
      intro base lands
      rw [Expr.groups] at positive
      simp only [code, Expr.bare] at lands ⊢
      exact strips_codeFirst alternatives positive base lands
  | .group number body, positive => by
      intro base lands
      rw [Expr.groups, List.forall_mem_cons] at positive
      have startsGroup : (Instruction.save (2 * number)).isInner = true := by
        simp [Instruction.isInner]
        omega
      have endsGroup : (Instruction.save (2 * number + 1)).isInner = true := by
        simp [Instruction.isInner]
        omega
      simp only [code, List.cons_append, Expr.bare] at lands ⊢
      rw [lands_inner startsGroup, lands_append] at lands
      obtain ⟨here, inside, -⟩ := lands
      rw [strip_inner startsGroup, strip_append, strip_inner endsGroup, ← here]
      simpa [strip] using strips_code body positive.2 (base + 1) inside
  | .repetition body least most greedy, positive => by
      intro base lands
      rw [Expr.groups] at positive
      simp only [code, Expr.bare] at lands ⊢
      exact strips_repeated (fixed_code body) (fixed_code body.bare)
        (strips_code body positive) least most greedy base lands
  | .look .., _ => fun _ _ => rfl
  | .backreference _, _ => fun _ _ => rfl
  | .groupTest _, _ => fun _ _ => rfl
  | .atomic _, _ => fun _ _ => rfl
  | .conditional .., _ => fun _ _ => rfl

theorem strips_codeAll :
    ∀ parts : List Expr, (∀ number ∈ Expr.groupsAll parts, 1 ≤ number) →
      Strips landing (fun base => codeAll base parts)
        (fun base => codeAll base (Expr.bareAll parts))
  | [], _ => fun _ _ => rfl
  | part :: parts, positive => by
      intro base lands
      rw [Expr.groupsAll, List.forall_mem_append] at positive
      simp only [codeAll, Expr.bareAll] at lands ⊢
      rw [lands_append] at lands
      obtain ⟨first, others⟩ := lands
      have ofPart := strips_code part positive.1 base first
      have ofParts := strips_codeAll parts positive.2 _ others
      dsimp only at ofPart ofParts
      rw [strip_append, ← ofParts, first.reached, ofPart]

theorem strips_codeFirst : ∀ alternatives : List Expr,
    (∀ number ∈ Expr.groupsAll alternatives, 1 ≤ number) →
    Strips landing (fun base => codeFirst base alternatives)
      (fun base => codeFirst base (Expr.bareAll alternatives))
  | [], _ => fun _ _ => rfl
  | [alternative], positive => by
      intro base lands
      rw [Expr.groupsAll, List.forall_mem_append] at positive
      simp only [codeFirst, Expr.bareAll] at lands ⊢
      exact strips_code alternative positive.1 base lands
  | alternative :: next :: alternatives, positive => by
      intro base lands
      rw [Expr.groupsAll, List.forall_mem_append] at positive
      have ofFirst := strips_code alternative positive.1
      have ofOthers := strips_codeFirst (next :: alternatives) positive.2
      simp only [codeFirst, Expr.bareAll, List.cons_append] at lands ofOthers ⊢
      rw [lands_kept rfl, lands_append, lands_kept rfl] at lands
      obtain ⟨here, first, passed, others⟩ := lands
      rw [strip_kept rfl, strip_append, strip_kept rfl, ← ofFirst _ first,
        ← ofOthers _ others]
      simp only [Instruction.relocate, others.reached, passed, first.reached,
        here, ← ofFirst _ first, ← ofOthers _ others]

end

/-! ### Whole programs -/

def landingIn (code : List Instruction) (address : Nat) : Nat :=
  (code.take address).countP (fun instruction => !instruction.isInner) +
    (address - code.length)

theorem landingIn_succ (code : List Instruction) (address : Nat) :
    landingIn code (address + 1) =
      landingIn code address +
        (if (code[address]?).any Instruction.isInner then 0 else 1) := by
  unfold landingIn
  rw [List.take_add_one, List.countP_append]
  rcases inside : code[address]? with _ | instruction
  · rw [List.getElem?_eq_none_iff] at inside
    simp
    omega
  · have := (List.getElem?_eq_some_iff.mp inside).1
    cases inner : instruction.isInner <;> simp [inner] <;> omega

private theorem lands_landingIn (before code : List Instruction) :
    Lands (landingIn (before ++ code)) before.length code := by
  induction code generalizing before with
  | nil => trivial
  | cons instruction code induction =>
      have further := induction (before ++ [instruction])
      rw [List.append_assoc, List.singleton_append, List.length_append,
        List.length_singleton] at further
      refine ⟨?_, further⟩
      rw [landingIn_succ]
      simp

theorem getElem?_strip (landing : Nat → Nat) (code : List Instruction)
    (address : Nat) (kept : (code[address]?).any Instruction.isInner = false) :
    (strip landing code)[landingIn code address]? =
      (code[address]?).map (·.relocate landing) := by
  have filtered :
      (code.filter fun instruction => !instruction.isInner)[landingIn code
        address]? = code[address]? := by
    induction code generalizing address with
    | nil => simp
    | cons instruction code induction =>
        cases address with
        | zero =>
            have here : instruction.isInner = false := by simpa using kept
            simp [landingIn, here]
        | succ address =>
            have further := induction address (by simpa using kept)
            cases inner : instruction.isInner <;>
              simpa [landingIn, inner, Nat.add_right_comm] using further
  rw [strip, List.getElem?_map, filtered]

def instructions (expression : Expr) : List Instruction :=
  code 0 (.group 0 expression) ++ [.accept]

private theorem strip_instructions {expression : Expr}
    (positive : ∀ number ∈ expression.groups, 1 ≤ number) :
    strip (landingIn (instructions expression)) (instructions expression) =
      instructions expression.bare := by
  have lands := lands_landingIn [] (instructions expression)
  have start : landingIn (instructions expression) 0 = 0 := by simp [landingIn]
  simp only [instructions, code, List.nil_append, List.length_nil,
    List.cons_append, List.append_assoc] at lands start ⊢
  rw [lands_kept rfl, lands_append] at lands
  obtain ⟨here, inside, -⟩ := lands
  have ofBody := strips_code expression positive _ inside
  dsimp only at ofBody
  rw [strip_kept rfl, strip_append, ← ofBody, here, start]
  rfl

private theorem innerAt_iff (code : List Instruction) (address : Nat) :
    InnerAt code.toArray address ↔
      (code[address]?).any Instruction.isInner = true := by
  rw [InnerAt, List.getElem?_toArray]
  rcases code[address]? with _ | instruction
  · simp
  · cases instruction <;> simp [Instruction.isInner]

theorem erases_bare {expression : Expr}
    (positive : ∀ number ∈ expression.groups, 1 ≤ number) :
    Erases (instructions expression).toArray
      (instructions expression.bare).toArray
      (landingIn (instructions expression)) where
  start := by simp [landingIn]
  inner address inner := by
    rw [innerAt_iff] at inner
    rw [landingIn_succ, if_pos inner]
    rfl
  kept address kept := by
    rw [innerAt_iff] at kept
    rw [landingIn_succ, if_neg kept]
  instruction address kept := by
    rw [innerAt_iff, Bool.not_eq_true] at kept
    rw [List.getElem?_toArray, List.getElem?_toArray,
      ← strip_instructions positive, getElem?_strip _ _ _ kept]

end Program

end NamedGroups.Engine
