import NamedGroups.Proofs.Template.Grammar

/-!
# Templates side by side

Two templates side by side stand for what each of them stands for, unless a
token comes about that starts in the first one and ends in the second one.  This
is exact: where there is such a token, a match of the empty text already tells
the difference.
-/

namespace NamedGroups.Template

/-- Whether the last dollar sign of a text remains when those of each run are
paired from the left, where a dollar sign may be waiting in front of the
text. -/
def leavesDollar : Bool → Text → Bool
  | waiting, [] => waiting
  | waiting, character :: rest =>
      leavesDollar (character == '$' && !waiting) rest

def pastPairs : Text → Text
  | '$' :: '$' :: rest => pastPairs rest
  | text => text

/-- Whether a token starts in one template and ends in the next one.  A dollar
sign at the end of the first stands for the one behind the pairs at the start of
the second: the text is the same. -/
def Crosses (slots : Nat) (left right : Text) : Prop :=
  ∃ before opened closed part, left = before ++ '$' :: opened ∧
    leavesDollar false before = false ∧
    Spells slots ('$' :: (opened ++ closed)) part ∧ closed ≠ [] ∧
    closed <+: if opened = [] then pastPairs right else right

theorem leavesDollar_append (waiting : Bool) (left right : Text) :
    leavesDollar waiting (left ++ right) =
      leavesDollar (leavesDollar waiting left) right := by
  induction left generalizing waiting with
  | nil => rfl
  | cons character left induction => exact induction _

theorem leavesDollar_of_ne {character : Char} (plain : character ≠ '$')
    (waiting : Bool) (rest : Text) :
    leavesDollar waiting (character :: rest) = leavesDollar false rest := by
  rw [leavesDollar, beq_eq_false_iff_ne.mpr plain, Bool.false_and]

namespace Spells

variable {slots : Nat} {spelling : Text} {part : Part}

/-- Apart from the two dollar signs, a token has no second one and is no
character. -/
theorem tail_of_ne (spells : Spells slots spelling part)
    (other : spelling ≠ ['$', '$']) :
    ∃ tail, spelling = '$' :: tail ∧ tail ≠ [] ∧
      (∀ character ∈ tail, character ≠ '$') ∧
      ∀ plain, part ≠ .character plain := by
  cases spells with
  | dollar => exact absurd rfl other
  | whole | before | after => exact ⟨_, rfl, by simp, by simp, by simp⟩
  | braced filled numeric bound =>
      refine ⟨_, rfl, by simp, ?_, by simp⟩
      intro character member
      simp only [List.mem_cons, List.mem_append, List.not_mem_nil, or_false]
        at member
      obtain rfl | inside | rfl := member
      · decide
      · exact ne_dollar_of_isDigit
          (List.all_eq_true.mp numeric character inside)
      · decide
  | digit numeric _ _ =>
      exact ⟨_, rfl, by simp, by simpa using ne_dollar_of_isDigit numeric,
        by simp⟩
  | twoDigits numeric further _ _ =>
      exact ⟨_, rfl, by simp,
        by simpa
          using ⟨ne_dollar_of_isDigit numeric, ne_dollar_of_isDigit further⟩,
        by simp⟩

private theorem leavesDollar (spells : Spells slots spelling part) :
    leavesDollar false spelling = false := by
  by_cases pair : spelling = ['$', '$']
  · rw [pair]
    rfl
  · obtain ⟨tail, rfl, filled, plain, -⟩ := spells.tail_of_ne pair
    obtain ⟨first, rest, rfl⟩ := List.exists_cons_of_ne_nil filled
    have quiet : ∀ text : Text, (∀ character ∈ text, character ≠ '$') →
        Template.leavesDollar false text = false := by
      intro text plain
      induction text with
      | nil => rfl
      | cons character text induction =>
          rw [List.forall_mem_cons] at plain
          rw [leavesDollar_of_ne plain.1, induction plain.2]
    rw [List.forall_mem_cons] at plain
    rw [Template.leavesDollar, leavesDollar_of_ne plain.1, quiet rest plain.2]

end Spells

namespace Crosses

variable {slots : Nat} {left right rest spelling : Text} {part : Part}

/-- A spelling that goes on beyond the first template, which is more than a
dollar sign. -/
theorem of_prefix (spells : Spells slots spelling part)
    (leads : spelling <+: left ++ right)
    (beyond : left.length < spelling.length) (long : 2 ≤ left.length) :
    Crosses slots left right := by
  obtain ⟨behind, whole⟩ := leads
  obtain ⟨closed, rfl, rfl⟩ | ⟨closed, rfl, rfl⟩ :=
    List.append_eq_append_iff.mp whole
  · rw [List.length_append] at beyond
    omega
  · obtain ⟨second, body, starts⟩ := spells.starts_dollar
    rcases left with _ | ⟨first, _ | ⟨next, left⟩⟩
    · simp at long
    · simp at long
    · obtain ⟨rfl, -⟩ := List.cons.inj starts
      refine ⟨[], next :: left, closed, part, rfl, rfl, spells, ?_, by simp⟩
      rintro rfl
      simp at beyond

private theorem behind_token (spells : Spells slots spelling part)
    (crosses : Crosses slots rest right) :
    Crosses slots (spelling ++ rest) right := by
  obtain ⟨before, opened, closed, other, rfl, paired, also, filled, leads⟩ :=
    crosses
  refine ⟨spelling ++ before, opened, closed, other, by simp, ?_, also, filled,
    leads⟩
  rw [leavesDollar_append, spells.leavesDollar, paired]

private theorem behind_character {plain : Char}
    (unspelled : ∀ spelling part,
      Spells slots spelling part → ¬ spelling <+: plain :: rest)
    (crosses : Crosses slots rest right) :
    Crosses slots (plain :: rest) right := by
  obtain ⟨before, opened, closed, other, rfl, paired, also, filled, leads⟩ :=
    crosses
  refine ⟨plain :: before, opened, closed, other, rfl, ?_, also, filled, leads⟩
  by_cases dollar : plain = '$'
  · subst dollar
    have pair := unspelled _ _ .dollar
    cases before with
    | nil => exact absurd ⟨_, rfl⟩ pair
    | cons first before =>
        have other : first ≠ '$' := by
          rintro rfl
          exact pair ⟨_, rfl⟩
        rw [leavesDollar_of_ne other] at paired
        rw [Template.leavesDollar, leavesDollar_of_ne other, paired]
  · rw [leavesDollar_of_ne dollar, paired]

end Crosses

namespace Reads

variable {slots : Nat} {left right : Text} {parts others : List Part}

theorem lone
    (unspelled : ∀ spelling part,
      Spells slots spelling part → ¬ spelling <+: '$' :: pastPairs right)
    (reads : Reads slots right others) :
    Reads slots ('$' :: right) (.character '$' :: others) := by
  induction right using pastPairs.induct generalizing others with
  | case1 rest induction =>
      rw [pastPairs] at unspelled
      have pair :
          Starts slots ('$' :: '$' :: rest) ['$', '$'] rest (.character '$') :=
        .of_mark (by decide) .dollar rest
      cases reads with
      | token starts further =>
          obtain ⟨rfl, rfl⟩ := starts.unique pair
          exact .token (.of_mark (by decide) .dollar _)
            (induction unspelled further)
      | character bare _ => exact absurd ⟨rest, rfl⟩ (bare _ _ .dollar)
  | case2 text unpaired =>
      rw [pastPairs] at unspelled
      · exact .character unspelled reads
      · exact unpaired

/-- Where no token crosses, two templates are read one after the other. -/
theorem append (first : Reads slots left parts)
    (second : Reads slots right others) (apart : ¬ Crosses slots left right) :
    Reads slots (left ++ right) (parts ++ others) := by
  induction first with
  | nil => exact second
  | @token text spelling rest part parts starts _ induction =>
      have further := induction fun crosses => apart (by
        rw [← starts.whole]
        exact crosses.behind_token starts.spells)
      refine .token ⟨starts.spells, ?_, ?_⟩ further
      · rw [← starts.whole, List.append_assoc]
      · intro longer other spells leads
        by_cases inside : longer.length ≤ text.length
        · exact starts.longest longer other spells
            (List.prefix_of_prefix_length_le leads (List.prefix_append _ _)
              inside)
        · have long : 2 ≤ text.length := by
            obtain ⟨second, body, rfl⟩ := starts.spells.starts_dollar
            rw [← starts.whole]
            simp
          exact absurd (Crosses.of_prefix spells leads (by omega) long) apart
  | @character plain rest parts unspelled _ induction =>
      have further :=
        induction fun crosses => apart (crosses.behind_character unspelled)
      by_cases single : plain = '$' ∧ rest = []
      · obtain ⟨rfl, rfl⟩ := single
        refine further.lone fun spelling part spells leads => apart ?_
        obtain ⟨second, body, rfl⟩ := spells.starts_dollar
        exact ⟨[], [], second :: body, part, rfl, rfl, spells, by simp,
          (List.cons_prefix_cons.mp leads).2⟩
      · refine .character (fun spelling part spells leads => ?_) further
        by_cases inside : spelling.length ≤ (plain :: rest).length
        · exact unspelled spelling part spells (List.prefix_of_prefix_length_le
            leads (List.prefix_append _ _) inside)
        · refine apart (Crosses.of_prefix spells leads (by omega) ?_)
          obtain ⟨second, body, rfl⟩ := spells.starts_dollar
          obtain ⟨rfl, -⟩ := List.cons_prefix_cons.mp leads
          cases rest with
          | nil => exact absurd ⟨rfl, rfl⟩ single
          | cons next rest => simp

end Reads

section Expand

variable {left right : Text} {found : Match}

theorem expand_append (apart : ¬ Crosses found.size left right) :
    expand (left ++ right) found = expand left found ++ expand right found := by
  have first := Reads.of_tokens found.size left
  have second := Reads.of_tokens found.size right
  rw [expand_eq_of_reads (first.append second apart), expand_eq_of_reads first,
    expand_eq_of_reads second, List.flatMap_append]

theorem expand_of_starts {spelling rest : Text} {part : Part}
    (starts : Starts found.size left spelling rest part) :
    expand left found = part.value found ++ expand rest found := by
  have reads := Reads.of_tokens found.size rest
  rw [expand_eq_of_reads (.token starts reads), expand_eq_of_reads reads,
    List.flatMap_cons]

theorem expand_of_unspelled {plain : Char}
    (unspelled : ∀ spelling part, Spells found.size spelling part →
      ¬ spelling <+: plain :: right) :
    expand (plain :: right) found = plain :: expand right found := by
  have reads := Reads.of_tokens found.size right
  rw [expand_eq_of_reads (.character unspelled reads), expand_eq_of_reads reads]
  rfl

theorem expand_append_of_plain (plain : ∀ character ∈ left, character ≠ '$') :
    expand (left ++ right) found = left ++ expand right found := by
  induction left with
  | nil => rfl
  | cons character left induction =>
      rw [List.forall_mem_cons] at plain
      rw [List.cons_append, expand_of_ne found plain.1, induction plain.2,
        List.cons_append]

/-- A text starts with a token or with a character that stands for itself. -/
theorem starts_or_unspelled (slots : Nat) (plain : Char) (rest : Text) :
    (∃ spelling behind part,
      Starts slots (plain :: rest) spelling behind part) ∨
      ∀ spelling part,
        Spells slots spelling part → ¬ spelling <+: plain :: rest := by
  have reads := Reads.of_tokens slots (plain :: rest)
  generalize (tokens (plain :: rest)).flatMap (Token.parts slots) = parts
    at reads
  cases reads with
  | token starts _ => exact .inl ⟨_, _, _, starts⟩
  | character unspelled _ => exact .inr unspelled

/-- In the empty text every part of a match is empty. -/
theorem value_of_empty (empty : found.input = []) {part : Part}
    (other : ∀ plain, part ≠ .character plain) : part.value found = [] := by
  cases part with
  | character plain => exact absurd rfl (other plain)
  | whole => simp [Part.value, Match.text, Text.slice, empty]
  | before => simp [Part.value, Match.before, empty]
  | after => simp [Part.value, Match.after, empty]
  | slot number =>
      simp only [Part.value, slotValue, Match.get?, Match.slotText, empty]
      cases (found.slots[number]?).join <;> simp [Text.slice]

theorem expand_token_of_empty (empty : found.input = []) {spelling rest : Text}
    {part : Part} (starts : Starts found.size ('$' :: right) spelling rest part)
    (other : spelling ≠ ['$', '$']) :
    ∃ tail, right = tail ++ rest ∧ spelling = '$' :: tail ∧ tail ≠ [] ∧
      (∀ character ∈ tail, character ≠ '$') ∧
      expand ('$' :: right) found = expand rest found := by
  obtain ⟨tail, rfl, filled, plain, noCharacter⟩ :=
    starts.spells.tail_of_ne other
  refine ⟨tail, (List.cons.inj starts.whole).2.symm, rfl, filled, plain, ?_⟩
  rw [expand_of_starts starts, value_of_empty empty noCharacter,
    List.nil_append]

/-- Nothing is left of a token, and what stands behind its dollar sign would be
left without it. -/
theorem expand_ne_of_starts (empty : found.input = []) {spelling rest : Text}
    {part : Part} (starts : Starts found.size ('$' :: right) spelling rest part)
    (other : spelling ≠ ['$', '$']) (front : Text) :
    expand ('$' :: right) found ≠ front ++ expand right found := by
  obtain ⟨tail, rfl, -, filled, plain, gone⟩ :=
    expand_token_of_empty empty starts other
  rw [gone, expand_append_of_plain plain]
  intro same
  have length := congrArg List.length same
  have positive := List.length_pos_iff.mpr filled
  simp only [List.length_append] at length
  omega

private theorem expand_dollar_ne (empty : found.input = [])
    (single : ∀ rest, right ≠ '$' :: rest) :
    expand ('$' :: right) found ≠ expand right found := by
  obtain ⟨spelling, behind, part, starts⟩ | unspelled :=
    starts_or_unspelled found.size '$' right
  · refine expand_ne_of_starts empty starts ?_ []
    rintro rfl
    exact single behind (List.cons.inj starts.whole).2.symm
  · rw [expand_of_unspelled unspelled]
    exact List.cons_ne_self _ _

/-- Pairs of dollar signs do not matter to the one in front of them. -/
theorem expand_lone_iff :
    expand ('$' :: right) found = '$' :: expand right found ↔
      expand ('$' :: pastPairs right) found =
        '$' :: expand (pastPairs right) found := by
  induction right using pastPairs.induct with
  | case1 rest induction =>
      rw [pastPairs, expand_dollar, expand_dollar, ← induction, List.cons.injEq]
      simp
  | case2 text unpaired =>
      rw [pastPairs]
      exact unpaired

private theorem pastPairs_ne (text rest : Text) :
    pastPairs text ≠ '$' :: '$' :: rest := by
  induction text using pastPairs.induct with
  | case1 _ induction => rwa [pastPairs]
  | case2 text unpaired =>
      rw [pastPairs]
      · exact unpaired rest
      · exact unpaired

/-- A token behind the pairs at the start of a template takes the dollar sign in
front of them. -/
theorem expand_lone_ne (empty : found.input = []) {closed : Text} {part : Part}
    (spells : Spells found.size ('$' :: closed) part)
    (leads : closed <+: pastPairs right) :
    expand ('$' :: right) found ≠ '$' :: expand right found := by
  rw [ne_eq, expand_lone_iff]
  have never := pastPairs_ne right
  generalize pastPairs right = text at leads never
  obtain ⟨spelling, behind, other, starts⟩ | unspelled :=
    starts_or_unspelled found.size '$' text
  · by_cases pair : spelling = ['$', '$']
    · subst pair
      obtain rfl : text = '$' :: behind := (List.cons.inj starts.whole).2.symm
      have apart : expand ('$' :: behind) found ≠ expand behind found :=
        expand_dollar_ne empty fun rest same => never rest (by rw [same])
      rw [expand_dollar, List.cons.injEq]
      exact fun same => apart same.2.symm
    · exact expand_ne_of_starts empty starts pair ['$']
  · exact absurd (List.cons_prefix_cons.mpr ⟨rfl, leads⟩) (unspelled _ _ spells)

/-- A token that has started before the end of the first template goes without
its second part. -/
theorem expand_opened_ne (empty : found.input = []) {opened closed : Text}
    {part : Part} (spells : Spells found.size ('$' :: (opened ++ closed)) part)
    (begun : opened ≠ []) (filled : closed ≠ []) (leads : closed <+: right) :
    expand ('$' :: (opened ++ right)) found ≠
      expand ('$' :: opened) found ++ expand right found := by
  have prefixed : '$' :: (opened ++ closed) <+: '$' :: (opened ++ right) :=
    List.cons_prefix_cons.mpr ⟨rfl,
      (List.prefix_append_right_inj opened).mpr leads⟩
  have begunLength := List.length_pos_iff.mpr begun
  have filledLength := List.length_pos_iff.mpr filled
  obtain ⟨spelling, behind, other, starts⟩ | unspelled :=
    starts_or_unspelled found.size '$' (opened ++ right)
  · have long := starts.longest _ _ spells prefixed
    have more : spelling ≠ ['$', '$'] := by
      rintro rfl
      simp at long
      omega
    obtain ⟨tail, whole, rfl, -, plain, gone⟩ :=
      expand_token_of_empty empty starts more
    obtain ⟨middle, rfl, rfl⟩ | ⟨middle, rfl, rfl⟩ :=
      List.append_eq_append_iff.mp whole
    · have inside : ∀ character ∈ middle, character ≠ '$' :=
        fun character member =>
        plain character (List.mem_append_right _ member)
      rw [gone, expand_append_of_plain inside]
      intro same
      have length := congrArg List.length same
      simp at length long
      omega
    · simp only [List.length_cons, List.length_append] at long
      omega
  · exact absurd prefixed (unspelled _ _ spells)

/-- No token starts in a text whose dollar signs are paired and ends behind
another one. -/
theorem not_crosses_of_paired {slots : Nat} {before : Text}
    (paired : leavesDollar false before = false) (rest : Text) :
    ¬ Crosses slots before ('$' :: rest) := by
  rintro ⟨front, opened, closed, part, rfl, even, spells, filled, leads⟩
  by_cases lone : opened = []
  · subst lone
    rw [leavesDollar_append, even] at paired
    exact absurd paired (by decide)
  · rw [if_neg lone] at leads
    have several : '$' :: (opened ++ closed) ≠ ['$', '$'] := by
      intro same
      have length := congrArg List.length same
      have begunLength := List.length_pos_iff.mpr lone
      have filledLength := List.length_pos_iff.mpr filled
      simp at length
      omega
    obtain ⟨tail, same, -, plain, -⟩ := spells.tail_of_ne several
    obtain rfl := (List.cons.inj same).2
    obtain ⟨first, others, rfl⟩ := List.exists_cons_of_ne_nil filled
    obtain ⟨rfl, -⟩ := List.cons_prefix_cons.mp leads
    exact plain '$' (by simp) rfl

private theorem exists_lone_of_leavesDollar
    (waits : leavesDollar false left = true) :
    ∃ before, left = before ++ ['$'] ∧ leavesDollar false before = false := by
  rcases List.eq_nil_or_concat left with rfl | ⟨before, last, rfl⟩
  · cases waits
  · rw [List.concat_eq_append, leavesDollar_append] at waits
    simp only [leavesDollar, Bool.and_eq_true, beq_iff_eq, Bool.not_eq_true']
      at waits
    exact ⟨before, by rw [List.concat_eq_append, waits.1], waits.2⟩

/-- Only a dollar sign that waits for another one makes a token with a dollar
sign in front of a brace. -/
theorem crosses_brace_iff {slots : Nat} {rest : Text} :
    Crosses slots left ('$' :: '\x7b' :: rest) ↔
      leavesDollar false left = true := by
  constructor
  · intro crosses
    by_contra paired
    exact not_crosses_of_paired (by simpa using paired) _ crosses
  · intro waits
    obtain ⟨before, rfl, paired⟩ := exists_lone_of_leavesDollar waits
    refine ⟨before, [], ['$'], _, rfl, paired, .dollar, by simp, ?_⟩
    simp [pastPairs]

/-- Where a token crosses, a match of the empty text shows it. -/
theorem expand_append_ne (empty : found.input = [])
    (crosses : Crosses found.size left right) :
    expand (left ++ right) found ≠ expand left found ++ expand right found := by
  obtain ⟨before, opened, closed, part, rfl, paired, spells, filled, leads⟩ :=
    crosses
  have cut : ∀ rest, ¬ Crosses found.size before ('$' :: rest) :=
    not_crosses_of_paired paired
  rw [List.append_assoc, List.cons_append, expand_append (cut _),
    expand_append (cut _), List.append_assoc, ne_eq, List.append_cancel_left_eq]
  by_cases lone : opened = []
  · subst lone
    have alone : expand ['$'] found = ['$'] := by
      rw [expand_of_unspelled fun spelling part spells leads => ?_]
      · simp [expand, tokens]
      · obtain ⟨second, body, rfl⟩ := spells.starts_dollar
        simpa using leads.length_le
    rw [alone]
    exact expand_lone_ne empty spells (by simpa using leads)
  · exact expand_opened_ne empty spells lone filled
      (by rwa [if_neg lone] at leads)

end Expand

end NamedGroups.Template
