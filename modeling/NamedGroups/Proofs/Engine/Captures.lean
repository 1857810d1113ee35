import NamedGroups.Proofs.Engine.Inert
import NamedGroups.Proofs.Engine.Openings

/-!
# Stretches of text that open no capture group

`Reading.captures` counts the capture groups that are still to open.  Whatever a
function of the parser passes over without opening a capture group leaves that
number as it is.
-/

namespace NamedGroups.Engine

namespace Parser

variable {verbose : Bool} {ignored : Ignored} {text rest : Text}

theorem length_skipIgnored
    (skipped : skipIgnored verbose ignored text = .ok rest) :
    rest.length ≤ text.length := by
  fun_induction skipIgnored verbose ignored text <;> grind

theorem not_ignored_of_skipIgnored
    (skipped : skipIgnored verbose ignored text = .ok rest) :
    rest.take 3 ≠ ['(', '?', '#'] ∧
      (verbose = true → rest.head? ≠ some '#') := by
  fun_induction skipIgnored verbose ignored text with
  | case4 character tail notComment notHash notBlank =>
      cases skipped
      constructor
      · intro isComment
        match tail, isComment with
        | _ :: _ :: tail, isComment =>
            simp only [List.take_succ_cons, List.take_zero, List.cons.injEq]
              at isComment
            obtain ⟨rfl, rfl, rfl, -⟩ := isComment
            exact notComment tail rfl rfl
      · simpa using notHash
  | _ => grind

end Parser

namespace Reading

/-- The number of capture groups that open in a text. -/
def captures (reading : Reading) (text : Text) : Nat :=
  (reading.openings text).count .capture

abbrev within (region : Region) (verbose : Bool)
    (enclosing : List (Option Bool)) : Reading :=
  ⟨0, .nothing, region, verbose, enclosing⟩

theorem captures_nil (reading : Reading) : reading.captures [] = 0 := rfl

theorem captures_cons (reading : Reading) (character : Char) (rest : Text) :
    reading.captures (character :: rest) =
      (reading.step character rest).1.count .capture +
        (reading.step character rest).2.captures rest := by
  simp only [captures, openings, List.count_append]

theorem count_asOpening {opening : Opening} (different : opening ≠ .capture)
    (character : Char) : (asOpening opening character).count .capture = 0 := by
  unfold asOpening
  split <;> simp [different]

/-- No capture group opens between two places. -/
structure Leads (before : Reading) (text : Text) (after : Reading)
    (rest : Text) : Prop where
  length_le : rest.length ≤ text.length
  captures_eq : before.captures text = after.captures rest

theorem Leads.refl (reading : Reading) (text : Text) :
    reading.Leads text reading text :=
  ⟨Nat.le_refl _, rfl⟩

theorem Leads.trans {first second third : Reading} {text rest last : Text}
    (start : first.Leads text second rest)
    (next : second.Leads rest third last) : first.Leads text third last :=
  ⟨Nat.le_trans next.length_le start.length_le,
    start.captures_eq.trans next.captures_eq⟩

theorem Leads.of_step {before after : Reading} {character : Char} {rest : Text}
    (next : (before.step character rest).2 = after)
    (uncounted : (before.step character rest).1.count .capture = 0) :
    before.Leads (character :: rest) after rest := by
  constructor
  · simp
  · rw [captures_cons, uncounted, next, Nat.zero_add]

variable {region : Region} {verbose : Bool} {enclosing : List (Option Bool)}

theorem captures_passing (count : Nat) (ignored : Parser.Ignored)
    (text : Text) :
    captures ⟨count, ignored, region, verbose, enclosing⟩ text =
      captures ⟨0, ignored, region, verbose, enclosing⟩ (text.drop count) := by
  induction count generalizing text with
  | zero => rfl
  | succ count induction =>
      cases text with
      | nil => rfl
      | cons character rest =>
          rw [captures_cons]
          simpa [step] using induction rest

theorem leads_backslash (escaped : Char) (rest : Text) :
    (within region verbose enclosing).Leads ('\\' :: escaped :: rest)
      (within region verbose enclosing) rest := by
  constructor
  · simp
    omega
  · rw [captures_cons]
    simp [step, captures_passing]

/-! ### Comments, blanks and remarks -/

private theorem captures_remark_cons (character : Char) (rest : Text)
    (continues : character ≠ '\n') :
    captures ⟨0, .remark, region, verbose, enclosing⟩ (character :: rest) =
      captures ⟨0, .remark, region, verbose, enclosing⟩ rest := by
  induction rest generalizing character with
  | nil =>
      rw [captures_cons]
      by_cases escapes : character = '\\'
      · simp [step, escapes, captures_nil]
      · simp [step, continues, escapes, captures_nil, count_asOpening]
  | cons next rest induction =>
      rw [captures_cons]
      by_cases escapes : character = '\\'
      · by_cases ends : next = '\n'
        · simp [step, escapes, ends]
        · rw [induction next ends]
          simp [step, escapes, ends, captures_passing]
      · simp [step, continues, escapes, count_asOpening]

private theorem captures_skipIgnored {ignored : Parser.Ignored}
    {text rest : Text}
    (skipped : Parser.skipIgnored verbose ignored text = .ok rest) :
    captures ⟨0, ignored, region, verbose, enclosing⟩ text =
      captures (within region verbose enclosing) rest := by
  induction ignored, text using Parser.skipIgnored.induct verbose with
  | case1 text induction =>
      rw [captures_cons]
      simpa [step, captures_passing] using induction skipped
  | case2 character text notComment isHash induction =>
      simp only [Parser.skipIgnored, isHash, ite_true] at skipped
      simp only [Bool.and_eq_true, beq_iff_eq] at isHash
      rw [captures_cons]
      simpa [step, isHash] using induction skipped
  | case3 character text notComment notHash isBlank induction =>
      simp only [Parser.skipIgnored, notHash, isBlank, ite_true] at skipped
      rw [← induction skipped, captures_cons]
      have passed : step (within region verbose enclosing) character text =
          ([], within region verbose enclosing) := by
        have notOpening : character ≠ '(' := by
          rintro rfl
          simp at isBlank
        have notBackslash : character ≠ '\\' := by
          rintro rfl
          simp at isBlank
        simp_all [step]
      simp [passed]
  | case4 character text notComment notHash notBlank =>
      simp only [Parser.skipIgnored, notHash, notBlank] at skipped
      cases skipped
      rfl
  | case5 text induction =>
      rw [captures_cons]
      simpa [step] using induction skipped
  | case6 escaped text induction =>
      rw [captures_cons]
      simpa [step, captures_passing] using induction skipped
  | case7 character text notClosing notEscape induction =>
      simp only [Parser.skipIgnored] at skipped
      cases text with
      | nil => cases skipped
      | cons next text =>
          have notBackslash : character ≠ '\\' :=
            fun equal => notEscape next text equal rfl
          have notEnd : character ≠ ')' := notClosing
          rw [← induction skipped, captures_cons]
          simp [step, notBackslash, notEnd, count_asOpening]
  | case8 text induction =>
      rw [captures_cons]
      simpa [step] using induction skipped
  | case9 character text continues induction =>
      simp only [Parser.skipIgnored] at skipped
      rw [captures_remark_cons character text continues]
      exact induction skipped
  | case10 => cases skipped
  | case11 =>
      cases skipped
      rfl
  | case12 =>
      cases skipped
      rfl

theorem leads_skipIgnored {text rest : Text}
    (skipped : Parser.skipIgnored verbose .nothing text = .ok rest) :
    (within region verbose enclosing).Leads text
      (within region verbose enclosing) rest :=
  ⟨Parser.length_skipIgnored skipped, captures_skipIgnored skipped⟩

theorem leads_of_toOption {text rest : Text}
    (skipped :
      (Parser.skipIgnored verbose .nothing text).toOption = some rest) :
    (within region verbose enclosing).Leads text
      (within region verbose enclosing) rest := by
  cases result : Parser.skipIgnored verbose .nothing text with
  | error problem =>
      rw [result] at skipped
      cases skipped
  | ok after =>
      rw [result] at skipped
      cases skipped
      exact leads_skipIgnored result

/-! ### Characters without structure -/

theorem leads_part {character : Char} (rest : Text)
    (ordinary : character ∉ ['\\', '(', ')', '['])
    (noRemark : verbose = true → character ≠ '#') :
    (inParts verbose enclosing).Leads (character :: rest)
      (inParts verbose enclosing) rest := by
  simp only [List.mem_cons, List.not_mem_nil, or_false, not_or] at ordinary
  obtain ⟨notBackslash, notOpening, notClosing, notBracket⟩ := ordinary
  have passed : step (inParts verbose enclosing) character rest =
      ([], inParts verbose enclosing) := by
    simp [step, inParts, readCharacter, readPart, notBackslash, notOpening,
      notClosing, notBracket]
    grind
  exact .of_step (by rw [passed]) (by rw [passed]; rfl)

theorem leads_member {depth : Nat} {character : Char} (rest : Text)
    (ordinary : character ∉ ['\\', '[', ']'])
    (noComment : (character :: rest).take 3 ≠ ['(', '?', '#'])
    (noRemark : verbose = true → character ≠ '#') :
    (within (.members depth) verbose enclosing).Leads (character :: rest)
      (within (.members depth) verbose enclosing) rest := by
  simp only [List.mem_cons, List.not_mem_nil, or_false, not_or] at ordinary
  obtain ⟨notBackslash, notOpening, notClosing⟩ := ordinary
  apply Leads.of_step
  · simp [step, readCharacter, readMember, notBackslash, notOpening, notClosing]
    grind
  · simp [step, readCharacter, readMember, notBackslash, notOpening, notClosing]
    grind [count_asOpening]

/-- A place that no ordinary character leaves is not left by inert text. -/
theorem leads_append {place : Reading}
    (stays : ∀ character ∉ structural, ∀ rest,
      place.Leads (character :: rest) place rest)
    {text : Text} (inert : IsInert text) (rest : Text) :
    place.Leads (text ++ rest) place rest := by
  induction text with
  | nil => exact .refl _ _
  | cons character text induction =>
      obtain ⟨ordinary, others⟩ := isInert_cons.mp inert
      exact (stays character ordinary _).trans (induction others)

theorem leads_part_append {text : Text} (inert : IsInert text) (rest : Text) :
    (inParts verbose enclosing).Leads (text ++ rest) (inParts verbose enclosing)
      rest := by
  refine leads_append (fun character ordinary _ => ?_) inert rest
  simp only [structural, List.mem_cons, List.not_mem_nil, or_false, not_or]
    at ordinary
  exact leads_part _ (by simp [ordinary]) (by simp [ordinary])

private theorem leads_member_append {depth : Nat} {text : Text}
    (inert : IsInert text) (rest : Text) :
    (within (.members depth) verbose enclosing).Leads (text ++ rest)
      (within (.members depth) verbose enclosing) rest := by
  refine leads_append (fun character ordinary _ => ?_) inert rest
  simp only [structural, List.mem_cons, List.not_mem_nil, or_false, not_or]
    at ordinary
  exact leads_member _ (by simp [ordinary]) (by simp [ordinary])
    (by simp [ordinary])

theorem leads_escape {inClass : Bool} {text rest : Text} {escape : Escape}
    (success : Escape.read inClass text = .ok (escape, rest)) :
    (inParts verbose enclosing).Leads ('\\' :: text) (inParts verbose enclosing)
      rest := by
  obtain ⟨letter, passed, rfl, inert⟩ := Escape.read_eq_ok success
  exact (leads_backslash _ _).trans (leads_part_append inert rest)

theorem leads_number? {text rest : Text} {number : Nat}
    (success : Parser.number? text = some (number, rest)) :
    (inParts verbose enclosing).Leads text (inParts verbose enclosing)
      rest := by
  rw [Parser.number?_eq_some success]
  exact leads_part_append (takeWhile_isInert Parser.isDigit_of_structural text)
    rest

/-! ### Classes -/

private theorem leads_scanSymbols {fuel depth : Nat} {text rest : Text}
    {symbols : List ClassSymbol}
    (scanned :
      ClassSyntax.scanSymbols (Parser.skipIgnored verbose .nothing) fuel depth
          text = .ok (symbols, rest)) :
    (within (.members depth) verbose enclosing).Leads text
      (inParts verbose enclosing) rest := by
  induction fuel generalizing depth text symbols with
  | zero => cases scanned
  | succ fuel induction =>
      obtain ⟨after, skipped, continued⟩ := except_bind_eq_ok.mp scanned
      obtain ⟨noComment, noRemark⟩ := Parser.not_ignored_of_skipIgnored skipped
      refine (leads_skipIgnored skipped).trans ?_
      split at continued
      · cases continued
      · split at continued
        · cases continued
        · obtain ⟨⟨escape, afterEscape⟩, escapeRead, others⟩ :=
            except_bind_eq_ok.mp continued
          obtain ⟨letter, passed, whole, inert⟩ := Escape.read_eq_ok escapeRead
          rw [whole]
          refine (leads_backslash _ _).trans
            ((leads_member_append inert afterEscape).trans ?_)
          cases escape with
          | character decoded =>
              obtain ⟨_, scannedOthers, returned⟩ := except_bind_eq_ok.mp others
              cases returned
              exact induction scannedOthers
          | set members =>
              obtain ⟨_, scannedOthers, returned⟩ := except_bind_eq_ok.mp others
              cases returned
              exact induction scannedOthers
          | assertion condition => cases others
      · obtain ⟨_, others, returned⟩ := except_bind_eq_ok.mp continued
        cases returned
        refine Leads.trans (.of_step ?_ ?_) (induction others)
        · simp [step, readCharacter, readMember]
        · simp [step, readCharacter, count_asOpening]
      · rename_i tail
        have closes :
            (within (.members depth) verbose enclosing).Leads (']' :: tail)
              (within (if depth ≤ 1 then .parts else .members (depth - 1))
                verbose enclosing) tail := by
          apply Leads.of_step
          · simp [step, readCharacter, readMember]
          · simp [step, readCharacter, count_asOpening]
        refine closes.trans ?_
        split at continued
        · rename_i outermost
          cases continued
          rw [if_pos outermost]
          exact .refl _ _
        · rename_i nested
          obtain ⟨_, others, returned⟩ := except_bind_eq_ok.mp continued
          cases returned
          rw [if_neg nested]
          exact induction others
      · rename_i character tail notBackslash notOpening notClosing
        obtain ⟨_, others, returned⟩ := except_bind_eq_ok.mp continued
        cases returned
        have ordinary : character ∉ ['\\', '[', ']'] := by
          simp only [List.mem_cons, List.not_mem_nil, or_false, not_or]
          exact ⟨notBackslash, notOpening, notClosing⟩
        exact
          (leads_member tail ordinary noComment (by simpa using noRemark)).trans
          (induction others)

private theorem scanSymbols_of_scan {skip : ClassSyntax.Skip} {text rest : Text}
    {symbols : List ClassSymbol}
    (scanned : ClassSyntax.scan skip text = .ok (symbols, rest)) :
    ∃ fuel others,
      ClassSyntax.scanSymbols skip fuel 1 (text.drop (classStart text)) =
        .ok (others, rest) := by
  simp only [ClassSyntax.scan] at scanned
  obtain ⟨_, others, returned⟩ := except_bind_eq_ok.mp scanned
  cases returned
  refine ⟨_, _, (congrArg _ ?_).trans others⟩
  unfold classStart
  grind

theorem leads_scan {text rest : Text} {symbols : List ClassSymbol}
    (scanned :
      ClassSyntax.scan (Parser.skipIgnored verbose .nothing) text =
        .ok (symbols, rest)) :
    (inParts verbose enclosing).Leads ('[' :: text) (inParts verbose enclosing)
      rest := by
  have opens :
      (inParts verbose enclosing).Leads ('[' :: text)
        (within (.members 1) verbose enclosing)
        (text.drop (classStart text)) := by
    constructor
    · simp
      omega
    · rw [captures_cons]
      simp [step, inParts, readCharacter, readPart, captures_passing]
  obtain ⟨fuel, others, scannedOthers⟩ := scanSymbols_of_scan scanned
  exact opens.trans (leads_scanSymbols scannedOthers)

/-! ### Repetitions -/

def countsEnd? (verbose : Bool) (least : Nat) (most : Option Nat)
    (text : Text) : Option (Nat × Option Nat × Text) := do
  let text ← (Parser.skipIgnored verbose .nothing text).toOption
  match text with
  | '\x7d' :: rest => some (least, most, rest)
  | _ => none

def mostCount? (verbose : Bool) (least : Nat) (text : Text) :
    Option (Nat × Option Nat × Text) := do
  let text ← (Parser.skipIgnored verbose .nothing text).toOption
  match text with
  | '\x7d' :: _ => countsEnd? verbose least (some least) text
  | ',' :: rest => do
      let rest ← (Parser.skipIgnored verbose .nothing rest).toOption
      match Parser.number? rest with
      | some (most, rest) => countsEnd? verbose least (some most) rest
      | none => countsEnd? verbose least none rest
  | _ => none

private theorem counts?_eq (verbose : Bool) (text : Text) :
    Parser.counts? verbose text = (do
      let text ← (Parser.skipIgnored verbose .nothing text).toOption
      match text with
      | ',' :: _ => mostCount? verbose 0 text
      | _ => do
          let (least, text) ← Parser.number? text
          mostCount? verbose least text) :=
  rfl

private theorem leads_countsEnd? {text rest : Text} {least : Nat}
    {most : Option Nat} {fewest : Nat} {limit : Option Nat}
    (success :
      countsEnd? verbose least most text = some (fewest, limit, rest)) :
    (inParts verbose enclosing).Leads text (inParts verbose enclosing)
      rest := by
  obtain ⟨after, skipped, closed⟩ := Option.bind_eq_some_iff.mp success
  refine (leads_of_toOption skipped).trans ?_
  split at closed
  · cases closed
    exact leads_part _ (by simp) (by simp)
  · cases closed

private theorem leads_mostCount? {text rest : Text} {least fewest : Nat}
    {limit : Option Nat}
    (success : mostCount? verbose least text = some (fewest, limit, rest)) :
    (inParts verbose enclosing).Leads text (inParts verbose enclosing)
      rest := by
  obtain ⟨after, skipped, continued⟩ := Option.bind_eq_some_iff.mp success
  refine (leads_of_toOption skipped).trans ?_
  split at continued
  · exact leads_countsEnd? continued
  · obtain ⟨digits, skippedAgain, counted⟩ :=
      Option.bind_eq_some_iff.mp continued
    refine (leads_part _ (by simp) (by simp)).trans
      ((leads_of_toOption skippedAgain).trans ?_)
    split at counted
    · rename_i number
      exact (leads_number? number).trans (leads_countsEnd? counted)
    · exact leads_countsEnd? counted
  · cases continued

theorem leads_counts? {text rest : Text} {fewest : Nat} {limit : Option Nat}
    (success : Parser.counts? verbose text = some (fewest, limit, rest)) :
    (inParts verbose enclosing).Leads text (inParts verbose enclosing)
      rest := by
  rw [counts?_eq] at success
  obtain ⟨after, skipped, continued⟩ := Option.bind_eq_some_iff.mp success
  refine (leads_of_toOption skipped).trans ?_
  split at continued
  · exact leads_mostCount? continued
  · obtain ⟨_, number, counted⟩ := Option.bind_eq_some_iff.mp continued
    exact (leads_number? number).trans (leads_mostCount? counted)

end Reading

end NamedGroups.Engine
