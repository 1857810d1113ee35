import NamedGroups.Proofs.Fragment.Walks
import NamedGroups.Proofs.Tracker.HeaderErasure

/-!
# Patterns with references

A reference is a capture group of its own, and the source that takes its place
may open more of them.  `origins` tells where each opening parenthesis of the
output comes from.  For patterns in which every reference is to a closed group
and no header hides a question mark, the parentheses of the source that start a
capture group are the ones that `origins` tells of.
-/

namespace NamedGroups

open Fragment GroupSyntax

/-- Where an opening parenthesis of the output comes from. -/
inductive Origin where
  /-- A capture group of the pattern. -/
  | own
  /-- Any other parenthesis of the pattern. -/
  | cluster
  /-- A parenthesis of a source in the place of a reference. -/
  | pasted (capturing : Bool)
deriving DecidableEq

def Origin.captures : Origin → Bool
  | own => true
  | cluster => false
  | pasted capturing => capturing

namespace Tracker

/-- What is written for an opening parenthesis with the given text behind it. -/
def originsOf (tracker : Tracker) (text : Text) (closes : Bool) : List Origin :=
  if isCapturing text then
    .own :: (openedTexts (split (tracker.written true text closes))).map
      fun inner => .pasted (isCapturing inner)
  else [.cluster]

/-- The origins of the opening parentheses that are written for fragments. -/
def origins (tracker : Tracker) (opened : Bool) : List Fragment → List Origin
  | [] => []
  | .opening :: fragments => tracker.openGroup.origins true fragments
  | .closing :: fragments => tracker.closeGroup.origins false fragments
  | .plain text :: fragments =>
      (if opened then tracker.originsOf text (fragments.head? == some .closing)
       else []) ++
        (tracker.read opened text (fragments.head? == some .closing)).origins
          false fragments

/-- Whether the text behind an opening parenthesis starts a capture group that
stays one without its header, or refers to a group that has closed, or starts
no capture group. -/
def startsSimply (tracker : Tracker) (text : Text) : Bool :=
  if isCapturing text then
    match reference? (afterHeader text) with
    | some name => tracker.named.contains name
    | none => (afterHeader text).head? != some '?'
  else true

def isSimple (tracker : Tracker) (opened : Bool) : List Fragment → Bool
  | [] => true
  | .opening :: fragments => tracker.openGroup.isSimple true fragments
  | .closing :: fragments => tracker.closeGroup.isSimple false fragments
  | .plain text :: fragments =>
      (!opened || tracker.startsSimply text) &&
        (tracker.read opened text (fragments.head? == some .closing)).isSimple
          false fragments

/-- A source that may stand in the place of a reference. -/
def Pasteable (source : Text) : Prop :=
  ∃ fragments marks isOpened text, source = renderAll fragments ∧
    Walk .opened fragments (true :: marks) (.text isOpened text) ∧
    text.isComplete ∧ ¬ (isOpened = true ∧ text = [])

/-- The marks tell which of the opening parentheses of the output start capture
groups; those of the open groups themselves are among them. -/
inductive Shaped (base : Text) : List OpenGroup → List Bool → Spot → Prop where
  | outermost {fragments : List Fragment} {marks : List Bool} {spot : Spot} :
      base = renderAll fragments → Walk .outside fragments marks spot →
        Shaped base [] marks spot
  | nested {group : OpenGroup} {outer : List OpenGroup}
        {fragments : List Fragment} {marks inner : List Bool} {isOpened : Bool}
        {text : Text} {spot : Spot} :
      Shaped base outer marks (.text isOpened text) → text.isComplete →
        group.body = renderAll fragments → Walk .opened fragments inner spot →
        (group.name.isSome → inner.head? = some true) →
        Shaped base (group :: outer) (marks ++ inner) spot

/-- Behind an opening parenthesis nothing has been written yet. -/
def Ready (tracker : Tracker) (marks : List Bool) : Bool → Prop
  | false => Shaped tracker.base tracker.pending marks .outside
  | true => ∃ outer isOpened text, tracker.pending = ⟨none, []⟩ :: outer ∧
      Shaped tracker.base outer marks (.text isOpened text) ∧ text.isComplete

/-- Every recorded source may be pasted. -/
def Recorded (tracker : Tracker) : Prop :=
  ∀ name source, tracker.named.get? name = some source → Pasteable source

section Steps

variable {tracker : Tracker} {marks more : List Bool} {spot next : Spot}

theorem Shaped.output
    (shaped : Shaped tracker.base tracker.pending marks spot) :
    ∃ fragments, tracker.output = renderAll fragments ∧
      Walk .outside fragments marks spot := by
  unfold Tracker.output
  generalize tracker.pending = pending at shaped
  generalize tracker.base = base at shaped
  induction shaped with
  | outermost whole walk => exact ⟨_, by simpa using whole, walk⟩
  | nested _ allows body walk _ induction =>
      obtain ⟨outerFragments, whole, outerWalk⟩ := induction
      refine ⟨outerFragments ++ .opening :: _, ?_,
        outerWalk.append (.opening allows walk)⟩
      simp [List.flatMap_append, ← List.append_assoc, whole, body, render]

theorem Shaped.emit {fragments : List Fragment}
    (shaped : Shaped tracker.base tracker.pending marks spot)
    (walk : Walk spot fragments more next) :
    Shaped (tracker.emit (renderAll fragments)).base
      (tracker.emit (renderAll fragments)).pending (marks ++ more) next := by
  obtain ⟨base, pending, captures, ordinals, groups, named⟩ := tracker
  cases shaped with
  | outermost whole written =>
      exact .outermost (by simpa [Tracker.emit] using whole)
        (written.append walk)
  | nested outer allows body written isNamed =>
      rw [List.append_assoc]
      refine .nested outer allows (by simp [body]) (written.append walk) fun
        name => ?_
      rw [List.head?_append, isNamed name]
      rfl

theorem Shaped.ready_openGroup {isOpened : Bool} {text : Text}
    (shaped : Shaped tracker.base tracker.pending marks (.text isOpened text))
    (allows : text.isComplete) : Ready tracker.openGroup marks true :=
  ⟨tracker.pending, isOpened, text, rfl, shaped, allows⟩

private theorem recorded_record {named : NamedSources} {group : OpenGroup}
    {name source : Text}
    (found : (record named group).get? name = some source) :
    named.get? name = some source ∨
      (group.name.isSome ∧ group.body = source) := by
  unfold record at found
  split at found
  · exact .inl found
  · rename_i own isNamed
    split at found
    · exact .inl found
    · rw [OrderedMap.get?_insert] at found
      split at found
      · cases found
        exact .inr ⟨by simp [isNamed], rfl⟩
      · exact .inl found

/-- What an inner group has written goes to the outer one. -/
theorem Shaped.closeGroup {isOpened : Bool} {text : Text}
    (shaped : Shaped tracker.base tracker.pending marks (.text isOpened text))
    (allows : text.isComplete) (filled : ¬ (isOpened = true ∧ text = []))
    (recorded : Recorded tracker) :
    Ready tracker.closeGroup marks false ∧ Recorded tracker.closeGroup := by
  obtain ⟨base, pending, captures, ordinals, groups, named⟩ := tracker
  cases shaped with
  | outermost whole walk =>
      have closed :
          Shaped (Tracker.mk base [] captures ordinals groups named).base
            (Tracker.mk base [] captures ordinals groups named).pending marks
            (.text isOpened text) := .outermost whole walk
      have emitted := closed.emit (.closing allows filled (.nil .outside))
      rw [List.append_nil] at emitted
      exact ⟨emitted, recorded⟩
  | @nested group outer fragments outerMarks inner outerOpened outerText _
      outerShaped outerAllows body walk isNamed =>
      have within :
          Walk (.text outerOpened outerText)
            (.opening :: (fragments ++ [.closing])) (inner ++ []) .outside :=
        .opening outerAllows
          (walk.append (.closing allows filled (.nil .outside)))
      have emitted :=
        @Shaped.emit
          ⟨base, outer, captures, ordinals, groups, record named group⟩ _ _ _ _
          _ outerShaped within
      have writes : renderAll (.opening :: (fragments ++ [.closing])) =
          '(' :: group.body ++ [')'] := by
        simp [render, body]
      rw [List.append_nil, writes] at emitted
      refine ⟨emitted, ?_⟩
      intro name source found
      have named_eq : (Tracker.mk base (group :: outer) captures ordinals groups
          named).closeGroup.named = record named group := by
        simp [Tracker.closeGroup]
      rw [named_eq] at found
      obtain old | ⟨isSome, rfl⟩ := recorded_record found
      · exact recorded name source old
      · obtain ⟨later, rfl⟩ := List.head?_eq_some_iff.mp (isNamed isSome)
        exact ⟨fragments, later, isOpened, text, body, walk, allows, filled⟩

private theorem enterCapture_opened {outer : List OpenGroup}
    (pending : tracker.pending = ⟨none, []⟩ :: outer) (text : Text)
    (closes : Bool) :
    (∃ name,
      (tracker.enterCapture text closes).1.pending = ⟨name, []⟩ :: outer) ∧
      (tracker.enterCapture text closes).1.base = tracker.base := by
  unfold enterCapture
  split
  · exact ⟨⟨none, pending⟩, rfl⟩
  · dsimp only
    split
    · exact ⟨⟨none, pending⟩, rfl⟩
    · rename_i name _ _ _
      exact ⟨⟨some name, by simp [addName, pending]⟩, rfl⟩

/-- A text behind an opening parenthesis is written to the group that has just
been opened, and may give it a name. -/
theorem read_opened {outer : List OpenGroup}
    (pending : tracker.pending = ⟨none, []⟩ :: outer) (text : Text)
    (closes : Bool) :
    ∃ name,
      (tracker.read true text closes).pending =
          ⟨name, tracker.written true text closes⟩ :: outer ∧
        (name.isSome → isCapturing text) ∧
        (tracker.read true text closes).base = tracker.base ∧
        (tracker.read true text closes).named = tracker.named := by
  cases kind : isCapturing text with
  | false =>
      refine ⟨none, ?_, by simp, ?_, ?_⟩ <;>
        simp [read, written, kind, emit, pending]
  | true =>
      obtain ⟨⟨name, entered⟩, base⟩ := enterCapture_opened pending text closes
      refine ⟨name, ?_, fun _ => rfl, ?_, ?_⟩ <;>
        simp [read, written, kind, capture, emit, entered, base]

private theorem bodyOf_cases (text : Text) (closes : Bool) :
    bodyOf text closes = afterHeader text ∨
      (afterHeader text = [] ∧ bodyOf text closes = anyNonEmpty) := by
  unfold bodyOf afterHeader
  split
  · exact .inl rfl
  · split
    · rename_i nothing
      simp only [Bool.and_eq_true, List.isEmpty_iff] at nothing
      exact .inr ⟨nothing.1, rfl⟩
    · exact .inl rfl

private theorem walk_plain {text : Text} (solid : isSolid text)
    (unasked : text.head? ≠ some '?') :
    Walk .opened [.plain text] [true] (.text true text) := by
  have walk : Walk .opened [.plain text] [isCapturing text] (.text true text) :=
    .opened solid (.nil _)
  rwa [isCapturing_of_ne_question unasked] at walk

/-- What stands for a text behind an opening parenthesis. -/
theorem walk_written {text : Text} {closes : Bool} (recorded : Recorded tracker)
    (solid : isSolid text) (simple : tracker.startsSimply text = true)
    (filled : closes = true → text ≠ []) :
    ∃ fragments isOpened last,
      tracker.written true text closes = renderAll fragments ∧
        Walk .opened fragments
          ((tracker.originsOf text closes).map Origin.captures)
          (.text isOpened last) ∧
        (text.isComplete → last.isComplete) ∧
        (closes = true → ¬ (isOpened = true ∧ last = [])) := by
  cases kind : isCapturing text with
  | false =>
      have walk :
          Walk .opened [.plain text] [isCapturing text] (.text true text) :=
        .opened solid (.nil _)
      rw [kind] at walk
      refine ⟨[.plain text], true, text, ?_, ?_, id, ?_⟩
      · simp [written, kind, render]
      · simpa [originsOf, kind, Origin.captures] using walk
      · exact fun closing => by simpa using filled closing
  | true =>
      have own :
          tracker.written true text closes =
            resolve tracker.named (bodyOf text closes) :=
        written_of_capturing kind closes
      simp only [startsSimply, kind, if_true] at simple
      simp only [originsOf, kind, if_true]
      split at simple
      · rename_i name referring
        obtain ⟨source, found⟩ := Option.isSome_iff_exists.mp simple
        obtain ⟨fragments, marks, isOpened, last, rfl, walk, allows,
          nonempty⟩ := recorded name source found
        have body : bodyOf text closes = afterHeader text := by
          obtain same | ⟨empty, -⟩ := bodyOf_cases text closes
          · exact same
          · rw [empty] at referring
            cases referring
        rw [body, resolve, referring] at own
        simp only [found, Option.getD_some] at own
        rw [own]
        refine ⟨fragments, isOpened, last, rfl, ?_, fun _ => allows,
          fun _ => nonempty⟩
        have cut := walk.sound.1
        obtain ⟨first, others, rfl⟩ := cut.starts_with_text
        have marks_eq := walk.marks_eq
        rw [Walk.fromSpot, openedTexts_opening_plain, List.map_cons,
          List.cons.injEq] at marks_eq
        rw [cut.split_renderAll, openedTexts_plain, List.map_cons, List.map_map]
        rw [marks_eq.2] at walk
        exact walk
      · rename_i unreferring
        have body : reference? (bodyOf text closes) = none ∧
            (bodyOf text closes).head? ≠ some '?' := by
          obtain same | ⟨-, same⟩ := bodyOf_cases text closes
          · rw [same]
            exact ⟨unreferring, by simpa using simple⟩
          · rw [same]
            decide
        rw [resolve, body.1] at own
        dsimp only at own
        rw [own]
        refine ⟨[.plain (bodyOf text closes)], true, bodyOf text closes,
          by simp [render], ?_,
          fun complete => isComplete_bodyOf complete closes, ?_⟩
        · rw [split_of_isSolid (isSolid_bodyOf solid closes)]
          exact walk_plain (isSolid_bodyOf solid closes) body.2
        · rintro rfl
          simpa using bodyOf_ne_nil (filled rfl)

def originsBehind (tracker : Tracker) (opened : Bool) (text : Text)
    (closes : Bool) : List Origin :=
  if opened then tracker.originsOf text closes else []

theorem Ready.read {opened : Bool} {text : Text}
    (ready : Ready tracker marks opened) (closes : Bool)
    (recorded : Recorded tracker) (solid : isSolid text)
    (simple : (!opened || tracker.startsSimply text) = true)
    (filled : closes = true → opened = true → text ≠ []) :
    ∃ isOpened last,
      Shaped (tracker.read opened text closes).base
          (tracker.read opened text closes).pending (marks ++
            (tracker.originsBehind opened text closes).map Origin.captures)
          (.text isOpened last) ∧
        Recorded (tracker.read opened text closes) ∧
        (text.isComplete → last.isComplete) ∧
        (closes = true → ¬ (isOpened = true ∧ last = [])) := by
  cases opened with
  | false =>
      have walk : Walk .outside [.plain text] [] (.text false text) :=
        .outside solid (.nil _)
      have emitted := Shaped.emit ready walk
      rw [renderAll_cons, renderAll_nil, List.append_nil] at emitted
      refine ⟨false, text, emitted, ?_, id, by simp⟩
      intro name source found
      exact recorded name source (by simpa [Tracker.read] using found)
  | true =>
      obtain ⟨outer, outerOpened, outerText, pending, shaped, allows⟩ := ready
      obtain ⟨name, pending_eq, isNamed, base_eq, named_eq⟩ :=
        read_opened pending text closes
      obtain ⟨fragments, isOpened, last, whole, walk, allowed, nonempty⟩ :=
        walk_written recorded solid simple fun closing => filled closing rfl
      refine ⟨isOpened, last, ?_, ?_, allowed, nonempty⟩
      · rw [pending_eq, base_eq]
        refine .nested shaped allows whole walk fun isSome => ?_
        simp [originsBehind, originsOf, isNamed isSome, Origin.captures]
      · intro name source found
        rw [named_eq] at found
        exact recorded name source found

theorem origins_last (opened : Bool) (text : Text) :
    tracker.origins opened [.plain text] =
      tracker.originsBehind opened text false := by
  simp [origins, originsBehind]

theorem origins_opening (opened : Bool) (text : Text)
    (fragments : List Fragment) :
    tracker.origins opened (.plain text :: .opening :: fragments) =
      tracker.originsBehind opened text false ++
        (tracker.read opened text false).openGroup.origins true fragments := rfl

theorem origins_closing (opened : Bool) (text : Text)
    (fragments : List Fragment) :
    tracker.origins opened (.plain text :: .closing :: fragments) =
      tracker.originsBehind opened text true ++
        (tracker.read opened text true).closeGroup.origins false fragments :=
  rfl

private theorem isSimple_opening (opened : Bool) (text : Text)
    (fragments : List Fragment) :
    tracker.isSimple opened (.plain text :: .opening :: fragments) =
      ((!opened || tracker.startsSimply text) &&
        (tracker.read opened text false).openGroup.isSimple true fragments) :=
  rfl

private theorem isSimple_closing (opened : Bool) (text : Text)
    (fragments : List Fragment) :
    tracker.isSimple opened (.plain text :: .closing :: fragments) =
      ((!opened || tracker.startsSimply text) &&
        (tracker.read opened text true).closeGroup.isSimple false fragments) :=
  rfl

end Steps

/-- So it is for the output of a whole pattern. -/
theorem Ready.run {fragments : List Fragment} (cut : Cut fragments)
    {tracker : Tracker} {marks : List Bool} {opened : Bool}
    (ready : Ready tracker marks opened) (recorded : Recorded tracker)
    (simple : tracker.isSimple opened fragments = true)
    (filled : ¬ HasEmptyGroup (behind opened fragments)) :
    ∃ isOpened last,
      Shaped (tracker.run opened fragments).base
        (tracker.run opened fragments).pending
        (marks ++ (tracker.origins opened fragments).map Origin.captures)
        (.text isOpened last) := by
  induction cut generalizing tracker marks opened with
  | @last text solid =>
      simp only [isSimple, Bool.and_true] at simple
      obtain ⟨isOpened, last, shaped, -⟩ :=
        ready.read false recorded solid simple (by simp)
      rw [run_last, origins_last]
      exact ⟨isOpened, last, shaped⟩
  | @opening text fragments solid complete _ induction =>
      rw [isSimple_opening, Bool.and_eq_true] at simple
      rw [hasEmptyGroup_behind_opening] at filled
      obtain ⟨isOpened, last, shaped, readRecorded, allowed, -⟩ :=
        ready.read false recorded solid simple.1 (by simp)
      have allows := allowed complete
      rw [run_opening, origins_opening, List.map_append, ← List.append_assoc]
      exact induction (shaped.ready_openGroup allows) readRecorded simple.2
        filled
  | @closing text fragments solid complete _ induction =>
      rw [isSimple_closing, Bool.and_eq_true] at simple
      rw [hasEmptyGroup_behind_closing, not_or] at filled
      obtain ⟨isOpened, last, shaped, readRecorded, allowed, nonempty⟩ :=
        ready.read true recorded solid simple.1
          fun _ isOpened empty => filled.1 ⟨isOpened, empty⟩
      have allows := allowed complete
      obtain ⟨closedReady, closedRecorded⟩ :=
        shaped.closeGroup allows (nonempty rfl) readRecorded
      rw [run_closing, origins_closing, List.map_append, ← List.append_assoc]
      exact induction closedReady closedRecorded simple.2 filled.2

private theorem count_own_originsBehind (tracker : Tracker) (opened : Bool)
    (text : Text) (closes : Bool) :
    (tracker.originsBehind opened text closes).count .own =
      (captured opened text).length := by
  cases opened <;> cases kind : isCapturing text <;>
    simp [originsBehind, originsOf, captured, kind, List.count_eq_zero]

private theorem count_own_origins {fragments : List Fragment}
    (cut : Cut fragments) (tracker : Tracker) (opened : Bool) :
    (tracker.origins opened fragments).count .own =
      (captureTextsBehind opened fragments).length := by
  induction cut generalizing tracker opened with
  | last _ =>
      rw [origins_last, count_own_originsBehind, captureTextsBehind_last]
  | opening _ _ _ induction =>
      rw [origins_opening, List.count_append, count_own_originsBehind,
        induction, captureTextsBehind_opening, List.length_append]
  | closing _ _ _ induction =>
      rw [origins_closing, List.count_append, count_own_originsBehind,
        induction, captureTextsBehind_closing, List.length_append]

end Tracker

namespace Positional

open Tracker

/-- The origins of the opening parentheses of the source. -/
def origins (pattern : Text) : List Origin :=
  start.origins false (split pattern)

/-- Whether every reference of a pattern is to a closed group, and no header
hides a question mark. -/
def IsSimple (pattern : Text) : Prop :=
  start.isSimple false (split pattern) = true

instance (pattern : Text) : Decidable (IsSimple pattern) :=
  inferInstanceAs (Decidable (_ = _))

theorem count_own_ofPattern (pattern : Text) :
    (origins pattern).count .own = (captureTexts (split pattern)).length :=
  count_own_origins (Cut.of_split pattern) start false

/-- The source starts the capture groups that the origins tell of. -/
theorem captures_origins {pattern : Text} (simple : IsSimple pattern)
    (filled : ¬ HasEmptyGroup (split pattern)) :
    (openedTexts (split (ofPattern pattern).source)).map
        (fun text => isCapturing text) =
      (origins pattern).map Origin.captures := by
  have ready : Ready start [] false := .outermost rfl (.nil .outside)
  have recorded : Recorded start := by
    intro name source found
    cases found
  obtain ⟨isOpened, last, shaped⟩ :=
    ready.run (Cut.of_split pattern) recorded simple filled
  obtain ⟨fragments, output, walk⟩ := shaped.output
  obtain ⟨cut, kept⟩ := walk.sound
  have source : (ofPattern pattern).source = renderAll fragments := by
    change removeEmptyGroups (start.run false (split pattern)).output = _
    rw [output]
    apply removeEmptyGroups_eq_self
    rwa [cut.split_renderAll]
  rw [source, cut.split_renderAll]
  exact walk.marks_eq.symm

end Positional

end NamedGroups
