import NamedGroups.Proofs.Tracker.Balance
import NamedGroups.Proofs.Tracker.Numbering

/-!
# References and groups written out

A reference leaves the pass in the same state as the source that it stands for,
written out between parentheses, but for the counters: the written source may
open further capture groups.  Two states that differ in their counters only go
on writing the same texts and recording the same sources, whatever follows.
-/

namespace NamedGroups

open Fragment GroupSyntax Text

namespace Tracker

/-! ### States that differ in their counters -/

/-- Two states that write alike: what they differ in is the numbers of their
capture groups. -/
structure Alike (left right : Tracker) : Prop where
  base : left.base = right.base
  pending : left.pending = right.pending
  named : left.named = right.named
  names : ∀ name, left.groups.hasName name = right.groups.hasName name

namespace Alike

variable {left right : Tracker}

theorem output (alike : Alike left right) : left.output = right.output := by
  rw [Tracker.output, Tracker.output, alike.base, alike.pending]

theorem emit (alike : Alike left right) (text : Text) :
    Alike (left.emit text) (right.emit text) := by
  obtain ⟨base, pending, named, names⟩ := alike
  unfold Tracker.emit
  rw [pending]
  split
  · exact ⟨congrArg (· ++ text) base, rfl, named, names⟩
  · exact ⟨base, rfl, named, names⟩

theorem openGroup (alike : Alike left right) :
    Alike left.openGroup right.openGroup :=
  ⟨alike.base, congrArg (OpenGroup.mk none [] :: ·) alike.pending, alike.named,
    alike.names⟩

theorem closeGroup (alike : Alike left right) :
    Alike left.closeGroup right.closeGroup := by
  have copied := alike.emit [')']
  unfold Tracker.closeGroup
  rw [alike.pending]
  split
  · exact copied
  · rename_i group outer _
    refine emit ?_ _
    exact ⟨alike.base, rfl, congrArg (record · group) alike.named, alike.names⟩

theorem hasName_insert (groups : GroupIndex) (key : GroupKey) (number : Nat)
    (name : Text) :
    GroupIndex.hasName (groups.insert key number) name =
      (decide (GroupKey.name name = key) || groups.hasName name) := by
  unfold GroupIndex.hasName GroupIndex.named?
  rw [OrderedMap.get?_insert]
  split <;> simp_all

theorem hasName_addOrdinal (tracker : Tracker) (name : Text) :
    tracker.addOrdinal.groups.hasName name = tracker.groups.hasName name := by
  simp [addOrdinal, hasName_insert]

theorem addOrdinal (alike : Alike left right) :
    Alike left.addOrdinal right.addOrdinal where
  base := alike.base
  pending := alike.pending
  named := alike.named
  names name := by rw [hasName_addOrdinal, hasName_addOrdinal, alike.names]

theorem addName (alike : Alike left right) (name : Text) :
    Alike (left.addName name) (right.addName name) where
  base := alike.base
  pending := by simp only [Tracker.addName, alike.pending]
  named := alike.named
  names other := by simp [Tracker.addName, hasName_insert, alike.names]

theorem entered (alike : Alike left right) (opened : Bool) (text : Text)
    (closes : Bool) :
    Alike (left.entered opened text closes)
      (right.entered opened text closes) := by
  unfold Tracker.entered enterCapture
  split
  · split
    · exact alike.addOrdinal
    · dsimp only
      rw [alike.names]
      split
      · exact alike.addOrdinal
      · exact alike.addName _
  · exact alike

theorem written (alike : Alike left right) (opened : Bool) (text : Text)
    (closes : Bool) :
    left.written opened text closes = right.written opened text closes := by
  unfold Tracker.written
  rw [snd_enterCapture, snd_enterCapture, alike.named]

theorem read (alike : Alike left right) (opened : Bool) (text : Text)
    (closes : Bool) :
    Alike (left.read opened text closes) (right.read opened text closes) := by
  rw [read_eq_emit, read_eq_emit, alike.written]
  exact (alike.entered opened text closes).emit _

theorem run (alike : Alike left right) {fragments : List Fragment}
    (cut : Cut fragments) (opened : Bool) :
    Alike (left.run opened fragments) (right.run opened fragments) := by
  induction cut generalizing left right opened with
  | last _ =>
      rw [run_last, run_last]
      exact alike.read _ _ _
  | opening _ _ _ induction =>
      rw [run_opening, run_opening]
      exact induction (alike.read _ _ _).openGroup _
  | closing _ _ _ induction =>
      rw [run_closing, run_closing]
      exact induction (alike.read _ _ _).closeGroup _

end Alike

/-! ### Texts that are written as they stand -/

/-- The state with a number of further capture groups without names. -/
def addOrdinals (tracker : Tracker) : Nat → Tracker
  | 0 => tracker
  | count + 1 => (tracker.addOrdinals count).addOrdinal

section Ordinals

variable (tracker : Tracker) (count : Nat)

private theorem addOrdinal_emit (text : Text) :
    (tracker.emit text).addOrdinal = tracker.addOrdinal.emit text := by
  cases pending : tracker.pending <;> simp [emit, addOrdinal, pending]

theorem addOrdinals_emit (text : Text) :
    (tracker.emit text).addOrdinals count =
      (tracker.addOrdinals count).emit text := by
  induction count with
  | zero => rfl
  | succ count induction => simp [addOrdinals, induction, addOrdinal_emit]

theorem addOrdinals_openGroup :
    tracker.openGroup.addOrdinals count =
      (tracker.addOrdinals count).openGroup := by
  induction count with
  | zero => rfl
  | succ count induction =>
      rw [addOrdinals, induction]
      rfl

private theorem addOrdinals_add (more : Nat) :
    (tracker.addOrdinals count).addOrdinals more =
      tracker.addOrdinals (count + more) := by
  induction more with
  | zero => rfl
  | succ more induction =>
      rw [addOrdinals, induction, Nat.add_succ, addOrdinals]

theorem alike_addOrdinals (left right : Nat) :
    Alike (tracker.addOrdinals left) (tracker.addOrdinals right) := by
  have alone : ∀ count, Alike (tracker.addOrdinals count) tracker := by
    intro count
    induction count with
    | zero => exact ⟨rfl, rfl, rfl, fun _ => rfl⟩
    | succ count induction =>
        refine ⟨induction.base, induction.pending, induction.named,
          fun name => ?_⟩
        rw [addOrdinals, Alike.hasName_addOrdinal, induction.names]
  obtain ⟨base, pending, named, names⟩ := alone right
  exact ⟨(alone left).base.trans base.symm,
    (alone left).pending.trans pending.symm,
    (alone left).named.trans named.symm,
    fun name => by rw [(alone left).names, names]⟩

end Ordinals

/-- Whether a text has neither a header nor a reference. -/
def IsNameless (text : Text) : Prop :=
  header? text = none ∧ reference? text = none

instance (text : Text) : Decidable (IsNameless text) :=
  inferInstanceAs (Decidable (_ ∧ _))

/-- A nameless text is written as it stands, and numbered if it starts a capture
group. -/
theorem read_nameless {text : Text} {opened : Bool}
    (nameless : opened = true → IsNameless text) (tracker : Tracker)
    (closes : Bool) :
    tracker.read opened text closes =
      (tracker.addOrdinals (captured opened text).length).emit text := by
  unfold read captured
  split
  · rename_i capturing
    obtain ⟨unnamed, unreferring⟩ :=
      nameless (Bool.and_eq_true_iff.mp capturing).1
    simp [capture, enterCapture, resolve, unnamed, unreferring, addOrdinals]
  · rfl

theorem closeGroup_openGroup_emit (tracker : Tracker) (body : Text) :
    (tracker.openGroup.emit body).closeGroup =
      tracker.emit ('(' :: body ++ [')']) := by
  simp [openGroup, closeGroup, emit, record]

/-- States that are reached from `tracker` by writing a text in which a number
of groups are still open, all of them without a name. -/
inductive Within (tracker : Tracker) : Nat → Text → Tracker → Prop where
  | here (text : Text) : Within tracker 0 text (tracker.emit text)
  | nested {depth : Nat} {text : Text} {state : Tracker} :
      Within tracker depth text state →
        ∀ body : Text,
          Within tracker (depth + 1) (text ++ '(' :: body)
            (state.openGroup.emit body)

namespace Within

variable {tracker state : Tracker} {depth : Nat} {text : Text}

theorem emit (within : Within tracker depth text state) (more : Text) :
    Within tracker depth (text ++ more) (state.emit more) := by
  cases within with
  | here => simpa using Within.here (text ++ more)
  | nested outer body => simpa using outer.nested (body ++ more)

theorem openGroup (within : Within tracker depth text state) :
    Within tracker (depth + 1) (text ++ ['(']) state.openGroup := by
  simpa using within.nested []

theorem closeGroup (within : Within tracker (depth + 1) text state) :
    Within tracker depth (text ++ [')']) state.closeGroup := by
  cases within with
  | nested outer body =>
      rw [closeGroup_openGroup_emit]
      simpa using outer.emit ('(' :: body ++ [')'])

theorem addOrdinals (within : Within tracker depth text state) (count : Nat) :
    Within (tracker.addOrdinals count) depth text
      (state.addOrdinals count) := by
  induction within with
  | here text =>
      rw [addOrdinals_emit]
      exact .here text
  | nested _ body induction =>
      rw [addOrdinals_emit, addOrdinals_openGroup]
      exact induction.nested body

/-- Nameless fragments that close what they open are written as they stand. -/
theorem run {fragments : List Fragment} (cut : Cut fragments)
    (within : Within tracker depth text state) (opened : Bool)
    (nameless : ∀ text ∈ openedTexts (behind opened fragments), IsNameless text)
    (balanced : depthAfter depth (renderAll fragments) = some 0)
    (others : List Fragment) :
    state.run opened (fragments ++ .closing :: others) =
      ((tracker.addOrdinals (captureTextsBehind opened fragments).length).emit
        (text ++ renderAll fragments)).closeGroup.run false others := by
  induction cut generalizing tracker state depth text opened with
  | @last content solid =>
      have start : opened = true → IsNameless content :=
        fun isOpened => nameless content (mem_openedTexts_behind isOpened _ _)
      have level : depth = 0 := by
        simpa [render, depthAfter_of_isSolid solid] using balanced
      subst level
      cases within
      rw [List.singleton_append, run_closing, read_nameless start,
        addOrdinals_emit, captureTextsBehind_last]
      simp [render]
  | @opening content fragments solid complete _ induction =>
      have start : opened = true → IsNameless content :=
        fun isOpened => nameless content (mem_openedTexts_behind isOpened _ _)
      rw [openedTexts_behind_opening, List.forall_mem_append] at nameless
      rw [depthAfter_renderAll_opening complete _ solid] at balanced
      have entered :=
        ((within.addOrdinals (captured opened content).length).emit
          content).openGroup
      rw [List.cons_append, List.cons_append, run_opening, read_nameless start,
        induction entered true nameless.2 balanced, addOrdinals_add,
        captureTextsBehind_opening]
      simp [render]
  | @closing content fragments solid complete _ induction =>
      have start : opened = true → IsNameless content :=
        fun isOpened => nameless content (mem_openedTexts_behind isOpened _ _)
      rw [openedTexts_behind_closing, List.forall_mem_append] at nameless
      rw [depthAfter_renderAll_closing complete _ solid] at balanced
      cases depth with
      | zero => simp at balanced
      | succ depth =>
          rw [depthAfter_closing_succ] at balanced
          have left :=
            ((within.addOrdinals (captured opened content).length).emit
              content).closeGroup
          rw [List.cons_append, List.cons_append, run_closing,
            read_nameless start, induction left false nameless.2 balanced,
            addOrdinals_add, captureTextsBehind_closing]
          simp [render]

end Within

/-- A source in parentheses is written as it stands, if it has no header and no
reference. -/
theorem run_enclosed {source : Text} (whole : source.SelfContained)
    (nameless :
      ∀ text ∈ openedTexts (behind true (split source)), IsNameless text)
    (tracker : Tracker) (back : Text) :
    tracker.openGroup.run true (split (source ++ ')' :: back)) =
      ((tracker.openGroup.addOrdinals (captureTextsBehind true
        (split source)).length).emit source).closeGroup.run false
        (split back) := by
  have start : Within tracker.openGroup 0 [] (tracker.openGroup.emit []) :=
    .here []
  rw [emit_nil] at start
  have balanced : depthAfter 0 (renderAll (split source)) = some 0 := by
    rw [renderAll_split]
    exact whole.balanced
  rw [split_append_closing whole.complete,
    start.run (Cut.of_split source) true nameless balanced, List.nil_append,
    renderAll_split]

/-- A reference is a capture group around the source that is recorded for its
name. -/
theorem run_reference {name : Text} (valid : IsName name) (tracker : Tracker)
    (back : Text) :
    tracker.openGroup.run true (split ('?' :: '&' :: (name ++ ')' :: back))) =
      ((tracker.openGroup.addOrdinals 1).emit ((tracker.named.get? name).getD
        [])).closeGroup.run false (split back) := by
  have referring : reference? ('?' :: '&' :: name) = some name :=
    reference?_of_isName (.inl rfl) valid
  have unnamed := header?_of_reference referring
  have unmarked : ∀ character ∈ '?' :: '&' :: name, Unmarked character :=
    unmarked_reference (.inl rfl) valid
  have solid : isSolid ('?' :: '&' :: name) := by
    simpa using isSolid_append_of_unmarked unmarked []
  have complete : Text.isComplete ('?' :: '&' :: name) := by
    simpa using isComplete_append_of_unmarked unmarked []
  have fragments : split ('?' :: '&' :: (name ++ ')' :: back)) =
      .plain ('?' :: '&' :: name) :: .closing :: split back := by
    have split := split_append_closing complete back
    rwa [split_of_isSolid solid] at split
  have capturing : isCapturing ('?' :: '&' :: name) :=
    isCapturing_of_reference referring
  rw [fragments, run_closing]
  simp [read, capturing, capture, enterCapture, unnamed, resolve, referring,
    addOrdinals, addOrdinal, openGroup]

end Tracker

namespace Positional

open Tracker

theorem openedTexts_enclosed {source : Text} (complete : source.isComplete) :
    openedTexts (split ('(' :: (source ++ [')']))) =
      openedTexts (behind true (split source)) := by
  have appended :=
    (Cut.of_split source).openedTexts_append_closing true (split [])
  rw [split_opening, openedTexts_plain, split_append_closing complete,
    ← behind_true, appended]
  simp [openedTexts]

/-- A source that opens no capture group is one itself, unless it starts with a
question mark. -/
theorem captureTextsBehind_of_head? {source : Text}
    (unasked : source.head? ≠ some '?')
    (bare : captureTexts (split source) = []) :
    (captureTextsBehind true (split source)).length = 1 := by
  obtain ⟨first, others, cut⟩ := (Cut.of_split source).starts_with_text
  have rendered := renderAll_split source
  have capturing : isCapturing first := by
    apply isCapturing_of_ne_question
    intro asked
    obtain ⟨rest, rfl⟩ := List.head?_eq_some_iff.mp asked
    rw [cut] at rendered
    exact unasked (by rw [← rendered]; rfl)
  rw [cut, captureTexts, openedTexts_plain] at bare
  rw [cut, captureTextsBehind, captureTexts, behind_true,
    openedTexts_opening_plain, List.filter_cons_of_pos capturing, bare]
  rfl

/-- The parts of a positional pattern, from the state at the end of the pass. -/
theorem ofPattern_append_opening {front : Text} (complete : front.isComplete)
    (back : Text) {state : Tracker}
    (reached :
      (start.run false (split front)).openGroup.run true (split back) = state) :
    ofPattern (front ++ '(' :: back) =
      ⟨removeEmptyGroups state.output, state.captures, state.groups,
        state.named⟩ := by
  have run := run_append_opening (Cut.of_split front) start false (split back)
  rw [← split_append_opening complete, reached] at run
  simp only [ofPattern, run]

/-- A reference to a name without a source is the same as `()`. -/
theorem ofPattern_unknown_reference {front name : Text}
    (complete : front.isComplete) (valid : IsName name)
    (unknown : (ofPattern front).named.get? name = none) (back : Text) :
    ofPattern (front ++ '(' :: '?' :: '&' :: (name ++ ')' :: back)) =
      ofPattern (front ++ '(' :: ')' :: back) := by
  have referring := run_reference valid (start.run false (split front)) back
  have empty :=
    run_enclosed .nil (by decide) (start.run false (split front)) back
  change (start.run false (split front)).named.get? name = none at unknown
  rw [unknown] at referring
  rw [List.nil_append] at empty
  rw [ofPattern_append_opening complete _ referring,
    ofPattern_append_opening complete _ empty]
  rfl

/-- A reference is the same as the source of its group in parentheses, and the
same as `()` if its name has no source.  The source may bring capture groups,
which only the index tells. -/
theorem reference_eq_inlined (front back name : Text)
    (complete : front.isComplete) (valid : IsName name) :
    ((ofPattern front).named.get? name = none →
      ofPattern (front ++ '(' :: '?' :: '&' :: (name ++ ')' :: back)) =
        ofPattern (front ++ '(' :: ')' :: back)) ∧
      ∀ source, (ofPattern front).named.get? name = some source →
        (∀ text ∈ openedTexts (split ('(' :: (source ++ [')']))),
          header? text = none ∧ reference? text = none) →
        (ofPattern (front ++ '(' :: '?' :: '&' ::
          (name ++ ')' :: back))).source =
            (ofPattern (front ++ '(' :: (source ++ ')' :: back))).source ∧
          (ofPattern (front ++ '(' :: '?' :: '&' ::
            (name ++ ')' :: back))).named =
            (ofPattern (front ++ '(' :: (source ++ ')' :: back))).named ∧
          (source.head? ≠ some '?' → captureTexts (split source) = [] →
            (ofPattern (front ++ '(' :: '?' :: '&' ::
              (name ++ ')' :: back))).groups =
              (ofPattern (front ++ '(' ::
                (source ++ ')' :: back))).groups) := by
  have referring := run_reference valid (start.run false (split front)) back
  refine ⟨fun unknown =>
    ofPattern_unknown_reference complete valid unknown back,
    fun source recorded nameless => ?_⟩
  · have whole :=
      sources_ofPattern front source (OrderedMap.value_mem_of_get? recorded)
    rw [openedTexts_enclosed whole.complete] at nameless
    have inlined :=
      run_enclosed whole nameless (start.run false (split front)) back
    change (start.run false (split front)).named.get? name = some source
      at recorded
    rw [recorded, Option.getD_some] at referring
    have alike :=
      (((alike_addOrdinals (start.run false (split front)).openGroup 1
        (captureTextsBehind true (split source)).length).emit
        source).closeGroup).run (Cut.of_split back) false
    rw [ofPattern_append_opening complete _ referring,
      ofPattern_append_opening complete _ inlined]
    refine ⟨congrArg removeEmptyGroups alike.output, alike.named,
      fun unasked bare => ?_⟩
    rw [captureTextsBehind_of_head? unasked bare]

/-- A reference to the group in front of it, and one to a group that is not
there. -/
theorem reference_eq_inlined_digits :
    (ofPattern ['(', '?', '<', 'y', '>', '\\', 'd', ')', '(', '?', '&', 'y',
      ')', '+']).groups =
        (ofPattern ['(', '?', '<', 'y', '>', '\\', 'd', ')', '(', '\\', 'd',
          ')', '+']).groups ∧
      (ofPattern ['(', '?', '<', 'y', '>', '\\', 'd', ')', '(', '?', '&', 'y',
        ')', '+']).source =
        (ofPattern ['(', '?', '<', 'y', '>', '\\', 'd', ')', '(', '\\', 'd',
          ')', '+']).source ∧
      ofPattern ['(', '?', '<', 'y', '>', '\\', 'd', ')', '(', '?', '&', 'm',
        ')', '+'] =
        ofPattern ['(', '?', '<', 'y', '>', '\\', 'd', ')', '(', ')', '+'] := by
  have known :=
    (reference_eq_inlined ['(', '?', '<', 'y', '>', '\\', 'd', ')'] ['+'] ['y']
      (by decide) (by decide)).2 ['\\', 'd'] (by decide) (by decide)
  have unknown :=
    (reference_eq_inlined ['(', '?', '<', 'y', '>', '\\', 'd', ')'] ['+'] ['m']
      (by decide) (by decide)).1 (by decide)
  exact ⟨known.2.2 (by decide) (by decide), known.1, unknown⟩

end Positional

end NamedGroups
