import NamedGroups.Proofs.Tracker.Balance
import NamedGroups.Proofs.Tracker.Following

/-!
# Patterns in a row

Behind a balanced pattern no group is open, and the pass goes on as if it
started there, with the counters where they are.  So the positional pattern of
two patterns in a row is put together from those of the two, as long as the
second one does not use a name of the first.
-/

namespace NamedGroups

open Fragment GroupSyntax Text

namespace Tracker

variable {tracker : Tracker}

/-! ### The end of a balanced pattern -/

theorem length_pending_emit (tracker : Tracker) (text : Text) :
    (tracker.emit text).pending.length = tracker.pending.length := by
  cases pending : tracker.pending <;> simp [emit, pending]

private theorem length_pending_read (tracker : Tracker) (opened : Bool)
    (text : Text) (closes : Bool) :
    (tracker.read opened text closes).pending.length =
      tracker.pending.length := by
  rw [read_eq_emit, length_pending_emit]
  unfold entered
  split
  · simpa using congrArg List.length (bodies_enterCapture tracker text closes)
  · rfl

private theorem length_pending_closeGroup (tracker : Tracker) :
    tracker.closeGroup.pending.length = tracker.pending.length - 1 := by
  cases pending : tracker.pending <;>
    simp [closeGroup, length_pending_emit, pending]

/-- As many groups are open as parentheses. -/
theorem length_pending_run (tracker : Tracker) {fragments : List Fragment}
    (cut : Cut fragments) {depth : Nat}
    (reached :
      depthAfter tracker.pending.length (renderAll fragments) = some depth)
    (opened : Bool) :
    (tracker.run opened fragments).pending.length = depth := by
  induction cut generalizing tracker opened with
  | last solid =>
      rw [run_last, length_pending_read]
      simpa [render, depthAfter_of_isSolid solid] using reached
  | opening solid complete _ induction =>
      rw [depthAfter_renderAll_opening complete _ solid] at reached
      rw [run_opening]
      exact induction _
        (by simpa [openGroup, length_pending_read] using reached) true
  | closing solid complete _ induction =>
      rw [depthAfter_renderAll_closing complete _ solid] at reached
      rw [run_closing]
      refine induction _ ?_ false
      rw [length_pending_closeGroup, length_pending_read]
      cases level : tracker.pending.length with
      | zero => simp [level] at reached
      | succ depth => simpa [level] using reached

/-- The last text of a balanced pattern stands behind no opening parenthesis, so
what follows may be handled on its own. -/
theorem run_append (tracker : Tracker) {fragments : List Fragment}
    (cut : Cut fragments) (complete : (renderAll fragments).isComplete)
    {depth : Nat} (balanced : depthAfter depth (renderAll fragments) = some 0)
    (opened : Bool) (inside : opened = true → depth ≠ 0) (back : Text) :
    tracker.run opened (split (renderAll fragments ++ back)) =
      (tracker.run opened fragments).run false (split back) := by
  induction cut generalizing tracker depth opened with
  | @last text solid =>
      obtain ⟨first, others, cut⟩ := (Cut.of_split back).starts_with_text
      have level : depth = 0 := by
        simpa [render, depthAfter_of_isSolid solid] using balanced
      have outside : opened = false := by
        cases opened with
        | false => rfl
        | true => exact absurd level (inside rfl)
      have whole : renderAll [.plain text] = text := by simp [render]
      rw [whole] at complete ⊢
      subst outside
      rw [split_append solid complete, cut]
      simp [extend, run]
  | opening solid closed _ induction =>
      rw [isComplete_renderAll_opening closed] at complete
      rw [depthAfter_renderAll_opening closed _ solid] at balanced
      rw [split_renderAll_opening closed _ solid, run_opening, run_opening]
      exact induction _ complete balanced true fun _ => Nat.succ_ne_zero _
  | closing solid closed _ induction =>
      rw [isComplete_renderAll_closing closed] at complete
      rw [depthAfter_renderAll_closing closed _ solid] at balanced
      rw [split_renderAll_closing closed _ solid, run_closing, run_closing]
      cases depth with
      | zero => simp at balanced
      | succ depth =>
          exact induction _ complete (by simpa using balanced) false (by simp)

/-- Behind a complete pattern the output can be put in front of any text. -/
theorem Sealed.run_of_complete {fragments : List Fragment} (cut : Cut fragments)
    (complete : (renderAll fragments).isComplete) (seals : Sealed tracker)
    (opened : Bool) : Sealed (tracker.run opened fragments) := by
  induction cut generalizing tracker opened with
  | last solid =>
      rw [run_last]
      exact seals.read solid (by simpa [render] using complete) opened false
  | opening solid closed _ induction =>
      rw [isComplete_renderAll_opening closed] at complete
      rw [run_opening]
      exact induction complete (seals.read solid closed opened false).openGroup
        true
  | closing solid closed _ induction =>
      rw [isComplete_renderAll_closing closed] at complete
      rw [run_closing]
      exact induction complete (seals.read solid closed opened true).closeGroup
        false

/-! ### The names that have been used -/

/-- Every name that is recorded, or that will be when its group closes, has a
key. -/
structure Listed (tracker : Tracker) : Prop where
  opened : ∀ group ∈ tracker.pending, ∀ name, group.name = some name →
    GroupKey.name name ∈ tracker.groups.keys
  recorded :
    ∀ name ∈ tracker.named.keys, GroupKey.name name ∈ tracker.groups.keys

namespace Listed

theorem start : Listed start := by
  constructor
  · simp [Tracker.start]
  · intro name member
    cases member

theorem emit (listed : Listed tracker) (text : Text) :
    Listed (tracker.emit text) := by
  obtain ⟨opened, recorded⟩ := listed
  unfold Tracker.emit
  split
  · exact ⟨opened, recorded⟩
  · rename_i group outer pending
    simp only [pending, List.forall_mem_cons] at opened
    exact ⟨List.forall_mem_cons.mpr opened, recorded⟩

theorem openGroup (listed : Listed tracker) : Listed tracker.openGroup :=
  ⟨List.forall_mem_cons.mpr ⟨by simp, listed.opened⟩, listed.recorded⟩

theorem closeGroup (listed : Listed tracker) : Listed tracker.closeGroup := by
  have copied := listed.emit [')']
  obtain ⟨opened, recorded⟩ := listed
  unfold Tracker.closeGroup
  split
  · exact copied
  · rename_i group outer pending
    simp only [pending, List.forall_mem_cons] at opened
    refine emit ⟨opened.2, fun name member => ?_⟩ _
    obtain ⟨entry, kept, rfl⟩ := List.mem_map.mp member
    obtain old | ⟨isNamed, -⟩ := mem_entries_record kept
    · exact recorded entry.1 (List.mem_map_of_mem old)
    · exact opened.1 entry.1 isNamed

theorem addOrdinal (listed : Listed tracker) : Listed tracker.addOrdinal where
  opened group member name isNamed :=
    (OrderedMap.mem_keys_insert_iff _ _ _ _).mpr (.inr (listed.opened group
      member name isNamed))
  recorded name member :=
    (OrderedMap.mem_keys_insert_iff _ _ _ _).mpr (.inr (listed.recorded name
      member))

theorem addName (listed : Listed tracker) (name : Text) :
    Listed (tracker.addName name) where
  opened := by
    have own : GroupKey.name name ∈ (tracker.addName name).groups.keys :=
      (OrderedMap.mem_keys_insert_iff _ _ _ _).mpr (.inl rfl)
    have kept :
        ∀ key ∈ tracker.groups.keys, key ∈ (tracker.addName name).groups.keys :=
      fun key member =>
        (OrderedMap.mem_keys_insert_iff _ _ _ _).mpr (.inr member)
    have opened := listed.opened
    intro group member other isNamed
    cases pending : tracker.pending with
    | nil => simp [Tracker.addName, pending] at member
    | cons inner outer =>
        simp only [pending, List.forall_mem_cons] at opened
        simp only [Tracker.addName, pending, List.mem_cons] at member
        obtain rfl | member := member
        · cases isNamed
          exact own
        · exact kept _ (opened.2 group member other isNamed)
  recorded other member :=
    (OrderedMap.mem_keys_insert_iff _ _ _ _).mpr (.inr (listed.recorded other
      member))

theorem read (listed : Listed tracker) (opened : Bool) (text : Text)
    (closes : Bool) : Listed (tracker.read opened text closes) := by
  have entered : Listed (tracker.entered opened text closes) := by
    unfold Tracker.entered enterCapture
    split
    · split
      · exact listed.addOrdinal
      · dsimp only
        split
        · exact listed.addOrdinal
        · exact listed.addName _
    · exact listed
  rw [read_eq_emit]
  exact entered.emit _

theorem run {fragments : List Fragment} (cut : Cut fragments)
    (listed : Listed tracker) (opened : Bool) :
    Listed (tracker.run opened fragments) := by
  induction cut generalizing tracker opened with
  | last _ =>
      rw [run_last]
      exact listed.read _ _ _
  | opening _ _ _ induction =>
      rw [run_opening]
      exact induction (listed.read _ _ _).openGroup _
  | closing _ _ _ induction =>
      rw [run_closing]
      exact induction (listed.read _ _ _).closeGroup _

end Listed

/-! ### What follows a balanced pattern -/

section Unchanged

variable (counts : Counts tracker) (listed : Listed tracker)
    (closed : tracker.pending = [])

/-- The names that a state does not know may be used behind it as they are. -/
def Naming.unchanged : Naming tracker where
  Known name := GroupKey.name name ∉ tracker.groups.keys
  names := id
  injective _ _ same := same
  unlisted unknown := unknown
  unrecorded unknown member := unknown (listed.recorded _ member)
  counts := counts
  closed := closed

private theorem Naming.key_unchanged (key : GroupKey) :
    (Naming.unchanged counts listed closed).key key =
      key.shift tracker.ordinals := by
  simp [Naming.key, Naming.unchanged]

def usedNames (text : Text) : List Text :=
  (headerName? text).toList ++ (reference? (afterHeader text)).toList

private theorem Respells.unchanged {text : Text}
    (unknown :
      ∀ name ∈ usedNames text, GroupKey.name name ∉ tracker.groups.keys) :
    Respells (Naming.unchanged counts listed closed) text text where
  capturing := rfl
  header := by simp [Naming.unchanged]
  reference := by simp [Naming.unchanged]
  kept _ := rfl
  knownHeader name found := unknown name (by simp [usedNames, found])
  knownReference name found := unknown name (by simp [usedNames, found])

end Unchanged

end Tracker

namespace Positional

open Tracker

/-- The positional pattern of two patterns in a row.  The second one may be
anything: it may close groups that it does not open, and leave groups open. -/
theorem ofPattern_append (front : Text) (balanced : front.IsBalanced)
    (complete : front.isComplete) (back : Text)
    (unused : ∀ text ∈ openedTexts (split back),
      ∀ name ∈ usedNames text, ¬ (ofPattern front).groups.hasName name) :
    (ofPattern (front ++ back)).source =
        (ofPattern front).source ++ (ofPattern back).source ∧
      (ofPattern (front ++ back)).named.entries =
        (ofPattern front).named.entries ++ (ofPattern back).named.entries ∧
      (ofPattern (front ++ back)).groups.entries =
        (ofPattern front).groups.entries ++
          (ofPattern back).groups.entries.map fun entry =>
            (entry.1.shift ((ofPattern front).groups.keys.filterMap
              GroupKey.ordinal?).length,
              (ofPattern front).groups.size + entry.2) := by
  have cut := Cut.of_split front
  have reached : depthAfter 0 (start.run false (split front)).output = some 0 :=
    (depthAfter_output front 0).trans balanced
  rw [← renderAll_split front] at balanced complete
  obtain ⟨counts, -⟩ := counts_ofPattern front
  have listed := Listed.start.run cut false
  have closed : (start.run false (split front)).pending = [] :=
    List.length_eq_zero_iff.mp (length_pending_run start cut balanced false)
  have alongside :
      Alongside (Respells (Naming.unchanged counts listed closed)) false
        (split back) (split back) := by
    refine (Alongside.refl (Cut.of_split back) false).imp ?_
    rintro text member _ rfl
    exact .unchanged counts listed closed fun name used key =>
      unused text member name used ((hasName_iff _ _).mpr key)
  have follows :=
    (Follows.start (Naming.unchanged counts listed closed)).run alongside
  have run := run_append start cut complete balanced false (by simp) back
  rw [renderAll_split] at run
  simp only [ofPattern, run]
  refine ⟨?_, ?_, ?_⟩
  · have whole := (sealed_start.run_of_complete cut complete false).complete
    rw [follows.output, removeEmptyGroups_append_of whole fun _ => ⟨0, reached⟩]
  · rw [follows.named]
    simp [Naming.unchanged]
  · have size : (start.run false (split front)).groups.size =
        (start.run false (split front)).captures := by
      rw [← counts.length_keys, OrderedMap.keys, List.length_map,
        OrderedMap.size]
    rw [follows.groups, counts.length_ordinals, size]
    congr 2
    funext entry
    rw [Prod.map, Naming.key_unchanged]

/-- The second pattern closes what it does not open, leaves a group open, and
refers to its own name. -/
theorem ofPattern_append_unbalanced :
    ∃ whole,
      whole =
          ['(', '?', '<', 'a', '>', 'x', ')', '(', 'y', ')'] ++
            [')', '(', ':', '<', 'b', '>', '\\', ')', ')', '(', '?', '&', 'b',
              ')', '('] ∧
        (ofPattern whole).source =
          ['(', 'x', ')', '(', 'y', ')'] ++
            [')', '(', '\\', ')', ')', '(', '\\', ')', ')', '('] ∧
        (ofPattern whole).named.entries =
          [(['a'], ['x'])] ++ [(['b'], ['\\', ')'])] ∧
        (ofPattern whole).groups.entries =
          [(.name ['a'], 1), (.ordinal 0, 2)] ++
            [(.name ['b'], 2 + 1), (.ordinal (1 + 0), 2 + 2),
              (.ordinal (1 + 1), 2 + 3)] := by
  have joined :=
    ofPattern_append ['(', '?', '<', 'a', '>', 'x', ')', '(', 'y', ')']
      (by decide) (by decide) [')', '(', ':', '<', 'b', '>', '\\', ')', ')',
        '(', '?', '&', 'b', ')', '('] (by decide)
  exact ⟨_, rfl, joined⟩

end Positional

end NamedGroups
