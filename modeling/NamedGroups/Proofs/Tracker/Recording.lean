import NamedGroups.Proofs.Tracker.Inlining
import NamedGroups.Proofs.Tracker.Positions

/-!
# Recorded sources

A name belongs to the leftmost group with a header of that name.  When this
group closes, what has been written between its parentheses becomes the source
of the name, and from then on every reference to the name is replaced by it.
`Traced` says what the state in front of a position has to do with the
parentheses in front of it.
-/

namespace NamedGroups

open GroupSyntax

theorem OrderedMap.mem_of_get? {κ β : Type} [DecidableEq κ]
    {entryMap : OrderedMap κ β} {key : κ} {value : β}
    (found : entryMap.get? key = some value) :
    (key, value) ∈ entryMap.entries := by
  obtain ⟨front, back, whole, -⟩ := List.lookup_eq_some_iff.mp found
  simp [whole]

namespace Fragment

/-- The name in the header of the group that opens at a position. -/
def headerAt? (fragments : List Fragment) (position : Nat) : Option Text :=
  (openedText? fragments position).bind headerName?

/-- The name that belongs to the group that opens at a position: the one in its
header, unless a group further left has it too. -/
def ownedName? (fragments : List Fragment) (position : Nat) : Option Text :=
  (headerAt? fragments position).filter fun name =>
    ∀ earlier < position, headerAt? fragments earlier ≠ some name

variable {fragments : List Fragment} {position : Nat} {name : Text}

theorem headerAt?_eq_some_iff :
    headerAt? fragments position = some name ↔
      ∃ text, openedText? fragments position = some text ∧
        headerName? text = some name := by
  simp [headerAt?, Option.bind_eq_some_iff]

theorem isName_of_headerAt?
    (header : headerAt? fragments position = some name) : IsName name := by
  obtain ⟨text, -, named⟩ := headerAt?_eq_some_iff.mp header
  obtain ⟨⟨leading, rest⟩, found, rfl⟩ := Option.map_eq_some_iff.mp named
  exact isName_of_header found

theorem ownedName?_eq_some_iff :
    ownedName? fragments position = some name ↔
      headerAt? fragments position = some name ∧
        ∀ earlier < position, headerAt? fragments earlier ≠ some name := by
  simp [ownedName?, Option.filter_eq_some_iff]

theorem ownedName?_unique {other : Nat}
    (first : ownedName? fragments position = some name)
    (second : ownedName? fragments other = some name) : position = other := by
  obtain ⟨header, leftmost⟩ := ownedName?_eq_some_iff.mp first
  obtain ⟨otherHeader, otherLeftmost⟩ := ownedName?_eq_some_iff.mp second
  rcases Nat.lt_trichotomy position other with before | same | behind
  · exact absurd header (otherLeftmost position before)
  · exact same
  · exact absurd otherHeader (leftmost other behind)

theorem ownedName?_eq_none (unopened : openedText? fragments position = none) :
    ownedName? fragments position = none := by
  simp [ownedName?, headerAt?, unopened]

end Fragment

namespace Tracker

open Fragment

variable {fragments : List Fragment} {position : Nat}

/-- In front of a position the group that owns a name has closed, and the source
is what was written between its parentheses. -/
def HasSource (fragments : List Fragment) (position : Nat)
    (name source : Text) : Prop :=
  ∃ pair ∈ (nesting fragments position).pairs,
    ownedName? fragments pair.1 = some name ∧
      outputAt fragments (pair.1 + 1) ++ source = outputAt fragments pair.2

namespace HasSource

variable {name source : Text}

theorem later {further : Nat} (before : position ≤ further)
    (known : HasSource fragments position name source) :
    HasSource fragments further name source := by
  obtain ⟨pair, closed, owned⟩ := known
  exact ⟨pair, (prefix_pairs before).subset closed, owned⟩

theorem unique {other : Text} (first : HasSource fragments position name source)
    (second : HasSource fragments position name other) : source = other := by
  obtain ⟨⟨opening, closing⟩, closed, owned, written⟩ := first
  obtain ⟨⟨otherOpening, otherClosing⟩, otherClosed, otherOwned,
    otherWritten⟩ := second
  obtain rfl := ownedName?_unique owned otherOwned
  obtain rfl := closing_unique closed otherClosed
  exact List.append_cancel_left (written.trans otherWritten.symm)

end HasSource

/-! ### The open groups -/

/-- The name that an open group has in front of a position.  It gets one with
the text behind its opening parenthesis. -/
def nameBefore (fragments : List Fragment) (position opening : Nat) :
    Option Text :=
  if opening + 1 < position then ownedName? fragments opening else none

private theorem nameBefore_succ {opening : Nat}
    (unnamed : opening + 1 = position → ownedName? fragments opening = none) :
    nameBefore fragments (position + 1) opening =
      nameBefore fragments position opening := by
  unfold nameBefore
  rcases Nat.lt_trichotomy (opening + 1) position with before | here | behind
  · rw [if_pos (Nat.lt_succ_of_lt before), if_pos before]
  · rw [if_pos (here ▸ Nat.lt_succ_self _), if_neg (here ▸ Nat.lt_irrefl _),
      unnamed here]
  · rw [if_neg (by omega), if_neg (by omega)]

/-- The open groups of a state belong to the parentheses that are open,
innermost first, and each of them holds what has been written since its own
parenthesis, as far as no inner one holds it. -/
inductive Stacked (fragments : List Fragment) (position : Nat) :
    List OpenGroup → List Nat → Text → Prop where
  | outside (written : Text) : Stacked fragments position [] [] written
  | inside {group : OpenGroup} {outer : List OpenGroup} {opening : Nat}
        {openings : List Nat} {written : Text} :
      group.name = nameBefore fragments position opening →
        outputAt fragments (opening + 1) ++ group.body = written →
        Stacked fragments position outer openings (outputAt fragments opening) →
        Stacked fragments position (group :: outer) (opening :: openings)
          written

namespace Stacked

variable {pending : List OpenGroup} {openings : List Nat} {written : Text}

theorem emit {tracker : Tracker}
    (stacked : Stacked fragments position tracker.pending openings written)
    (text : Text) :
    Stacked fragments position (tracker.emit text).pending openings
      (written ++ text) := by
  obtain ⟨base, pending, captures, ordinals, groups, named⟩ := tracker
  cases stacked with
  | outside => exact .outside _
  | inside name body outer =>
      exact .inside name (by rw [← body, List.append_assoc]) outer

theorem advance (stacked : Stacked fragments position pending openings written)
    (unnamed : ∀ opening ∈ openings,
      opening + 1 = position → ownedName? fragments opening = none) :
    Stacked fragments (position + 1) pending openings written := by
  induction stacked with
  | outside => exact .outside _
  | inside name body _ induction =>
      rw [List.forall_mem_cons] at unnamed
      exact .inside (name.trans (nameBefore_succ unnamed.1).symm) body
        (induction unnamed.2)

end Stacked

/-! ### What a text does to the names -/

section Names

variable {tracker : Tracker} {text : Text}

/-- The group that has just been opened gets the name in its header, if the name
is new. -/
theorem pending_entered {group : OpenGroup} {outer : List OpenGroup}
    (pending : tracker.pending = group :: outer) (unnamed : group.name = none)
    (closes : Bool) :
    (tracker.entered true text closes).pending =
      { group with
        name :=
          (headerName? text).filter fun name =>
            !tracker.groups.hasName name } :: outer := by
  obtain ⟨_, body⟩ := group
  cases unnamed
  unfold entered enterCapture headerName?
  cases found : header? text with
  | none =>
      split
      · exact pending
      · exact pending
  | some header =>
      rw [isCapturing_of_header found]
      cases known : tracker.groups.hasName header.1 with
      | false => simp [known, addName, pending, Option.filter]
      | true => simp [known, addOrdinal, pending, Option.filter]

/-- A text adds the name in its header to the index. -/
theorem hasName_entered (closes : Bool) (name : Text) :
    (tracker.entered true text closes).groups.hasName name ↔
      tracker.groups.hasName name ∨ headerName? text = some name := by
  unfold entered enterCapture headerName?
  cases found : header? text with
  | none =>
      split
      · simp [Alike.hasName_addOrdinal]
      · simp
  | some header =>
      rw [isCapturing_of_header found]
      cases known : tracker.groups.hasName header.1 with
      | false =>
          simp only [known, addName, Bool.and_self, if_true, Bool.false_eq_true,
            if_false, Alike.hasName_insert, Bool.or_eq_true, decide_eq_true_eq,
            GroupKey.name.injEq, Option.map_some, Option.some.injEq]
          rw [or_comm, @eq_comm _ name]
      | true =>
          simp only [known, Bool.and_self, if_true, Alike.hasName_addOrdinal,
            Option.map_some, Option.some.injEq, iff_self_or]
          rintro rfl
          exact known

end Names

/-! ### The state in front of a position -/

/-- What the state in front of a position has to do with the parentheses in
front of it. -/
structure Traced (fragments : List Fragment) (position : Nat) : Prop where
  stacked : Stacked fragments position (stateAt fragments position).pending
    (nesting fragments position).opened (outputAt fragments position)
  names : ∀ name, (stateAt fragments position).groups.hasName name ↔
    ∃ opening, opening + 1 < position ∧ headerAt? fragments opening = some name
  keys :
    (stateAt fragments position).named.keys =
      (nesting fragments position).pairs.filterMap fun pair =>
        ownedName? fragments pair.1
  sources : ∀ entry ∈ (stateAt fragments position).named.entries,
    HasSource fragments position entry.1 entry.2

namespace Traced

theorem zero (fragments : List Fragment) : Traced fragments 0 where
  stacked := .outside _
  names name :=
    iff_of_false (by simp [stateAt, start, GroupIndex.hasName,
      GroupIndex.named?, OrderedMap.get?, EmptyCollection.emptyCollection,
      OrderedMap.empty]) (by simp)
  keys := rfl
  sources entry member := by cases member

section Unopened

/-! Most fragments are no texts behind an opening parenthesis, so they bring no
name. -/

variable (traced : Traced fragments position)
    (unopened :
      ∀ opening, opening + 1 = position → openedText? fragments opening = none)
include traced unopened

theorem names_succ (name : Text) :
    (stateAt fragments position).groups.hasName name ↔
      ∃ opening, opening + 1 < position + 1 ∧
        headerAt? fragments opening = some name := by
  rw [traced.names name]
  constructor
  · rintro ⟨opening, before, header⟩
    exact ⟨opening, Nat.lt_succ_of_lt before, header⟩
  · rintro ⟨opening, before, header⟩
    rcases Nat.lt_or_eq_of_le (Nat.le_of_lt_succ before) with inFront | here
    · exact ⟨opening, inFront, header⟩
    · rw [headerAt?, unopened opening here] at header
      cases header

theorem stacked_succ :
    Stacked fragments (position + 1) (stateAt fragments position).pending
      (nesting fragments position).opened (outputAt fragments position) :=
  traced.stacked.advance fun opening _ here =>
    ownedName?_eq_none (unopened opening here)

theorem emit {text : Text}
    (written :
      stateAt fragments (position + 1) = (stateAt fragments position).emit text)
    (same : nesting fragments (position + 1) = nesting fragments position) :
    Traced fragments (position + 1) := by
  have output :
      outputAt fragments (position + 1) =
        outputAt fragments position ++ text := by
    rw [outputAt, written, output_emit]
    rfl
  constructor
  · rw [written, same, output]
    exact (traced.stacked_succ unopened).emit text
  · rw [written, groups_emit]
    exact traced.names_succ unopened
  · rw [written, same, named_emit]
    exact traced.keys
  · rw [written, named_emit]
    exact fun entry member =>
      (traced.sources entry member).later (Nat.le_succ position)

theorem opening (opening : fragments[position]? = some .opening) :
    Traced fragments (position + 1) := by
  have state := stateAt_opening opening
  constructor
  · rw [state, nesting_opening opening]
    apply Stacked.inside
    · simp [nameBefore]
    · rw [outputAt, state]
      exact List.append_nil _
    · exact traced.stacked_succ unopened
  · rw [state]
    exact traced.names_succ unopened
  · rw [state, nesting_opening opening]
    exact traced.keys
  · rw [state]
    exact fun entry member =>
      (traced.sources entry member).later (Nat.le_succ position)

/-- The innermost group has its name and what stands between its parentheses
when it closes. -/
theorem innermost {opening : Nat} {openings : List Nat}
    (innermost : (nesting fragments position).opened = opening :: openings) :
    ∃ group outer, (stateAt fragments position).pending = group :: outer ∧
      group.name = ownedName? fragments opening ∧
      outputAt fragments (opening + 1) ++ group.body =
        outputAt fragments position ∧
      Stacked fragments (position + 1) outer openings
        (outputAt fragments opening) := by
  have stacked := traced.stacked
  rw [innermost] at stacked
  cases pending : (stateAt fragments position).pending with
  | nil =>
      rw [pending] at stacked
      cases stacked
  | cons group outer =>
      rw [pending] at stacked
      cases stacked with
      | inside name body stacked =>
          have nested := nested_nesting fragments position
          have before := (nested.opened opening (by simp [innermost])).1
          refine ⟨group, outer, rfl, ?_, body, ?_⟩
          · rw [name, nameBefore]
            split
            · rfl
            · rw [ownedName?_eq_none (unopened opening (by omega))]
          · exact stacked.advance fun earlier _ here =>
              ownedName?_eq_none (unopened earlier here)

end Unopened

theorem entries_record (traced : Traced fragments position) {group : OpenGroup}
    {opening : Nat} {openings : List Nat}
    (innermost : (nesting fragments position).opened = opening :: openings)
    (named : group.name = ownedName? fragments opening) :
    (record (stateAt fragments position).named group).entries =
      (stateAt fragments position).named.entries ++
        ((ownedName? fragments opening).map fun name =>
          (name, group.body)).toList := by
  unfold record
  rw [named]
  cases owned : ownedName? fragments opening with
  | none => simp
  | some name =>
      have new : name ∉ (stateAt fragments position).named.keys := by
        rw [traced.keys, List.mem_filterMap]
        rintro ⟨pair, closed, other⟩
        obtain rfl := ownedName?_unique other owned
        have once := (nested_nesting fragments position).once
        rw [innermost, List.cons_append, List.nodup_cons] at once
        exact once.1 (List.mem_append_right _ (List.mem_map_of_mem closed))
      have unknown :
          (stateAt fragments position).named.contains name = false := by
        rwa [← Bool.not_eq_true, OrderedMap.contains,
          OrderedMap.isSome_get?_iff]
      simp [unknown, OrderedMap.entries_insert_of_notMem _ new]

theorem closing (traced : Traced fragments position)
    (closing : fragments[position]? = some .closing) :
    Traced fragments (position + 1) := by
  have unopened : ∀ earlier,
      earlier + 1 = position → openedText? fragments earlier = none := by
    rintro earlier rfl
    exact openedText?_eq_none (by simp [closing])
  cases opened : (nesting fragments position).opened with
  | nil =>
      have stacked := traced.stacked
      rw [opened] at stacked
      have copied :
          stateAt fragments (position + 1) =
            (stateAt fragments position).emit [')'] := by
        rw [stateAt_closing closing, closeGroup]
        generalize (stateAt fragments position).pending = pending at stacked
        cases stacked
        rfl
      exact traced.emit unopened copied
        (nesting_closing_unmatched closing opened)
  | cons opening openings =>
      obtain ⟨group, outer, pending, named, body, stacked⟩ :=
        traced.innermost unopened opened
      have entries := traced.entries_record opened named
      have pairs := nesting_closing closing opened
      have isOpening :=
        ((nested_nesting fragments position).opened opening
          (by simp [opened])).2
      have written : outputAt fragments (position + 1) =
          outputAt fragments opening ++ ('(' :: group.body ++ [')']) := by
        rw [outputAt_closing closing, ← body, outputAt_opening isOpening]
        simp
      let left : Tracker :=
        { stateAt fragments position with
          pending := outer
          named := record (stateAt fragments position).named group }
      have closed :
          stateAt fragments (position + 1) =
            left.emit ('(' :: group.body ++ [')']) := by
        rw [stateAt_closing closing, closeGroup, pending]
      have outerStacked : Stacked fragments (position + 1) left.pending openings
          (outputAt fragments opening) := stacked
      constructor
      · rw [closed, pairs, written]
        exact outerStacked.emit _
      · rw [closed, groups_emit]
        exact traced.names_succ unopened
      · have keys := traced.keys
        rw [OrderedMap.keys] at keys
        rw [closed, named_emit, pairs, OrderedMap.keys, entries,
          List.map_append, keys, List.filterMap_append]
        cases owned : ownedName? fragments opening <;> simp [owned]
      · rw [closed, named_emit, entries, List.forall_mem_append]
        constructor
        · exact fun entry member =>
            (traced.sources entry member).later (Nat.le_succ position)
        · intro entry member
          obtain ⟨owned, isOwned, rfl⟩ :=
            Option.map_eq_some_iff.mp (Option.mem_toList.mp member)
          exact ⟨(opening, position), by simp [pairs], isOwned, body⟩

theorem opened {opening : Nat} (traced : Traced fragments (opening + 1))
    {text : Text} (opened : openedText? fragments opening = some text) :
    Traced fragments (opening + 2) := by
  obtain ⟨isOpening, plain⟩ := openedText?_eq_some_iff.mp opened
  have same :
      nesting fragments (opening + 2) = nesting fragments (opening + 1) :=
    nesting_other (by simp [plain]) (by simp [plain])
  have state := stateAt_plain plain
  rw [opensBefore_succ_iff.mpr isOpening, read_eq_emit] at state
  have stacked := traced.stacked
  have pending : (stateAt fragments (opening + 1)).pending =
      ⟨none, []⟩ :: (stateAt fragments opening).pending := by
    rw [stateAt_opening isOpening]
    rfl
  have named : ((headerName? text).filter fun name =>
      !(stateAt fragments (opening + 1)).groups.hasName name) =
        ownedName? fragments opening := by
    rw [ownedName?, headerAt?, opened, Option.bind_some]
    congr 1
    funext name
    rw [Bool.eq_iff_iff, Bool.not_eq_true', ← Bool.not_eq_true,
      traced.names name]
    simp
  rw [nesting_opening isOpening, pending] at stacked
  cases stacked with
  | inside _ body outer =>
      constructor
      · rw [same, nesting_opening isOpening, state, outputAt_opened opened]
        apply Stacked.emit
        rw [pending_entered pending rfl, named]
        apply Stacked.inside
        · exact (if_pos (Nat.lt_succ_self _)).symm
        · exact body
        · apply outer.advance
          intro earlier member here
          have before :=
            ((nested_nesting fragments opening).opened earlier member).1
          omega
      · intro name
        rw [state, groups_emit, hasName_entered, traced.names name]
        constructor
        · rintro (⟨earlier, before, header⟩ | header)
          · exact ⟨earlier, Nat.lt_succ_of_lt before, header⟩
          · exact ⟨opening, Nat.lt_succ_self _,
              headerAt?_eq_some_iff.mpr ⟨text, opened, header⟩⟩
        · rintro ⟨earlier, before, header⟩
          rcases Nat.lt_or_eq_of_le (Nat.le_of_lt_succ before)
            with inFront | here
          · exact .inl ⟨earlier, inFront, header⟩
          · cases here
            obtain ⟨other, isOther, found⟩ := headerAt?_eq_some_iff.mp header
            cases opened.symm.trans isOther
            exact .inr found
      · rw [same, state, named_emit, named_entered]
        exact traced.keys
      · rw [state, named_emit, named_entered]
        exact fun entry member =>
          (traced.sources entry member).later (Nat.le_succ _)

theorem plain (traced : Traced fragments position) {text : Text}
    (plain : fragments[position]? = some (.plain text)) :
    Traced fragments (position + 1) := by
  cases behind : opensBefore fragments position with
  | false =>
      have unopened : ∀ earlier,
          earlier + 1 = position → openedText? fragments earlier = none := by
        rintro earlier rfl
        rw [Option.eq_none_iff_forall_ne_some]
        intro other found
        rw [opensBefore_succ_iff.mpr (openedText?_eq_some_iff.mp found).1]
          at behind
        cases behind
      have state := stateAt_plain plain
      rw [behind] at state
      exact traced.emit unopened state
        (nesting_other (by simp [plain]) (by simp [plain]))
  | true =>
      cases position with
      | zero => cases behind
      | succ opening =>
          exact traced.opened (openedText?_eq_some_iff.mpr
            ⟨opensBefore_succ_iff.mp behind, plain⟩)

end Traced

/-- Every state of the pass is such a state. -/
theorem traced_stateAt (fragments : List Fragment) (position : Nat) :
    Traced fragments position := by
  induction position with
  | zero => exact .zero fragments
  | succ position traced =>
      have unopened :
          (∀ text, fragments[position]? ≠ some (.plain text)) →
            ∀ earlier, earlier + 1 = position →
              openedText? fragments earlier = none := by
        rintro other earlier rfl
        exact openedText?_eq_none other
      cases found : fragments[position]? with
      | none =>
          have written :
              stateAt fragments (position + 1) =
                (stateAt fragments position).emit [] := by
            rw [emit_nil, stateAt_end found]
          apply traced.emit (unopened (by simp [found])) written
          exact nesting_other (by simp [found]) (by simp [found])
      | some fragment =>
          cases fragment with
          | opening => exact traced.opening (unopened (by simp [found])) found
          | closing => exact traced.closing found
          | plain text => exact traced.plain found

/-! ### Names and their sources -/

variable {name source : Text}

/-- A state knows the sources of the groups that have closed in front of it. -/
theorem get?_stateAt_iff :
    (stateAt fragments position).named.get? name = some source ↔
      HasSource fragments position name source := by
  have traced := traced_stateAt fragments position
  constructor
  · intro found
    exact traced.sources (name, source) (OrderedMap.mem_of_get? found)
  · intro known
    have listed : name ∈ (stateAt fragments position).named.keys := by
      obtain ⟨pair, closed, owned, -⟩ := known
      rw [traced.keys]
      exact List.mem_filterMap.mpr ⟨pair, closed, owned⟩
    obtain ⟨other, found⟩ := Option.isSome_iff_exists.mp
      ((OrderedMap.isSome_get?_iff _ _).mpr listed)
    have same : other = source :=
      (traced.sources (name, other) (OrderedMap.mem_of_get? found)).unique known
    rw [found, same]

/-- What has been written when a group closes starts with what had been written
when it opened. -/
theorem exists_source {pair : Nat × Nat}
    (closed : pair ∈ (nesting fragments position).pairs) :
    ∃ source,
      outputAt fragments (pair.1 + 1) ++ source = outputAt fragments pair.2 :=
  prefix_outputAt fragments
    ((nested_nesting fragments position).paired pair closed).1

/-- A group that owns a name closes in front of a position, or the name has no
source there. -/
theorem get?_stateAt_eq_ite {pair : Nat × Nat}
    (closed : pair ∈ closedPairs fragments)
    (owned : ownedName? fragments pair.1 = some name)
    (written :
      outputAt fragments (pair.1 + 1) ++ source = outputAt fragments pair.2)
    (position : Nat) :
    (stateAt fragments position).named.get? name =
      if pair.2 < position then some source else none := by
  split
  · rename_i inFront
    refine get?_stateAt_iff.mpr ⟨pair, ?_, owned, written⟩
    rcases Nat.le_total position fragments.length with inside | outside
    · exact mem_pairs_of_closed inside closed inFront
    · exact (prefix_pairs outside).subset closed
  · rename_i notInFront
    rw [Option.eq_none_iff_forall_ne_some]
    intro other found
    obtain ⟨⟨opening, closing⟩, otherClosed, otherOwned, -⟩ :=
      get?_stateAt_iff.mp found
    obtain ⟨first, last⟩ := pair
    obtain rfl := ownedName?_unique owned otherOwned
    have bound := ((nested_nesting fragments position).paired _ otherClosed).2.1
    have common :=
      closing_unique
        ((prefix_pairs (Nat.le_max_left fragments.length position)).subset
          closed)
        ((prefix_pairs (Nat.le_max_right fragments.length position)).subset
          otherClosed)
    exact notInFront (common ▸ bound)

theorem afterHeader_of_reference {text : Text}
    (referring : reference? text = some name) : afterHeader text = text := by
  simp [afterHeader, header?_of_reference referring]

/-- A text asks for another group exactly if what is behind its header does. -/
theorem refers_iff (text : Text) :
    Refers text ↔ (reference? (afterHeader text)).isSome := by
  constructor
  · rintro (asWritten | behind)
    · obtain ⟨name, referring⟩ := Option.isSome_iff_exists.mp asWritten
      rwa [afterHeader_of_reference referring]
    · exact behind
  · exact .inr

private theorem isCapturing_of_refers {text : Text}
    (referring : reference? (afterHeader text) = some name) :
    isCapturing text := by
  cases found : header? text with
  | none =>
      simp only [afterHeader, found] at referring
      exact isCapturing_of_reference referring
  | some header => exact isCapturing_of_header found

/-- A reference is replaced by the source that its name has in front of it. -/
theorem outputAt_reference {opening : Nat} {text : Text}
    (opened : openedText? fragments opening = some text)
    (referring : reference? (afterHeader text) = some name) :
    outputAt fragments (opening + 2) = outputAt fragments (opening + 1) ++
      ((stateAt fragments opening).named.get? name).getD [] := by
  have isOpening := (openedText?_eq_some_iff.mp opened).1
  have named :
      (stateAt fragments (opening + 1)).named =
        (stateAt fragments opening).named := by
    rw [stateAt_opening isOpening]
    rfl
  rw [outputAt_opened opened,
    written_of_capturing (isCapturing_of_refers referring), resolve,
    reference?_bodyOf, referring, named]

end Tracker

namespace Positional

open Fragment Tracker

/-- The names of the index are those in the headers. -/
theorem hasName_ofPattern_iff (pattern name : Text) :
    (ofPattern pattern).groups.hasName name ↔
      ∃ opening, headerAt? (split pattern) opening = some name := by
  have names :=
    (traced_stateAt (split pattern) (split pattern).length).names name
  rw [stateAt_length] at names
  apply names.trans
  constructor
  · rintro ⟨opening, -, header⟩
    exact ⟨opening, header⟩
  · rintro ⟨opening, header⟩
    obtain ⟨text, opened, -⟩ := headerAt?_eq_some_iff.mp header
    have plain := (openedText?_eq_some_iff.mp opened).2
    exact ⟨opening, (List.getElem?_eq_some_iff.mp plain).1, header⟩

/-- The names of an index are valid ones. -/
theorem isName_of_hasName {pattern name : Text}
    (known : (ofPattern pattern).groups.hasName name) : IsName name := by
  obtain ⟨opening, header⟩ := (hasName_ofPattern_iff pattern name).mp known
  exact isName_of_headerAt? header

/-- The recorded names are those whose groups close, in the order in which these
do. -/
theorem keys_named_ofPattern (pattern : Text) :
    (ofPattern pattern).named.keys =
      (closedPairs (split pattern)).filterMap fun pair =>
        ownedName? (split pattern) pair.1 := by
  rw [named_eq_stateAt]
  exact (traced_stateAt (split pattern) (split pattern).length).keys

/-- The names of the index are those in the headers, and the ones whose leftmost
group closes are recorded, in the order in which these groups do.  What is
recorded is the output between the parentheses of that group, from the moment on
when it closes.  A reference to the name is replaced by it if the group has
closed in front of the reference, and by nothing otherwise. -/
theorem named_ofPattern (pattern : Text) :
    (∀ name, (ofPattern pattern).groups.hasName name ↔
      ∃ opening, headerAt? (split pattern) opening = some name) ∧
      (ofPattern pattern).named.keys =
        ((closedPairs (split pattern)).filterMap fun pair =>
          ownedName? (split pattern) pair.1) ∧
      (∀ pair ∈ closedPairs (split pattern), ∀ name,
        ownedName? (split pattern) pair.1 = some name →
          ∃ source,
            outputAt (split pattern) (pair.1 + 1) ++ source =
                outputAt (split pattern) pair.2 ∧
              (ofPattern pattern).named.get? name = some source ∧
              ∀ position, (stateAt (split pattern) position).named.get? name =
                if pair.2 < position then some source else none) ∧
      ∀ opening text name, openedText? (split pattern) opening = some text →
        (reference? text = some name ∨
          reference? (afterHeader text) = some name) →
        (∀ pair ∈ closedPairs (split pattern),
          ownedName? (split pattern) pair.1 = some name → pair.2 < opening →
            ∀ source,
              outputAt (split pattern) (pair.1 + 1) ++ source =
                  outputAt (split pattern) pair.2 →
                outputAt (split pattern) (opening + 2) =
                  outputAt (split pattern) (opening + 1) ++ source) ∧
          ((∀ pair ∈ closedPairs (split pattern),
            ownedName? (split pattern) pair.1 = some name → opening < pair.2) →
            outputAt (split pattern) (opening + 2) =
              outputAt (split pattern) (opening + 1)) := by
  refine ⟨hasName_ofPattern_iff pattern, keys_named_ofPattern pattern, ?_, ?_⟩
  · intro pair closed name owned
    obtain ⟨source, written⟩ := exists_source closed
    have known := get?_stateAt_eq_ite closed owned written
    refine ⟨source, written, ?_, known⟩
    have inside := ((nested_nesting _ _).paired pair closed).2.1
    rw [named_eq_stateAt, known, if_pos inside]
  · intro opening text name opened refers
    have referring : reference? (afterHeader text) = some name := by
      rcases refers with asWritten | behind
      · rw [afterHeader_of_reference asWritten, asWritten]
      · exact behind
    rw [outputAt_reference opened referring]
    constructor
    · intro pair closed owned inFront source written
      rw [get?_stateAt_eq_ite closed owned written, if_pos inFront,
        Option.getD_some]
    · intro later
      cases found : (stateAt (split pattern) opening).named.get? name with
      | none => exact List.append_nil _
      | some source =>
          obtain ⟨pair, closed, owned, -⟩ := get?_stateAt_iff.mp found
          have inFront := ((nested_nesting _ _).paired pair closed).2.1
          have plain := (openedText?_eq_some_iff.mp opened).2
          have inside := (List.getElem?_eq_some_iff.mp plain).1
          have member :=
            (prefix_pairs (Nat.le_of_succ_le (Nat.le_of_lt inside))).subset
              closed
          exact absurd (later pair member owned) (Nat.lt_asymm inFront)

/-- A reference inside of its own group stands for nothing, and one behind it
for what is left. -/
theorem named_ofPattern_own_reference :
    ∃ pattern,
      pattern =
          ['(', '?', '<', 'a', '>', 'x', '(', '?', '&', 'a', ')', ')', '(', ':',
            '&', 'a', ')'] ∧
        (ofPattern pattern).named.keys = [['a']] ∧
        outputAt (split pattern) 5 = outputAt (split pattern) 4 ∧
        outputAt (split pattern) 11 =
          outputAt (split pattern) 10 ++ ['x', '(', ')'] := by
  obtain ⟨-, keys, -, references⟩ :=
    named_ofPattern ['(', '?', '<', 'a', '>', 'x', '(', '?', '&', 'a', ')', ')',
      '(', ':', '&', 'a', ')']
  refine ⟨_, rfl, keys, ?_, ?_⟩
  · exact (references 3 ['?', '&', 'a'] ['a'] rfl (.inl rfl)).2 (by decide)
  · exact (references 9 [':', '&', 'a'] ['a'] rfl (.inl rfl)).1 (1, 7)
      (by decide) (by decide) (by decide) _ (by decide)

end Positional

end NamedGroups
