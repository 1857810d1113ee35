import NamedGroups.Log
import NamedGroups.Proofs.Tracker.Steps

/-!
# The index of a pattern

The index has one entry for each text that starts a capture group, numbered from
one in the order of the texts.  A name belongs to the leftmost text with a
header of that name; every other text gets the next ordinal.  `Numbers` says
this of a list of texts and an index.
-/

namespace NamedGroups

def GroupKey.ordinal? : GroupKey → Option Nat
  | .name _ => none
  | .ordinal number => some number

def GroupSyntax.headerName? (text : Text) : Option Text :=
  (header? text).map Prod.fst

namespace GroupIndex

open GroupSyntax

/-- The name that the text at a position has in its header. -/
def nameAt? (texts : List Text) (position : Nat) : Option Text :=
  texts[position]?.bind headerName?

/-- An index with one entry for each of the texts that start capture groups. -/
structure Numbers (texts : List Text) (index : GroupIndex) : Prop where
  captures : index.entries.map Prod.snd = List.range' 1 texts.length
  /-- A name belongs to the leftmost text that has it. -/
  name_iff : ∀ position name, index.keys[position]? = some (.name name) ↔
    nameAt? texts position = some name ∧
      ∀ earlier < position, nameAt? texts earlier ≠ some name
  /-- Any other key counts the keys of its kind in front of it. -/
  ordinal : ∀ position number, index.keys[position]? = some (.ordinal number) →
    number = ((index.keys.take position).filterMap GroupKey.ordinal?).length
  ordinals : ∃ count, index.keys.filterMap GroupKey.ordinal? = List.range count
  distinct : index.keys.Nodup

/-- The key of the next capture group. -/
def nextKey (keys : List GroupKey) (text : Text) : GroupKey :=
  let next := GroupKey.ordinal (keys.filterMap GroupKey.ordinal?).length
  match headerName? text with
  | none => next
  | some name => if .name name ∈ keys then next else .name name

/-- The keys after the capture groups that start with the given texts. -/
def keysAfter (keys : List GroupKey) (texts : List Text) : List GroupKey :=
  texts.foldl (fun keys text => keys ++ [nextKey keys text]) keys

@[simp] theorem keysAfter_nil (keys : List GroupKey) :
    keysAfter keys [] = keys := rfl

@[simp] theorem keysAfter_cons (keys : List GroupKey) (text : Text)
    (texts : List Text) :
    keysAfter keys (text :: texts) =
      keysAfter (keys ++ [nextKey keys text]) texts := rfl

theorem keysAfter_append (keys : List GroupKey) (left right : List Text) :
    keysAfter keys (left ++ right) = keysAfter (keysAfter keys left) right := by
  simp [keysAfter]

theorem length_keysAfter (keys : List GroupKey) (texts : List Text) :
    (keysAfter keys texts).length = keys.length + texts.length := by
  induction texts generalizing keys with
  | nil => rfl
  | cons text texts induction =>
      rw [keysAfter_cons, induction]
      simp +arith

private theorem prefix_keysAfter (keys : List GroupKey) (texts : List Text) :
    keys <+: keysAfter keys texts := by
  induction texts generalizing keys with
  | nil => exact List.prefix_rfl
  | cons text texts induction =>
      exact (List.prefix_append _ _).trans (induction _)

theorem take_keysAfter (texts : List Text) {position : Nat}
    (inside : position ≤ texts.length) :
    (keysAfter [] texts).take position =
      keysAfter [] (texts.take position) := by
  have split : keysAfter [] texts =
      keysAfter (keysAfter [] (texts.take position)) (texts.drop position) := by
    rw [← keysAfter_append, List.take_append_drop]
  obtain ⟨others, whole⟩ :=
    prefix_keysAfter (keysAfter [] (texts.take position)) (texts.drop position)
  have size : (keysAfter [] (texts.take position)).length = position := by
    simp [length_keysAfter, inside]
  rw [split, ← whole]
  exact List.take_left' size

/-- The key at a position depends on its text and the keys in front of it. -/
theorem getElem?_keysAfter (texts : List Text) (position : Nat) :
    (keysAfter [] texts)[position]? =
      texts[position]?.map (nextKey (keysAfter [] (texts.take position))) := by
  by_cases inside : position < texts.length
  · have step :
        texts.take (position + 1) = texts.take position ++ [texts[position]] :=
      List.take_succ_eq_append_getElem inside
    have here : (keysAfter [] texts)[position]? =
        ((keysAfter [] texts).take (position + 1))[position]? := by
      simp
    rw [here, take_keysAfter texts inside, step, keysAfter_append]
    have size : (keysAfter [] (texts.take position)).length = position := by
      simp [length_keysAfter, Nat.le_of_lt inside]
    simp [size, inside]
  · have outside : texts.length ≤ position := Nat.le_of_not_lt inside
    rw [List.getElem?_eq_none outside,
      List.getElem?_eq_none (by simpa [length_keysAfter] using outside)]
    rfl

theorem nextKey_eq_name_iff (keys : List GroupKey) (text name : Text) :
    nextKey keys text = .name name ↔
      headerName? text = some name ∧ .name name ∉ keys := by
  unfold nextKey
  cases found : headerName? text with
  | none => simp
  | some other =>
      by_cases taken : GroupKey.name other ∈ keys
      · simp only [taken, if_true, Option.some.injEq]
        constructor
        · intro same
          cases same
        · rintro ⟨rfl, free⟩
          exact absurd taken free
      · simp only [taken, if_false, GroupKey.name.injEq, Option.some.injEq]
        constructor
        · rintro rfl
          exact ⟨rfl, taken⟩
        · exact And.left

theorem nextKey_eq_ordinal {keys : List GroupKey} {text : Text} {number : Nat}
    (same : nextKey keys text = .ordinal number) :
    (keys.filterMap GroupKey.ordinal?).length = number := by
  unfold nextKey at same
  cases found : headerName? text with
  | none => simpa [found] using same
  | some name =>
      by_cases taken : GroupKey.name name ∈ keys
      · simpa [found, taken] using same
      · simp [found, taken] at same

/-- A name has a key as soon as a text has it. -/
theorem name_mem_keysAfter_iff (texts : List Text) (name : Text) :
    GroupKey.name name ∈ keysAfter [] texts ↔
      ∃ position < texts.length, nameAt? texts position = some name := by
  constructor
  · intro member
    obtain ⟨position, found⟩ := List.mem_iff_getElem?.mp member
    rw [getElem?_keysAfter] at found
    obtain ⟨text, here, key⟩ := Option.map_eq_some_iff.mp found
    have inside : position < texts.length :=
      (List.getElem?_eq_some_iff.mp here).1
    refine ⟨position, inside, ?_⟩
    simp [nameAt?, here, ((nextKey_eq_name_iff _ _ _).mp key).1]
  · rintro ⟨position, inside, named⟩
    have before :
        keysAfter [] (texts.take position) <+: keysAfter [] texts := by
      rw [← take_keysAfter texts (Nat.le_of_lt inside)]
      exact List.take_prefix _ _
    by_cases taken : GroupKey.name name ∈ keysAfter [] (texts.take position)
    · exact before.subset taken
    · have header : headerName? texts[position] = some name := by
        simpa [nameAt?, inside] using named
      have key :
          nextKey (keysAfter [] (texts.take position)) texts[position] =
            .name name := (nextKey_eq_name_iff _ _ _).mpr ⟨header, taken⟩
      apply List.mem_of_getElem? (i := position)
      rw [getElem?_keysAfter, List.getElem?_eq_getElem inside, Option.map_some,
        key]

theorem getElem?_keysAfter_eq_name_iff (texts : List Text) (position : Nat)
    (name : Text) :
    (keysAfter [] texts)[position]? = some (.name name) ↔
      nameAt? texts position = some name ∧
        ∀ earlier < position, nameAt? texts earlier ≠ some name := by
  rw [getElem?_keysAfter]
  by_cases inside : position < texts.length
  · have free : GroupKey.name name ∉ keysAfter [] (texts.take position) ↔
        ∀ earlier < position, nameAt? texts earlier ≠ some name := by
      rw [name_mem_keysAfter_iff, List.length_take_of_le (Nat.le_of_lt inside)]
      simp only [not_exists, not_and]
      refine forall₂_congr fun earlier before => ?_
      simp [nameAt?, before]
    rw [List.getElem?_eq_getElem inside, Option.map_some, Option.some.injEq,
      nextKey_eq_name_iff, free]
    simp [nameAt?, inside]
  · simp [nameAt?, List.getElem?_eq_none (Nat.le_of_not_lt inside)]

end GroupIndex

namespace Tracker

open Fragment GroupIndex GroupSyntax

/-- The counters of a tracker agree with its index. -/
structure Counts (tracker : Tracker) : Prop where
  captures :
    tracker.groups.entries.map Prod.snd = List.range' 1 tracker.captures
  ordinals :
    tracker.groups.keys.filterMap GroupKey.ordinal? =
      List.range tracker.ordinals

theorem counts_start : Counts start := ⟨rfl, rfl⟩

theorem hasName_iff (groups : GroupIndex) (name : Text) :
    groups.hasName name ↔ GroupKey.name name ∈ groups.keys :=
  OrderedMap.isSome_get?_iff groups (.name name)

namespace Counts

variable {tracker : Tracker}

theorem ordinal_mem_iff (counts : Counts tracker) (number : Nat) :
    GroupKey.ordinal number ∈ tracker.groups.keys ↔
      number < tracker.ordinals := by
  rw [← List.mem_range, ← counts.ordinals, List.mem_filterMap]
  constructor
  · exact fun member => ⟨_, member, rfl⟩
  · rintro ⟨key, member, found⟩
    cases key with
    | name => cases found
    | ordinal =>
        cases found
        exact member

theorem ordinal_notMem (counts : Counts tracker) :
    GroupKey.ordinal tracker.ordinals ∉ tracker.groups.keys := by
  simp [counts.ordinal_mem_iff]

theorem length_ordinals (counts : Counts tracker) :
    (tracker.groups.keys.filterMap GroupKey.ordinal?).length =
      tracker.ordinals := by
  simp [counts.ordinals]

theorem keys_addOrdinal (counts : Counts tracker) :
    tracker.addOrdinal.groups.keys =
      tracker.groups.keys ++ [GroupKey.ordinal tracker.ordinals] := by
  simp [addOrdinal, OrderedMap.keys,
    OrderedMap.entries_insert_of_notMem _ counts.ordinal_notMem]

theorem addOrdinal (counts : Counts tracker) : Counts tracker.addOrdinal where
  captures := by
    simp [Tracker.addOrdinal,
      OrderedMap.entries_insert_of_notMem _ counts.ordinal_notMem,
      counts.captures, List.range'_concat, Nat.add_comm]
  ordinals := by
    rw [counts.keys_addOrdinal, List.filterMap_append, counts.ordinals]
    simp [Tracker.addOrdinal, GroupKey.ordinal?, List.range_succ]

theorem keys_addName {name : Text}
    (free : GroupKey.name name ∉ tracker.groups.keys) :
    (tracker.addName name).groups.keys =
      tracker.groups.keys ++ [GroupKey.name name] := by
  simp [addName, OrderedMap.keys, OrderedMap.entries_insert_of_notMem _ free]

theorem addName (counts : Counts tracker) {name : Text}
    (free : GroupKey.name name ∉ tracker.groups.keys) :
    Counts (tracker.addName name) where
  captures := by
    simp [Tracker.addName, OrderedMap.entries_insert_of_notMem _ free,
      counts.captures, List.range'_concat, Nat.add_comm]
  ordinals := by
    rw [keys_addName free, List.filterMap_append, counts.ordinals]
    simp [Tracker.addName, GroupKey.ordinal?]

theorem enterCapture (counts : Counts tracker) (text : Text) (closes : Bool) :
    Counts (tracker.enterCapture text closes).1 ∧
      (tracker.enterCapture text closes).1.groups.keys =
        tracker.groups.keys ++ [nextKey tracker.groups.keys text] := by
  unfold Tracker.enterCapture nextKey headerName?
  rw [counts.length_ordinals]
  cases found : header? text with
  | none => exact ⟨counts.addOrdinal, counts.keys_addOrdinal⟩
  | some header =>
      obtain ⟨name, rest⟩ := header
      by_cases taken : GroupKey.name name ∈ tracker.groups.keys
      · have known : tracker.groups.hasName name = true :=
          (hasName_iff _ _).mpr taken
        simp only [known, taken, Option.map_some, if_true]
        exact ⟨counts.addOrdinal, counts.keys_addOrdinal⟩
      · have unknown : ¬ tracker.groups.hasName name = true :=
          fun known => taken ((hasName_iff _ _).mp known)
        simp only [unknown, taken, Option.map_some, if_false]
        exact ⟨counts.addName taken, keys_addName taken⟩

end Counts

theorem Counts.of_same {left right : Tracker} (counts : Counts left)
    (groups : right.groups = left.groups)
    (captures : right.captures = left.captures)
    (ordinals : right.ordinals = left.ordinals) : Counts right := by
  constructor
  · rw [groups, captures, counts.captures]
  · rw [groups, ordinals, counts.ordinals]

theorem Counts.read {tracker : Tracker} (counts : Counts tracker)
    (opened : Bool) (text : Text) (closes : Bool) :
    Counts (tracker.read opened text closes) ∧
      (tracker.read opened text closes).groups.keys =
        keysAfter tracker.groups.keys (captured opened text) := by
  unfold Tracker.read captured
  split
  · obtain ⟨entered, keys⟩ := counts.enterCapture text closes
    constructor
    · exact entered.of_same (groups_emit _ _) (captures_emit _ _)
        (ordinals_emit _ _)
    · rw [capture, groups_emit, keys]
      rfl
  · constructor
    · exact counts.of_same (groups_emit _ _) (captures_emit _ _)
        (ordinals_emit _ _)
    · rw [groups_emit]
      rfl

/-- The pass adds one key for each text that starts a capture group. -/
theorem Counts.run {tracker : Tracker} (counts : Counts tracker)
    {fragments : List Fragment} (cut : Cut fragments) (opened : Bool) :
    Counts (tracker.run opened fragments) ∧
      (tracker.run opened fragments).groups.keys =
        keysAfter tracker.groups.keys
          (captureTextsBehind opened fragments) := by
  induction cut generalizing tracker opened with
  | @last text _ =>
      rw [run_last, captureTextsBehind_last]
      exact counts.read opened text false
  | @opening text fragments _ _ _ induction =>
      obtain ⟨readCounts, readKeys⟩ := counts.read opened text false
      have openCounts : Counts (tracker.read opened text false).openGroup :=
        readCounts.of_same rfl rfl rfl
      obtain ⟨laterCounts, laterKeys⟩ := induction openCounts true
      rw [run_opening, captureTextsBehind_opening, keysAfter_append, ← readKeys]
      exact ⟨laterCounts, laterKeys⟩
  | @closing text fragments _ _ _ induction =>
      obtain ⟨readCounts, readKeys⟩ := counts.read opened text true
      have closedCounts : Counts (tracker.read opened text true).closeGroup :=
        readCounts.of_same (groups_closeGroup _) (captures_closeGroup _)
          (ordinals_closeGroup _)
      obtain ⟨laterCounts, laterKeys⟩ := induction closedCounts false
      rw [run_closing, captureTextsBehind_closing, keysAfter_append, ← readKeys]
      rw [groups_closeGroup] at laterKeys
      exact ⟨laterCounts, laterKeys⟩

theorem counts_ofPattern (pattern : Text) :
    Counts (start.run false (split pattern)) ∧
      (start.run false (split pattern)).groups.keys =
        keysAfter [] (captureTexts (split pattern)) :=
  counts_start.run (Cut.of_split pattern) false

theorem Counts.length_keys {tracker : Tracker} (counts : Counts tracker) :
    tracker.groups.keys.length = tracker.captures := by
  have size := congrArg List.length counts.captures
  simpa [OrderedMap.keys] using size

theorem captures_ofPattern (pattern : Text) :
    (Positional.ofPattern pattern).captures =
      (captureTexts (split pattern)).length := by
  obtain ⟨counts, keys⟩ := counts_ofPattern pattern
  have size := counts.length_keys
  rw [keys, length_keysAfter] at size
  simpa [Positional.ofPattern] using size.symm

theorem size_ofPattern (pattern : Text) :
    (Positional.ofPattern pattern).groups.size =
      (captureTexts (split pattern)).length := by
  obtain ⟨counts, keys⟩ := counts_ofPattern pattern
  have size := congrArg List.length keys
  rw [length_keysAfter] at size
  simpa [OrderedMap.keys, OrderedMap.size, Positional.ofPattern] using size

end Tracker

namespace Positional

open Fragment GroupIndex GroupSyntax Tracker

/-- The index of a pattern numbers the texts that start its capture groups,
headers and references among them, and the log tells how many there are. -/
theorem groups_numbers_captureTexts (pattern : Text) :
    Numbers (captureTexts (split pattern)) (ofPattern pattern).groups ∧
      (LogRecord.ofPattern pattern).getLast? =
        some
          { level := .debug
            message := "generated `".toList ++ (ofPattern pattern).source ++
              "` with ".toList ++
              Text.decimal (ofPattern pattern).groups.size ++
              " capture groups from `".toList ++ pattern ++ "`".toList } ∧
      ∀ text, (header? text).isSome ∨ (reference? text).isSome →
        isCapturing text := by
  obtain ⟨counts, keys⟩ := counts_ofPattern pattern
  have groups :
      (ofPattern pattern).groups = (start.run false (split pattern)).groups :=
    rfl
  refine ⟨⟨?_, ?_, ?_, ?_, (ofPattern pattern).groups.distinct⟩, ?_, ?_⟩
  · rw [groups, counts.captures, ← captures_ofPattern]
    rfl
  · intro position name
    rw [groups, keys]
    exact getElem?_keysAfter_eq_name_iff _ position name
  · intro position number found
    rw [groups, keys] at found ⊢
    have inside : position ≤ (captureTexts (split pattern)).length := by
      have bound := (List.getElem?_eq_some_iff.mp found).1
      rw [length_keysAfter] at bound
      simp only [List.length_nil, Nat.zero_add] at bound
      exact Nat.le_of_lt bound
    rw [getElem?_keysAfter] at found
    obtain ⟨text, _, key⟩ := Option.map_eq_some_iff.mp found
    rw [take_keysAfter _ inside]
    exact (nextKey_eq_ordinal key).symm
  · exact ⟨_, by rw [groups, counts.ordinals]⟩
  · rw [size_ofPattern, ← captures_ofPattern]
    simp [LogRecord.ofPattern, LogRecord.ofPositional]
  · rintro text (named | referring)
    · obtain ⟨⟨name, rest⟩, found⟩ := Option.isSome_iff_exists.mp named
      exact isCapturing_of_header found
    · obtain ⟨name, found⟩ := Option.isSome_iff_exists.mp referring
      exact isCapturing_of_reference found

end Positional

end NamedGroups
