import NamedGroups.Proofs.Tracker.HeaderErasure

/-!
# One pass behind another

A pass that goes on from a state in which no group is open does what it would do
from the start, as long as its names are not known there: it writes the same
texts, and its capture groups are counted on from those of the state.  The names
themselves do not matter, so the two passes may have different ones.
-/

namespace NamedGroups

open GroupSyntax

namespace OrderedMap

variable {κ β : Type} {front back whole : OrderedMap κ β} {key : κ → κ}
    {value : β → β}

/-- The entries of one map, and behind them those of another under other keys
and with other values. -/
def Extends (front back : OrderedMap κ β) (key : κ → κ) (value : β → β)
    (whole : OrderedMap κ β) : Prop :=
  whole.entries = front.entries ++ back.entries.map (Prod.map key value)

variable [DecidableEq κ]

private theorem lookup_map {entries : List (κ × β)} {wanted : κ}
    (apart :
      ∀ other ∈ entries.map Prod.fst, key wanted = key other → wanted = other) :
    (entries.map (Prod.map key value)).lookup (key wanted) =
      (entries.lookup wanted).map value := by
  induction entries with
  | nil => rfl
  | cons entry entries induction =>
      obtain ⟨first, content⟩ := entry
      simp only [List.map_cons, List.forall_mem_cons] at apart
      by_cases same : wanted = first
      · simp [same]
      · have different : key wanted ≠ key first :=
          fun equal => same (apart.1 equal)
        simpa [List.lookup_cons, beq_eq_false_iff_ne.mpr same,
          beq_eq_false_iff_ne.mpr different] using induction apart.2

namespace Extends

theorem get? (extension : Extends front back key value whole) {wanted : κ}
    (new : key wanted ∉ front.keys)
    (apart : ∀ other ∈ back.keys, key wanted = key other → wanted = other) :
    whole.get? (key wanted) = (back.get? wanted).map value := by
  have absent : front.get? (key wanted) = none := by
    rwa [← Option.not_isSome_iff_eq_none, isSome_get?_iff]
  unfold OrderedMap.get? at absent ⊢
  rw [extension, List.lookup_append, absent, Option.none_or, lookup_map apart]

theorem insert (extension : Extends front back key value whole) {added : κ}
    (new : key added ∉ front.keys)
    (apart : ∀ other ∈ back.keys, key added = key other → added = other)
    (absent : added ∉ back.keys) (content : β) :
    Extends front (back.insert added content) key value
      (whole.insert (key added) (value content)) := by
  have missing : key added ∉ whole.keys := by
    rw [← isSome_get?_iff] at absent ⊢
    simpa [extension.get? new apart] using absent
  rw [Extends, entries_insert_of_notMem _ absent,
    entries_insert_of_notMem _ missing, extension]
  simp

end Extends

end OrderedMap

namespace GroupKey

def rename (names : Text → Text) : GroupKey → GroupKey
  | .name text => .name (names text)
  | .ordinal number => .ordinal number

/-- The key behind a number of other groups without a name. -/
def shift (count : Nat) : GroupKey → GroupKey
  | .name text => .name text
  | .ordinal number => .ordinal (count + number)

@[simp] theorem rename_id (key : GroupKey) : key.rename id = key := by
  cases key <;> rfl

@[simp] theorem shift_zero (key : GroupKey) : key.shift 0 = key := by
  cases key <;> simp [shift]

end GroupKey

def OpenGroup.rename (names : Text → Text) (group : OpenGroup) : OpenGroup :=
  { group with name := group.name.map names }

namespace Tracker

open Fragment OrderedMap

/-- Names for the groups that come behind a state in which no group is open.  No
two groups get the same one, and none gets one that the state knows. -/
structure Naming (front : Tracker) where
  /-- The names that the groups have to start with. -/
  Known : Text → Prop
  names : Text → Text
  injective : ∀ {name other},
    Known name → Known other → names name = names other → name = other
  unlisted :
    ∀ {name}, Known name → GroupKey.name (names name) ∉ front.groups.keys
  unrecorded : ∀ {name}, Known name → names name ∉ front.named.keys
  counts : Counts front
  closed : front.pending = []

variable {front : Tracker}

namespace Naming

variable (naming : Naming front)

/-- The key that a group gets behind the state. -/
def key (key : GroupKey) : GroupKey :=
  (key.rename naming.names).shift front.ordinals

/-- Whether a key may come behind the state. -/
def KnownKey (key : GroupKey) : Prop :=
  ∀ name, key = .name name → naming.Known name

variable {naming}

theorem knownKey_name {name : Text} (known : naming.Known name) :
    naming.KnownKey (.name name) := by
  rintro _ ⟨⟩
  exact known

private theorem knownKey_ordinal (number : Nat) :
    naming.KnownKey (.ordinal number) := by
  rintro _ ⟨⟩

theorem key_notMem {key : GroupKey} (known : naming.KnownKey key) :
    naming.key key ∉ front.groups.keys := by
  cases key with
  | name name => exact naming.unlisted (known name rfl)
  | ordinal number => simp [Naming.key, GroupKey.rename, GroupKey.shift,
      naming.counts.ordinal_mem_iff]

private theorem key_injective {key other : GroupKey}
    (known : naming.KnownKey key) (knownOther : naming.KnownKey other)
    (same : naming.key key = naming.key other) : key = other := by
  cases key <;> cases other <;>
    simp [Naming.key, GroupKey.rename, GroupKey.shift] at same ⊢
  · exact naming.injective (known _ rfl) (knownOther _ rfl) same
  · exact same

end Naming

/-- The states of two passes, one of them from the start and one that goes on
from `front`. -/
structure Follows (naming : Naming front) (alone behind : Tracker) : Prop where
  base : behind.base = front.base ++ alone.base
  pending : behind.pending = alone.pending.map (OpenGroup.rename naming.names)
  captures : behind.captures = front.captures + alone.captures
  ordinals : behind.ordinals = front.ordinals + alone.ordinals
  groups :
    Extends front.groups alone.groups naming.key (front.captures + ·)
      behind.groups
  named : Extends front.named alone.named naming.names id behind.named
  counts : Counts alone
  knownOpen :
    ∀ group ∈ alone.pending, ∀ name, group.name = some name → naming.Known name
  knownKeys : ∀ key ∈ alone.groups.keys, naming.KnownKey key
  knownSources : ∀ name ∈ alone.named.keys, naming.Known name

/-- One text is another one with its header and its reference under other names,
in whatever spelling. -/
structure Respells (naming : Naming front) (text other : Text) : Prop where
  capturing : isCapturing other = isCapturing text
  header : header? other = (header? text).map (Prod.map naming.names id)
  reference :
    reference? (afterHeader other) =
      (reference? (afterHeader text)).map naming.names
  /-- Only a reference is written differently behind the header. -/
  kept :
    reference? (afterHeader text) = none → afterHeader other = afterHeader text
  knownHeader : ∀ name, headerName? text = some name → naming.Known name
  knownReference :
    ∀ name, reference? (afterHeader text) = some name → naming.Known name

namespace Respells

variable {naming : Naming front} {text other : Text}

theorem eq_of_not_capturing (respells : Respells naming text other)
    (kind : isCapturing text = false) : other = text := by
  have unnamed := header?_eq_none kind
  have unnamedOther : header? other = none := by simp [respells.header, unnamed]
  have unreferring : reference? text = none := by
    cases found : reference? text with
    | none => rfl
    | some name => simp [isCapturing_of_reference found] at kind
  simpa [afterHeader, unnamed, unnamedOther, unreferring] using respells.kept

theorem bodyOf_eq (respells : Respells naming text other)
    (unreferring : reference? (afterHeader text) = none) (closes : Bool) :
    Fragment.bodyOf other closes = Fragment.bodyOf text closes := by
  have same := respells.kept unreferring
  cases found : header? text with
  | none =>
      simpa [Fragment.bodyOf, afterHeader, respells.header, found] using same
  | some header => simp [Fragment.bodyOf, respells.header, found]

end Respells

end Tracker

namespace Fragment

/-- The relation between two texts that may stand behind an opening parenthesis.
Elsewhere they are the same. -/
def relatedBehind (related : Text → Text → Prop) (opened : Bool)
    (text other : Text) : Prop :=
  if opened then related text other else text = other

/-- Fragments with the same parentheses and the same texts, but for those behind
the opening parentheses, which are related.  `opened` tells whether the first
text is one of them. -/
inductive Alongside (related : Text → Text → Prop) :
    Bool → List Fragment → List Fragment → Prop where
  | last {opened : Bool} {text other : Text} :
      relatedBehind related opened text other →
      Alongside related opened [.plain text] [.plain other]
  | opening {opened : Bool} {text other : Text}
        {fragments others : List Fragment} :
      relatedBehind related opened text other →
        Alongside related true fragments others →
        Alongside related opened (.plain text :: .opening :: fragments)
          (.plain other :: .opening :: others)
  | closing {opened : Bool} {text other : Text}
        {fragments others : List Fragment} :
      relatedBehind related opened text other →
        Alongside related false fragments others →
        Alongside related opened (.plain text :: .closing :: fragments)
          (.plain other :: .closing :: others)

namespace Alongside

variable {related further : Text → Text → Prop}

theorem imp {opened : Bool} {fragments others : List Fragment}
    (alongside : Alongside related opened fragments others)
    (implies : ∀ text ∈ openedTexts (behind opened fragments),
      ∀ other, related text other → further text other) :
    Alongside further opened fragments others := by
  have first :
      ∀ {opened : Bool} {text other : Text} {fragments : List Fragment},
        (∀ member ∈ openedTexts (behind opened (.plain text :: fragments)),
          ∀ other, related member other → further member other) →
          relatedBehind related opened text other →
          relatedBehind further opened text other := by
    intro opened text other fragments implies holds
    cases opened with
    | false => exact holds
    | true => exact implies text (mem_openedTexts_behind rfl _ _) other holds
  induction alongside with
  | last holds => exact .last (first implies holds)
  | opening holds _ induction =>
      have inner := implies
      rw [openedTexts_behind_opening, List.forall_mem_append] at inner
      exact .opening (first implies holds) (induction inner.2)
  | closing holds _ induction =>
      have inner := implies
      rw [openedTexts_behind_closing, List.forall_mem_append] at inner
      exact .closing (first implies holds) (induction inner.2)

theorem refl {fragments : List Fragment} (cut : Cut fragments) (opened : Bool) :
    Alongside (· = ·) opened fragments fragments := by
  have first : ∀ opened text, relatedBehind (· = ·) opened text text := by
    simp [relatedBehind]
  induction cut generalizing opened with
  | last _ => exact .last (first _ _)
  | opening _ _ _ induction => exact .opening (first _ _) (induction true)
  | closing _ _ _ induction => exact .closing (first _ _) (induction false)

end Alongside

end Fragment

namespace Tracker

open Fragment OrderedMap

namespace Follows

variable {naming : Naming front} {alone behind : Tracker} {text other : Text}

theorem start (naming : Naming front) : Follows naming start front where
  base := by simp [Tracker.start]
  pending := by simp [Tracker.start, naming.closed]
  captures := rfl
  ordinals := rfl
  groups := by
    simp [Extends, Tracker.start, EmptyCollection.emptyCollection,
      OrderedMap.empty]
  named := by
    simp [Extends, Tracker.start, EmptyCollection.emptyCollection,
      OrderedMap.empty]
  counts := counts_start
  knownOpen := by simp [Tracker.start]
  knownKeys := by intro key member; cases member
  knownSources := by intro name member; cases member

theorem emit (follows : Follows naming alone behind) (text : Text) :
    Follows naming (alone.emit text) (behind.emit text) := by
  obtain ⟨base, pending, captures, ordinals, groups, named, counts, knownOpen,
    knownKeys, knownSources⟩ := follows
  cases stack : alone.pending with
  | nil =>
      simp only [stack, List.map_nil] at pending
      simp only [Tracker.emit, pending, stack]
      exact ⟨by simp [base], rfl, captures, ordinals, groups, named,
        counts.of_same rfl rfl rfl, by simp, knownKeys, knownSources⟩
  | cons group outer =>
      simp only [stack, List.map_cons] at pending
      simp only [stack, List.forall_mem_cons] at knownOpen
      simp only [Tracker.emit, pending, stack]
      exact ⟨base, by simp [OpenGroup.rename], captures, ordinals, groups,
        named, counts.of_same rfl rfl rfl, by simpa using knownOpen, knownKeys,
        knownSources⟩

theorem openGroup (follows : Follows naming alone behind) :
    Follows naming alone.openGroup behind.openGroup :=
  { follows with
    pending := by simp [Tracker.openGroup, OpenGroup.rename, follows.pending]
    counts := follows.counts.of_same rfl rfl rfl
    knownOpen := List.forall_mem_cons.mpr ⟨by simp, follows.knownOpen⟩ }

theorem keys_apart (follows : Follows naming alone behind) {key : GroupKey}
    (known : naming.KnownKey key) :
    ∀ other ∈ alone.groups.keys,
      naming.key key = naming.key other → key = other :=
  fun other member =>
    naming.key_injective known (follows.knownKeys other member)

theorem names_apart (follows : Follows naming alone behind) {name : Text}
    (known : naming.Known name) :
    ∀ other ∈ alone.named.keys,
      naming.names name = naming.names other → name = other :=
  fun other member => naming.injective known (follows.knownSources other member)

theorem get?_named (follows : Follows naming alone behind) {name : Text}
    (known : naming.Known name) :
    behind.named.get? (naming.names name) = alone.named.get? name := by
  rw [follows.named.get? (naming.unrecorded known) (follows.names_apart known)]
  simp

theorem hasName (follows : Follows naming alone behind) {name : Text}
    (known : naming.Known name) :
    behind.groups.hasName (naming.names name) = alone.groups.hasName name := by
  have knownKey := naming.knownKey_name known
  have value :=
    follows.groups.get? (naming.key_notMem knownKey)
      (follows.keys_apart knownKey)
  change behind.groups.get? (.name (naming.names name)) = _ at value
  simp [GroupIndex.hasName, GroupIndex.named?, value]

/-- A group that closes is recorded in both passes, or in neither of them. -/
theorem named_record (follows : Follows naming alone behind) {group : OpenGroup}
    (known : ∀ name, group.name = some name → naming.Known name) :
    Extends front.named (record alone.named group) naming.names id
      (record behind.named (group.rename naming.names)) := by
  cases named : group.name with
  | none => simpa [record, OpenGroup.rename, named] using follows.named
  | some name =>
      have known := known name named
      have same :
          behind.named.contains (naming.names name) =
            alone.named.contains name := by
        rw [OrderedMap.contains, OrderedMap.contains, follows.get?_named known]
      simp only [record, OpenGroup.rename, named, Option.map_some, same]
      split
      · exact follows.named
      · rename_i unknown
        have absent : name ∉ alone.named.keys := by rwa [← isSome_get?_iff]
        exact follows.named.insert (naming.unrecorded known)
          (follows.names_apart known) absent _

theorem closeGroup (follows : Follows naming alone behind) :
    Follows naming alone.closeGroup behind.closeGroup := by
  have pending := follows.pending
  have copied := follows.emit [')']
  cases stack : alone.pending with
  | nil =>
      simp only [stack, List.map_nil] at pending
      simpa [Tracker.closeGroup, stack, pending] using copied
  | cons group outer =>
      have knownOpen := follows.knownOpen
      simp only [stack, List.map_cons, List.forall_mem_cons]
        at pending knownOpen
      have left : Follows naming
          { alone with pending := outer, named := record alone.named group }
          { behind with
            pending := outer.map (OpenGroup.rename naming.names)
            named := record behind.named (group.rename naming.names) } :=
        { follows with
          pending := rfl
          named := follows.named_record knownOpen.1
          counts := follows.counts.of_same rfl rfl rfl
          knownOpen := knownOpen.2
          knownSources := by
            intro name member
            obtain ⟨entry, recorded, rfl⟩ := List.mem_map.mp member
            obtain old | ⟨named, -⟩ := mem_entries_record recorded
            · exact follows.knownSources entry.1 (List.mem_map_of_mem old)
            · exact knownOpen.1 entry.1 named }
      simp only [Tracker.closeGroup, stack, pending]
      exact left.emit _

theorem knownKeys_insert (follows : Follows naming alone behind)
    {key : GroupKey} (known : naming.KnownKey key) (number : Nat) :
    ∀ other ∈ (alone.groups.insert key number).keys, naming.KnownKey other := by
  intro other member
  obtain rfl | old := (mem_keys_insert_iff _ _ _ _).mp member
  · exact known
  · exact follows.knownKeys other old

theorem groups_insert (follows : Follows naming alone behind) {key : GroupKey}
    (absent : key ∉ alone.groups.keys) (known : naming.KnownKey key) :
    Extends front.groups (alone.groups.insert key (alone.captures + 1))
      naming.key (front.captures + ·)
      (behind.groups.insert (naming.key key) (behind.captures + 1)) := by
  have further :=
    follows.groups.insert (naming.key_notMem known) (follows.keys_apart known)
      absent (alone.captures + 1)
  rwa [follows.captures, Nat.add_assoc]

theorem addOrdinal (follows : Follows naming alone behind) :
    Follows naming alone.addOrdinal behind.addOrdinal := by
  have known := naming.knownKey_ordinal alone.ordinals
  have key :
      naming.key (.ordinal alone.ordinals) = .ordinal behind.ordinals := by
    rw [follows.ordinals]
    rfl
  exact { follows with
    captures := by simp [Tracker.addOrdinal, follows.captures, Nat.add_assoc]
    ordinals := by simp [Tracker.addOrdinal, follows.ordinals, Nat.add_assoc]
    groups := by
      rw [Tracker.addOrdinal, Tracker.addOrdinal, ← key]
      exact follows.groups_insert follows.counts.ordinal_notMem known
    counts := follows.counts.addOrdinal
    knownKeys := follows.knownKeys_insert known _ }

theorem addName (follows : Follows naming alone behind) {name : Text}
    (known : naming.Known name)
    (free : GroupKey.name name ∉ alone.groups.keys) :
    Follows naming (alone.addName name)
      (behind.addName (naming.names name)) where
  base := follows.base
  pending := by
    simp only [Tracker.addName, follows.pending]
    cases alone.pending <;> simp [OpenGroup.rename]
  captures := by simp [Tracker.addName, follows.captures, Nat.add_assoc]
  ordinals := follows.ordinals
  groups := follows.groups_insert free (naming.knownKey_name known)
  named := follows.named
  counts := follows.counts.addName free
  knownOpen := by
    have knownOpen := follows.knownOpen
    simp only [Tracker.addName]
    cases stack : alone.pending with
    | nil => simp
    | cons group outer =>
        simp only [stack, List.forall_mem_cons] at knownOpen ⊢
        refine ⟨?_, knownOpen.2⟩
        rintro _ ⟨⟩
        exact known
  knownKeys := follows.knownKeys_insert (naming.knownKey_name known) _
  knownSources := follows.knownSources

theorem entered (follows : Follows naming alone behind) (opened : Bool)
    (respells : relatedBehind (Respells naming) opened text other)
    (closes : Bool) :
    Follows naming (alone.entered opened text closes)
      (behind.entered opened other closes) := by
  cases opened with
  | false => exact follows
  | true =>
      have respells : Respells naming text other := respells
      simp only
        [Tracker.entered, enterCapture, respells.capturing, respells.header]
      split
      · cases found : header? text with
        | none => exact follows.addOrdinal
        | some header =>
            obtain ⟨name, rest⟩ := header
            have known : naming.Known name :=
              respells.knownHeader name (by simp [headerName?, found])
            simp only [Option.map_some, Prod.map_apply, follows.hasName known]
            split
            · exact follows.addOrdinal
            · rename_i unknown
              exact follows.addName known fun member =>
                unknown ((hasName_iff _ _).mpr member)
      · exact follows

theorem written (follows : Follows naming alone behind) (opened : Bool)
    (respells : relatedBehind (Respells naming) opened text other)
    (closes : Bool) :
    behind.written opened other closes = alone.written opened text closes := by
  cases opened with
  | false => exact Eq.symm respells
  | true =>
      have respells : Respells naming text other := respells
      cases kind : isCapturing text with
      | false =>
          simp [Tracker.written, kind, respells.eq_of_not_capturing kind]
      | true =>
          rw [written_of_capturing kind,
            written_of_capturing (respells.capturing.trans kind), resolve,
            resolve, reference?_bodyOf, reference?_bodyOf, respells.reference]
          cases referring : reference? (afterHeader text) with
          | none => exact respells.bodyOf_eq referring closes
          | some name =>
              have known := respells.knownReference name referring
              simp [follows.get?_named known]

theorem read (follows : Follows naming alone behind) (opened : Bool)
    (respells : relatedBehind (Respells naming) opened text other)
    (closes : Bool) :
    Follows naming (alone.read opened text closes)
      (behind.read opened other closes) := by
  rw [read_eq_emit, read_eq_emit, follows.written opened respells closes]
  exact (follows.entered opened respells closes).emit _

/-- The passes stay side by side over fragments that differ in their names
only. -/
theorem run (follows : Follows naming alone behind) {opened : Bool}
    {fragments others : List Fragment}
    (alongside : Alongside (Respells naming) opened fragments others) :
    Follows naming (alone.run opened fragments) (behind.run opened others) := by
  induction alongside generalizing alone behind with
  | last respells =>
      rw [run_last, run_last]
      exact follows.read _ respells _
  | opening respells _ induction =>
      rw [run_opening, run_opening]
      exact induction (follows.read _ respells _).openGroup
  | closing respells _ induction =>
      rw [run_closing, run_closing]
      exact induction (follows.read _ respells _).closeGroup

theorem output (follows : Follows naming alone behind) :
    behind.output = front.output ++ alone.output := by
  simp [Tracker.output, follows.base, follows.pending, naming.closed,
    OpenGroup.rename, ← List.map_reverse, List.flatMap_map]

end Follows

end Tracker

end NamedGroups
