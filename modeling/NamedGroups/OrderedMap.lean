/-!
# Maps that remember the order of their keys

An ordered map is a list of entries with distinct keys.  A new key goes to the
end; a key that is already there keeps its place and takes the new value.  Two
maps may hold the same entries in different orders: `SameEntries` compares them
without regard to the order.
-/

namespace NamedGroups

/-- A finite map whose entries are in the order in which their keys came. -/
structure OrderedMap (κ β : Type) where
  entries : List (κ × β)
  distinct : (entries.map Prod.fst).Nodup
deriving DecidableEq

namespace OrderedMap

variable {κ β : Type}

def empty : OrderedMap κ β := ⟨[], List.nodup_nil⟩

instance : Inhabited (OrderedMap κ β) := ⟨empty⟩

instance : EmptyCollection (OrderedMap κ β) := ⟨empty⟩

def keys (entryMap : OrderedMap κ β) : List κ := entryMap.entries.map Prod.fst

def size (entryMap : OrderedMap κ β) : Nat := entryMap.entries.length

def isEmpty (entryMap : OrderedMap κ β) : Bool := entryMap.entries.isEmpty

variable [DecidableEq κ]

def get? (entryMap : OrderedMap κ β) (key : κ) : Option β :=
  entryMap.entries.lookup key

def contains (entryMap : OrderedMap κ β) (key : κ) : Bool :=
  (entryMap.get? key).isSome

/-- Sets a key's value in its place, or adds the key at the end. -/
def upsert (key : κ) (value : β) : List (κ × β) → List (κ × β)
  | [] => [(key, value)]
  | entry :: entries =>
      if entry.1 = key then (key, value) :: entries
      else entry :: upsert key value entries

theorem map_fst_upsert (key : κ) (value : β) (entries : List (κ × β)) :
    (upsert key value entries).map Prod.fst =
      if key ∈ entries.map Prod.fst then entries.map Prod.fst
      else entries.map Prod.fst ++ [key] := by
  induction entries with
  | nil => simp [upsert]
  | cons entry entries ih =>
      unfold upsert
      by_cases same : entry.1 = key
      · simp [same]
      · have different : ¬ key = entry.1 := fun equal => same equal.symm
        simp only [same, if_false, List.map_cons, ih, List.mem_cons, different,
          false_or]
        split <;> simp

/-- The map in which `key` has the given value. -/
def insert (entryMap : OrderedMap κ β) (key : κ) (value : β) :
    OrderedMap κ β where
  entries := upsert key value entryMap.entries
  distinct := by
    rw [map_fst_upsert]
    split
    · exact entryMap.distinct
    · rename_i absent
      exact List.nodup_append.mpr
        ⟨entryMap.distinct, by simp, fun left leftMember right rightMember => by
          simp only [List.mem_singleton] at rightMember
          subst rightMember
          exact fun equal => absent (equal ▸ leftMember)⟩

def ofList (pairs : List (κ × β)) : OrderedMap κ β :=
  pairs.foldl (fun entryMap pair => entryMap.insert pair.1 pair.2) empty

/-- Two maps agree when they give every key the same value. -/
def SameEntries (left right : OrderedMap κ β) : Prop :=
  left.size = right.size ∧
    ∀ entry ∈ left.entries, right.get? entry.1 = some entry.2

instance [DecidableEq β] (left right : OrderedMap κ β) :
    Decidable (SameEntries left right) :=
  inferInstanceAs (Decidable (_ ∧ _))

theorem lookup_upsert (key other : κ) (value : β) (entries : List (κ × β)) :
    (upsert key value entries).lookup other =
      if other = key then some value else entries.lookup other := by
  induction entries with
  | nil =>
      by_cases same : other = key
      · simp [upsert, same]
      · simp [upsert, List.lookup_cons, beq_eq_false_iff_ne.mpr same, same]
  | cons entry entries ih =>
      obtain ⟨entryKey, entryValue⟩ := entry
      simp only [upsert]
      by_cases found : entryKey = key
      · subst found
        by_cases same : other = entryKey
        · simp [same]
        · simp [List.lookup_cons, beq_eq_false_iff_ne.mpr same, same]
      · by_cases same : other = entryKey
        · subst same
          simp [found]
        · simp [found, List.lookup_cons, beq_eq_false_iff_ne.mpr same, ih]

theorem isSome_get?_iff (entryMap : OrderedMap κ β) (key : κ) :
    (entryMap.get? key).isSome ↔ key ∈ entryMap.keys := by
  simp [get?, keys, List.lookup_isSome_iff]

theorem value_mem_of_get? {entryMap : OrderedMap κ β} {key : κ} {value : β}
    (found : entryMap.get? key = some value) :
    value ∈ entryMap.entries.map Prod.snd := by
  obtain ⟨front, back, whole, -⟩ := List.lookup_eq_some_iff.mp found
  simp [whole]

private theorem upsert_of_notMem {key : κ} (value : β) {entries : List (κ × β)}
    (absent : key ∉ entries.map Prod.fst) :
    upsert key value entries = entries ++ [(key, value)] := by
  induction entries with
  | nil => rfl
  | cons entry entries ih =>
      simp only [List.map_cons, List.mem_cons, not_or] at absent
      have different : ¬ entry.1 = key := fun equal => absent.1 equal.symm
      simp [upsert, different, ih absent.2]

theorem entries_insert_of_notMem {entryMap : OrderedMap κ β} {key : κ}
    (value : β) (absent : key ∉ entryMap.keys) :
    (entryMap.insert key value).entries = entryMap.entries ++ [(key, value)] :=
  upsert_of_notMem value absent

theorem mem_keys_insert_iff (entryMap : OrderedMap κ β) (key other : κ)
    (value : β) :
    other ∈ (entryMap.insert key value).keys ↔
      other = key ∨ other ∈ entryMap.keys := by
  change other ∈ (upsert key value entryMap.entries).map Prod.fst ↔
    other = key ∨ other ∈ entryMap.entries.map Prod.fst
  rw [map_fst_upsert]
  split
  · rename_i present
    constructor
    · exact .inr
    · rintro (rfl | member)
      · exact present
      · exact member
  · simp [or_comm]

/-- An insertion changes the value of its own key and of no other. -/
theorem get?_insert (entryMap : OrderedMap κ β) (key other : κ) (value : β) :
    (entryMap.insert key value).get? other =
      if other = key then some value else entryMap.get? other :=
  lookup_upsert key other value entryMap.entries

end OrderedMap

end NamedGroups
