import NamedGroups.Text

/-!
# Boundaries between characters

Two boundaries cut a text into whole characters, so the slices of a text that
follow one another from boundary to boundary make up the text again.  The next
offset leads from a boundary to the next one, or behind the end of the text.
-/

namespace NamedGroups.Text

private theorem takeBytes_append_dropBytes (text : Text) (count : Nat) :
    takeBytes text count ++ dropBytes text count = text := by
  fun_induction takeBytes text count <;> simp_all [dropBytes]

@[simp] theorem dropBytes_byteSize (text : Text) :
    text.dropBytes text.byteSize = [] := by
  simpa using dropBytes_append text []

theorem nextOffset_byteSize (text : Text) :
    text.nextOffset text.byteSize = text.byteSize + 1 := by
  rw [nextOffset, dropBytes_byteSize]

private theorem boundary_iff (text : Text) (offset : Nat) :
    text.Boundary offset ↔ (text.takeBytes offset).byteSize = offset := by
  constructor
  · rintro ⟨before, after, rfl, rfl⟩
    rw [takeBytes_append]
  · exact fun size => ⟨_, _, takeBytes_append_dropBytes text offset, size⟩

instance (text : Text) (offset : Nat) : Decidable (text.Boundary offset) :=
  decidable_of_iff _ (boundary_iff text offset).symm

namespace Boundary

variable {text : Text} {start stop : Nat}

theorem zero (text : Text) : text.Boundary 0 := ⟨[], text, rfl, rfl⟩

theorem whole (text : Text) : text.Boundary text.byteSize :=
  ⟨text, [], by simp, rfl⟩

theorem le_byteSize (inside : text.Boundary start) : start ≤ text.byteSize := by
  obtain ⟨before, after, rfl, rfl⟩ := inside
  simp

/-- Two boundaries cut a text into three parts. -/
theorem between (first : text.Boundary start) (second : text.Boundary stop)
    (ordered : start ≤ stop) :
    ∃ before middle after : Text, before ++ middle ++ after = text ∧
      byteSize before = start ∧ byteSize before + byteSize middle = stop := by
  obtain ⟨before, after, whole, rfl⟩ := first
  obtain ⟨longer, rest, same, rfl⟩ := second
  rw [← whole] at same
  obtain ⟨middle, rfl, rfl⟩ | ⟨middle, rfl, rfl⟩ :=
    List.append_eq_append_iff.mp same
  · have nothing : middle = [] := by
      cases middle with
      | nil => rfl
      | cons character middle =>
          have positive := character.utf8Size_pos
          simp at ordered
          omega
    subst nothing
    exact ⟨longer, [], after, by simpa using whole, by simp, by simp⟩
  · exact ⟨before, middle, rest, by simpa using whole, rfl, by simp⟩

theorem slice_append_dropBytes (first : text.Boundary start)
    (second : text.Boundary stop) (ordered : start ≤ stop) :
    text.slice start stop ++ text.dropBytes stop = text.dropBytes start := by
  obtain ⟨before, middle, after, rfl, rfl, rfl⟩ := first.between second ordered
  rw [slice_append, ← byteSize_append, dropBytes_append, List.append_assoc,
    dropBytes_append]

theorem slice_byteSize (here : text.Boundary start) :
    text.slice start text.byteSize = text.dropBytes start := by
  simpa using here.slice_append_dropBytes (.whole text) here.le_byteSize

theorem nextOffset (here : text.Boundary start)
    (inside : start < text.byteSize) :
    text.Boundary (text.nextOffset start) := by
  obtain ⟨before, after, rfl, rfl⟩ := here
  cases after with
  | nil => simp at inside
  | cons character after =>
      refine ⟨before ++ [character], after, by simp, ?_⟩
      simp [Text.nextOffset, dropBytes_append]

/-- No boundary lies between an offset and the next one. -/
theorem nextOffset_le (here : text.Boundary start) (later : text.Boundary stop)
    (ahead : start < stop) : text.nextOffset start ≤ stop := by
  obtain ⟨before, middle, after, rfl, rfl, rfl⟩ :=
    here.between later (Nat.le_of_lt ahead)
  cases middle with
  | nil => simp at ahead
  | cons character middle =>
      rw [List.append_assoc, Text.nextOffset, dropBytes_append]
      simp

end Boundary

end NamedGroups.Text
