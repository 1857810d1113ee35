import Mathlib.Data.Char
import Mathlib.Data.List.Lex
import Mathlib.Data.List.Nodup
import NamedGroups.Json

/-!
# Members of objects

A JSON object has at most one member of each name.  Fields that are put in order
make such an object, and where their names differ, none of them is lost.
-/

namespace NamedGroups.Json

/-- The value of a member of an object. -/
def member? : Json → Text → Option Json
  | object members, name => members.lookup name
  | _, _ => none

/-- Whether the members of every object are in the order of their names, and no
name is there twice. -/
inductive IsNormal : Json → Prop where
  | null : IsNormal null
  | bool (value : Bool) : IsNormal (bool value)
  | number (value : Nat) : IsNormal (number value)
  | string (content : Text) : IsNormal (string content)
  | array {items : List Json} : (∀ item ∈ items, IsNormal item) →
      IsNormal (array items)
  | object {members : List (Text × Json)} :
      members.Pairwise (fun first second => first.1 < second.1) →
      (∀ member ∈ members, IsNormal member.2) → IsNormal (object members)

theorem isNormal_ofText? (content : Option Text) :
    (ofText? content).IsNormal := by
  cases content with
  | none => exact .null
  | some content => exact .string content

theorem mem_setField {name : Text} {value : Json}
    {fields : List (Text × Json)} {field : Text × Json}
    (member : field ∈ setField name value fields) :
    field = (name, value) ∨ field ∈ fields := by
  induction fields with
  | nil => simpa [setField] using member
  | cons first fields induction =>
      rw [setField] at member
      split at member
      · simpa using member
      · split at member
        · rw [List.mem_cons] at member
          exact member.imp_right (List.mem_cons_of_mem _)
        · rw [List.mem_cons] at member ⊢
          tauto

private theorem pairwise_setField (name : Text) (value : Json)
    {fields : List (Text × Json)}
    (ordered : fields.Pairwise fun first second => first.1 < second.1) :
    (setField name value fields).Pairwise
      fun first second => first.1 < second.1 := by
  induction fields with
  | nil => simp [setField]
  | cons first fields induction =>
      obtain ⟨above, later⟩ := List.pairwise_cons.mp ordered
      rw [setField]
      split
      · rename_i below
        refine List.pairwise_cons.mpr ⟨fun field member => ?_, ordered⟩
        rw [List.mem_cons] at member
        obtain rfl | member := member
        · exact below
        · exact lt_trans below (above field member)
      · rename_i notBelow
        split
        · rename_i same
          subst same
          exact List.pairwise_cons.mpr ⟨above, later⟩
        · rename_i different
          refine List.pairwise_cons.mpr
            ⟨fun field member => ?_, induction later⟩
          obtain rfl | member := mem_setField member
          · rcases lt_trichotomy name first.1 with below | same | behind
            · exact absurd below notBelow
            · exact absurd same different
            · exact behind
          · exact above field member

/-- An object whose fields have been put in order is normal. -/
theorem isNormal_sorted {fields : List (Text × Json)}
    (normal : ∀ field ∈ fields, field.2.IsNormal) :
    (sorted fields).IsNormal := by
  suffices kept : ∀ ordered : List (Text × Json), (object ordered).IsNormal →
      (object (fields.foldl
        (fun ordered field => setField field.1 field.2 ordered)
        ordered)).IsNormal from
    kept [] (.object .nil (by simp))
  induction fields with
  | nil => exact fun ordered isNormal => isNormal
  | cons field fields induction =>
      rw [List.forall_mem_cons] at normal
      intro ordered isNormal
      obtain _ | _ | _ | _ | _ | ⟨pairwise, values⟩ := isNormal
      refine induction normal.2 _
        (.object (pairwise_setField _ _ pairwise) fun member isMember => ?_)
      obtain rfl | isOld := mem_setField isMember
      · exact normal.1
      · exact values member isOld

/-- A new name takes the place of no other one. -/
theorem setField_perm {name : Text} (value : Json)
    {fields : List (Text × Json)} (absent : name ∉ fields.map Prod.fst) :
    (setField name value fields).Perm ((name, value) :: fields) := by
  induction fields with
  | nil => exact .refl _
  | cons field fields induction =>
      rw [List.map_cons, List.mem_cons, not_or] at absent
      rw [setField, if_neg absent.1]
      split
      · exact .refl _
      · exact ((induction absent.2).cons field).trans (.swap _ _ _)

private theorem foldl_setField_perm {ordered fields : List (Text × Json)}
    (distinct : ((ordered ++ fields).map Prod.fst).Nodup) :
    (fields.foldl (fun ordered field => setField field.1 field.2 ordered)
      ordered).Perm (ordered ++ fields) := by
  induction fields generalizing ordered with
  | nil => simp
  | cons field fields induction =>
      have moved :
          (ordered ++ field :: fields).Perm (field :: ordered ++ fields) :=
        List.perm_middle
      have apart := (moved.map Prod.fst).nodup distinct
      have absent : field.1 ∉ ordered.map Prod.fst := by
        rw [List.cons_append, List.map_cons, List.nodup_cons, List.map_append,
          List.mem_append, not_or] at apart
        exact apart.1.1
      have added := (setField_perm field.2 absent).append_right fields
      rw [List.foldl_cons]
      exact (induction ((added.map Prod.fst).symm.nodup apart)).trans
        (added.trans moved.symm)

theorem exists_sorted {fields : List (Text × Json)}
    (distinct : (fields.map Prod.fst).Nodup) :
    ∃ members, sorted fields = object members ∧ members.Perm fields :=
  ⟨_, rfl, foldl_setField_perm distinct⟩

theorem lookup_of_mem {members : List (Text × Json)}
    (distinct : (members.map Prod.fst).Nodup) {name : Text} {value : Json}
    (member : (name, value) ∈ members) : members.lookup name = some value := by
  obtain ⟨front, back, rfl⟩ := List.append_of_mem member
  refine List.lookup_eq_some_iff.mpr ⟨front, back, rfl, fun other inFront => ?_⟩
  rw [List.map_append, List.map_cons] at distinct
  have apart := List.nodup_middle.mp distinct
  rw [List.nodup_cons, List.mem_append, not_or] at apart
  rw [bne_iff_ne]
  rintro rfl
  exact apart.1.1 (List.mem_map.mpr ⟨other, inFront, rfl⟩)

end NamedGroups.Json
