/-!
# Texts and byte offsets

A text is a list of characters.  A place in a text is named by its byte offset:
the number of bytes that the UTF-8 encoding of the characters before it takes.
Offsets that lie between two characters are boundaries, and a slice between two
boundaries is made of whole characters.

The operations are total.  At an offset inside a character they go on to the end
of that character, and past the end of the text they stop there.
-/

namespace NamedGroups

/-- A sequence of Unicode characters. -/
abbrev Text := List Char

namespace Text

/-- The number of bytes of the UTF-8 encoding. -/
def byteSize : Text → Nat
  | [] => 0
  | character :: rest => character.utf8Size + byteSize rest

/-- What follows the first `count` bytes. -/
def dropBytes : Text → Nat → Text
  | [], _ => []
  | character :: rest, 0 => character :: rest
  | character :: rest, count + 1 =>
      dropBytes rest (count + 1 - character.utf8Size)

/-- The first `count` bytes. -/
def takeBytes : Text → Nat → Text
  | [], _ => []
  | _ :: _, 0 => []
  | character :: rest, count + 1 =>
      character :: takeBytes rest (count + 1 - character.utf8Size)

def slice (text : Text) (start stop : Nat) : Text :=
  takeBytes (dropBytes text start) (stop - start)

/-- An offset is a boundary when it does not fall inside a character. -/
def Boundary (text : Text) (offset : Nat) : Prop :=
  ∃ before after : Text, before ++ after = text ∧ byteSize before = offset

/-- The offset after the character at `offset`.  Behind the last character the
count goes on by one, so the result always lies beyond `offset`. -/
def nextOffset (text : Text) (offset : Nat) : Nat :=
  match dropBytes text offset with
  | [] => offset + 1
  | character :: _ => offset + character.utf8Size

@[simp] theorem dropBytes_zero (text : Text) : dropBytes text 0 = text := by
  cases text <;> rfl

@[simp] theorem takeBytes_zero (text : Text) : takeBytes text 0 = [] := by
  cases text <;> rfl

@[simp] theorem dropBytes_nil (count : Nat) : dropBytes [] count = [] := by
  cases count <;> rfl

@[simp] theorem takeBytes_nil (count : Nat) : takeBytes [] count = [] := by
  cases count <;> rfl

@[simp] theorem byteSize_nil : byteSize [] = 0 := rfl

@[simp] theorem byteSize_cons (character : Char) (rest : Text) :
    byteSize (character :: rest) = character.utf8Size + byteSize rest := rfl

@[simp] theorem byteSize_append (left right : Text) :
    byteSize (left ++ right) = byteSize left + byteSize right := by
  induction left with
  | nil => simp
  | cons character rest ih => simp [ih, Nat.add_assoc]

theorem dropBytes_append (before after : Text) :
    dropBytes (before ++ after) (byteSize before) = after := by
  induction before with
  | nil => simp
  | cons character rest ih =>
      obtain ⟨count, size⟩ : ∃ count, character.utf8Size = count + 1 :=
        ⟨character.utf8Size - 1, by have := character.utf8Size_pos; omega⟩
      have total :
          byteSize (character :: rest) = (count + byteSize rest) + 1 := by
        simp [size]; omega
      rw [total, List.cons_append, dropBytes]
      rw [show count + byteSize rest + 1 - character.utf8Size =
        byteSize rest by omega]
      exact ih

theorem takeBytes_append (before after : Text) :
    takeBytes (before ++ after) (byteSize before) = before := by
  induction before with
  | nil => simp
  | cons character rest ih =>
      obtain ⟨count, size⟩ : ∃ count, character.utf8Size = count + 1 :=
        ⟨character.utf8Size - 1, by have := character.utf8Size_pos; omega⟩
      have total :
          byteSize (character :: rest) = (count + byteSize rest) + 1 := by
        simp [size]; omega
      rw [total, List.cons_append, takeBytes]
      rw [show count + byteSize rest + 1 - character.utf8Size =
        byteSize rest by omega]
      rw [ih]

theorem slice_append (before middle after : Text) :
    slice (before ++ middle ++ after) (byteSize before)
        (byteSize before + byteSize middle) = middle := by
  rw [slice, List.append_assoc, dropBytes_append, Nat.add_sub_cancel_left,
    takeBytes_append]

theorem lt_nextOffset (text : Text) (offset : Nat) :
    offset < nextOffset text offset := by
  unfold nextOffset
  split
  · omega
  · have := Char.utf8Size_pos ‹Char›
    omega

end Text

end NamedGroups
