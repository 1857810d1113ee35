import NamedGroups.Proofs.Json.Objects

/-!
# Reading JSON back

What is written of a value is a JSON text: a reader that goes through it from
left to right finds the value again.  The reader knows all escapes of one
letter, and code points of four hexadecimal digits that are characters of their
own.  It takes no blanks, and no numbers but natural ones.
-/

namespace NamedGroups.Json

/-- Whether the texts of a writer can be read back.  Only normal values are
asked for. -/
def ReadsBack (read : Text → Option Json) (write : Json → Text) : Prop :=
  ∀ json, json.IsNormal → read (write json) = some json

section Reader

def unescape? : Char → Option Char
  | '"' => some '"'
  | '\\' => some '\\'
  | '/' => some '/'
  | 'b' => some '\x08'
  | 'f' => some '\x0c'
  | 'n' => some '\n'
  | 'r' => some '\r'
  | 't' => some '\t'
  | _ => none

def hexDigit? (digit : Char) : Option Nat :=
  if digit.isDigit then some (digit.toNat - '0'.toNat)
  else if 'a' ≤ digit ∧ digit ≤ 'f' then some (digit.toNat - 'a'.toNat + 10)
  else if 'A' ≤ digit ∧ digit ≤ 'F' then some (digit.toNat - 'A'.toNat + 10)
  else none

/-- The character whose code point four digits give. -/
def codePoint? : Text → Option Char
  | [a, b, c, d] => do
      let code := (((← hexDigit? a) * 16 + (← hexDigit? b)) * 16 +
        (← hexDigit? c)) * 16 + (← hexDigit? d)
      if code.isValidChar then some (Char.ofNat code) else none
  | _ => none

def prepend (character : Option Char) (string : Option (Text × Text)) :
    Option (Text × Text) := do
  let (content, rest) ← string
  return ((← character) :: content, rest)

/-- The content of a string behind its opening quote, and what follows it. -/
def readString? : Text → Option (Text × Text)
  | [] => none
  | '"' :: rest => some ([], rest)
  | '\\' :: 'u' :: a :: b :: c :: d :: rest =>
      prepend (codePoint? [a, b, c, d]) (readString? rest)
  | '\\' :: letter :: rest => prepend (unescape? letter) (readString? rest)
  | character :: rest =>
      prepend (if character.toNat < 32 then none else some character)
        (readString? rest)

def readName? : Text → Option (Text × Text)
  | '"' :: rest =>
      match readString? rest with
      | some (name, ':' :: rest) => some (name, rest)
      | _ => none
  | _ => none

def readAtom? : Text → Option (Json × Text)
  | '"' :: rest =>
      (readString? rest).map fun (content, rest) => (string content, rest)
  | 'n' :: 'u' :: 'l' :: 'l' :: rest => some (null, rest)
  | 't' :: 'r' :: 'u' :: 'e' :: rest => some (bool true, rest)
  | 'f' :: 'a' :: 'l' :: 's' :: 'e' :: rest => some (bool false, rest)
  | text =>
      (Text.readDecimal? (text.takeWhile Char.isDigit)).map fun value =>
        (number value, text.dropWhile Char.isDigit)

mutual

/-- A value at the start of a text, and what follows it.  The fuel is as much as
the characters of the text. -/
def readValue? : Nat → Text → Option (Json × Text)
  | 0, _ => none
  | fuel + 1, '[' :: rest =>
      if rest.head? = some ']' then some (array [], rest.tail)
      else (readItems? fuel rest).map fun (items, rest) => (array items, rest)
  | fuel + 1, '\x7b' :: rest =>
      if rest.head? = some '\x7d' then some (object [], rest.tail)
      else
        (readFields? fuel rest).map fun (fields, rest) => (object fields, rest)
  | _ + 1, text => readAtom? text

/-- The items of an array up to its closing bracket, of which there is one at
least. -/
def readItems? : Nat → Text → Option (List Json × Text)
  | 0, _ => none
  | fuel + 1, text => do
      let (item, rest) ← readValue? fuel text
      if rest.head? = some ',' then
        let (items, rest) ← readItems? fuel rest.tail
        return (item :: items, rest)
      else if rest.head? = some ']' then return ([item], rest.tail)
      else none

/-- The fields of an object up to its closing brace, of which there is one at
least. -/
def readFields? : Nat → Text → Option (List (Text × Json) × Text)
  | 0, _ => none
  | fuel + 1, text => do
      let (name, rest) ← readName? text
      let (value, rest) ← readValue? fuel rest
      if rest.head? = some ',' then
        let (fields, rest) ← readFields? fuel rest.tail
        return ((name, value) :: fields, rest)
      else if rest.head? = some '\x7d' then return ([(name, value)], rest.tail)
      else none

end

/-- The value of a text that holds nothing else. -/
def read? (text : Text) : Option Json :=
  match readValue? text.length text with
  | some (json, []) => some json
  | _ => none

end Reader

section Strings

private theorem codePoint?_of_lt_32 : ∀ code < 32,
    codePoint? (List.replicate (4 - (Nat.toDigits 16 code).length) '0' ++
      Nat.toDigits 16 code) = some (Char.ofNat code) := by
  decide

private theorem codePoint?_eq_some {digits : Text} {character : Char}
    (read : codePoint? digits = some character) :
    ∃ a b c d, digits = [a, b, c, d] := by
  unfold codePoint? at read
  split at read
  · exact ⟨_, _, _, _, rfl⟩
  · cases read

private theorem readString?_unicodeEscape {character : Char}
    (control : character.toNat < 32) (rest : Text) :
    readString? (unicodeEscape character ++ rest) =
      prepend (some character) (readString? rest) := by
  have read := codePoint?_of_lt_32 _ control
  rw [Char.ofNat_toNat] at read
  obtain ⟨a, b, c, d, digits⟩ := codePoint?_eq_some read
  rw [digits] at read
  simp only [unicodeEscape, List.append_assoc]
  rw [← List.append_assoc (List.replicate _ _), digits]
  simp only [List.cons_append, List.nil_append, readString?, read]

private theorem readString?_bare {character : Char} (noQuote : character ≠ '"')
    (noBackslash : character ≠ '\\') (printable : ¬ character.toNat < 32)
    (rest : Text) :
    readString? (character :: rest) =
      prepend (some character) (readString? rest) := by
  rw [readString?.eq_def]
  split <;> grind

private theorem readString?_escapeCharacter (character : Char) (rest : Text) :
    readString? (escapeCharacter character ++ rest) =
      prepend (some character) (readString? rest) := by
  unfold escapeCharacter
  split
  case h_8 noQuote noBackslash _ _ _ _ _ =>
    split
    · rename_i control
      exact readString?_unicodeEscape control rest
    · rename_i printable
      exact readString?_bare noQuote noBackslash printable rest
  all_goals simp [readString?, unescape?]

private theorem readString?_flatMap (content rest : Text) :
    readString? (content.flatMap escapeCharacter ++ '"' :: rest) =
      some (content, rest) := by
  induction content with
  | nil => rfl
  | cons character content induction =>
      rw [List.flatMap_cons, List.append_assoc, readString?_escapeCharacter,
        induction]
      rfl

theorem readString?_renderString (content rest : Text) :
    readString? ((renderString content).tail ++ rest) =
      some (content, rest) := by
  rw [renderString, List.cons_append, List.tail_cons, List.append_assoc]
  exact readString?_flatMap content rest

end Strings

section Values

def EndsNumber (rest : Text) : Prop :=
  ∀ digit ∈ rest.head?, digit.isDigit = false

theorem endsNumber_cons {character : Char} (other : character.isDigit = false)
    (rest : Text) : EndsNumber (character :: rest) := by
  rintro digit ⟨⟩
  exact other

private theorem decimal_eq_cons (value : Nat) :
    ∃ first others, Text.decimal value = first :: others ∧
      first.isDigit = true := by
  have digits := Text.all_isDigit_decimal value
  obtain ⟨first, others, cons⟩ :=
    List.exists_cons_of_ne_nil (Text.decimal_ne_nil value)
  rw [cons] at digits
  exact ⟨first, others, cons, List.all_eq_true.mp digits first (by simp)⟩

theorem readAtom?_decimal (value : Nat) {rest : Text} (ends : EndsNumber rest) :
    readAtom? (Text.decimal value ++ rest) = some (number value, rest) := by
  have digits := Text.all_isDigit_decimal value
  have stops : rest.takeWhile Char.isDigit = [] ∧
      rest.dropWhile Char.isDigit = rest := by
    cases rest with
    | nil => exact ⟨rfl, rfl⟩
    | cons digit rest =>
        have here := ends digit rfl
        simp [here]
  have read : Text.readDecimal? (Text.decimal value) = some value := by
    rw [Text.readDecimal?, if_pos ⟨Text.decimal_ne_nil value, digits⟩,
      Text.ofDigitChars_decimal]
  obtain ⟨first, others, cons, isDigit⟩ := decimal_eq_cons value
  unfold readAtom?
  split
  case h_5 =>
    rw [List.takeWhile_append_of_pos (List.all_eq_true.mp digits),
      List.dropWhile_append_of_pos (List.all_eq_true.mp digits), stops.1,
      stops.2, List.append_nil, read]
    rfl
  all_goals
    rename_i same
    rw [cons, List.cons_append] at same
    obtain ⟨rfl, -⟩ := List.cons_eq_cons.mp same
    exact absurd isDigit (by decide)

private theorem readValue?_eq_readAtom? {text : Text}
    (noArray : text.head? ≠ some '[') (noObject : text.head? ≠ some '\x7b')
    (fuel : Nat) : readValue? (fuel + 1) text = readAtom? text := by
  rw [readValue?.eq_def]
  split <;> grind

private theorem render_eq_cons (json : Json) :
    ∃ first others, json.render = first :: others ∧ first ≠ ']' := by
  cases json with
  | null => exact ⟨_, _, rfl, by decide⟩
  | bool value => cases value <;> exact ⟨_, _, rfl, by decide⟩
  | number value =>
      obtain ⟨first, others, cons, isDigit⟩ := decimal_eq_cons value
      refine ⟨first, others, cons, ?_⟩
      rintro rfl
      exact absurd isDigit (by decide)
  | string content => exact ⟨_, _, rfl, by decide⟩
  | array items => exact ⟨_, _, rfl, by decide⟩
  | object fields => exact ⟨_, _, rfl, by decide⟩

private theorem renderItems_cons_cons (item next : Json) (items : List Json) :
    renderItems (item :: next :: items) =
      item.render ++ ',' :: renderItems (next :: items) := rfl

private theorem renderFields_cons_cons (name : Text) (value : Json)
    (next : Text × Json) (fields : List (Text × Json)) :
    renderFields ((name, value) :: next :: fields) =
      renderString name ++
        ':' :: (value.render ++ ',' :: renderFields (next :: fields)) := by
  simp [renderFields]

private theorem head?_renderItems (item : Json) (items : List Json)
    (rest : Text) :
    (renderItems (item :: items) ++ rest).head? ≠ some ']' := by
  obtain ⟨first, others, cons, opens⟩ := render_eq_cons item
  cases items with
  | nil => simpa [renderItems, cons] using opens
  | cons next items => simpa [renderItems, cons] using opens

private theorem head?_renderFields (field : Text × Json)
    (fields : List (Text × Json)) (rest : Text) :
    (renderFields (field :: fields) ++ rest).head? ≠ some '\x7d' := by
  cases fields with
  | nil => simp [renderFields, renderString]
  | cons next fields => simp [renderFields, renderString]

private theorem readName?_renderString (name rest : Text) :
    readName? (renderString name ++ ':' :: rest) = some (name, rest) := by
  have read := readString?_renderString name (':' :: rest)
  rw [renderString, List.cons_append, List.tail_cons] at read
  rw [renderString, List.cons_append, List.cons_append, readName?, read]
  rfl

end Values

mutual

/-- A value that is written at the start of a text is read from there. -/
theorem readValue?_render : ∀ (json : Json) (fuel : Nat) (rest : Text),
    json.render.length ≤ fuel → EndsNumber rest →
      readValue? fuel (json.render ++ rest) = some (json, rest)
  | json, 0, _, enough, _ => by
      obtain ⟨first, others, cons, -⟩ := render_eq_cons json
      rw [cons] at enough
      simp at enough
  | null, fuel + 1, rest, _, _ => by
      rw [readValue?_eq_readAtom? (by simp [render]) (by simp [render])]
      rfl
  | bool true, fuel + 1, rest, _, _ => by
      rw [readValue?_eq_readAtom? (by simp [render]) (by simp [render])]
      rfl
  | bool false, fuel + 1, rest, _, _ => by
      rw [readValue?_eq_readAtom? (by simp [render]) (by simp [render])]
      rfl
  | number value, fuel + 1, rest, _, ends => by
      obtain ⟨first, others, cons, isDigit⟩ := decimal_eq_cons value
      rw [render, readValue?_eq_readAtom?, readAtom?_decimal value ends]
      · rw [cons]
        rintro ⟨⟩
        exact absurd isDigit (by decide)
      · rw [cons]
        rintro ⟨⟩
        exact absurd isDigit (by decide)
  | string content, fuel + 1, rest, _, _ => by
      have read := readString?_renderString content rest
      rw [renderString, List.cons_append, List.tail_cons] at read
      rw [render, readValue?_eq_readAtom? (by simp [renderString])
        (by simp [renderString]), renderString, List.cons_append,
        List.cons_append, readAtom?, read]
      rfl
  | array [], _ + 1, rest, _, _ => rfl
  | array (item :: items), fuel + 1, rest, enough, _ => by
      have read := readItems?_render item items fuel rest
        (by simpa [render] using enough)
      have filled := head?_renderItems item items (']' :: rest)
      rw [render, List.cons_append, List.cons_append, List.append_assoc,
        List.singleton_append, readValue?, if_neg filled, read]
      rfl
  | object [], _ + 1, rest, _, _ => rfl
  | object (field :: fields), fuel + 1, rest, enough, _ => by
      have read := readFields?_render field fields fuel rest
        (by simpa [render] using enough)
      have filled := head?_renderFields field fields ('\x7d' :: rest)
      rw [render, List.cons_append, List.cons_append, List.append_assoc,
        List.singleton_append, readValue?, if_neg filled, read]
      rfl

theorem readItems?_render : ∀ (item : Json) (items : List Json) (fuel : Nat)
    (rest : Text), (renderItems (item :: items)).length + 1 ≤ fuel →
      readItems? fuel (renderItems (item :: items) ++ ']' :: rest) =
        some (item :: items, rest)
  | _, _, 0, _, enough => absurd enough (by simp)
  | item, [], fuel + 1, rest, enough => by
      have read := readValue?_render item fuel (']' :: rest)
        (by simpa [renderItems] using enough)
        (endsNumber_cons (by decide) rest)
      rw [renderItems, readItems?, read]
      rfl
  | item, next :: items, fuel + 1, rest, enough => by
      simp only [renderItems, List.length_append, List.length_cons] at enough
      have read := readValue?_render item fuel
        (',' :: (renderItems (next :: items) ++ ']' :: rest)) (by omega)
        (endsNumber_cons (by decide) _)
      have readOthers := readItems?_render next items fuel rest (by omega)
      rw [renderItems_cons_cons, List.append_assoc, List.cons_append,
        readItems?, read]
      simp [readOthers]

theorem readFields?_render : ∀ (field : Text × Json)
    (fields : List (Text × Json)) (fuel : Nat) (rest : Text),
    (renderFields (field :: fields)).length + 1 ≤ fuel →
      readFields? fuel (renderFields (field :: fields) ++ '\x7d' :: rest) =
        some (field :: fields, rest)
  | _, _, 0, _, enough => absurd enough (by simp)
  | (name, value), [], fuel + 1, rest, enough => by
      simp only [renderFields, List.length_append, List.length_cons] at enough
      have read := readValue?_render value fuel ('\x7d' :: rest) (by omega)
        (endsNumber_cons (by decide) rest)
      rw [renderFields, List.append_assoc, List.cons_append, readFields?,
        readName?_renderString]
      simp [read]
  | (name, value), next :: fields, fuel + 1, rest, enough => by
      simp only [renderFields, List.length_append, List.length_cons] at enough
      have read := readValue?_render value fuel
        (',' :: (renderFields (next :: fields) ++ '\x7d' :: rest)) (by omega)
        (endsNumber_cons (by decide) _)
      have readOthers := readFields?_render next fields fuel rest (by omega)
      rw [renderFields_cons_cons, List.append_assoc, List.cons_append,
        List.append_assoc, List.cons_append, readFields?,
        readName?_renderString]
      simp [read, readOthers]

end

/-- Whatever is written is read back. -/
theorem read?_render (json : Json) : read? json.render = some json := by
  have read := readValue?_render json json.render.length [] (Nat.le_refl _)
    (by rintro digit ⟨⟩)
  rw [List.append_nil] at read
  rw [read?, read]

theorem readsBack_render : ReadsBack read? render :=
  fun json _ => json.read?_render

end NamedGroups.Json
