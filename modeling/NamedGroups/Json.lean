import NamedGroups.Text.Decimal

/-!
# JSON texts

A JSON value is written without any blanks.  Inside strings, quotes and
backslashes get a backslash, controls are written by a letter or by four
hexadecimal digits, and every other character stands for itself.  The fields of
an object are written in their own order, and `Json.sorted` builds an object
whose fields are in the order of their names.
-/

namespace NamedGroups

/-- A JSON value.  Numbers are natural numbers. -/
inductive Json where
  | null
  | bool (value : Bool)
  | number (value : Nat)
  | string (content : Text)
  | array (items : List Json)
  | object (fields : List (Text × Json))

namespace Json

/-- A control character as four hexadecimal digits. -/
def unicodeEscape (character : Char) : Text :=
  let digits := Nat.toDigits 16 character.toNat
  ['\\', 'u'] ++ List.replicate (4 - digits.length) '0' ++ digits

def escapeCharacter (character : Char) : Text :=
  match character with
  | '"' => ['\\', '"']
  | '\\' => ['\\', '\\']
  | '\x08' => ['\\', 'b']
  | '\x0c' => ['\\', 'f']
  | '\n' => ['\\', 'n']
  | '\r' => ['\\', 'r']
  | '\t' => ['\\', 't']
  | _ => if character.toNat < 32 then unicodeEscape character else [character]

def renderString (content : Text) : Text :=
  '"' :: content.flatMap escapeCharacter ++ ['"']

mutual

def render : Json → Text
  | null => "null".toList
  | bool true => "true".toList
  | bool false => "false".toList
  | number value => Text.decimal value
  | string content => renderString content
  | array items => '[' :: renderItems items ++ [']']
  | object fields => '\x7b' :: renderFields fields ++ ['\x7d']

def renderItems : List Json → Text
  | [] => []
  | [item] => item.render
  | item :: items => item.render ++ ',' :: renderItems items

def renderFields : List (Text × Json) → Text
  | [] => []
  | [(name, value)] => renderString name ++ ':' :: value.render
  | (name, value) :: fields =>
      renderString name ++ ':' :: value.render ++ ',' :: renderFields fields

end

/-- Sets a field in a list that is ordered by name. -/
def setField (name : Text) (value : Json) :
    List (Text × Json) → List (Text × Json)
  | [] => [(name, value)]
  | field :: fields =>
      if name < field.1 then (name, value) :: field :: fields
      else if name = field.1 then (name, value) :: fields
      else field :: setField name value fields

/-- The object in which fields are ordered by name.  Of several values of a
name, the last one counts. -/
def sorted (fields : List (Text × Json)) : Json :=
  object
    (fields.foldl (fun ordered field => setField field.1 field.2 ordered) [])

def ofText? : Option Text → Json
  | some content => string content
  | none => null

end Json

end NamedGroups
