import NamedGroups.Text.Decimal

/-!
# Config files

A config file sets options of the command line, one per line: a key, an equals
sign and a string between double or single quotes.  There are two options,
`default_flags` and `output_format`.  Blank lines and comments may stand between
them.  Whatever else is in the file makes all of it invalid, and so does an
option that is set twice.
-/

namespace NamedGroups.CommandLine

/-- How results are written. -/
inductive OutputFormat where
  | text
  | json
deriving DecidableEq

def OutputFormat.parse? (name : Text) : Option OutputFormat :=
  if name = "text".toList then some .text
  else if name = "json".toList then some .json
  else none

/-- The options that a config file can set. -/
structure Config where
  defaultFlags : Text
  /-- The output format where the command line gives none. -/
  outputFormat : OutputFormat
deriving DecidableEq

def Config.standard : Config := ⟨[], .text⟩

namespace Config

def isBareKey (character : Char) : Bool :=
  character.isAlphanum || character == '_' || character == '-'

def isBlank (character : Char) : Bool := character == ' ' || character == '\t'

/-- Whether a character may stand in a string.  Of the controls, only the tab
may. -/
def isPrintable (character : Char) : Bool :=
  character == '\t' || (decide (32 ≤ character.toNat) && character.toNat != 127)

def codePoint? (digits : Text) : Option Char :=
  if digits.all isHexDigit then
    let code := digits.foldl (fun value digit => 16 * value + hexValue digit) 0
    if valid : code.isValidChar then some (Char.ofNatAux code valid) else none
  else none
where
  isHexDigit (digit : Char) : Bool :=
    digit.isDigit || (decide ('a' ≤ digit) && decide (digit ≤ 'f')) ||
      (decide ('A' ≤ digit) && decide (digit ≤ 'F'))
  hexValue (digit : Char) : Nat :=
    if digit.isDigit then digit.toNat - '0'.toNat
    else if 'a' ≤ digit then digit.toNat - 'a'.toNat + 10
    else digit.toNat - 'A'.toNat + 10

def escape? : Char → Option Char
  | 'b' => some '\x08'
  | 't' => some '\t'
  | 'n' => some '\n'
  | 'f' => some '\x0c'
  | 'r' => some '\r'
  | '"' => some '"'
  | '\\' => some '\\'
  | _ => none

def prepend (character : Char) : Option (Text × Text) → Option (Text × Text) :=
  Option.map fun (content, rest) => (character :: content, rest)

/-- A string between double quotes, behind the opening one, and what follows
it. -/
def doubleQuoted? : Text → Option (Text × Text)
  | '"' :: rest => some ([], rest)
  | '\\' :: 'u' :: a :: b :: c :: d :: rest =>
      (codePoint? [a, b, c, d]).bind fun character =>
        prepend character (doubleQuoted? rest)
  | '\\' :: 'U' :: a :: b :: c :: d :: e :: f :: g :: h :: rest =>
      (codePoint? [a, b, c, d, e, f, g, h]).bind fun character =>
        prepend character (doubleQuoted? rest)
  | '\\' :: letter :: rest =>
      (escape? letter).bind fun character =>
        prepend character (doubleQuoted? rest)
  | character :: rest =>
      if isPrintable character then prepend character (doubleQuoted? rest)
      else none
  | [] => none

/-- A string between single quotes, behind the opening one, and what follows
it. -/
def singleQuoted? : Text → Option (Text × Text)
  | '\x27' :: rest => some ([], rest)
  | character :: rest =>
      if isPrintable character then prepend character (singleQuoted? rest)
      else none
  | [] => none

def quoted? : Text → Option (Text × Text)
  | '"' :: rest => doubleQuoted? rest
  | '\x27' :: rest => singleQuoted? rest
  | _ => none

def key? (line : Text) : Option (Text × Text) :=
  match quoted? line with
  | some key => some key
  | none =>
      match line.takeWhile isBareKey with
      | [] => none
      | key => some (key, line.dropWhile isBareKey)

def isEnd (rest : Text) : Bool :=
  match rest.dropWhile isBlank with
  | [] => true
  | '#' :: comment => comment.all isPrintable
  | _ => false

/-- What a line sets. -/
inductive Line where
  | nothing
  | setting (key value : Text)
deriving DecidableEq

def line? (line : Text) : Option Line :=
  if isEnd line then some .nothing
  else do
    let (key, rest) ← key? (line.dropWhile isBlank)
    match rest.dropWhile isBlank with
    | '=' :: rest =>
        let (value, rest) ← quoted? (rest.dropWhile isBlank)
        if isEnd rest then some (.setting key value) else none
    | _ => none

/-- The options that have been set so far. -/
structure Settings where
  defaultFlags : Option Text
  outputFormat : Option OutputFormat
deriving DecidableEq

/-- Why a config file cannot be loaded. -/
inductive Error where
  /-- The line with the given number sets no option to a string. -/
  | invalidLine (number : Nat)
  | unknownOption (key : Text)
  | repeatedOption (key : Text)
  | unknownFormat (name : Text)
deriving DecidableEq

def Error.message : Error → Text
  | invalidLine number => "invalid line ".toList ++ Text.decimal number
  | unknownOption key => "unknown option `".toList ++ key ++ "`".toList
  | repeatedOption key => "repeated option `".toList ++ key ++ "`".toList
  | unknownFormat name => "unknown output format `".toList ++ name ++ "`".toList

def Settings.set (settings : Settings) (key value : Text) :
    Except Error Settings :=
  if key = "default_flags".toList then
    if settings.defaultFlags.isSome then .error (.repeatedOption key)
    else .ok { settings with defaultFlags := some value }
  else if key = "output_format".toList then
    if settings.outputFormat.isSome then .error (.repeatedOption key)
    else
      match OutputFormat.parse? value with
      | some format => .ok { settings with outputFormat := some format }
      | none => .error (.unknownFormat value)
  else .error (.unknownOption key)

def Settings.addLines (settings : Settings) (number : Nat) :
    List Text → Except Error Settings
  | [] => .ok settings
  | line :: lines =>
      match line? line with
      | none => .error (.invalidLine number)
      | some .nothing => settings.addLines (number + 1) lines
      | some (.setting key value) =>
          do (← settings.set key value).addLines (number + 1) lines

/-- The lines of a text.  A line ends with a line feed, which may follow a
carriage return. -/
def lines : Text → List Text
  | [] => [[]]
  | '\n' :: rest => [] :: lines rest
  | '\r' :: '\n' :: rest => [] :: lines rest
  | character :: rest =>
      match lines rest with
      | [] => [[character]]
      | line :: others => (character :: line) :: others

/-- Reads a config file.  What it does not set is as in the standard config. -/
def parse (content : Text) : Except Error Config := do
  let settings ← Settings.addLines ⟨none, none⟩ 1 (lines content)
  return ⟨settings.defaultFlags.getD standard.defaultFlags,
    settings.outputFormat.getD standard.outputFormat⟩

end Config

end NamedGroups.CommandLine
