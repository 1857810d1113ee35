import NamedGroups.NamedRegex.Basic
import NamedGroups.Text.Quoted

/-!
# Inspecting values

The inspection text of a value shows its structure: the constructor, the fields
by name, and texts in quotes.  It is meant for logs and for debugging, not for
being read back.
-/

namespace NamedGroups

def Text.commaSeparated : List Text → Text
  | [] => []
  | [item] => item
  | item :: items => item ++ ", ".toList ++ Text.commaSeparated items

def Text.ofBool : Bool → Text
  | true => "true".toList
  | false => "false".toList

def Text.inspectField (name : Text) (value : Text) : Text :=
  name ++ ": ".toList ++ value

def Text.inspectRecord (name : Text) (fields : List Text) : Text :=
  name ++ " \x7b ".toList ++ Text.commaSeparated fields ++ " \x7d".toList

def Fragment.inspect : Fragment → Text
  | .opening => "Open".toList
  | .closing => "Close".toList
  | .plain content => "Text(".toList ++ content.quote ++ ")".toList

def GroupKey.inspect : GroupKey → Text
  | .name text => "Name(".toList ++ text.quote ++ ")".toList
  | .ordinal number => "Ordinal(".toList ++ Text.decimal number ++ ")".toList

def GroupIndex.inspectEntry (entry : GroupKey × Nat) : Text :=
  Text.inspectField entry.1.inspect (Text.decimal entry.2)

def GroupIndex.inspect (index : GroupIndex) : Text :=
  let entries := Text.commaSeparated (index.entries.map inspectEntry)
  Text.inspectRecord "GroupIndex".toList
    [Text.inspectField "map".toList ('\x7b' :: entries ++ ['\x7d'])]

def Flags.inspect (flags : Flags) : Text :=
  Text.inspectRecord "Flags".toList [Text.inspectField "global".toList
    (Text.ofBool flags.global),
    Text.inspectField "case_insensitive".toList
      (Text.ofBool flags.caseInsensitive),
    Text.inspectField "multi_line".toList (Text.ofBool flags.multiLine),
    Text.inspectField "dot_matches_new_line".toList
      (Text.ofBool flags.dotMatchesNewline)]

def NamedRegex.inspect {engine : RegexEngine} (regex : NamedRegex engine) :
    Text :=
  Text.inspectRecord "NamedRegExp".toList
    [Text.inspectField "source".toList regex.source.quote,
      Text.inspectField "flags".toList regex.flags.inspect,
      Text.inspectField "groups".toList regex.groups.inspect]

end NamedGroups
