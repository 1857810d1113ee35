import NamedGroups.Unicode.Ranges

/-!
# White space and connectors

The property White_Space and the general category Pc of Unicode 15.0.
-/

namespace NamedGroups.Unicode

/-- Characters with the property White_Space. -/
def whiteSpace : Ranges :=
  [(9, 13), (32, 32), (133, 133), (160, 160), (5760, 5760), (8192, 8202),
    (8232, 8233), (8239, 8239), (8287, 8287), (12288, 12288)]

/-- Punctuation that connects the parts of a word, such as the low line. -/
def connectorPunctuation : Ranges :=
  [(95, 95), (8255, 8256), (8276, 8276), (65075, 65076), (65101, 65103),
    (65343, 65343)]

end NamedGroups.Unicode
