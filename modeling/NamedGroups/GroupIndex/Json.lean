import NamedGroups.GroupIndex
import NamedGroups.Json

/-!
# Group indexes as JSON

A group index is written as an object whose fields are named by the texts of the
keys.  A name and an ordinal may have the same text, and then there are two
fields of that name.
-/

namespace NamedGroups.GroupIndex

def jsonFields (index : GroupIndex) : List (Text × Json) :=
  index.entries.map fun entry => (entry.1.text, .number entry.2)

def toJson (index : GroupIndex) : Json := .object index.jsonFields

end NamedGroups.GroupIndex
