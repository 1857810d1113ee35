/-!
# Ranges of code points

A property of characters is given as a list of ranges.  The ranges of a table
are in ascending order and apart from each other, so a look-up may stop at the
first range that lies above the character.
-/

namespace NamedGroups.Unicode

/-- Ascending, disjoint ranges of code points, both ends included. -/
abbrev Ranges := List (Nat × Nat)

def Ranges.contains : Ranges → Nat → Bool
  | [], _ => false
  | (first, last) :: ranges, codePoint =>
      if codePoint < first then false
      else if codePoint ≤ last then true
      else Ranges.contains ranges codePoint

end NamedGroups.Unicode
