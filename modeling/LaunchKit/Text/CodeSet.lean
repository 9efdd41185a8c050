import LaunchKit.Text.Basic

/-!
# Sets of code points

The properties of the character standard are unions of many short ranges. Such a set is kept as
the increasing list of the code points where membership changes, starting outside the set.

## Main definitions

* `CodeSet`: a set given by its boundaries.
* `CodeSet.contains`: membership of a character.
-/
namespace LaunchKit

/-- A set of code points, by the points where membership changes. -/
structure CodeSet where
  flips : List Nat

namespace CodeSet

/-- Walk over the boundaries at or below the point, changing sides at each. -/
def insideAfter (inside : Bool) : List Nat → Nat → Bool
  | [], _ => inside
  | flip :: flips, point => if point < flip then inside else insideAfter (!inside) flips point

/-- Whether the character belongs to the set. -/
def contains (set : CodeSet) (c : Char) : Bool :=
  insideAfter false set.flips c.toNat

end CodeSet
end LaunchKit
