/-
How deep the parts of a pattern nest.

A row of several items is one level deeper than its deepest item, a single item is no deeper than itself, and nothing
at all has no depth.
-/

namespace BlockProbe.Pattern

/-- the items of a row: how many there are, and the depth of the deepest -/
structure Items where
  count : Nat := 0
  depth : Nat := 0
deriving DecidableEq, Repr

/-- a row with one more item of this depth -/
def Items.add (items : Items) (depth : Nat) : Items :=
  { count := items.count + 1, depth := max items.depth depth }

/-- a row whose last item now has this depth -/
def Items.deepen (items : Items) (depth : Nat) : Items := { items with depth := max items.depth depth }

def Items.nesting (items : Items) : Nat := if items.count ≤ 1 then items.depth else items.depth + 1

end BlockProbe.Pattern
