/-
Sets of code points, as lists of inclusive ranges.
-/

namespace BlockProbe.Text

abbrev Ranges := List (Nat × Nat)

def Ranges.has (ranges : Ranges) (code : Nat) : Bool :=
  ranges.any fun range => range.1 ≤ code && code ≤ range.2

end BlockProbe.Text
