/-!
# Ranges of code points

A character property is given by inclusive ranges of code points.
-/
namespace Fleet.Text

def within (ranges : List (Nat × Nat)) (n : Nat) : Bool :=
  ranges.any fun range => range.1 ≤ n && n ≤ range.2

end Fleet.Text
