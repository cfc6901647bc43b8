/-!
# Character ranges

A class of characters given as a list of closed code ranges, the form in which
character properties are published.
-/

namespace SchemaGen.Text

/-- A class of character codes, as closed intervals. -/
abbrev Ranges := List (Nat × Nat)

/-- Is the code in one of the intervals? -/
def Ranges.holds (ranges : Ranges) (code : Nat) : Bool :=
  ranges.any fun (first, last) => first ≤ code && code ≤ last

end SchemaGen.Text
