/-!
# The order of strings

Strings are ordered by their code points, which is also the order of their
encoded bytes.
-/

namespace SchemaGen.Text

/-- Does one string stand before another, or are they the same? -/
def precedes (a b : String) : Bool :=
  !decide (b < a)

/-- Sort by a string. -/
def sortBy {α : Type} (key : α → String) (xs : List α) : List α :=
  xs.mergeSort fun a b => precedes (key a) (key b)

end SchemaGen.Text
