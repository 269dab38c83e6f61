/-!
# Ranges of characters

A property of characters is given by the ranges of code points that have it, in order.  Long tables
are cut into parts.
-/

namespace WikiPage.Unicode

/-- Whether a code point lies in one of the ranges, which are in order. -/
def inRanges (n : Nat) : List (Nat × Nat) → Bool
  | [] => false
  | (first, last) :: rest => if n < first then false else n ≤ last || inRanges n rest

/-- Whether a code point lies in a table cut into parts. -/
def inParts (n : Nat) : List (List (Nat × Nat)) → Bool
  | [] => false
  | part :: rest => inRanges n part || inParts n rest

end WikiPage.Unicode
