-- SUMMARY: Character classes as tables of code point ranges.
/-!
# Code point ranges

Character classes beyond ASCII are tables of inclusive code point ranges.
-/

namespace LispLex

/-- The character lies in one of the ranges. -/
def inRanges (ranges : List (Nat × Nat)) (c : Char) : Bool :=
  ranges.any fun (first, last) => first ≤ c.toNat && c.toNat ≤ last

end LispLex
