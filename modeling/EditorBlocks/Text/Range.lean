/-!
# Ranges of characters

Properties of characters, each as the ranges of the code points that have it, in
ascending order.
-/

namespace EditorBlocks.Text

/-- Whether a character is in one of the ranges; both ends belong to a range. -/
def inRanges (ranges : List (Nat × Nat)) (c : Char) : Bool :=
  ranges.any fun (first, last) => first ≤ c.toNat && c.toNat ≤ last

end EditorBlocks.Text
