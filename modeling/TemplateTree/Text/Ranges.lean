/-! Sets of numbers given by the places where they begin and end. -/

namespace TemplateTree.Text

/-- Whether `n` lies in one of the ranges `[b₀, b₁)`, `[b₂, b₃)`, … of ascending bounds. -/
def inRanges (bounds : List Nat) (n : Nat) : Bool :=
  (bounds.takeWhile (· ≤ n)).length % 2 == 1

end TemplateTree.Text
