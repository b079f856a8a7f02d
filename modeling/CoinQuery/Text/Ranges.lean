/-!
# Ranges of characters

A property of characters is carried as data: closed ranges of code points, ascending and apart.
The property modules beside this one (`Blank`, `DecimalDigit`, `LetterCase`, `Quoted`) are tables
of this shape with the functions that read them.
-/

namespace CoinQuery.Text

/-- Whether `point` lies in one of the closed ranges. -/
def inRanges (ranges : List (Nat × Nat)) (point : Nat) : Bool :=
  ranges.any fun r => r.1 ≤ point && point ≤ r.2

end CoinQuery.Text
