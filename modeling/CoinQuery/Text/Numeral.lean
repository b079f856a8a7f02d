/-!
# Decimal numerals

Reading of natural numbers written in the ten ASCII digits. Labels and options are counted in
64-bit words, so a numeral beyond `wordLimit` names no number there.
-/

namespace CoinQuery.Text

/-- The first number that no longer fits a 64-bit word. -/
def wordLimit : Nat := UInt64.size

/-- The number a run of ASCII digits stands for; none for an empty run, another character, or a
value that does not fit a word. Zeros in front are allowed. -/
def wordOfDigits? (digits : List Char) : Option Nat :=
  if digits ≠ [] && digits.all Char.isDigit then
    let value := Nat.ofDigitChars 10 digits 0
    if value < wordLimit then some value else none
  else none

/-- A numeral as an option's value gives it: a plus sign may stand in front. -/
def wordOfOption? (s : String) : Option Nat :=
  match s.toList with
  | '+' :: digits => wordOfDigits? digits
  | digits => wordOfDigits? digits

end CoinQuery.Text
