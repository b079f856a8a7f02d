import CoinQuery.Relation.Token
import CoinQuery.Text.DecimalDigit

/-!
# Reading relations from text

A token stands wherever a text spells one: an operator's word, or `C` and a run of decimal digits.
Nothing else is read, so stray words, blanks and lower-case operators leave no trace, and words may
stand right beside labels. A label counts only if writing its number gives it back: the digits are
those of ASCII, no zero stands in front, and the number fits a word.

No token begins inside another one, and digits begin none. So it is enough to look at every place of
the text for a token that begins there.
-/

namespace CoinQuery

/-- A token with the bytes it was read from. -/
structure Lexeme where
  token : Token
  start : Nat
  stop : Nat
deriving DecidableEq

namespace Lexeme

/-- The number that a label's digits stand for, when they are written as that number is. -/
def labelNumber? (digits : List Char) : Option Nat :=
  match digits with
  | '0' :: _ :: _ => none
  | _ => Text.wordOfDigits? digits

/-- The token that begins here, with its length in bytes. The letters and digits of a token are all
ASCII, so its bytes are its characters. -/
def startingAt? : List Char → Option (Token × Nat)
  | 'A' :: 'N' :: 'D' :: _ => some (.op .and, 3)
  | 'O' :: 'R' :: _ => some (.op .or, 2)
  | 'N' :: 'O' :: 'T' :: _ => some (.op .not, 3)
  | '(' :: _ => some (.op .openParen, 1)
  | ')' :: _ => some (.op .closeParen, 1)
  | 'C' :: rest =>
    let digits := rest.takeWhile Text.isDecimalDigit
    (labelNumber? digits).map fun n => (.label n, 1 + digits.length)
  | _ => none

/-- The lexemes of `cs`, which begins at byte `position`. -/
def scan (position : Nat) : List Char → List Lexeme
  | [] => []
  | c :: cs =>
    match startingAt? (c :: cs) with
    | some (token, length) =>
      ⟨token, position, position + length⟩ :: scan (position + c.utf8Size) cs
    | none => scan (position + c.utf8Size) cs

end Lexeme

/-- The lexemes of a text, in order. -/
def lexemes (text : String) : List Lexeme := Lexeme.scan 0 text.toList

namespace Relation

/-- The tokens of a text, all labels unbound. -/
def ofText (text : String) : Relation := (lexemes text).map Lexeme.token

end Relation

end CoinQuery
