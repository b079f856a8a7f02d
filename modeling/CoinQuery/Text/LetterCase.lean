import CoinQuery.Text.LetterCase.Table
import CoinQuery.Text.Ranges

/-!
# Lower case

Full lower-casing of a text. Three rules go beyond a table from character to character: a capital I
with a dot becomes two characters, a capital sigma at the end of a word becomes the final sigma, and
whether it stands there depends on the nearest neighbours that are not passed over.
-/

namespace CoinQuery.Text

def lowerPoint (point : Nat) : Nat :=
  match caseShifts.find? fun s =>
      s.first ≤ point && point ≤ s.last && (point - s.first) % s.step == 0 with
  | some s => (point + s.shift).toNat
  | none => point

/-- The lower-case form of a character wherever it stands. -/
def lowerChar (c : Char) : List Char :=
  if c.toNat < 0x80 then [c.toLower]
  else if c = 'İ' then ['i', '\u0307']
  else [Char.ofNat (lowerPoint c.toNat)]

def isCased (c : Char) : Bool := inRanges casedRanges c.toNat

def isCaseIgnorable (c : Char) : Bool := inRanges caseIgnorableRanges c.toNat

/-- Whether the nearest character that is not passed over is a letter with a case. -/
def meetsCased (cs : List Char) : Bool :=
  match cs.dropWhile isCaseIgnorable with
  | [] => false
  | c :: _ => isCased c

/-- Lower-cases what follows `before`, which is kept in reverse. A capital sigma is final when a
letter precedes it in its word and none follows. -/
def lowerFrom (before : List Char) : List Char → List Char
  | [] => []
  | c :: cs =>
    let lowered :=
      if c = 'Σ' then if meetsCased before && !meetsCased cs then ['ς'] else ['σ']
      else lowerChar c
    lowered ++ lowerFrom (c :: before) cs

def lower (s : String) : String := String.ofList (lowerFrom [] s.toList)

end CoinQuery.Text
