import CoinQuery.Decimal.Layout
import CoinQuery.Json.Basic

/-!
# Writing JSON

The compact text of a tree: no blanks, members in the order they stand in, and nothing escaped but
quotes, backslashes and control characters. The functions append to a text already written, so that
a long tree is written in one pass.
-/

namespace CoinQuery

/-- Numbers are positional from `0.00001` up to below `10 ^ 16` and otherwise scientific; a whole
number keeps a point and a zero, so that it is read as a real number again. -/
def JsonNumber.layout : Layout where
  positional := fun leading => -5 ≤ leading && leading < 16
  wholePoint := true
  tie := .even

def JsonNumber.text : JsonNumber → String
  | .integer i => toString i
  | .real x => layout.text x

namespace Json

/-- The digits of a control character: four, in lower-case hexadecimal. -/
def controlDigits (c : Char) : List Char :=
  ['0', '0', Nat.digitChar (c.toNat / 16), Nat.digitChar (c.toNat % 16)]

def escapeChar (c : Char) : List Char :=
  match c with
  | '"' => ['\\', '"']
  | '\\' => ['\\', '\\']
  | '\x08' => ['\\', 'b']
  | '\x0c' => ['\\', 'f']
  | '\n' => ['\\', 'n']
  | '\r' => ['\\', 'r']
  | '\t' => ['\\', 't']
  | c => if c.toNat < 0x20 then '\\' :: 'u' :: controlDigits c else [c]

def appendString (written : String) (s : String) : String :=
  (s.toList.foldl (fun text c => (escapeChar c).foldl String.push text) (written.push '"')).push '"'

mutual

def append (written : String) : Json → String
  | null => written ++ "null"
  | bool true => written ++ "true"
  | bool false => written ++ "false"
  | number n => written ++ n.text
  | string s => appendString written s
  | array items => (appendItems (written.push '[') "" items).push ']'
  | object members => (appendMembers (written.push '\x7b') "" members).push '\x7d'
  | unreadable => written ++ "null"

/-- Every item after `separator`, which is empty before the first. -/
def appendItems (written separator : String) : List Json → String
  | [] => written
  | j :: rest => appendItems (append (written ++ separator) j) "," rest

def appendMembers (written separator : String) : List (String × Json) → String
  | [] => written
  | (k, j) :: rest =>
    appendMembers (append ((appendString (written ++ separator) k).push ':') j) "," rest

end

def text (j : Json) : String := append "" j

end Json

end CoinQuery
