import CoinQuery.Text.Unseen

/-!
# Quoted text

A text between double quotes, with a backslash before quotes and backslashes, letters for the tab
and the line ends, and numbers for every other character that could not be seen.
-/

namespace CoinQuery.Text

/-- The lower-case hexadecimal digits of a number, as many as it needs. -/
def hexadecimal (n : Nat) : List Char := Nat.toDigits 16 n

def quoteChar (c : Char) : List Char :=
  match c with
  | '\x00' => ['\\', '0']
  | '\t' => ['\\', 't']
  | '\r' => ['\\', 'r']
  | '\n' => ['\\', 'n']
  | '"' => ['\\', '"']
  | '\\' => ['\\', '\\']
  | c => if isUnseen c then ['\\', 'u', '\x7b'] ++ hexadecimal c.toNat ++ ['\x7d'] else [c]

def quote (s : String) : String := String.ofList ('"' :: s.toList.flatMap quoteChar ++ ['"'])

end CoinQuery.Text
