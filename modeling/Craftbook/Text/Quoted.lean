import Craftbook.Text.Unprintable

/-!
Text between quotes, on one line and with every character visible.
-/
namespace Craftbook.Text

/-- A character by its code point in hexadecimal digits. -/
def codePoint (c : Char) : List Char :=
  '\\' :: 'u' :: '{' :: Nat.toDigits 16 c.toNat ++ ['}']

/-- How a character is written between quotes. What does not print is written by its code point. -/
def escaped (c : Char) : List Char :=
  if c = '"' || c = '\\' then ['\\', c]
  else if c = '\n' then ['\\', 'n']
  else if c = '\r' then ['\\', 'r']
  else if c = '\t' then ['\\', 't']
  else if c = '\x00' then ['\\', '0']
  else if ' ' ≤ c && c ≤ '~' then [c]
  else if isUnprintable c then codePoint c
  else [c]

def quoted (s : String) : String :=
  String.ofList ('"' :: s.toList.flatMap escaped ++ ['"'])

end Craftbook.Text
