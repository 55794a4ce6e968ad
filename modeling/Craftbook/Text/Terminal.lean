import Craftbook.Text.Quoted

/-!
Text for a terminal: the control characters that would make it act are written by their codes.
-/
namespace Craftbook.Text

/-- How a character is shown. Bell, backspace, form feed, escape and delete are written by two
hexadecimal digits, the control characters after delete by their code points. -/
def shown (c : Char) : List Char :=
  if c = '\x07' then ['\\', 'x', '0', '7']
  else if c = '\x08' then ['\\', 'x', '0', '8']
  else if c = '\x0c' then ['\\', 'x', '0', 'c']
  else if c = '\x1b' then ['\\', 'x', '1', 'b']
  else if c = '\x7f' then ['\\', 'x', '7', 'f']
  else if '\x80' ≤ c && c ≤ '\x9f' then codePoint c
  else [c]

def forTerminal (s : String) : String := String.ofList (s.toList.flatMap shown)

end Craftbook.Text
