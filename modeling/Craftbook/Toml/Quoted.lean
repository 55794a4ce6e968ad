/-!
The four kinds of quoted text in TOML: basic and literal, each on one line or on several.
-/
namespace Craftbook.Toml.Quoted

/-- What may stand for itself in a comment or a literal text: a tab or anything but control
characters. -/
def isPlain (c : Char) : Bool := c = '\t' || (' ' ≤ c && c ≠ '\x7f')

def hexValue? (c : Char) : Option Nat :=
  if c.isDigit then some (c.toNat - '0'.toNat)
  else if 'a' ≤ c && c ≤ 'f' then some (c.toNat - 'a'.toNat + 10)
  else if 'A' ≤ c && c ≤ 'F' then some (c.toNat - 'A'.toNat + 10)
  else none

/-- The character whose code point is written in hexadecimal digits; surrogates have none. -/
def scalar? (digits : List Char) : Option Char := do
  let code ← digits.foldlM (fun n c => do return 16 * n + (← hexValue? c)) 0
  if code.isValidChar then some (Char.ofNat code) else none

/-- The character that a letter after a backslash stands for. -/
def escape? : Char → Option Char
  | 'b' => some '\x08'
  | 't' => some '\t'
  | 'n' => some '\n'
  | 'f' => some '\x0c'
  | 'r' => some '\r'
  | '"' => some '"'
  | '\\' => some '\\'
  | _ => none

def consTo (c : Option Char) (body : Option (List Char × List Char)) :
    Option (List Char × List Char) := do
  let c ← c
  let (text, rest) ← body
  return (c :: text, rest)

/-- A basic text on one line, after its opening quote. -/
def basic? : List Char → Option (List Char × List Char)
  | [] => none
  | '"' :: rest => some ([], rest)
  | '\\' :: 'u' :: a :: b :: c :: d :: rest => consTo (scalar? [a, b, c, d]) (basic? rest)
  | '\\' :: 'U' :: a :: b :: c :: d :: e :: f :: g :: h :: rest =>
    consTo (scalar? [a, b, c, d, e, f, g, h]) (basic? rest)
  | '\\' :: c :: rest => consTo (escape? c) (basic? rest)
  | c :: rest => if isPlain c && c ≠ '\\' then consTo (some c) (basic? rest) else none

/-- A literal text on one line, after its opening quote. -/
def literal? : List Char → Option (List Char × List Char)
  | [] => none
  | '\'' :: rest => some ([], rest)
  | c :: rest => if isPlain c then consTo (some c) (literal? rest) else none

/-- Three quotes close a text on several lines; up to two more before them belong to it. -/
def close (quote : Char) (rest : List Char) : List Char × List Char :=
  match rest with
  | c :: d :: more =>
    if c = quote then if d = quote then ([c, d], more) else ([c], d :: more) else ([], rest)
  | [c] => if c = quote then ([c], []) else ([], rest)
  | [] => ([], [])

/-- Where a basic text on several lines is: a backslash at the end of a line hides all white space up
to the next visible character. -/
inductive Gap where
  | none
  | beforeLineEnd
  | afterLineEnd
  deriving DecidableEq

/-- A basic text on several lines, after its opening quotes. -/
def multilineBasic? : Gap → List Char → Option (List Char × List Char)
  | _, [] => none
  | .beforeLineEnd, '\n' :: rest => multilineBasic? .afterLineEnd rest
  | .beforeLineEnd, '\r' :: '\n' :: rest => multilineBasic? .afterLineEnd rest
  | .beforeLineEnd, c :: rest =>
    if c = ' ' || c = '\t' then multilineBasic? .beforeLineEnd rest else none
  | .afterLineEnd, '\n' :: rest => multilineBasic? .afterLineEnd rest
  | .afterLineEnd, ' ' :: rest => multilineBasic? .afterLineEnd rest
  | .afterLineEnd, '\t' :: rest => multilineBasic? .afterLineEnd rest
  | .afterLineEnd, '\r' :: '\n' :: rest => multilineBasic? .afterLineEnd rest
  | _, '"' :: '"' :: '"' :: rest => some (close '"' rest)
  | _, '\\' :: 'u' :: a :: b :: c :: d :: rest =>
    consTo (scalar? [a, b, c, d]) (multilineBasic? .none rest)
  | _, '\\' :: 'U' :: a :: b :: c :: d :: e :: f :: g :: h :: rest =>
    consTo (scalar? [a, b, c, d, e, f, g, h]) (multilineBasic? .none rest)
  | _, '\\' :: '\n' :: rest => multilineBasic? .afterLineEnd rest
  | _, '\\' :: '\r' :: '\n' :: rest => multilineBasic? .afterLineEnd rest
  | _, '\\' :: ' ' :: rest => multilineBasic? .beforeLineEnd rest
  | _, '\\' :: '\t' :: rest => multilineBasic? .beforeLineEnd rest
  | _, '\\' :: c :: rest => consTo (escape? c) (multilineBasic? .none rest)
  | _, '\n' :: rest => consTo (some '\n') (multilineBasic? .none rest)
  | _, '\r' :: '\n' :: rest => consTo (some '\n') (multilineBasic? .none rest)
  | _, c :: rest => if isPlain c && c ≠ '\\' then consTo (some c) (multilineBasic? .none rest) else none

/-- A literal text on several lines, after its opening quotes. -/
def multilineLiteral? : List Char → Option (List Char × List Char)
  | [] => none
  | '\'' :: '\'' :: '\'' :: rest => some (close '\'' rest)
  | '\n' :: rest => consTo (some '\n') (multilineLiteral? rest)
  | '\r' :: '\n' :: rest => consTo (some '\n') (multilineLiteral? rest)
  | c :: rest => if isPlain c then consTo (some c) (multilineLiteral? rest) else none

/-- A line end right after the opening quotes is not part of the text. -/
def afterFirstLineEnd : List Char → List Char
  | '\n' :: rest | '\r' :: '\n' :: rest => rest
  | s => s

/-- A quoted text of any kind, with its opening quotes. -/
def read? : List Char → Option (List Char × List Char)
  | '"' :: '"' :: '"' :: rest => multilineBasic? .none (afterFirstLineEnd rest)
  | '"' :: rest => basic? rest
  | '\'' :: '\'' :: '\'' :: rest => multilineLiteral? (afterFirstLineEnd rest)
  | '\'' :: rest => literal? rest
  | _ => none

end Craftbook.Toml.Quoted
