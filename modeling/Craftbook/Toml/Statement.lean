import Craftbook.Toml.Draft
import Craftbook.Toml.Number
import Craftbook.Toml.Quoted

/-!
The statements of a document: headers, and keys with their values.
-/
namespace Craftbook.Toml

inductive Statement where
  | header (key : Key)
  | arrayHeader (key : Key)
  | pair (key : Key) (value : Value)

namespace Statement

/-- Deeper nesting of values, and longer dotted keys, are refused. -/
def nestingLimit : Nat := 79

def skipBlank (s : List Char) : List Char := s.dropWhile fun c => c = ' ' || c = '\t'

/-- Skips blanks, line ends and comments, as inside an array. A comment there has a line end. -/
def skipTrivia : (inComment : Bool) → List Char → Option (List Char)
  | _, '\n' :: rest | _, '\r' :: '\n' :: rest => skipTrivia false rest
  | true, [] => none
  | true, c :: rest => if Quoted.isPlain c then skipTrivia true rest else none
  | false, '#' :: rest => skipTrivia true rest
  | false, ' ' :: rest | false, '\t' :: rest => skipTrivia false rest
  | false, s => some s

/-- What follows the rest of a line: a comment, perhaps, and the line end or the document's end. -/
def lineEnd? (s : List Char) : Option (List Char) :=
  let rest :=
    match skipBlank s with
    | '#' :: comment => comment.dropWhile Quoted.isPlain
    | rest => rest
  match rest with
  | [] => some []
  | '\n' :: rest | '\r' :: '\n' :: rest => some rest
  | _ => none

def isBareKey (c : Char) : Bool := c.isAlphanum || c = '_' || c = '-'

def name? : List Char → Option (String × List Char)
  | '"' :: s => (Quoted.basic? s).map fun (name, s) => (String.ofList name, s)
  | '\'' :: s => (Quoted.literal? s).map fun (name, s) => (String.ofList name, s)
  | s =>
    let name := s.takeWhile isBareKey
    if name.isEmpty then none else some (String.ofList name, s.dropWhile isBareKey)

/-- A key of at most so many names, with the blanks around it. -/
def key? : (limit : Nat) → List Char → Option (Key × List Char)
  | 0, _ => none
  | limit + 1, s => do
    let (name, s) ← name? (skipBlank s)
    match skipBlank s with
    | '.' :: s =>
      let (key, s) ← key? limit s
      return (⟨name :: key.parents, key.last⟩, s)
    | s => return (⟨[], name⟩, s)

def mark? (mark : Char) : List Char → Option (List Char)
  | [] => none
  | c :: rest => if c = mark then some rest else none

def keyword? (s : List Char) : Option (Value × List Char) :=
  match Number.word? "true" s, Number.word? "false" s with
  | some s, _ => some (.boolean true, s)
  | _, some s => some (.boolean false, s)
  | none, none => none

/-- A value that is neither an array nor a table. -/
def scalar? (s : List Char) : Option (Value × List Char) :=
  match s with
  | '"' :: _ | '\'' :: _ => (Quoted.read? s).map fun (text, s) => (.text (String.ofList text), s)
  | 't' :: _ | 'f' :: _ => keyword? s
  | _ => Number.read? s

mutual
/-- A value with at most `depth` levels of arrays and tables. Each level and each element takes at
least one character, so fuel above twice the length of the text never runs out. -/
def value? (fuel depth : Nat) (s : List Char) : Option (Value × List Char) :=
  match fuel, depth, s with
  | 0, _, _ => none
  | _ + 1, 0, '[' :: _ | _ + 1, 0, '{' :: _ => none
  | fuel + 1, depth + 1, '[' :: s => do
    let (elements, s) ← elements? fuel depth s
    return (.array elements, s)
  | fuel + 1, depth + 1, '{' :: s => do
    let (pairs, s) ←
      match skipBlank s with
      | '}' :: s => some ([], s)
      | s => pairs? fuel depth s
    return (.table (Draft.entriesValue (← Draft.addPairs [] pairs)), s)
  | _ + 1, _, s => scalar? s

/-- The elements of an array up to its end, after the opening bracket or a comma. -/
def elements? (fuel depth : Nat) (s : List Char) : Option (List Value × List Char) :=
  match fuel with
  | 0 => none
  | fuel + 1 => do
    match ← skipTrivia false s with
    | ']' :: s => return ([], s)
    | s =>
      let (first, s) ← value? fuel depth s
      match ← skipTrivia false s with
      | ']' :: s => return ([first], s)
      | ',' :: s =>
        let (rest, s) ← elements? fuel depth s
        return (first :: rest, s)
      | _ => none

/-- The pairs of an inline table up to its end; there is at least one. -/
def pairs? (fuel depth : Nat) (s : List Char) : Option (List (Key × Value) × List Char) :=
  match fuel with
  | 0 => none
  | fuel + 1 => do
    let (key, s) ← key? nestingLimit s
    let (value, s) ← value? fuel depth (skipBlank (← mark? '=' s))
    match skipBlank s with
    | '}' :: s => return ([(key, value)], s)
    | ',' :: s =>
      let (rest, s) ← pairs? fuel depth s
      return ((key, value) :: rest, s)
    | _ => none
end

/-- The statement at the start of a text, up to its last mark. -/
def read? : List Char → Option (Statement × List Char)
  | '[' :: '[' :: s => do
    let (key, s) ← key? nestingLimit s
    return (.arrayHeader key, ← mark? ']' (← mark? ']' s))
  | '[' :: s => do
    let (key, s) ← key? nestingLimit s
    return (.header key, ← mark? ']' s)
  | s => do
    let (key, s) ← key? nestingLimit s
    let s := skipBlank (← mark? '=' s)
    let (value, s) ← value? (2 * s.length + 1) nestingLimit s
    return (.pair key value, s)

/-- All statements of a text. Each takes a character at least, and so does each empty line. -/
def readAll? : (fuel : Nat) → List Char → Option (List Statement)
  | 0, _ => none
  | fuel + 1, s =>
    match skipBlank s with
    | [] => some []
    | s =>
      match lineEnd? s with
      | some s => readAll? fuel s
      | none => do
        let (statement, s) ← read? s
        return statement :: (← readAll? fuel (← lineEnd? s))

end Statement

end Craftbook.Toml
