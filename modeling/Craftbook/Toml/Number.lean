import Craftbook.Toml.Value

/-!
Numbers as TOML writes them: integers of 64 bits in four bases, and floats.
-/
namespace Craftbook.Toml.Number

/-- Digits that go on after a first one; a single underscore may stand between two. -/
def moreDigits (isDigit : Char → Bool) : List Char → List Char × List Char
  | '_' :: d :: rest =>
    if isDigit d then
      let (digits, after) := moreDigits isDigit rest
      (d :: digits, after)
    else ([], '_' :: d :: rest)
  | d :: rest =>
    if isDigit d then
      let (digits, after) := moreDigits isDigit rest
      (d :: digits, after)
    else ([], d :: rest)
  | [] => ([], [])

def digits? (isDigit : Char → Bool) : List Char → Option (List Char × List Char)
  | d :: rest =>
    if isDigit d then
      let (digits, after) := moreDigits isDigit rest
      some (d :: digits, after)
    else none
  | [] => none

/-- Whether a minus sign stands in front, and what follows the sign. -/
def sign : List Char → Bool × List Char
  | '-' :: s => (true, s)
  | '+' :: s => (false, s)
  | s => (false, s)

/-- Decimal digits without a leading zero. -/
def whole? : List Char → Option (List Char × List Char)
  | '0' :: s => some (['0'], s)
  | s => digits? Char.isDigit s

def fraction? : List Char → Option (List Char × List Char)
  | '.' :: s => digits? Char.isDigit s
  | _ => none

def exponent? : List Char → Option (Int × List Char)
  | 'e' :: s | 'E' :: s => do
    let (negative, s) := sign s
    let (digits, s) ← digits? Char.isDigit s
    return (if negative then -(decimalValue digits : Int) else decimalValue digits, s)
  | _ => none

/-- A decimal with a fraction, an exponent or both. -/
def decimal? (s : List Char) : Option (Decimal × List Char) := do
  let (whole, s) ← whole? s
  match fraction? s with
  | some (fraction, s) =>
    let (exponent, s) := (exponent? s).getD (0, s)
    return (⟨decimalValue (whole ++ fraction), exponent - fraction.length⟩, s)
  | none =>
    let (exponent, s) ← exponent? s
    return (⟨decimalValue whole, exponent⟩, s)

def word? (word : String) (s : List Char) : Option (List Char) := word.toList.isPrefixOf? s

/-- The names of infinity and of what is no number. -/
def special? (negative : Bool) (s : List Char) : Option (Binary64 × List Char) :=
  match word? "inf" s with
  | some s => some (.infinite negative, s)
  | none => (word? "nan" s).map (.nan, ·)

def int64? (n : Int) : Option Int64 :=
  if Int64.minValue.toInt ≤ n ∧ n ≤ Int64.maxValue.toInt then some (.ofInt n) else none

def baseValue (base : Nat) (digits : List Char) : Nat :=
  digits.foldl (fun n c => base * n + value c) 0
where
  value (c : Char) : Nat :=
    if c.isDigit then c.toNat - '0'.toNat
    else if 'a' ≤ c then c.toNat - 'a'.toNat + 10
    else c.toNat - 'A'.toNat + 10

def isHexDigit (c : Char) : Bool :=
  c.isDigit || ('a' ≤ c && c ≤ 'f') || ('A' ≤ c && c ≤ 'F')

def unsigned? (base : Nat) (isDigit : Char → Bool) (s : List Char) : Option (Value × List Char) := do
  let (digits, s) ← digits? isDigit s
  return (.integer (← int64? (baseValue base digits)), s)

def integer? : List Char → Option (Value × List Char)
  | '0' :: 'x' :: s => unsigned? 16 isHexDigit s
  | '0' :: 'o' :: s => unsigned? 8 (fun c => '0' ≤ c && c ≤ '7') s
  | '0' :: 'b' :: s => unsigned? 2 (fun c => c = '0' || c = '1') s
  | s => do
    let (negative, s) := sign s
    let (digits, s) ← whole? s
    let magnitude : Int := decimalValue digits
    return (.integer (← int64? (if negative then -magnitude else magnitude)), s)

/-- The value of a decimal. One that overflows to positive infinity is refused. -/
def float? (negative : Bool) (d : Decimal) : Option Value :=
  if d.toBinary64 negative = .infinite false then none else some (.float (d.toBinary64 negative))

/-- What begins like a number: a moment, a float or an integer. -/
def read? (s : List Char) : Option (Value × List Char) :=
  match Moment.read? s with
  | some (moment, s) => some (.moment moment, s)
  | none =>
    let (negative, unsigned) := sign s
    match decimal? unsigned with
    | some (d, rest) => (float? negative d).map (·, rest)
    | none =>
      match special? negative unsigned with
      | some (x, rest) => some (.float x, rest)
      | none => integer? s

end Craftbook.Toml.Number
