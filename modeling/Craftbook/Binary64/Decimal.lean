import Craftbook.Binary64.Basic

/-!
Binary64 numbers in decimal: the number nearest to a decimal, and the fewest decimal digits that
read back as a number.
-/
namespace Craftbook

/-- `digits` times a power of ten. -/
structure Decimal where
  digits : Nat
  exponent : Int

namespace Decimal

/-- No more digits than the decimal writing of `n` has. -/
def fewestDigits (n : Nat) : Nat := n.log2 * 30102 / 100000

/-- No fewer digits than the decimal writing of `n` has. -/
def mostDigits (n : Nat) : Nat := (n.log2 + 1) * 30103 / 100000 + 1

/-- The nearest binary64 number. Decimals that are certainly too large or nearer to zero than to
the smallest number are told by their length, so that no huge power of ten is formed. -/
def toBinary64 (negative : Bool) (d : Decimal) : Binary64 :=
  if d.digits = 0 then .zero negative
  else if 310 < d.exponent + fewestDigits d.digits then .infinite negative
  else if d.exponent + mostDigits d.digits < -330 then .zero negative
  else .ofQuotient negative (d.digits * Nat.pow 10 d.exponent.toNat * Binary64.oneUnits)
    (Nat.pow 10 (-d.exponent).toNat)

/-- Positional writing without an exponent: as many zeros as it takes, no point unless a digit
follows it. -/
def positional (d : Decimal) : String :=
  let written := toString d.digits
  if 0 ≤ d.exponent then written.pushn '0' d.exponent.toNat
  else
    let places := (-d.exponent).toNat
    let padded := List.replicate (places + 1 - written.length) '0' ++ written.toList
    let whole := padded.length - places
    String.ofList (padded.take whole) ++ "." ++ String.ofList (padded.drop whole)

/-- The reals that round to a magnitude, in quarters of a unit; the ends belong to it when the
magnitude's last digit is even. -/
structure Interval where
  low : Nat
  high : Nat
  closed : Bool

/-- The halfway points to the two neighbours. The neighbour below a power of two is nearer, unless
the spacing is already one unit. -/
def Interval.around (units : Nat) : Interval :=
  let step := Rounding.lastPlace units
  let below := if units = Nat.pow 2 52 * step ∧ 1 < step then step else 2 * step
  ⟨4 * units - below, 4 * units + 2 * step, units / step % 2 = 0⟩

/-- Whether `num / den` quarters of a unit lie in the interval. -/
def Interval.contains (i : Interval) (num den : Nat) : Bool :=
  if i.closed then i.low * den ≤ num && num ≤ i.high * den
  else i.low * den < num && num < i.high * den

/-- The multiple of `10 ^ exponent` that is nearest to a magnitude among those that round to it; of
two equally near ones the greater. -/
def onGrid? (units : Nat) (exponent : Int) : Option Decimal :=
  let ten := Nat.pow 10 exponent.toNat * Binary64.oneUnits
  let scale := Nat.pow 10 (-exponent).toNat
  let floor := units * scale / ten
  let within (digits : Nat) := (Interval.around units).contains (4 * digits * ten) scale
  let belowHalf := 2 * units * scale < (2 * floor + 1) * ten
  if within floor && (belowHalf || !within (floor + 1)) then some ⟨floor, exponent⟩
  else if within (floor + 1) then some ⟨floor + 1, exponent⟩
  else none

/-- The coarsest of `count` decimal grids, from `exponent` down, that has a number in reach. -/
def coarsest (units : Nat) : (count : Nat) → (exponent : Int) → Decimal
  | 0, _ => ⟨units, 0⟩
  | count + 1, exponent =>
    match onGrid? units exponent with
    | some d => d
    | none => coarsest units count (exponent - 1)

/-- The fewest digits that read back as a magnitude, and of those the nearest. A binary64 number
needs at most 17 digits, and the first grid lies at most two places above its first digit. -/
def shortest (units : Nat) : Decimal :=
  coarsest units 20 (((units.log2 : Int) - 1073) * 30103 / 100000 + 1)

end Decimal

namespace Binary64

/-- The fewest digits that read back, written positionally. -/
def text : Binary64 → String
  | .nan => "NaN"
  | .infinite negative => sign negative ++ "inf"
  | .finite negative units _ =>
    sign negative ++ if units = 0 then "0" else (Decimal.shortest units).positional
where
  sign (negative : Bool) : String := if negative then "-" else ""

/-- As `text`, but a finite number always shows a decimal point. -/
def pointedText (x : Binary64) : String :=
  if x.isFinite && !x.text.contains '.' then x.text ++ ".0" else x.text

end Binary64

end Craftbook
