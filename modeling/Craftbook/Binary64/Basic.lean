import Craftbook.Binary64.Rounding

/-!
Binary64 numbers held exactly, as signed whole numbers of units of 2 ^ -1074. Every operation is
the exact result rounded once to nearest, ties to even.
-/
namespace Craftbook

namespace Binary64

/-- The unit is 2 ^ -1074, the smallest positive number. -/
def unitPlaces : Nat := 1074

/-- One, in units. -/
def oneUnits : Nat := Nat.pow 2 unitPlaces

/-- 2 ^ 1024, the first magnitude that is too large, in units. -/
def unitLimit : Nat := Nat.pow 2 (1024 + unitPlaces)

theorem natPow_two_pos (places : Nat) : 0 < Nat.pow 2 places := Nat.two_pow_pos places

theorem oneUnits_pos : 0 < oneUnits := by
  unfold oneUnits
  exact natPow_two_pos unitPlaces

theorem unitLimit_pos : 0 < unitLimit := by
  unfold unitLimit
  exact natPow_two_pos (1024 + unitPlaces)

/-- The magnitudes a binary64 number can have, in units. -/
def Representable (units : Nat) : Prop := units < unitLimit ∧ Rounding.Short units

instance (units : Nat) : Decidable (Representable units) := inferInstanceAs (Decidable (_ ∧ _))

end Binary64

inductive Binary64 where
  | nan
  | infinite (negative : Bool)
  | finite (negative : Bool) (units : Nat) (representable : Binary64.Representable units)
  deriving DecidableEq

namespace Binary64

/-- The quotient of two whole numbers of units, rounded; too large a quotient is infinite. -/
def ofQuotient (negative : Bool) (num den : Nat) : Binary64 :=
  let units := Rounding.toShort num den
  if h : units < unitLimit then
    .finite negative units ⟨h, Rounding.toShort_short num den⟩
  else .infinite negative

def zero (negative : Bool) : Binary64 :=
  .finite negative 0 ⟨unitLimit_pos, Nat.dvd_zero _⟩

def ofInt (n : Int) : Binary64 := ofQuotient (n < 0) (n.natAbs * oneUnits) 1

instance (n : Nat) : OfNat Binary64 n := ⟨ofInt n⟩

def ofWord (n : UInt32) : Binary64 := ofInt n.toNat

def isFinite : Binary64 → Bool
  | .finite .. => true
  | _ => false

/-- A magnitude with its sign; the two zeros coincide. -/
def signed (negative : Bool) (units : Nat) : Int := if negative then -units else units

/-- The exact sum of units, rounded. An exact zero is negative only if both terms are. -/
def sub : Binary64 → Binary64 → Binary64
  | .nan, _ | _, .nan => .nan
  | .infinite a, .infinite b => if a = b then .nan else .infinite a
  | .infinite a, .finite .. => .infinite a
  | .finite .., .infinite b => .infinite !b
  | .finite a m _, .finite b n _ =>
    let difference := signed a m - signed b n
    if difference = 0 then zero (a && !b)
    else ofQuotient (difference < 0) difference.natAbs 1

def div : Binary64 → Binary64 → Binary64
  | .nan, _ | _, .nan => .nan
  | .infinite _, .infinite _ => .nan
  | .infinite a, .finite b .. => .infinite (a != b)
  | .finite a .., .infinite b => zero (a != b)
  | .finite a m _, .finite b n _ =>
    if n = 0 then if m = 0 then .nan else .infinite (a != b)
    else ofQuotient (a != b) (m * oneUnits) n

def abs : Binary64 → Binary64
  | .nan => .nan
  | .infinite _ => .infinite false
  | .finite _ units h => .finite false units h

/-- Nothing compares with a NaN. -/
def le : Binary64 → Binary64 → Bool
  | .nan, _ | _, .nan => false
  | .infinite true, _ | _, .infinite false => true
  | .infinite false, _ | _, .infinite true => false
  | .finite a m _, .finite b n _ => signed a m ≤ signed b n

/-- Nothing compares with a NaN. -/
def lt : Binary64 → Binary64 → Bool
  | .nan, _ | _, .nan => false
  | .infinite true, .infinite true | .infinite false, .infinite false => false
  | .infinite true, _ | _, .infinite false => true
  | .infinite false, _ | _, .infinite true => false
  | .finite a m _, .finite b n _ => signed a m < signed b n

instance : Sub Binary64 := ⟨sub⟩
instance : Div Binary64 := ⟨div⟩
instance : LE Binary64 := ⟨fun a b => a.le b = true⟩
instance : LT Binary64 := ⟨fun a b => a.lt b = true⟩
instance (a b : Binary64) : Decidable (a ≤ b) := inferInstanceAs (Decidable (_ = true))
instance (a b : Binary64) : Decidable (a < b) := inferInstanceAs (Decidable (_ = true))

/-- The whole number nearest to a magnitude; a half goes up. -/
def nearestWhole (units : Nat) : Nat := (2 * units + oneUnits) / (2 * oneUnits)

/-- The nearest 32-bit word, halves going up: what is negative or no number becomes zero, what is
too large the greatest word. -/
def toWord : Binary64 → UInt32
  | .nan | .infinite true | .finite true .. => 0
  | .infinite false => .ofNat (UInt32.size - 1)
  | .finite false units _ => .ofNat (min (nearestWhole units) (UInt32.size - 1))

/-- The number written by its 64 bits: sign, 11 digits of exponent, 52 of fraction. The exponent
counts the digits that the magnitude has beyond the 53rd. -/
def bits : Binary64 → Nat
  | .nan => 0x7ff8000000000000
  | .infinite negative => signBit negative + 0x7ff0000000000000
  | .finite negative units _ =>
    let shift := units.log2 - 52
    signBit negative + shift * Nat.pow 2 52 + units / Nat.pow 2 shift
where
  signBit (negative : Bool) : Nat := if negative then Nat.pow 2 63 else 0

end Binary64

end Craftbook
