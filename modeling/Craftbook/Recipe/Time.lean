import Craftbook.Error.Compile

/-!
Craft times as expressions over the tick rate, and the durations that such an expression meets
closely enough.
-/
namespace Craftbook

/-- The product of two words, unless it is too large for a word. -/
def checkedMul (a b : UInt32) : Option UInt32 :=
  if a.toNat * b.toNat < UInt32.size then some (a * b) else none

/-- The quotient of two words without its fraction, unless the divisor is zero. -/
def checkedDiv (a b : UInt32) : Option UInt32 := if b = 0 then none else some (a / b)

/-- A craft time in terms of the tick rate, the ticks of one second. -/
inductive CraftTime where
  | base
  | divided (divisor : UInt32)
  | multiplied (multiplier : UInt32)
  deriving DecidableEq

namespace CraftTime

/-- The form nearest to a duration in seconds: below a second a whole fraction of it, above it a
multiple. Only a positive, finite duration has one. -/
def nearest? (seconds : Binary64) : Option CraftTime :=
  if seconds.isFinite ∧ 0 < seconds then
    some <|
      if seconds < 1 then .divided (1 / seconds).toWord
      else if 1 < seconds then .multiplied seconds.toWord
      else .base
  else none

/-- The tick count at a tick rate, if a word can hold it. -/
def ticks? (rate : UInt32) : CraftTime → Option UInt32
  | .base => some rate
  | .divided divisor => checkedDiv rate divisor
  | .multiplied multiplier => checkedMul rate multiplier

/-- The expression for the time in generated source, over a named tick rate. -/
def expression (constant : String) : CraftTime → String
  | .base => constant
  | .divided divisor => s!"{constant} / {divisor}"
  | .multiplied multiplier => s!"{constant} * {multiplier}"

end CraftTime

/-- A tick rate and how far a tick count may drift from the authored duration, in seconds. -/
structure Quantizer where
  rate : UInt32
  tolerance : Binary64

namespace Quantizer

/-- Whether a tick count at this rate lasts as long as authored, up to the tolerance. -/
def meets (q : Quantizer) (ticks : UInt32) (seconds : Binary64) : Bool :=
  (Binary64.ofWord ticks / Binary64.ofWord q.rate - seconds).abs ≤ q.tolerance

/-- The form and the tick count for the duration of a named recipe. A duration that would drift is
refused, and so is one of less than a tick. -/
def quantize (q : Quantizer) (recipe : String) (seconds : Binary64) :
    Except CompileError (CraftTime × UInt32) :=
  match CraftTime.nearest? seconds with
  | none => .error (.invalidTime recipe seconds)
  | some time =>
    match time.ticks? q.rate with
    | none => .error (.ambiguousTime recipe seconds (.ofNat (UInt32.size - 1)) q.rate)
    | some ticks =>
      if 0 < ticks && q.meets ticks seconds then .ok (time, ticks)
      else .error (.ambiguousTime recipe seconds ticks q.rate)

end Quantizer

end Craftbook
