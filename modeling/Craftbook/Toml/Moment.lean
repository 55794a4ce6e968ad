/-!
Dates and times of day as TOML writes them.
-/
namespace Craftbook.Toml

structure Date where
  year : Nat
  month : Nat
  day : Nat
  deriving DecidableEq

structure TimeOfDay where
  hour : Nat
  minute : Nat
  second : Nat
  nanosecond : Nat
  deriving DecidableEq

inductive Offset where
  | universal
  | minutes (signed : Int)
  deriving DecidableEq

inductive Moment where
  | date (date : Date)
  | time (time : TimeOfDay)
  | dateTime (date : Date) (time : TimeOfDay) (offset : Option Offset)
  deriving DecidableEq

def digitValue (c : Char) : Nat := c.toNat - '0'.toNat

def decimalValue (digits : List Char) : Nat := digits.foldl (fun n c => 10 * n + digitValue c) 0

namespace Moment

/-- The number that exactly `count` digits write. -/
def digits? (count : Nat) (s : List Char) : Option (Nat × List Char) :=
  let digits := s.take count
  if digits.length = count && digits.all Char.isDigit then
    some (decimalValue digits, s.drop count)
  else none

def daysInMonth (year month : Nat) : Nat :=
  if month = 2 then
    if year % 4 = 0 ∧ (year % 100 ≠ 0 ∨ year % 400 = 0) then 29 else 28
  else if month ∈ [4, 6, 9, 11] then 30
  else 31

def mark? (mark : Char) : List Char → Option (List Char)
  | [] => none
  | c :: rest => if c = mark then some rest else none

def date? (s : List Char) : Option (Date × List Char) := do
  let (year, s) ← digits? 4 s
  let (month, s) ← digits? 2 (← mark? '-' s)
  let (day, s) ← digits? 2 (← mark? '-' s)
  if 1 ≤ month ∧ month ≤ 12 ∧ 1 ≤ day ∧ day ≤ daysInMonth year month then
    some (⟨year, month, day⟩, s)
  else none

/-- Nanoseconds from the digits of a fraction of a second; digits after the ninth have no effect. -/
def nanoseconds (fraction : List Char) : Nat :=
  decimalValue ((fraction ++ List.replicate 9 '0').take 9)

def fraction (s : List Char) : Nat × List Char :=
  match s with
  | '.' :: rest =>
    if (rest.takeWhile Char.isDigit).isEmpty then (0, s)
    else (nanoseconds (rest.takeWhile Char.isDigit), rest.dropWhile Char.isDigit)
  | _ => (0, s)

def timeOfDay? (s : List Char) : Option (TimeOfDay × List Char) := do
  let (hour, s) ← digits? 2 s
  let (minute, s) ← digits? 2 (← mark? ':' s)
  let (second, s) ← digits? 2 (← mark? ':' s)
  let (nanosecond, s) := fraction s
  if hour ≤ 23 ∧ minute ≤ 59 ∧ second ≤ 60 then some (⟨hour, minute, second, nanosecond⟩, s)
  else none

def signedOffset? (sign : Int) (s : List Char) : Option (Offset × List Char) := do
  let (hours, s) ← digits? 2 s
  let (minutes, s) ← digits? 2 (← mark? ':' s)
  if hours ≤ 23 ∧ minutes ≤ 59 then some (.minutes (sign * (60 * hours + minutes)), s) else none

def offset? : List Char → Option (Offset × List Char)
  | 'Z' :: s | 'z' :: s => some (.universal, s)
  | '+' :: s => signedOffset? 1 s
  | '-' :: s => signedOffset? (-1) s
  | _ => none

/-- The time of day that may follow a date, after a `T` or a space. -/
def timeAfterDate? : List Char → Option (TimeOfDay × List Char)
  | 'T' :: s | 't' :: s | ' ' :: s => timeOfDay? s
  | _ => none

def read? (s : List Char) : Option (Moment × List Char) :=
  match date? s with
  | some (d, s) =>
    match timeAfterDate? s with
    | some (t, s) =>
      match offset? s with
      | some (offset, s) => some (.dateTime d t (some offset), s)
      | none => some (.dateTime d t none, s)
    | none => some (.date d, s)
  | none => (timeOfDay? s).map fun (t, s) => (.time t, s)

def padded (width n : Nat) : String :=
  String.ofList (List.replicate (width - (toString n).length) '0') ++ toString n

def Date.text (d : Date) : String :=
  s!"{padded 4 d.year}-{padded 2 d.month}-{padded 2 d.day}"

/-- Digits of a fraction of a second, without zeros at their end. -/
def fractionText (nanosecond : Nat) : String :=
  if nanosecond = 0 then ""
  else "." ++ String.ofList ((padded 9 nanosecond).toList.reverse.dropWhile (· = '0')).reverse

def TimeOfDay.text (t : TimeOfDay) : String :=
  s!"{padded 2 t.hour}:{padded 2 t.minute}:{padded 2 t.second}" ++ fractionText t.nanosecond

def Offset.text : Offset → String
  | .universal => "Z"
  | .minutes n =>
    (if n < 0 then "-" else "+") ++ s!"{padded 2 (n.natAbs / 60)}:{padded 2 (n.natAbs % 60)}"

def text : Moment → String
  | .date d => Date.text d
  | .time t => TimeOfDay.text t
  | .dateTime d t offset =>
    Date.text d ++ "T" ++ TimeOfDay.text t ++ (offset.map Offset.text).getD ""

end Moment

end Craftbook.Toml
