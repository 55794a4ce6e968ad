import Craftbook.Recipe.Record

/-!
The inventory slots a station needs for a recipe: one per ingredient, then one for the result.
-/
namespace Craftbook

inductive SlotRole where
  | input (filter : ItemKind)
  | output
  deriving DecidableEq

structure Slot where
  capacity : UInt32
  role : SlotRole
  deriving DecidableEq

structure SlotLayout where
  slots : List Slot
  deriving DecidableEq

namespace Slot

/-- Room for one craft and for one more of buffer. -/
def headroom : UInt32 := 2

/-- The slot for a stack of a recipe's record. A capacity too large for a word is reported by the
kinds, since the record has no authored names. -/
def forStack (record : Record) (stack : ItemStack) (role : SlotRole) : Except CompileError Slot :=
  match checkedMul stack.amount headroom with
  | some capacity => .ok ⟨capacity, role⟩
  | none =>
    .error (.invalidQuantity record.result.kind.authored stack.kind.authored stack.amount.toNat)

def isInput (slot : Slot) : Bool :=
  match slot.role with
  | .input _ => true
  | .output => false

end Slot

namespace SlotLayout

def inputsFor (record : Record) : List ItemStack → Except CompileError (List Slot)
  | [] => .ok []
  | stack :: rest => do
    let first ← Slot.forStack record stack (.input stack.kind)
    return first :: (← inputsFor record rest)

def forRecord (record : Record) : Except CompileError SlotLayout := do
  let inputs ← inputsFor record record.ingredients
  let output ← Slot.forStack record record.result .output
  return ⟨inputs ++ [output]⟩

def inputs (layout : SlotLayout) : List Slot := layout.slots.filter Slot.isInput

def output? (layout : SlotLayout) : Option Slot := layout.slots.find? (·.role = .output)

end SlotLayout

/-- The layouts of a set in authored order, each with the kind that its recipe makes. -/
structure SlotTable where
  entries : List (ItemKind × SlotLayout)
  deriving DecidableEq

namespace SlotTable

def entriesFor : List Record → Except CompileError (List (ItemKind × SlotLayout))
  | [] => .ok []
  | record :: rest => do
    let layout ← SlotLayout.forRecord record
    return (record.result.kind, layout) :: (← entriesFor rest)

def ofRecords (records : List Record) : Except CompileError SlotTable :=
  return ⟨← entriesFor records⟩

def size (table : SlotTable) : Nat := table.entries.length

def layouts (table : SlotTable) : List SlotLayout := table.entries.map (·.2)

def get (table : SlotTable) (index : Nat) : Except CompileError SlotLayout :=
  match table.layouts[index]? with
  | some layout => .ok layout
  | none => .error (.slotIndexOutOfRange index table.size)

/-- The position and the layout of the last recipe that makes a kind. -/
def byResult? (table : SlotTable) (kind : ItemKind) : Option (Nat × SlotLayout) :=
  search table.entries
where
  search : List (ItemKind × SlotLayout) → Option (Nat × SlotLayout)
    | [] => none
    | (result, layout) :: rest =>
      match search rest with
      | some (index, later) => some (index + 1, later)
      | none => if result = kind then some (0, layout) else none

end SlotTable

end Craftbook
