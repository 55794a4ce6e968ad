import Craftbook.Proofs.Check
import Craftbook.Recipe.Slots

/-!
The slots of a checked recipe. Main statements: a layout has room for twice every amount, one input
per ingredient and then the output, and an amount that cannot be doubled is the only obstacle.
-/
namespace Craftbook

/-- The greatest amount whose double is a word. -/
def slotLimit : Nat := 2147483647

theorem checkedMul_headroom_eq_some_iff {amount capacity : UInt32} :
    checkedMul amount Slot.headroom = some capacity ↔ capacity.toNat = 2 * amount.toNat := by
  have small := amount.toNat_lt
  have smallCapacity := capacity.toNat_lt
  have headroom : Slot.headroom.toNat = 2 := rfl
  have doubled : (amount * Slot.headroom).toNat = amount.toNat * 2 % 2 ^ 32 := by
    rw [UInt32.toNat_mul, headroom]
  unfold checkedMul
  rw [headroom]
  split
  · rename_i fits
    rw [Option.some_inj, ← UInt32.toNat_inj, doubled]
    simp only [UInt32.size] at fits
    omega
  · rename_i large
    simp only [UInt32.size] at large
    refine ⟨?_, ?_⟩
    · intro h
      cases h
    · omega

theorem checkedMul_headroom_eq_none_iff {amount : UInt32} :
    checkedMul amount Slot.headroom = none ↔ slotLimit < amount.toNat := by
  have headroom : Slot.headroom.toNat = 2 := rfl
  unfold checkedMul slotLimit
  rw [headroom]
  simp only [UInt32.size]
  split <;> simp <;> omega

namespace Slot

/-- Room for twice a stack, in a given role. -/
structure Holds (slot : Slot) (stack : ItemStack) (role : SlotRole) : Prop where
  capacity : slot.capacity.toNat = 2 * stack.amount.toNat
  role : slot.role = role

/-- What keeps a stack of a record from having a slot. -/
def faults (record : Record) (stack : ItemStack) : List CompileError :=
  if stack.amount.toNat ≤ slotLimit then []
  else
    [.invalidQuantity record.result.kind.authored stack.kind.authored stack.amount.toNat]

theorem forStack_eq_ok_iff {record : Record} {stack : ItemStack} {role : SlotRole} {slot : Slot} :
    forStack record stack role = .ok slot ↔ slot.Holds stack role := by
  unfold forStack
  refine ⟨?_, ?_⟩
  · intro h
    split at h
    · rename_i capacity made
      cases h
      exact ⟨checkedMul_headroom_eq_some_iff.1 made, rfl⟩
    · cases h
  · rintro ⟨capacity, rfl⟩
    rw [checkedMul_headroom_eq_some_iff.2 capacity]

theorem forStack_stopsAtFirst (record : Record) (stack : ItemStack) (role : SlotRole) :
    StopsAtFirst (faults record stack) (forStack record stack role) := by
  unfold forStack faults
  cases made : checkedMul stack.amount headroom with
  | some capacity =>
    have fits : stack.amount.toNat ≤ slotLimit := by
      by_contra large
      rw [checkedMul_headroom_eq_none_iff.2 (Nat.lt_of_not_le large)] at made
      cases made
    rw [if_pos fits]
    exact StopsAtFirst.ok _
  | none =>
    have large : slotLimit < stack.amount.toNat := checkedMul_headroom_eq_none_iff.1 made
    rw [if_neg (Nat.not_le_of_lt large)]
    exact StopsAtFirst.error _ []

end Slot

namespace SlotLayout

/-- One input for each requirement, in order, and then the output, each with room for twice its
stack. -/
def Fits (layout : SlotLayout) (requirements : List ItemStack) (result : ItemStack) : Prop :=
  ∃ inputs output, layout.slots = inputs ++ [output] ∧
    List.Forall₂ (fun stack slot => Slot.Holds slot stack (.input stack.kind)) requirements inputs ∧
    output.Holds result .output

/-- What keeps a record from having a layout, the ingredients first. -/
def faults (record : Record) : List CompileError :=
  record.ingredients.flatMap (Slot.faults record) ++ Slot.faults record record.result

theorem inputsFor_eq_mapM (record : Record) (ingredients : List ItemStack) :
    inputsFor record ingredients =
      ingredients.mapM fun stack => Slot.forStack record stack (.input stack.kind) := by
  induction ingredients with
  | nil => rfl
  | cons stack rest ih => rw [inputsFor, List.mapM_cons, ih]

theorem forRecord_eq_ok_iff {record : Record} {layout : SlotLayout} :
    forRecord record = .ok layout ↔ layout.Fits record.ingredients record.result := by
  simp only [forRecord, inputsFor_eq_mapM, bind_eq_ok_iff, mapM_eq_ok_iff, Slot.forStack_eq_ok_iff]
  refine ⟨?_, ?_⟩
  · rintro ⟨inputs, filled, output, holds, made⟩
    cases made
    exact ⟨inputs, output, rfl, filled, holds⟩
  · rintro ⟨inputs, output, slots, filled, holds⟩
    refine ⟨inputs, filled, output, holds, ?_⟩
    rw [← slots]
    rfl

theorem Fits.unique {layout layout' : SlotLayout} {record : Record}
    (h : layout.Fits record.ingredients record.result)
    (h' : layout'.Fits record.ingredients record.result) : layout = layout' :=
  Except.ok.inj ((forRecord_eq_ok_iff.2 h).symm.trans (forRecord_eq_ok_iff.2 h'))

theorem forRecord_stopsAtFirst (record : Record) :
    StopsAtFirst (faults record) (forRecord record) := by
  unfold forRecord faults
  rw [inputsFor_eq_mapM]
  refine (StopsAtFirst.mapM fun stack _ => ?_).bind fun inputs _ => ?_
  · exact Slot.forStack_stopsAtFirst record stack (.input stack.kind)
  · exact (Slot.forStack_stopsAtFirst record record.result .output).bind_ok

end SlotLayout

namespace SlotTable

theorem entriesFor_eq_mapM (records : List Record) :
    entriesFor records = records.mapM fun record => do
      return (record.result.kind, ← SlotLayout.forRecord record) := by
  induction records with
  | nil => rfl
  | cons record rest ih =>
    rw [entriesFor, List.mapM_cons, ih]
    cases SlotLayout.forRecord record <;> rfl

def EntryOf (record : Record) (entry : ItemKind × SlotLayout) : Prop :=
  entry.1 = record.result.kind ∧ entry.2.Fits record.ingredients record.result

theorem ofRecords_eq_ok_iff {records : List Record} {table : SlotTable} :
    ofRecords records = .ok table ↔ List.Forall₂ EntryOf records table.entries := by
  have entry : ∀ record (entry : ItemKind × SlotLayout),
      (do return (record.result.kind, ← SlotLayout.forRecord record) :
        Except CompileError (ItemKind × SlotLayout)) = .ok entry ↔ EntryOf record entry := by
    rintro record ⟨kind, layout⟩
    simp only [bind_eq_ok_iff, SlotLayout.forRecord_eq_ok_iff, EntryOf]
    refine ⟨?_, ?_⟩
    · rintro ⟨made, fits, same⟩
      cases same
      exact ⟨rfl, fits⟩
    · rintro ⟨rfl, fits⟩
      exact ⟨layout, fits, rfl⟩
  simp only [ofRecords, entriesFor_eq_mapM, bind_eq_ok_iff, mapM_eq_ok_iff, entry]
  refine ⟨?_, ?_⟩
  · rintro ⟨entries, filled, made⟩
    cases made
    exact filled
  · intro filled
    exact ⟨table.entries, filled, rfl⟩

theorem ofRecords_stopsAtFirst (records : List Record) :
    StopsAtFirst (records.flatMap SlotLayout.faults) (ofRecords records) := by
  unfold ofRecords
  rw [entriesFor_eq_mapM]
  refine (StopsAtFirst.mapM fun record _ => ?_).bind_ok
  exact (SlotLayout.forRecord_stopsAtFirst record).bind_ok

theorem get_eq_ok_iff {table : SlotTable} {index : Nat} {layout : SlotLayout} :
    table.get index = .ok layout ↔ table.layouts[index]? = some layout := by
  unfold get
  cases table.layouts[index]? <;> simp

theorem search_eq_none_iff {kind : ItemKind} {entries : List (ItemKind × SlotLayout)} :
    byResult?.search kind entries = none ↔ ∀ entry ∈ entries, entry.1 ≠ kind := by
  induction entries with
  | nil => simp [byResult?.search]
  | cons entry rest ih =>
    rw [byResult?.search, List.forall_mem_cons, ← ih]
    cases byResult?.search kind rest <;> simp

theorem search_cons_zero {kind : ItemKind} {entry : ItemKind × SlotLayout}
    {rest : List (ItemKind × SlotLayout)} {layout : SlotLayout} :
    byResult?.search kind (entry :: rest) = some (0, layout) ↔
      entry = (kind, layout) ∧ ∀ entry ∈ rest, entry.1 ≠ kind := by
  obtain ⟨result, first⟩ := entry
  rw [byResult?.search, ← search_eq_none_iff]
  cases byResult?.search kind rest <;> simp

theorem search_cons_succ {kind : ItemKind} {entry : ItemKind × SlotLayout}
    {rest : List (ItemKind × SlotLayout)} {index : Nat} {layout : SlotLayout} :
    byResult?.search kind (entry :: rest) = some (index + 1, layout) ↔
      byResult?.search kind rest = some (index, layout) := by
  rw [byResult?.search]
  cases byResult?.search kind rest <;> simp [Prod.ext_iff]

theorem search_eq_some_iff {kind : ItemKind} {entries : List (ItemKind × SlotLayout)} {index : Nat}
    {layout : SlotLayout} :
    byResult?.search kind entries = some (index, layout) ↔
      entries[index]? = some (kind, layout) ∧ ∀ entry ∈ entries.drop (index + 1), entry.1 ≠ kind := by
  -- The search counts from the back, so each step shifts the position by one.
  induction entries generalizing index with
  | nil => simp [byResult?.search]
  | cons entry rest ih =>
    cases index with
    | zero => simp [search_cons_zero]
    | succ index => simpa [search_cons_succ] using ih

theorem byResult?_eq_none_iff {table : SlotTable} {kind : ItemKind} :
    table.byResult? kind = none ↔ kind ∉ table.entries.map (·.1) := by
  rw [byResult?, search_eq_none_iff, List.mem_map]
  exact ⟨fun none ⟨entry, member, same⟩ => none entry member same,
    fun none entry member same => none ⟨entry, member, same⟩⟩

/-- A table's answer for a kind is at the last place of the kind. -/
theorem byResult?_eq_some_iff {table : SlotTable} {kind : ItemKind} {index : Nat}
    {layout : SlotLayout} :
    table.byResult? kind = some (index, layout) ↔
      table.entries[index]? = some (kind, layout) ∧
        ∀ entry ∈ table.entries.drop (index + 1), entry.1 ≠ kind :=
  search_eq_some_iff

theorem byResult?_eq_some_iff_of_nodup {table : SlotTable} {kind : ItemKind} {index : Nat}
    {layout : SlotLayout} (distinct : (table.entries.map (·.1)).Nodup) :
    table.byResult? kind = some (index, layout) ↔
      table.entries[index]? = some (kind, layout) := by
  rw [byResult?_eq_some_iff, and_iff_left_iff_imp]
  intro here entry member same
  obtain ⟨later, there⟩ := List.getElem?_of_mem member
  rw [List.getElem?_drop] at there
  have := place_unique distinct here there same.symm
  omega

theorem EntryOf.unique {record : Record} {entry entry' : ItemKind × SlotLayout}
    (h : EntryOf record entry) (h' : EntryOf record entry') : entry = entry' :=
  Prod.ext (h.1.trans h'.1.symm) (h.2.unique h'.2)

theorem EntryOf.kinds_eq {records : List Record} {entries : List (ItemKind × SlotLayout)}
    (h : List.Forall₂ EntryOf records entries) :
    entries.map (·.1) = records.map (·.result.kind) := by
  induction h with
  | nil => rfl
  | cons first _ ih => rw [List.map_cons, List.map_cons, first.1, ih]

end SlotTable

end Craftbook
