import Craftbook.Proofs.Recipe.Slots
import Mathlib.Data.List.Induction
import Mathlib.Logic.Function.Basic

/-!
Tables of slot layouts over any records. Main statement: a table is made unless an amount is too
large, the first of which is then told; it has the layout of each record at the record's place, and
for a kind that of the last record that makes it.
-/
namespace Craftbook

theorem forall_ne_iff {f : α → β} {xs : List α} {b : β} :
    (∀ x ∈ xs, f x ≠ b) ↔ b ∉ xs.map f := by
  rw [List.mem_map, not_exists]
  exact forall_congr' fun x => not_and.symm

/-- What a record needs slots for, in the order of its slots. -/
def Record.stacks (record : Record) : List ItemStack := record.ingredients ++ [record.result]

namespace Slot.Holds
variable {slot : Slot} {stack : ItemStack}

theorem isInput_eq_true (h : slot.Holds stack (.input stack.kind)) : slot.isInput = true := by
  rw [isInput, h.role]

theorem isInput_eq_false (h : slot.Holds stack .output) : slot.isInput = false := by
  rw [isInput, h.role]

end Slot.Holds

namespace SlotLayout

/-- The inputs are for the ingredients, in order, and one output slot after them is for the result,
each with room for twice its stack. -/
structure Serves (layout : SlotLayout) (record : Record) : Prop where
  inputs : List.Forall₂ (fun stack slot => Slot.Holds slot stack (.input stack.kind))
    record.ingredients layout.inputs
  output : ∃ output, layout.output? = some output ∧ output.Holds record.result .output ∧
    layout.slots = layout.inputs ++ [output]

theorem Fits.serves {layout : SlotLayout} {record : Record}
    (fits : layout.Fits record.ingredients record.result) : layout.Serves record := by
  obtain ⟨inputs, output, slots, filled, holds⟩ := fits
  have each : ∀ slot ∈ inputs, slot.isInput = true := by
    intro slot member
    obtain ⟨stack, -, held⟩ := exists_of_mem_right filled member
    exact held.isInput_eq_true
  have taken : layout.inputs = inputs := by
    rw [SlotLayout.inputs, slots, List.filter_append, List.filter_eq_self.2 each]
    simp [holds.isInput_eq_false]
  have found : layout.output? = some output := by
    rw [output?, slots, List.find?_append, List.find?_eq_none.2, Option.none_or]
    · simp [holds.role]
    · intro slot member
      obtain ⟨stack, -, held⟩ := exists_of_mem_right filled member
      simp [held.role]
  refine ⟨?_, output, found, holds, ?_⟩
  · rwa [taken]
  · rw [taken, slots]

theorem faults_eq_flatMap (record : Record) :
    faults record = record.stacks.flatMap (Slot.faults record) := by
  rw [faults, Record.stacks, List.flatMap_append, List.flatMap_singleton]

end SlotLayout

namespace SlotTable

/-- The first amount too large for a slot, in the order of the records and of the slots of each. -/
def FirstTooLarge (records : List Record) (record : Record) (stack : ItemStack) : Prop :=
  ∃ before after earlier later, records = before ++ record :: after ∧
    record.stacks = earlier ++ stack :: later ∧
    (∀ r ∈ before, ∀ s ∈ r.stacks, s.amount.toNat ≤ slotLimit) ∧
    (∀ s ∈ earlier, s.amount.toNat ≤ slotLimit) ∧ slotLimit < stack.amount.toNat

theorem slotFaults_head? (record : Record) (stack : ItemStack) (e : CompileError) :
    (Slot.faults record stack).head? = some e ↔ slotLimit < stack.amount.toNat ∧
      e = .invalidQuantity record.result.kind.authored stack.kind.authored stack.amount.toNat := by
  unfold Slot.faults
  split
  · rename_i fits
    simp [Nat.not_lt.2 fits]
  · rename_i large
    simp [Nat.lt_of_not_le large, eq_comm]

theorem slotFaults_eq_nil_iff (record : Record) (stack : ItemStack) :
    Slot.faults record stack = [] ↔ stack.amount.toNat ≤ slotLimit := by
  unfold Slot.faults
  split <;> simp_all

theorem faults_eq_nil_iff (record : Record) :
    SlotLayout.faults record = [] ↔ ∀ stack ∈ record.stacks, stack.amount.toNat ≤ slotLimit := by
  simp only [SlotLayout.faults_eq_flatMap, List.flatMap_eq_nil_iff, slotFaults_eq_nil_iff]

theorem exists_ofRecords_iff (records : List Record) :
    (∃ table, ofRecords records = .ok table) ↔
      ∀ record ∈ records, ∀ stack ∈ record.stacks, stack.amount.toNat ≤ slotLimit := by
  rw [← (ofRecords_stopsAtFirst records).faults_eq_nil_iff, List.flatMap_eq_nil_iff]
  simp only [faults_eq_nil_iff]

theorem faults_head? (record : Record) (e : CompileError) :
    (SlotLayout.faults record).head? = some e ↔
      ∃ earlier stack later, record.stacks = earlier ++ stack :: later ∧
        (slotLimit < stack.amount.toNat ∧
          e = .invalidQuantity record.result.kind.authored stack.kind.authored
            stack.amount.toNat) ∧
        ∀ s ∈ earlier, s.amount.toNat ≤ slotLimit := by
  simp only [SlotLayout.faults_eq_flatMap, List.head?_flatMap, List.findSome?_eq_some_iff,
    List.head?_eq_none_iff, slotFaults_head?, slotFaults_eq_nil_iff]

theorem ofRecords_eq_error_iff (records : List Record) (e : CompileError) :
    ofRecords records = .error e ↔ ∃ record stack, FirstTooLarge records record stack ∧
      e = .invalidQuantity record.result.kind.authored stack.kind.authored
        stack.amount.toNat := by
  rw [ofRecords_stopsAtFirst records e]
  simp only [List.head?_flatMap, List.findSome?_eq_some_iff, List.head?_eq_none_iff,
    faults_eq_nil_iff, faults_head?]
  constructor
  · rintro ⟨before, record, after, whole, ⟨earlier, stack, later, within, ⟨large, told⟩, small⟩, fit⟩
    exact ⟨record, stack, ⟨before, after, earlier, later, whole, within, fit, small, large⟩, told⟩
  · rintro ⟨record, stack, ⟨before, after, earlier, later, whole, within, fit, small, large⟩, told⟩
    exact ⟨before, record, after, whole, ⟨earlier, stack, later, within, ⟨large, told⟩, small⟩, fit⟩

/-- The last of the records that make a kind is at this place. -/
def LastMaker (records : List Record) (kind : ItemKind) (place : Nat) : Prop :=
  (∃ record, records[place]? = some record ∧ record.result.kind = kind) ∧
    ∀ later ∈ records.drop (place + 1), later.result.kind ≠ kind

/-- What a table answers that was made for these records. -/
structure Answers (table : SlotTable) (records : List Record) : Prop where
  size : table.size = records.length
  served : ∀ place record, records[place]? = some record →
    ∃ layout, table.get place = .ok layout ∧ layout.Serves record
  beyond : ∀ place, records.length ≤ place →
    table.get place = .error (.slotIndexOutOfRange place records.length)
  unmade : ∀ kind, table.byResult? kind = none ↔ ∀ record ∈ records, record.result.kind ≠ kind
  made : ∀ kind place layout, table.byResult? kind = some (place, layout) ↔
    LastMaker records kind place ∧ table.get place = .ok layout

section Filled

variable {records : List Record} {table : SlotTable}
  (filled : List.Forall₂ EntryOf records table.entries)
include filled

theorem length_layouts : table.layouts.length = records.length := by
  rw [layouts, List.length_map, filled.length_eq]

theorem exists_get_serves {place : Nat} {record : Record} (there : records[place]? = some record) :
    ∃ layout, table.get place = .ok layout ∧ layout.Serves record := by
  obtain ⟨entry, entered, -, fits⟩ :=
    exists_getElem?_left (R := fun entry record => EntryOf record entry) filled.flip there
  refine ⟨entry.2, ?_, fits.serves⟩
  rw [get_eq_ok_iff, layouts, List.getElem?_map, entered, Option.map_some]

theorem get_beyond {place : Nat} (past : records.length ≤ place) :
    table.get place = .error (.slotIndexOutOfRange place records.length) := by
  have absent : table.layouts[place]? = none := by
    rwa [List.getElem?_eq_none_iff, length_layouts filled]
  rw [get, absent, size, filled.length_eq]

theorem byResult?_unmade (kind : ItemKind) :
    table.byResult? kind = none ↔ ∀ record ∈ records, record.result.kind ≠ kind := by
  rw [byResult?_eq_none_iff, EntryOf.kinds_eq filled, forall_ne_iff]

theorem lastMaker_iff (kind : ItemKind) (place : Nat) :
    LastMaker records kind place ↔ (table.entries.map (·.1))[place]? = some kind ∧
      ∀ entry ∈ table.entries.drop (place + 1), entry.1 ≠ kind := by
  have kinds := EntryOf.kinds_eq filled
  have later : (table.entries.drop (place + 1)).map (·.1) =
      (records.drop (place + 1)).map (·.result.kind) := by
    rw [List.map_drop, List.map_drop, kinds]
  rw [forall_ne_iff, later, ← forall_ne_iff, kinds, List.getElem?_map, Option.map_eq_some_iff,
    LastMaker]

theorem byResult?_made (kind : ItemKind) (place : Nat) (layout : SlotLayout) :
    table.byResult? kind = some (place, layout) ↔
      LastMaker records kind place ∧ table.get place = .ok layout := by
  rw [byResult?_eq_some_iff, lastMaker_iff filled, get_eq_ok_iff, layouts, List.getElem?_map,
    List.getElem?_map, Option.map_eq_some_iff, Option.map_eq_some_iff]
  constructor
  · rintro ⟨there, last⟩
    exact ⟨⟨⟨_, there, rfl⟩, last⟩, _, there, rfl⟩
  · rintro ⟨⟨⟨entry, there, rfl⟩, last⟩, again, same, rfl⟩
    cases there.symm.trans same
    exact ⟨there, last⟩

theorem answers : table.Answers records where
  size := filled.length_eq.symm
  served _ _ := exists_get_serves filled
  beyond _ := get_beyond filled
  unmade := byResult?_unmade filled
  made := byResult?_made filled

end Filled

end SlotTable

/-- Layouts as they come, one for each record so far, and the place of the last one for each kind. -/
structure LayoutIndex where
  layouts : List SlotLayout
  place? : ItemKind → Option Nat

namespace LayoutIndex

def empty : LayoutIndex := ⟨[], fun _ => none⟩

/-- A later layout for a kind takes the place of an earlier one. -/
def push (index : LayoutIndex) (entry : ItemKind × SlotLayout) : LayoutIndex :=
  ⟨index.layouts ++ [entry.2],
    Function.update index.place? entry.1 (some index.layouts.length)⟩

def add (index : LayoutIndex) (record : Record) : Except CompileError LayoutIndex := do
  return index.push (record.result.kind, ← SlotLayout.forRecord record)

def ofRecords (records : List Record) : Except CompileError LayoutIndex :=
  records.foldlM add empty

/-- The same layouts and places as a table has. -/
def ofTable (table : SlotTable) : LayoutIndex :=
  ⟨table.layouts, fun kind => (table.byResult? kind).map (·.1)⟩

theorem foldlM_add (index : LayoutIndex) (records : List Record) :
    records.foldlM add index =
      (SlotTable.entriesFor records).map fun entries => entries.foldl push index := by
  induction records generalizing index with
  | nil => rfl
  | cons record rest ih =>
    rw [List.foldlM_cons, add, SlotTable.entriesFor]
    cases SlotLayout.forRecord record with
    | error e => rfl
    | ok layout =>
      have step : (Except.ok (index.push (record.result.kind, layout)) >>=
          fun index => rest.foldlM add index) =
          rest.foldlM add (index.push (record.result.kind, layout)) := rfl
      refine step.trans ((ih _).trans ?_)
      cases SlotTable.entriesFor rest <;> rfl

theorem search_concat (kind result : ItemKind) (layout : SlotLayout)
    (entries : List (ItemKind × SlotLayout)) :
    SlotTable.byResult?.search kind (entries ++ [(result, layout)]) =
      if result = kind then some (entries.length, layout)
      else SlotTable.byResult?.search kind entries := by
  induction entries with
  | nil => simp [SlotTable.byResult?.search]
  | cons entry rest ih =>
    rw [List.cons_append, SlotTable.byResult?.search, ih, SlotTable.byResult?.search]
    by_cases same : result = kind <;> simp [same]

/-- One more record keeps layouts and places in step. -/
theorem push_ofTable (entries : List (ItemKind × SlotLayout)) (entry : ItemKind × SlotLayout) :
    (ofTable ⟨entries⟩).push entry = ofTable ⟨entries ++ [entry]⟩ := by
  have places : (ofTable ⟨entries ++ [entry]⟩).place? =
      Function.update (ofTable ⟨entries⟩).place? entry.1
        (some (ofTable ⟨entries⟩).layouts.length) := by
    funext kind
    have searched := search_concat kind entry.1 entry.2 entries
    simp only [ofTable, SlotTable.byResult?, searched, Function.update_apply, SlotTable.layouts,
      List.length_map, eq_comm (a := kind)]
    split <;> rfl
  rw [push, ← places]
  simp [ofTable, SlotTable.layouts]

theorem foldl_push (entries : List (ItemKind × SlotLayout)) :
    entries.foldl push empty = ofTable ⟨entries⟩ := by
  induction entries using List.reverseRecOn with
  | nil => rfl
  | append_singleton entries entry ih =>
    rw [List.foldl_concat, ih, push_ofTable]

theorem ofRecords_eq (records : List Record) :
    ofRecords records = (SlotTable.ofRecords records).map ofTable := by
  rw [ofRecords, foldlM_add, SlotTable.ofRecords]
  simp only [foldl_push]
  cases SlotTable.entriesFor records <;> rfl

/-- A place that is kept for a kind is one of the layouts'. -/
theorem place?_inside {table : SlotTable} {kind : ItemKind} {place : Nat}
    (kept : (ofTable table).place? kind = some place) :
    ∃ inside : place < (ofTable table).layouts.length,
      table.byResult? kind = some (place, (ofTable table).layouts[place]) := by
  obtain ⟨⟨place, layout⟩, found, rfl⟩ := Option.map_eq_some_iff.1 kept
  obtain ⟨there, -⟩ := SlotTable.byResult?_eq_some_iff.1 found
  have held : (ofTable table).layouts[place]? = some layout := by
    rw [ofTable, SlotTable.layouts, List.getElem?_map, there, Option.map_some]
  obtain ⟨inside, same⟩ := List.getElem?_eq_some_iff.1 held
  exact ⟨inside, by rw [found, same]⟩

end LayoutIndex

namespace SlotTable

/-- A table is made exactly if every amount can be doubled, and the first that cannot is told. What it
answers is determined by the records; a place that is kept for a kind while the layouts grow is always
the place of one of them. -/
theorem answers_for_records (records : List Record) :
    ((∃ table, ofRecords records = .ok table) ↔
      ∀ record ∈ records, ∀ stack ∈ record.stacks, stack.amount.toNat ≤ slotLimit) ∧
    (∀ e, ofRecords records = .error e ↔ ∃ record stack, FirstTooLarge records record stack ∧
      e = .invalidQuantity record.result.kind.authored stack.kind.authored stack.amount.toNat) ∧
    (∀ table, ofRecords records = .ok table → table.Answers records ∧
      ∀ kind place, (LayoutIndex.ofTable table).place? kind = some place →
        ∃ inside : place < (LayoutIndex.ofTable table).layouts.length,
          table.byResult? kind = some (place, (LayoutIndex.ofTable table).layouts[place])) ∧
    LayoutIndex.ofRecords records = (ofRecords records).map LayoutIndex.ofTable := by
  refine ⟨exists_ofRecords_iff records, ofRecords_eq_error_iff records, ?_,
    LayoutIndex.ofRecords_eq records⟩
  intro table made
  exact ⟨answers (ofRecords_eq_ok_iff.1 made), fun _ _ => LayoutIndex.place?_inside⟩

namespace Sample

def ore : ItemKind := ⟨.plain, "IronOre"⟩

def plate : ItemKind := ⟨.plain, "IronPlate"⟩

/-- Plates are made twice, and as many rods at once as a slot can be for. -/
def pressing : List Record :=
  [ ⟨[⟨ore, 2⟩], ⟨plate, 1⟩, .base, 60⟩,
    ⟨[], ⟨⟨.plain, "IronRod"⟩, 2147483647⟩, .divided 2, 30⟩,
    ⟨[⟨ore, 1⟩, ⟨ore, 3⟩], ⟨plate, 2⟩, .multiplied 2, 120⟩ ]

/-- One ingot too many, after an ingredient that fits. -/
def casting : Record := ⟨[⟨ore, 1⟩], ⟨⟨.plain, "Ingot"⟩, 2147483648⟩, .base, 60⟩

end Sample

open Sample in
theorem answers_for_records_pressing :
    ∃ table, ofRecords pressing = .ok table ∧ table.Answers pressing ∧
      (∃ inside : 2 < (LayoutIndex.ofTable table).layouts.length,
        table.byResult? plate = some (2, (LayoutIndex.ofTable table).layouts[2])) ∧
      ofRecords (pressing ++ [casting]) = .error (.invalidQuantity "Ingot" "Ingot" 2147483648) := by
  obtain ⟨table, made⟩ := (answers_for_records pressing).1.2 (by decide)
  have kept : (ofRecords pressing).toOption.bind
      (fun table => (LayoutIndex.ofTable table).place? plate) = some 2 := by decide
  rw [made] at kept
  obtain ⟨answered, places⟩ := (answers_for_records pressing).2.2.1 table made
  refine ⟨table, made, answered, places plate 2 kept, ?_⟩
  refine ((answers_for_records (pressing ++ [casting])).2.1 _).2 ⟨casting, casting.result, ?_, rfl⟩
  exact ⟨pressing, [], casting.ingredients, [], rfl, rfl, by decide, by decide, by decide⟩

end SlotTable

end Craftbook
