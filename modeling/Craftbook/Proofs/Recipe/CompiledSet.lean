import Craftbook.Proofs.Recipe.Record
import Craftbook.Proofs.Recipe.Slots
import Craftbook.Recipe.CompiledSet

/-!
Compiled sets. Main statements: what a compiled set holds, and that a set is refused for the first
of the faults of its definitions, or else for the first amount too large for a slot.
-/
namespace Craftbook.Compiler

/-- Layouts are there if the policy asks for them, one for each record. -/
def LayoutsOf (set : SetConfig) (records : List Record) (layouts : Option SlotTable) : Prop :=
  if set.policy.layouts then
    ∃ table, layouts = some table ∧ List.Forall₂ SlotTable.EntryOf records table.entries
  else layouts = none

/-- A compiled set has one record for each definition, in authored order and each of another kind,
and the layouts that its policy asks for. -/
structure SetOf (c : Compiler) (set : SetConfig) (recipes : List Definition)
    (compiled : CompiledSet) : Prop where
  config : compiled.config = set
  records : List.Forall₂ c.RecordOf recipes compiled.records
  distinct : (compiled.records.map (·.result.kind)).Nodup
  layouts : LayoutsOf set compiled.records compiled.layouts

theorem distinctRecords_nil (c : Compiler) (set : String) (made : List ItemKind) :
    (c.distinctRecords set made []).outcome = .ok [] := rfl

theorem distinctRecords_cons (c : Compiler) (set : String) (made : List ItemKind) (d : Definition)
    (rest : List Definition) :
    (c.distinctRecords set made (d :: rest)).outcome =
      c.record d >>= fun record =>
        if record.result.kind ∈ made then
          .error (.duplicateRecipe set record.result.kind.authored)
        else
          (c.distinctRecords set (record.result.kind :: made) rest).outcome >>= fun records =>
            .ok (record :: records) := by
  rw [distinctRecords, Traced.outcome_bind, normalize_outcome]
  congr
  funext record
  split
  · rfl
  · simp only [Traced.outcome_bind, Traced.outcome_pure]

theorem distinctRecords_eq_ok_iff {c : Compiler} {set : String} {made : List ItemKind}
    {recipes : List Definition} {records : List Record} :
    (c.distinctRecords set made recipes).outcome = .ok records ↔
      List.Forall₂ c.RecordOf recipes records ∧ (records.map (·.result.kind)).Nodup ∧
        ∀ record ∈ records, record.result.kind ∉ made := by
  -- The kinds made grow along the list, so the claim is for any of them.
  induction recipes generalizing made records with
  | nil =>
    rw [distinctRecords_nil, List.forall₂_nil_left_iff]
    refine ⟨?_, ?_⟩
    · intro h
      cases h
      simp
    · rintro ⟨rfl, -⟩
      rfl
  | cons d rest ih =>
    simp only [distinctRecords_cons, bind_eq_ok_iff, record_eq_ok_iff,
      List.forall₂_cons_left_iff]
    refine ⟨?_, ?_⟩
    · rintro ⟨record, ofRecord, h⟩
      split at h
      · cases h
      · rename_i new
        obtain ⟨records, done, made⟩ := bind_eq_ok_iff.1 h
        cases made
        obtain ⟨ofRecords, distinct, fresh⟩ := ih.1 done
        simp only [List.mem_cons, not_or] at fresh
        refine ⟨⟨record, records, ofRecord, ofRecords, rfl⟩, ?_, ?_⟩
        · rw [List.map_cons, List.nodup_cons]
          refine ⟨?_, distinct⟩
          intro again
          obtain ⟨other, member, same⟩ := List.mem_map.1 again
          exact (fresh other member).1 same
        · intro other member
          rcases List.mem_cons.1 member with rfl | member
          · exact new
          · exact (fresh other member).2
    · rintro ⟨⟨record, records, ofRecord, ofRecords, rfl⟩, distinct, fresh⟩
      rw [List.map_cons, List.nodup_cons] at distinct
      refine ⟨record, ofRecord, ?_⟩
      rw [if_neg (fresh record (by simp)), bind_eq_ok_iff]
      refine ⟨records, ih.2 ⟨ofRecords, distinct.2, ?_⟩, rfl⟩
      intro other member again
      rcases List.mem_cons.1 again with same | again
      · exact distinct.1 (List.mem_map.2 ⟨other, member, same⟩)
      · exact fresh other (by simp [member]) again

theorem layoutsFor_eq_ok_iff {set : SetConfig} {records : List Record}
    {layouts : Option SlotTable} :
    layoutsFor set records = .ok layouts ↔ LayoutsOf set records layouts := by
  unfold layoutsFor LayoutsOf
  split
  · simp only [bind_eq_ok_iff, SlotTable.ofRecords_eq_ok_iff]
    refine ⟨?_, ?_⟩
    · rintro ⟨table, filled, made⟩
      cases made
      exact ⟨table, rfl, filled⟩
    · rintro ⟨table, rfl, filled⟩
      exact ⟨table, filled, rfl⟩
  · refine ⟨?_, ?_⟩
    · intro h
      cases h
      rfl
    · rintro rfl
      rfl

theorem compileSet_outcome (c : Compiler) (set : SetConfig) (recipes : List Definition) :
    (c.compileSet set recipes).outcome =
      (c.distinctRecords set.key [] recipes).outcome >>= fun records =>
        layoutsFor set records >>= fun layouts => .ok ⟨set, records, layouts⟩ := by
  unfold compileSet
  simp only [Traced.outcome_bind, Traced.outcome_ofExcept, Traced.outcome_report,
    Traced.outcome_pure]
  rfl

theorem compileSet_eq_ok_iff {c : Compiler} {set : SetConfig} {recipes : List Definition}
    {compiled : CompiledSet} :
    (c.compileSet set recipes).outcome = .ok compiled ↔ c.SetOf set recipes compiled := by
  simp only [compileSet_outcome, bind_eq_ok_iff, distinctRecords_eq_ok_iff, layoutsFor_eq_ok_iff]
  refine ⟨?_, ?_⟩
  · rintro ⟨records, ⟨ofRecords, distinct, -⟩, layouts, ofLayouts, made⟩
    cases made
    exact ⟨rfl, ofRecords, distinct, ofLayouts⟩
  · rintro ⟨rfl, ofRecords, distinct, ofLayouts⟩
    exact ⟨_, ⟨ofRecords, distinct, by simp⟩, _, ofLayouts, rfl⟩

namespace Sample

def ore : ItemKind := ⟨.plain, "IronOre"⟩

def plate : ItemKind := ⟨.plain, "IronPlate"⟩

def furnace : ItemKind := ⟨.structural, "Furnace"⟩

def metals : Namespace := ⟨[furnace, plate, ore], by decide⟩

def smelting : SetConfig := { key := "smelting", constant := "SMELTING", policy := .full }

def recipes : List Definition :=
  [ ⟨"IronPlate", [⟨"IronOre", 2⟩], 1, 2⟩,
    ⟨"Structure(StructureKind::Furnace)", [⟨"IronPlate", 5⟩, ⟨"IronOre", 1⟩], 1, 1⟩ ]

def compiled : CompiledSet where
  config := smelting
  records :=
    [ ⟨[⟨ore, 2⟩], ⟨plate, 1⟩, .multiplied 2, 120⟩,
      ⟨[⟨plate, 5⟩, ⟨ore, 1⟩], ⟨furnace, 1⟩, .base, 60⟩ ]
  layouts := some
    ⟨[ (plate, ⟨[⟨4, .input ore⟩, ⟨2, .output⟩]⟩),
       (furnace, ⟨[⟨10, .input plate⟩, ⟨2, .input ore⟩, ⟨2, .output⟩]⟩) ]⟩

end Sample

example :
    ((ofConfig Sample.metals {}).compileSet Sample.smelting Sample.recipes).outcome =
      .ok Sample.compiled := by
  decide +kernel

theorem LayoutsOf.unique {set : SetConfig} {records : List Record} {a b : Option SlotTable}
    (ha : LayoutsOf set records a) (hb : LayoutsOf set records b) : a = b :=
  Except.ok.inj ((layoutsFor_eq_ok_iff.2 ha).symm.trans (layoutsFor_eq_ok_iff.2 hb))

/-- What is compiled for a set is determined by its records. -/
theorem SetOf.eq_of_records {c c' : Compiler} {set : SetConfig} {recipes recipes' : List Definition}
    {a b : CompiledSet} (ha : c.SetOf set recipes a) (hb : c'.SetOf set recipes' b)
    (records : a.records = b.records) : a = b := by
  have layouts : a.layouts = b.layouts := by
    have layoutsa := ha.layouts
    rw [records] at layoutsa
    exact layoutsa.unique hb.layouts
  rw [show a = ⟨a.config, a.records, a.layouts⟩ from rfl, ha.config, records, layouts, ← hb.config]

theorem SetOf.recordOf {c : Compiler} {set : SetConfig} {recipes : List Definition}
    {compiled : CompiledSet} (h : c.SetOf set recipes compiled) :
    ∀ record ∈ compiled.records, ∃ d ∈ recipes, c.RecordOf d record :=
  fun _ => exists_of_mem_right h.records

theorem SetOf.entries {c : Compiler} {set : SetConfig} {recipes : List Definition}
    {compiled : CompiledSet} (h : c.SetOf set recipes compiled) (laidOut : set.policy.layouts) :
    ∃ table, compiled.layouts = some table ∧
      List.Forall₂ SlotTable.EntryOf compiled.records table.entries ∧
      (table.entries.map (·.1)).Nodup := by
  have layouts := h.layouts
  rw [LayoutsOf, if_pos laidOut] at layouts
  obtain ⟨table, present, filled⟩ := layouts
  refine ⟨table, present, filled, ?_⟩
  rw [SlotTable.EntryOf.kinds_eq filled]
  exact h.distinct

theorem SetOf.configs_eq {c : Compiler} {recipes : SetConfig → List Definition}
    {configured : List SetConfig} {compiled : List CompiledSet}
    (h : List.Forall₂ (fun set => c.SetOf set (recipes set)) configured compiled) :
    compiled.map (·.config) = configured := by
  induction h with
  | nil => rfl
  | cons first _ ih => rw [List.map_cons, first.config, ih]

/-- A definition that makes what one of the definitions before it makes. -/
def duplicateFaults (c : Compiler) (set : String) (earlier : List Definition) (d : Definition) :
    List CompileError :=
  match c.names.resolve? d.name with
  | some kind =>
    if kind ∈ earlier.filterMap (c.names.resolve? ·.name) then
      [.duplicateRecipe set kind.authored]
    else []
  | none => []

/-- What is wrong with the definitions of a set, given those before them, one after the other. -/
def recipeFaults (c : Compiler) (set : String) (earlier : List Definition) :
    List Definition → List CompileError
  | [] => []
  | d :: rest =>
    c.definitionFaults d ++ c.duplicateFaults set earlier d ++ c.recipeFaults set (d :: earlier) rest

/-- An amount that is too large for a slot, told by the kinds. -/
def slotFaults (c : Compiler) (recipe item : String) (quantity : Int) : List CompileError :=
  match c.names.resolve? recipe, c.names.resolve? item with
  | some made, some kind =>
    if quantity ≤ slotLimit then []
    else [.invalidQuantity made.authored kind.authored quantity]
  | _, _ => []

/-- The amounts of a definition that are too large for slots, the requirements first. -/
def capacityFaults (c : Compiler) (d : Definition) : List CompileError :=
  (d.requirements.flatMap fun r => c.slotFaults d.name r.item r.count) ++
    c.slotFaults d.name d.name d.amount

/-- What is wrong with a set: its definitions, and only then the amounts if it has layouts. -/
def setFaults (c : Compiler) (set : SetConfig) (recipes : List Definition) : List CompileError :=
  c.recipeFaults set.key [] recipes ++
    if set.policy.layouts then recipes.flatMap c.capacityFaults else []

theorem distinctRecords_stopsAtFirst (c : Compiler) (set : String)
    (earlier recipes : List Definition) :
    StopsAtFirst (c.recipeFaults set earlier recipes)
      (c.distinctRecords set (earlier.filterMap (c.names.resolve? ·.name)) recipes).outcome := by
  induction recipes generalizing earlier with
  | nil => exact StopsAtFirst.ok []
  | cons d rest ih =>
    rw [recipeFaults, distinctRecords_cons, List.append_assoc]
    refine (c.record_stopsAtFirst d).bind fun record done => ?_
    have known := (record_eq_ok_iff.1 done).result.kind
    unfold duplicateFaults
    rw [known]
    dsimp only
    split
    · exact StopsAtFirst.error _ _
    · have made : (d :: earlier).filterMap (c.names.resolve? ·.name) =
          record.result.kind :: earlier.filterMap (c.names.resolve? ·.name) := by
        rw [List.filterMap_cons, known]
      have later := ih (d :: earlier)
      rw [made] at later
      exact later.bind_ok

theorem RecordOf.capacityFaults_eq {c : Compiler} {d : Definition} {record : Record}
    (h : c.RecordOf d record) : c.capacityFaults d = SlotLayout.faults record := by
  have same : ∀ {item quantity stack}, c.StackOf item quantity stack →
      c.slotFaults d.name item quantity = Slot.faults record stack := by
    intro item quantity stack ofStack
    unfold slotFaults Slot.faults
    rw [h.result.kind, ofStack.kind, ← ofStack.amount]
    simp only [Int.ofNat_le]
  rw [capacityFaults, SlotLayout.faults, same h.result,
    flatMap_eq_of_forall₂ h.ingredients fun _ _ => same]

theorem compileSet_stopsAtFirst (c : Compiler) (set : SetConfig) (recipes : List Definition) :
    StopsAtFirst (c.setFaults set recipes) (c.compileSet set recipes).outcome := by
  rw [compileSet_outcome, setFaults]
  refine (c.distinctRecords_stopsAtFirst set.key [] recipes).bind fun records done => ?_
  apply StopsAtFirst.bind_ok
  unfold layoutsFor
  split
  · have ofRecords := (distinctRecords_eq_ok_iff.1 done).1
    rw [flatMap_eq_of_forall₂ ofRecords fun _ _ => RecordOf.capacityFaults_eq]
    exact (SlotTable.ofRecords_stopsAtFirst records).bind_ok
  · exact StopsAtFirst.ok none

end Craftbook.Compiler
