import Craftbook.Proofs.Recipe.Editing
import Craftbook.Proofs.Source.Lookup

/-!
Positions in generated source under edits of a set. Main statement: adding definitions at the end
changes nothing that is written for the positions before, and reordering them moves every position
with its definition.
-/
namespace Craftbook

namespace Declaration

/-- The lines for each position. -/
def blocks (constant : String) : Declaration → List (List String)
  | .table _ entries => entries.map (·.lines constant)
  | .layoutLookup _ arms => arms.map LayoutArm.lines
  | .indexLookup _ arms => arms.map fun arm => [arm.line]

/-- Two declarations of which the second only goes on with more positions. -/
structure Continues (constant : String) (count : Nat) (shorter longer : Declaration) : Prop where
  written : ∃ opening closing,
    shorter.lines constant = opening ++ (shorter.blocks constant).flatten ++ closing ∧
    longer.lines constant = opening ++ (longer.blocks constant).flatten ++ closing
  full : (shorter.blocks constant).length = count
  same : shorter.blocks constant <+: longer.blocks constant

theorem continues_tableOf (constant : String) {count : Nat} {shorter longer : CompiledSet}
    (config : shorter.config = longer.config) (records : shorter.records <+: longer.records)
    (size : shorter.records.length = count) :
    Continues constant count (tableOf shorter) (tableOf longer) where
  written := by
    refine ⟨[s!"pub const {longer.config.constant}: &[Recipe] = &["], ["];"], ?_⟩
    simp only [tableOf, lines, blocks, config, List.flatMap_def, and_self]
  full := by simp [tableOf, blocks, size]
  same := (records.map _).map _

theorem zipIdx_initial {xs ys : List α} (h : xs <+: ys) : xs.zipIdx <+: ys.zipIdx := by
  obtain ⟨more, rfl⟩ := h
  rw [List.zipIdx_append]
  exact List.prefix_append _ _

theorem continues_layoutLookupOf (constant : String) {count : Nat} {shorter longer : CompiledSet}
    {table table' : SlotTable} (config : shorter.config = longer.config)
    (entries : table.entries <+: table'.entries) (size : table.entries.length = count) :
    Continues constant count (layoutLookupOf shorter table) (layoutLookupOf longer table') where
  written := by
    refine ⟨["pub fn " ++ longer.config.layoutFunction ++ r"(index: usize) -> &'static [SlotMeta] {",
      r"    match index {"], ["        _ => unreachable!(),", r"    }", r"}"], ?_⟩
    simp only [layoutLookupOf, lines, blocks, config, List.flatMap_def, and_self]
  full := by simp [layoutLookupOf, blocks, SlotTable.layouts, size]
  same := ((zipIdx_initial (entries.map _)).map _).map _

theorem continues_indexLookupOf (constant : String) {count : Nat} {shorter longer : CompiledSet}
    (config : shorter.config = longer.config) (records : shorter.records <+: longer.records)
    (size : shorter.records.length = count) :
    Continues constant count (indexLookupOf shorter) (indexLookupOf longer) where
  written := by
    refine ⟨["#[allow(unreachable_patterns)]",
      "pub fn " ++ longer.config.indexFunction ++ r"(result: ItemKind) -> Option<usize> {",
      r"    match result {"], ["        _ => None,", r"    }", r"}"], ?_⟩
    simp only [indexLookupOf, lines, blocks, config, List.map_eq_flatMap (f := IndexArm.line),
      List.flatMap_def, and_self]
  full := by simp [indexLookupOf, blocks, size]
  same := ((zipIdx_initial records).map _).map _

end Declaration

namespace SlotTable

/-- Every kind that a table knows, the other has at the same position and with the same layout. -/
def KeptBy (table table' : SlotTable) : Prop :=
  ∀ kind found, table.byResult? kind = some found → table'.byResult? kind = some found

theorem keptBy_of_prefix {table table' : SlotTable} (distinct : (table.entries.map (·.1)).Nodup)
    (distinct' : (table'.entries.map (·.1)).Nodup) (h : table.entries <+: table'.entries) :
    table.KeptBy table' := by
  intro kind ⟨index, layout⟩ found
  rw [byResult?_eq_some_iff_of_nodup distinct, List.getElem?_eq_some_iff] at found
  obtain ⟨inside, there⟩ := found
  rw [byResult?_eq_some_iff_of_nodup distinct', List.prefix_iff_getElem?.1 h index inside, there]

/-- The other table knows the same kinds, each at the moved position and with the same layout. -/
def MovedTo (p : Equiv.Perm (Fin n)) (table table' : SlotTable) : Prop :=
  ∀ kind, (table'.byResult? kind = none ↔ table.byResult? kind = none) ∧
    ∀ (i : Fin n) layout,
      table'.byResult? kind = some (i.val, layout) ↔
        table.byResult? kind = some ((p i).val, layout)

theorem movedTo_of_rearranged {p : Equiv.Perm (Fin n)} {table table' : SlotTable}
    (distinct : (table.entries.map (·.1)).Nodup) (h : Rearranged p table.entries table'.entries) :
    table.MovedTo p table' := by
  have kinds := h.perm.map (·.1)
  intro kind
  refine ⟨?_, fun i layout => ?_⟩
  · rw [byResult?_eq_none_iff, byResult?_eq_none_iff, kinds.mem_iff]
  · rw [byResult?_eq_some_iff_of_nodup distinct,
      byResult?_eq_some_iff_of_nodup (kinds.nodup_iff.2 distinct), h.places i]

end SlotTable

namespace CompiledSet

/-- A set and one that has more recipes at the end: records, layouts, answers and what is written
stay for the first so many positions. -/
structure Grows (constant : String) (count : Nat) (shorter longer : CompiledSet) : Prop where
  records : shorter.records <+: longer.records
  layouts : ∃ table table', shorter.layouts = some table ∧ longer.layouts = some table' ∧
    table.layouts <+: table'.layouts ∧ table.KeptBy table'
  written : List.Forall₂ (Declaration.Continues constant count)
    (Declaration.ofSet shorter) (Declaration.ofSet longer)

/-- A set and one that has its recipes in another order: records, layouts and answers move along. -/
structure Moves (p : Equiv.Perm (Fin n)) (before after : CompiledSet) : Prop where
  records : Rearranged p before.records after.records
  layouts : ∃ table table', before.layouts = some table ∧ after.layouts = some table' ∧
    Rearranged p table.layouts table'.layouts ∧ table.MovedTo p table'

end CompiledSet

namespace Compiler

theorem SetOf.grows {c : Compiler} {set : SetConfig} {recipes extra : List Definition}
    {longer : CompiledSet} (table : set.policy.table) (laidOut : set.policy.layouts)
    (h : c.SetOf set (recipes ++ extra) longer) (constant : String) :
    CompiledSet.Grows constant recipes.length (longer.firstPart recipes.length) longer := by
  have shorter := h.firstPart
  obtain ⟨layouts, present, filled, distinct⟩ := shorter.entries laidOut
  obtain ⟨layouts', present', -, distinct'⟩ := h.entries laidOut
  have records : (longer.firstPart recipes.length).records <+: longer.records :=
    List.take_prefix _ _
  have entries : layouts.entries <+: layouts'.entries := by
    rw [CompiledSet.firstPart, present', Option.map_some, Option.some_inj] at present
    rw [← present]
    exact List.take_prefix _ _
  have tabled : longer.config.policy.table := by rwa [h.config]
  have size := shorter.records.length_eq.symm
  have config : (longer.firstPart recipes.length).config = longer.config := rfl
  refine ⟨records, ⟨layouts, layouts', present, present', entries.map _,
    SlotTable.keptBy_of_prefix distinct distinct' entries⟩, ?_⟩
  rw [Declaration.ofSet_eq (by rwa [shorter.config, ← h.config]) present,
    Declaration.ofSet_eq tabled present']
  refine .cons ?_ (.cons ?_ (.cons ?_ .nil))
  · exact Declaration.continues_tableOf constant config records size
  · exact Declaration.continues_layoutLookupOf constant config entries
      (filled.length_eq.symm.trans size)
  · exact Declaration.continues_indexLookupOf constant config records size

theorem SetOf.moves {c : Compiler} {set : SetConfig} {recipes recipes' : List Definition}
    {before after : CompiledSet} {p : Equiv.Perm (Fin n)} (laidOut : set.policy.layouts)
    (moved : Rearranged p recipes recipes') (h : c.SetOf set recipes before)
    (h' : c.SetOf set recipes' after) : before.Moves p after := by
  obtain ⟨table, present, filled, distinct⟩ := h.entries laidOut
  obtain ⟨table', present', filled', -⟩ := h'.entries laidOut
  have records := moved.forall₂ (fun _ _ _ made made' => made.unique made') h.records h'.records
  have entries := records.forall₂ (fun _ _ _ made made' => made.unique made') filled filled'
  exact ⟨records, table, table', present, present', entries.map (·.2),
    SlotTable.movedTo_of_rearranged distinct entries⟩

end Compiler

/-- A set stays compiled, position by position, when definitions are added at its end, and another
order of its definitions moves everything along with them. -/
theorem positions_last {names : Namespace} {config : Config} {set : SetConfig}
    (table : set.policy.table) (laidOut : set.policy.layouts) (recipes : List Definition) :
    (∀ extra longer,
      ((Compiler.ofConfig names config).compileSet set (recipes ++ extra)).outcome = .ok longer →
        ∃ shorter, ((Compiler.ofConfig names config).compileSet set recipes).outcome = .ok shorter ∧
          shorter.Grows config.imports.ticksConstant recipes.length longer) ∧
    ∀ p : Equiv.Perm (Fin recipes.length),
      ((∃ after, ((Compiler.ofConfig names config).compileSet set (permuted recipes p)).outcome =
          .ok after) ↔
        ∃ before, ((Compiler.ofConfig names config).compileSet set recipes).outcome = .ok before) ∧
      ∀ before after,
        ((Compiler.ofConfig names config).compileSet set recipes).outcome = .ok before →
        ((Compiler.ofConfig names config).compileSet set (permuted recipes p)).outcome = .ok after →
          before.Moves p after := by
  refine ⟨?_, fun p => ⟨?_, ?_⟩⟩
  · intro extra longer done
    have whole := Compiler.compileSet_eq_ok_iff.1 done
    exact ⟨longer.firstPart recipes.length, Compiler.compileSet_eq_ok_iff.2 whole.firstPart,
      whole.grows table laidOut _⟩
  · rw [Compiler.compiles_iff, Compiler.compiles_iff,
      Compiler.accepts_perm (permuted_rearranged recipes p).perm]
  · intro before after done done'
    exact (Compiler.compileSet_eq_ok_iff.1 done).moves laidOut (permuted_rearranged recipes p)
      (Compiler.compileSet_eq_ok_iff.1 done')

open Compiler Sample in
theorem positions_last_smelting :
    (∃ shorter, ((ofConfig metals {}).compileSet smelting (recipes.take 1)).outcome = .ok shorter ∧
      shorter.Grows "TICKS_PER_SECOND" 1 compiled) ∧
    ∃ after, ((ofConfig metals {}).compileSet smelting recipes.reverse).outcome = .ok after ∧
      compiled.Moves (Equiv.swap 0 1 : Equiv.Perm (Fin 2)) after := by
  have done : ((ofConfig metals {}).compileSet smelting recipes).outcome = .ok compiled := by
    decide +kernel
  refine ⟨?_, ?_⟩
  · exact (positions_last rfl rfl (recipes.take 1)).1 (recipes.drop 1) compiled done
  · have swapped : permuted recipes (Equiv.swap 0 1 : Equiv.Perm (Fin 2)) = recipes.reverse := by
      decide +kernel
    have moved := (@positions_last metals {} smelting rfl rfl recipes).2
      (Equiv.swap 0 1 : Equiv.Perm (Fin 2))
    rw [swapped] at moved
    obtain ⟨after, done'⟩ := moved.1.2 ⟨compiled, done⟩
    exact ⟨after, done', moved.2 compiled after done done'⟩

end Craftbook
