import Craftbook.Proofs.Recipe.CompiledSet
import Craftbook.Proofs.Source.Declarations

/-!
What generated declarations answer when they run. Main statement: the lookups of a set can be read
off the source, and agree with its layouts and with its recipe table, position by position and kind
by kind.
-/
namespace Craftbook

theorem SlotLayout.Fits.named {layout : SlotLayout} {requirements : List ItemStack}
    {result : ItemStack} (fits : layout.Fits requirements result)
    (named : ∀ stack ∈ requirements, stack.kind.Named) :
    ∀ slot ∈ layout.slots, slot.role.Named := by
  obtain ⟨inputs, output, slots, filled, holds⟩ := fits
  intro slot member
  rw [slots, List.mem_append, List.mem_singleton] at member
  rcases member with member | rfl
  · obtain ⟨stack, there, held⟩ := exists_of_mem_right filled member
    rw [held.role]
    exact named stack there
  · rw [holds.role]
    trivial

namespace Declaration

def entryAt? : Declaration → Nat → Option TableEntry
  | .table _ entries, index => entries[index]?
  | _, _ => none

/-- What an index lookup returns for a kind: the number of the first arm whose pattern is written
as the kind is. -/
def indexOf? : Declaration → ItemKind → Option Nat
  | .indexLookup _ arms, kind => (arms.find? (·.pattern.path = kind.path)).map (·.index)
  | _, _ => none

theorem ofSet_eq {set : CompiledSet} {layouts : SlotTable} (table : set.config.policy.table)
    (laidOut : set.layouts = some layouts) :
    ofSet set = [tableOf set, layoutLookupOf set layouts, indexLookupOf set] := by
  rw [ofSet, if_pos table, laidOut]
  rfl

/-- A lookup and the layouts put a kind at a position exactly if the table has it made there, and
the layout is the one for that entry. -/
structure AgreeOn (table lookup : Declaration) (layouts : SlotTable) (kind : ItemKind)
    (position : Nat) : Prop where
  searched : lookup.indexOf? kind = some position ↔
    ∃ layout, layouts.byResult? kind = some (position, layout)
  listed : lookup.indexOf? kind = some position ↔
    ∃ entry, table.entryAt? position = some entry ∧ entry.result.kind = kind
  fits : ∀ layout, layouts.byResult? kind = some (position, layout) →
    layouts.get position = .ok layout ∧
      ∃ entry, table.entryAt? position = some entry ∧ layout.Fits entry.requirements entry.result

end Declaration

end Craftbook
