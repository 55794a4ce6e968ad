import Craftbook.Config.Basic
import Craftbook.Schema.Reading

/-!
The configuration file. Every field but a set's key and constant has a default of its own.
-/
namespace Craftbook.Schema

def importPaths : Reader Imports Imports where
  fields :=
    [ .of "items" text fun imports path => { imports with items := path },
      .of "recipe" text fun imports path => { imports with recipe := path },
      .of "slots" text fun imports path => { imports with slots := path },
      .of "ticks" text fun imports path => { imports with ticks := path },
      .of "structure_kind" text fun imports path => { imports with structureKind := path },
      .of "voxel" text fun imports path => { imports with voxel := path } ]
  blank := {}
  finish _ imports := .ok imports

structure SetDraft where
  key : Option String := none
  constant : Option String := none
  table : Option Bool := none
  layouts : Option Bool := none
  layoutFunction : Option String := none
  indexFunction : Option String := none

def setConfig : Reader SetDraft SetConfig where
  fields :=
    [ .of "key" text fun draft name => { draft with key := some name },
      .of "const_name" text fun draft name => { draft with constant := some name },
      .of "emit_table" boolean fun draft b => { draft with table := some b },
      .of "emit_slot_layout" boolean fun draft b => { draft with layouts := some b },
      .of "layout_fn" text fun draft name => { draft with layoutFunction := some name },
      .of "index_fn" text fun draft name => { draft with indexFunction := some name } ]
  blank := {}
  finish missing draft := do
    let key ← required (missing 0 "key") draft.key
    let constant ← required (missing 1 "const_name") draft.constant
    let set : SetConfig := { key, constant }
    return { set with
      policy := ⟨draft.table.getD set.policy.table, draft.layouts.getD set.policy.layouts⟩
      layoutFunction := draft.layoutFunction.getD set.layoutFunction
      indexFunction := draft.indexFunction.getD set.indexFunction }

def config : Reader Config Config where
  fields :=
    [ .of "ticks_per_second" word fun config rate => { config with rate },
      .of "time_tolerance" float fun config tolerance => { config with tolerance },
      .of "sets" (sequence (setConfig.ofValue .set)) fun config sets => { config with sets },
      .of "imports" (importPaths.ofValue .imports) fun config imports => { config with imports } ]
  blank := {}
  finish _ config := .ok config

end Craftbook.Schema
