import Craftbook.Proofs.Pass.Outcome

/-!
Passes over different books. Main statement: a set is compiled from its own definitions alone, so
books that agree on it have it compiled to the same, and what else they hold makes no difference.
-/
namespace Craftbook

theorem Compiler.SetOf.unique {c : Compiler} {set : SetConfig} {recipes : List Definition}
    {a b : CompiledSet} (ha : c.SetOf set recipes a) (hb : c.SetOf set recipes b) : a = b :=
  Except.ok.inj ((compileSet_eq_ok_iff.2 ha).symm.trans (compileSet_eq_ok_iff.2 hb))

namespace Pass

/-- Two books hold the same under the keys of some sets. -/
def AgreeOn (sets : List SetConfig) (a b : Book) : Prop :=
  ∀ set ∈ sets, a.get? set.key = b.get? set.key

instance (sets : List SetConfig) (a b : Book) : Decidable (AgreeOn sets a b) :=
  inferInstanceAs (Decidable (∀ set ∈ sets, a.get? set.key = b.get? set.key))

theorem compile_congr {names : Namespace} {config : Config} {a b : Book}
    (agree : AgreeOn config.sets a b) :
    (compile a names config).outcome = (compile b names config).outcome := by
  have sets : (config.sets.mapM fun set =>
        ((Compiler.ofConfig names config).compileSet set (recipesOf a set)).outcome) =
      config.sets.mapM fun set =>
        ((Compiler.ofConfig names config).compileSet set (recipesOf b set)).outcome := by
    apply mapM_congr
    intro set member
    rw [recipesOf, recipesOf, agree set member]
  rw [compile_outcome, compile_outcome, sets]

theorem source_congr {names : Namespace} {config : Config} {a b : Book}
    (agree : AgreeOn config.sets a b) :
    (source a names config).outcome = (source b names config).outcome := by
  rw [source_outcome, source_outcome, compile_congr agree]

/-- What two passes compile for one set, each from its own book: the same if the books agree on it. -/
def SameWhereAgreed (a b : Book) (x y : CompiledSet) : Prop :=
  x.config = y.config ∧ (a.get? x.config.key = b.get? x.config.key → x = y)

theorem compiled_where_agreed {names : Namespace} {config : Config} {a b : Book}
    {as bs : List CompiledSet} (ha : (compile a names config).outcome = .ok as)
    (hb : (compile b names config).outcome = .ok bs) :
    List.Forall₂ (SameWhereAgreed a b) as bs := by
  apply forall₂_of_left (compile_eq_ok_iff.1 ha).2 (compile_eq_ok_iff.1 hb).2
  intro set x y ofSet ofSet'
  refine ⟨ofSet.config.trans ofSet'.config.symm, fun agreed => ?_⟩
  rw [ofSet.config] at agreed
  rw [recipesOf, agreed] at ofSet
  exact ofSet.unique ofSet'

/-- Sets do not interfere: books that agree on the configured sets have the same outcome, whatever
else they hold and in whatever order; and of books that both compile, each set on which they agree is
compiled to the same, whatever the other sets are. -/
theorem sets_independent (names : Namespace) (config : Config) (a b : Book) :
    (AgreeOn config.sets a b →
      (compile a names config).outcome = (compile b names config).outcome ∧
      (source a names config).outcome = (source b names config).outcome) ∧
    ∀ as bs, (compile a names config).outcome = .ok as →
      (compile b names config).outcome = .ok bs →
        as.map (·.config) = config.sets ∧ List.Forall₂ (SameWhereAgreed a b) as bs := by
  refine ⟨fun agree => ⟨compile_congr agree, source_congr agree⟩, fun as bs ha hb => ⟨?_, ?_⟩⟩
  · exact Compiler.SetOf.configs_eq (compile_eq_ok_iff.1 ha).2
  · exact compiled_where_agreed ha hb

namespace Sample

open Compiler.Sample

def stations : Config := { sets := [smelting, { key := "pressing", constant := "PRESSING" }] }

def pressed (amount : Int) : List Definition := [⟨"IronPlate", [⟨"IronOre", 1⟩], amount, 1⟩]

/-- The sets of the stations, the second with plates in a given amount. -/
def stocked (amount : Int) : Book :=
  ⟨[("smelting", recipes), ("pressing", pressed amount)], by simp⟩

/-- A set that no station has, with a recipe for nothing known, before the others. -/
def cluttered : Book :=
  ⟨[("scrap", [⟨"?", [], 0, 0⟩]), ("pressing", pressed 1), ("smelting", recipes)], by decide⟩

def plates (amount : UInt32) : CompiledSet :=
  ⟨{ key := "pressing", constant := "PRESSING" },
    [⟨[⟨ore, 1⟩], ⟨plate, amount⟩, .base, 60⟩], none⟩

end Sample

open Compiler.Sample Sample in
theorem sets_independent_stations :
    (AgreeOn stations.sets cluttered (stocked 1) ∧
      (compile cluttered metals stations).outcome = (compile (stocked 1) metals stations).outcome ∧
      (source cluttered metals stations).outcome = (source (stocked 1) metals stations).outcome) ∧
    (compile (stocked 1) metals stations).outcome = .ok [compiled, plates 1] ∧
    (compile (stocked 2) metals stations).outcome = .ok [compiled, plates 2] ∧
    [compiled, plates 1].map (·.config) = stations.sets ∧
    List.Forall₂ (SameWhereAgreed (stocked 1) (stocked 2))
      [compiled, plates 1] [compiled, plates 2] := by
  have agree : AgreeOn stations.sets cluttered (stocked 1) := by decide +kernel
  have one : (compile (stocked 1) metals stations).outcome = .ok [compiled, plates 1] := by
    decide +kernel
  have two : (compile (stocked 2) metals stations).outcome = .ok [compiled, plates 2] := by
    decide +kernel
  exact ⟨⟨agree, (sets_independent metals stations cluttered (stocked 1)).1 agree⟩, one, two,
    (sets_independent metals stations (stocked 1) (stocked 2)).2 _ _ one two⟩

end Pass

end Craftbook
