import Craftbook.Proofs.Recipe.Time
import Craftbook.Proofs.Source.Declarations
import Craftbook.Proofs.Source.ReadBack

/-!
The times in generated source, worked out as they are written. Main statement: every time that is
written has the tick count of its record as its value, and no step on the way overflows.
-/
namespace Craftbook

open Text

namespace Arithmetic

/-- A decimal number, if a text is one. -/
def numeral? (s : List Char) : Option Nat :=
  if s ≠ [] ∧ s.all Char.isDigit then some (Nat.ofDigitChars 10 s 0) else none

/-- Factors and divisors, applied to a value from the left. A quotient loses its fraction; nothing is
divided by zero, and every result has to fit a word. -/
def applied? (value : Nat) : List (List Char) → Option Nat
  | [] => some value
  | ['*'] :: number :: rest => do
    let n ← numeral? number
    if value * n ≤ amountLimit then applied? (value * n) rest else none
  | ['/'] :: number :: rest => do
    let n ← numeral? number
    if n = 0 then none else applied? (value / n) rest
  | _ => none

/-- The value of an expression that begins with a name, given the value of the name. -/
def value? (name : String) (value : Nat) (text : List Char) : Option Nat := do
  match (← name.toList.isPrefixOf? text).splitOn ' ' with
  | [] :: terms => applied? value terms
  | _ => none

theorem numeral?_toDigits (n : Nat) : numeral? (Nat.toDigits 10 n) = some n := by
  have digits : (Nat.toDigits 10 n).all Char.isDigit := by
    rw [← number_toList]
    exact List.all_eq_true.2 (number_isDigit n)
  rw [numeral?, if_pos ⟨Nat.toDigits_ne_nil, digits⟩, Nat.ofDigitChars_ten_toDigits]

theorem isPrefixOf?_append (a b : List Char) : a.isPrefixOf? (a ++ b) = some b :=
  List.isPrefixOf?_eq_some_iff_append_eq.2 rfl

theorem splitOn_term {sign : Char} (other : ' ' ≠ sign) (n : Nat) :
    (' ' :: sign :: ' ' :: Nat.toDigits 10 n).splitOn ' ' = [[], [sign], Nat.toDigits 10 n] := by
  have unbroken : ' ' ∉ Nat.toDigits 10 n := by
    intro member
    rw [← number_toList] at member
    exact absurd (number_isDigit n ' ' member) (by decide)
  have apart : ∀ piece ∈ [[], [sign], Nat.toDigits 10 n], ' ' ∉ piece := by
    simp [unbroken, other]
  have pieces := List.splitOn_intercalate ' ' apart (by simp)
  simpa [List.intercalate, List.intersperse] using pieces

theorem value?_expression {rate ticks : UInt32} {time : CraftTime} (constant : String)
    (counted : time.ticks? rate = some ticks) :
    value? constant rate.toNat (time.expression constant).toList = some ticks.toNat := by
  rw [CraftTime.expression_toList, value?, isPrefixOf?_append]
  simp only [Option.bind_eq_bind, Option.bind_some]
  cases time with
  | base =>
    cases counted
    rfl
  | divided divisor =>
    obtain ⟨nonzero, quotient⟩ := checkedDiv_eq_some_iff.1 counted
    have positive : divisor.toNat ≠ 0 := fun zero => nonzero (UInt32.toNat_inj.1 zero)
    have written : (CraftTime.divided divisor).factor =
        ' ' :: '/' :: ' ' :: Nat.toDigits 10 divisor.toNat := by
      rw [← number_toList]
      rfl
    rw [written, splitOn_term (by decide)]
    simp [applied?, numeral?_toDigits, positive, quotient]
  | multiplied multiplier =>
    have product := checkedMul_eq_some_iff.1 counted
    have fits : rate.toNat * multiplier.toNat ≤ amountLimit := by
      rw [← product]
      exact Nat.le_of_lt_succ ticks.toNat_lt
    have written : (CraftTime.multiplied multiplier).factor =
        ' ' :: '*' :: ' ' :: Nat.toDigits 10 multiplier.toNat := by
      rw [← number_toList]
      rfl
    rw [written, splitOn_term (by decide)]
    simp [applied?, numeral?_toDigits, fits, product]

end Arithmetic

/-- What a line says after the word for a time, if it begins with that. -/
def timeOn? (line : String) : Option (List Char) := "        time: ".toList.isPrefixOf? line.toList

/-- What the time lines among some lines say. -/
def times (lines : List String) : List (List Char) := lines.filterMap timeOn?

/-- The value of a time up to the comma at its end. -/
def timeValue? (constant : String) (rate : Nat) (s : List Char) : Option Nat := do
  Arithmetic.value? constant rate (← ",".toList.isSuffixOf? s)

theorem times_append (a b : List String) : times (a ++ b) = times a ++ times b :=
  List.filterMap_append

theorem times_flatMap (xs : List α) (lines : α → List String) :
    times (xs.flatMap lines) = xs.flatMap fun x => times (lines x) := by
  induction xs with
  | nil => rfl
  | cons x xs ih => rw [List.flatMap_cons, List.flatMap_cons, times_append, ih]

theorem times_eq_nil {lines : List String} (h : ∀ line ∈ lines, timeOn? line = none) :
    times lines = [] :=
  List.filterMap_eq_nil_iff.2 h

theorem timeOn?_append (a b : String) :
    timeOn? (a ++ b) = "        time: ".toList.isPrefixOf? (a.toList ++ b.toList) := by
  rw [timeOn?, String.toList_append]

theorem times_entry (constant : String) (entry : TableEntry) :
    times (entry.lines constant) = [timeText constant entry.time] := by
  have written : entry.lines constant =
    [r"    Recipe {",
      "        requirements: &[" ++ (", ".intercalate (entry.requirements.map (·.expression)) ++ "],"),
      "        result: " ++ (entry.result.expression ++ ","),
      "        time: " ++ (entry.time.expression constant ++ ","),
      r"    },"] := by
    simp only [← String.append_assoc]
    rfl
  have other : ∀ s : List Char,
      "        time: ".toList.isPrefixOf? ("        requirements: &[".toList ++ s) = none ∧
      "        time: ".toList.isPrefixOf? ("        result: ".toList ++ s) = none :=
    fun _ => ⟨rfl, rfl⟩
  simp only [written, times, List.filterMap_cons, timeOn?_append, other,
    Arithmetic.isPrefixOf?_append, String.toList_append]
  rfl

theorem times_slots (slots : List Slot) : times (slots.map LayoutArm.slotLine) = [] := by
  apply times_eq_nil
  intro line member
  obtain ⟨slot, -, rfl⟩ := List.mem_map.1 member
  rw [timeOn?, LayoutArm.slotLine_toList]
  rfl

theorem times_layoutArm (arm : LayoutArm) : times arm.lines = [] := by
  have written : arm.lines =
    ["        " ++ (toString arm.index ++ r" => {"), "            const SLOTS: &[SlotMeta] = &["] ++
      arm.slots.map LayoutArm.slotLine ++ ["            ];", "            SLOTS", r"        }"] := by
    simp only [← String.append_assoc]
    rfl
  -- A number stands where the word for a time has its first letter.
  have number : timeOn? ("        " ++ (toString arm.index ++ r" => {")) = none := by
    obtain ⟨first, rest, digits, digit⟩ := number_begins arm.index
    have other : ('t' == first) = false := by
      rw [beq_eq_false_iff_ne]
      rintro rfl
      cases digit
    rw [timeOn?_append, String.toList_append, digits]
    simp [List.isPrefixOf?, other]
  rw [written, times_append, times_append, times_slots, times, List.filterMap_cons, number]
  rfl

theorem timeOn?_indexArm (arm : IndexArm) : timeOn? arm.line = none := by
  rw [timeOn?, IndexArm.line_toList, ItemKind.path_toList]
  rfl

theorem times_of_table (constant name : String) (entries : List TableEntry) :
    times ((Declaration.table name entries).lines constant) =
      entries.map fun entry => timeText constant entry.time := by
  have opening : timeOn? s!"pub const {name}: &[Recipe] = &[" = none := by
    simp only [timeOn?, String.toList_append, List.append_assoc]
    rfl
  have closing : times ["];"] = [] := rfl
  simp only [Declaration.lines, times_append, times_flatMap, times_entry, closing,
    List.append_nil, List.map_eq_flatMap]
  simp only [times, List.filterMap_cons, opening, List.filterMap_nil, List.nil_append]

theorem times_of_layoutLookup (constant name : String) (arms : List LayoutArm) :
    times ((Declaration.layoutLookup name arms).lines constant) = [] := by
  have opening :
      timeOn? ("pub fn " ++ name ++ r"(index: usize) -> &'static [SlotMeta] {") = none := by
    simp only [timeOn?, String.toList_append, List.append_assoc]
    rfl
  have filled : times (arms.flatMap LayoutArm.lines) = [] := by
    simp [times_flatMap, times_layoutArm]
  rw [Declaration.lines, times_append, times_append, filled]
  simp only [times, List.filterMap_cons, opening]
  rfl

theorem times_of_indexLookup (constant name : String) (arms : List IndexArm) :
    times ((Declaration.indexLookup name arms).lines constant) = [] := by
  have opening :
      timeOn? ("pub fn " ++ name ++ r"(result: ItemKind) -> Option<usize> {") = none := by
    simp only [timeOn?, String.toList_append, List.append_assoc]
    rfl
  have filled : times (arms.map IndexArm.line) = [] := by
    apply times_eq_nil
    simp [timeOn?_indexArm]
  rw [Declaration.lines, times_append, times_append, filled]
  simp only [times, List.filterMap_cons, opening]
  rfl

/-- The records that are written: those of the sets with a table. -/
def CompiledSet.written (set : CompiledSet) : List Record :=
  if set.config.policy.table then set.records else []

theorem times_ofSet (constant : String) (set : CompiledSet) :
    times ((Declaration.ofSet set).flatMap (·.lines constant)) =
      set.written.map fun record => timeText constant record.time := by
  have table : times ((if set.config.policy.table then [Declaration.tableOf set] else []).flatMap
      (·.lines constant)) = set.written.map fun record => timeText constant record.time := by
    unfold CompiledSet.written
    split
    · simp [Declaration.tableOf, times_of_table, TableEntry.ofRecord]
    · rfl
  rw [Declaration.ofSet, List.flatMap_append, times_append, table, List.append_right_eq_self]
  cases set.layouts with
  | none => rfl
  | some layouts =>
    simp [times_append, Declaration.layoutLookupOf, Declaration.indexLookupOf,
      times_of_layoutLookup, times_of_indexLookup]

namespace SourceFile

theorem times_lines (imports : Imports) (sets : List CompiledSet) :
    times (ofSets imports sets).lines =
      (sets.flatMap CompiledSet.written).map
        fun record => timeText imports.ticksConstant record.time := by
  have above : times header = [] := rfl
  have used : times ((importsFor imports sets).map fun path => s!"use {path};") = [] := by
    apply times_eq_nil
    intro line member
    obtain ⟨path, -, rfl⟩ := List.mem_map.1 member
    simp only [timeOn?, String.toList_append, List.append_assoc]
    rfl
  have blank : ∀ lines, times ("" :: lines) = times lines := fun _ => rfl
  have declared : times ((sets.flatMap Declaration.ofSet).flatMap fun declaration =>
      "" :: declaration.lines imports.ticksConstant) =
        sets.flatMap fun set => times ((Declaration.ofSet set).flatMap (·.lines imports.ticksConstant)) := by
    simp only [times_flatMap, blank, List.flatMap_assoc]
  rw [lines, times_append, times_append, above, ofSets, used, declared]
  simp only [times_ofSet, List.nil_append, List.map_flatMap]

end SourceFile

/-- What holds of a form and a tick count that are accepted together. -/
structure Quantizer.Accepted (q : Quantizer) (time : CraftTime) (ticks : UInt32) : Prop where
  rate : 0 < q.rate.toNat
  inRange : 1 ≤ ticks.toNat ∧ ticks.toNat ≤ amountLimit
  proper : time.Proper
  counted : time.ticks? q.rate = some ticks
  value : ∀ constant,
    Arithmetic.value? constant q.rate.toNat (time.expression constant).toList = some ticks.toNat

theorem Quantizer.accepted_of_quantize {q : Quantizer} {recipe : String} {seconds : Binary64}
    {time : CraftTime} {ticks : UInt32} (h : q.quantize recipe seconds = .ok (time, ticks)) :
    q.Accepted time ticks := by
  obtain ⟨-, counted, positive, -⟩ := quantize_eq_ok_iff.1 h
  obtain ⟨rate, proper⟩ := CraftTime.proper_of_ticks counted positive
  exact ⟨rate, ⟨positive, Nat.le_of_lt_succ ticks.toNat_lt⟩, proper, counted,
    fun constant => Arithmetic.value?_expression constant counted⟩

theorem timeValue?_timeText {rate ticks : UInt32} {time : CraftTime} (constant : String)
    (counted : time.ticks? rate = some ticks) :
    timeValue? constant rate.toNat (timeText constant time) = some ticks.toNat := by
  have comma : ",".toList.isSuffixOf? (timeText constant time) =
      some (time.expression constant).toList := by
    simp [timeText, List.isSuffixOf?, List.isPrefixOf?]
  rw [timeValue?, comma]
  exact Arithmetic.value?_expression constant counted

/-- The times that a pass writes, and the tick counts of the records that they are written for. -/
theorem timeValues_eq {book : Book} {names : Namespace} {config : Config}
    {sets : List CompiledSet} (done : (Pass.compile book names config).outcome = .ok sets) :
    (times (SourceFile.ofSets config.imports sets).lines).map
        (timeValue? config.imports.ticksConstant config.rate.toNat) =
      (sets.flatMap CompiledSet.written).map fun record => some record.ticks.toNat := by
  have compiled := (Pass.compile_eq_ok_iff.1 done).2
  rw [SourceFile.times_lines, List.map_map]
  apply List.map_congr_left
  intro record member
  obtain ⟨set, there, written⟩ := List.mem_flatMap.1 member
  obtain ⟨configured, -, ofSet⟩ := exists_of_mem_right compiled there
  have kept : record ∈ set.records := by
    unfold CompiledSet.written at written
    split at written
    · exact written
    · cases written
  exact timeValue?_timeText config.imports.ticksConstant (ofSet.counted record kept)

/-- An accepted duration has a positive tick count, and the form that is written for it evaluates to
that count without overflow. So does every time in the source of a pass. -/
theorem times_evaluate :
    (∀ (q : Quantizer) recipe seconds time ticks,
      q.quantize recipe seconds = .ok (time, ticks) → q.Accepted time ticks) ∧
    ∀ book names config text, (Pass.source book names config).outcome = .ok text →
      ∃ sets, (Pass.compile book names config).outcome = .ok sets ∧
        (SourceFile.ofSets config.imports sets).render = text ∧
        (times (SourceFile.ofSets config.imports sets).lines).map
            (timeValue? config.imports.ticksConstant config.rate.toNat) =
          (sets.flatMap CompiledSet.written).map fun record => some record.ticks.toNat := by
  refine ⟨fun _ _ _ _ _ => Quantizer.accepted_of_quantize, ?_⟩
  intro book names config text written
  obtain ⟨sets, done, rendered⟩ := Pass.source_eq_ok_iff.1 written
  exact ⟨sets, done, rendered, timeValues_eq done⟩

open Compiler.Sample Pass.Sample in
theorem times_evaluate_smelting :
    (∃ time ticks, (Compiler.ofConfig metals settings).quantizer.quantize "IronPlate" 2 =
        .ok (time, ticks) ∧
      (Compiler.ofConfig metals settings).quantizer.Accepted time ticks) ∧
    (Pass.source (book recipes) metals settings).outcome = .ok Pass.Sample.text ∧
    ∃ sets, (Pass.compile (book recipes) metals settings).outcome = .ok sets ∧
      (SourceFile.ofSets settings.imports sets).render = Pass.Sample.text ∧
      (times (SourceFile.ofSets settings.imports sets).lines).map
          (timeValue? settings.imports.ticksConstant settings.rate.toNat) =
        (sets.flatMap CompiledSet.written).map fun record => some record.ticks.toNat := by
  have quantized : (Compiler.ofConfig metals settings).quantizer.quantize "IronPlate" 2 =
    .ok (.multiplied 2, 120) := by decide +kernel
  have done : (Pass.compile (book recipes) metals settings).outcome = .ok [compiled] := by
    decide +kernel
  have written := Pass.source_eq_ok_iff.2 ⟨_, done, rfl⟩
  exact ⟨⟨_, _, quantized, times_evaluate.1 _ _ _ _ _ quantized⟩, written,
    times_evaluate.2 _ _ _ _ written⟩

end Craftbook
