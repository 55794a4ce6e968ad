import Craftbook.Source.File

/-!
The text of the generated source, line by line.
-/
namespace Craftbook

def ItemStack.expression (stack : ItemStack) : String :=
  s!"Item::new({stack.kind.path}, {stack.amount})"

def SlotRole.expression : SlotRole → String
  | .input filter => r"SlotKind::Input { filter: Filter::ItemKind(" ++ filter.path ++ r") }"
  | .output => "SlotKind::Output"

namespace TableEntry

def lines (ticksConstant : String) (entry : TableEntry) : List String :=
  let requirements := ", ".intercalate (entry.requirements.map (·.expression))
  [ r"    Recipe {",
    s!"        requirements: &[{requirements}],",
    s!"        result: {entry.result.expression},",
    s!"        time: {entry.time.expression ticksConstant},",
    r"    }," ]

end TableEntry

namespace LayoutArm

def slotLine (slot : Slot) : String :=
  s!"                SlotMeta::new({slot.capacity}, {slot.role.expression}),"

def lines (arm : LayoutArm) : List String :=
  [ "        " ++ toString arm.index ++ r" => {",
    "            const SLOTS: &[SlotMeta] = &[" ] ++
  arm.slots.map slotLine ++
  [ "            ];",
    "            SLOTS",
    r"        }" ]

end LayoutArm

namespace IndexArm

def line (arm : IndexArm) : String := s!"        {arm.pattern.path} => Some({arm.index}),"

end IndexArm

namespace Declaration

def lines (ticksConstant : String) : Declaration → List String
  | .table name entries =>
    [s!"pub const {name}: &[Recipe] = &["] ++ entries.flatMap (·.lines ticksConstant) ++ ["];"]
  | .layoutLookup name arms =>
    [ "pub fn " ++ name ++ r"(index: usize) -> &'static [SlotMeta] {",
      r"    match index {" ] ++
    arms.flatMap LayoutArm.lines ++
    [ "        _ => unreachable!(),",
      r"    }",
      r"}" ]
  | .indexLookup name arms =>
    [ "#[allow(unreachable_patterns)]",
      "pub fn " ++ name ++ r"(result: ItemKind) -> Option<usize> {",
      r"    match result {" ] ++
    arms.map IndexArm.line ++
    [ "        _ => None,",
      r"    }",
      r"}" ]

end Declaration

namespace SourceFile

def header : List String :=
  [ "//",
    "//",
    "//",
    "// AUTO GENERATED CODE",
    "// Regenerate with `recipe-codegen` after editing `data/recipes.toml`",
    "//",
    "//",
    "//" ]

/-- The lines of the file; a blank line stands before each declaration. -/
def lines (file : SourceFile) : List String :=
  header ++ file.imports.map (fun path => s!"use {path};") ++
    file.declarations.flatMap fun declaration => "" :: declaration.lines file.ticksConstant

def render (file : SourceFile) : String := String.join (file.lines.map (· ++ "\n"))

end SourceFile

end Craftbook
