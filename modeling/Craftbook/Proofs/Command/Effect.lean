import Craftbook.Command.Run
import Craftbook.Proofs.Files.Write

/-!
What a run of the command does to the files. Main statement: only a run that writes and succeeds
changes anything, which is the output file alone; and the check that follows it finds the file up to
date.
-/
namespace Craftbook

namespace FileView
variable {view view' : FileView}

/-- What is read in the first view is read in the second. -/
def Follows (view view' : FileView) (path : String) : Prop :=
  ∀ text, view path = .ok text → view' path = .ok text

namespace Follows

theorem read {path text : String} (follows : Follows view view' path)
    (h : (view.read path).outcome = .ok text) : (view'.read path).outcome = .ok text := by
  rw [FileView.read, Traced.outcome_ofExcept, mapError_eq_ok_iff] at h ⊢
  exact follows text h

/-- What is made of a file that was read is made of it again. -/
theorem bind {path : String} {next : String → Traced LoadError α} {a : α}
    (follows : Follows view view' path) (h : (view.read path >>= next).outcome = .ok a) :
    (view'.read path >>= next).outcome = .ok a := by
  rw [Traced.outcome_bind, bind_eq_ok_iff] at h ⊢
  obtain ⟨text, given, made⟩ := h
  exact ⟨text, follows.read given, made⟩

theorem generate {directory text : String} {config : Config}
    (items : Follows view view' (Path.join directory itemsFile))
    (recipes : Follows view view' (Path.join directory recipesFile))
    (h : (view.generate directory config).outcome = .ok text) :
    (view'.generate directory config).outcome = .ok text := by
  simp only [FileView.generate, Traced.outcome_bind, bind_eq_ok_iff] at h ⊢
  obtain ⟨names, known, book, loaded, compiled⟩ := h
  exact ⟨names, items.bind known, book, recipes.bind loaded, compiled⟩

theorem config {path : Option String} {config : Config}
    (follows : ∀ p ∈ path, Follows view view' p) (h : (view.config path).outcome = .ok config) :
    (view'.config path).outcome = .ok config := by
  cases path with
  | none => exact h
  | some path => exact (follows path rfl).bind h

end Follows

end FileView

namespace Command
open FileSystem

/-- The files that a run reads before it compares or writes. -/
def Options.inputs (options : Options) : List String :=
  options.config.toList ++
    [Path.join options.data itemsFile, Path.join options.data recipesFile]

/-- The configuration loads, and the data directory compiles to a text under it. -/
def Generates (view : FileView) (options : Options) (text : String) : Prop :=
  ∃ config, (view.config options.config).outcome = .ok config ∧
    (view.generate options.data config).outcome = .ok text

/-- What a run answers: whether all is as it was asked for, unless it failed. -/
def Result.answer : Result → Except Failure Bool
  | .printed _ | .written | .upToDate _ => .ok true
  | .stale _ => .ok false
  | .failed failure => .error failure

variable {view view' : FileView} {conduct : Conduct} {fs : FileSystem} {options : Options}
variable {out text : String}

theorem source_eq_ok_iff :
    (source view options).outcome = .ok text ↔ Generates view options text := by
  simp only [source, Generates, Traced.outcome_bind, bind_eq_ok_iff, Traced.outcome_mapError,
    mapError_eq_ok_iff]

/-- A text depends on the files only that are read for it. -/
theorem Generates.of_follows (h : Generates view options text)
    (follows : ∀ path ∈ options.inputs, FileView.Follows view view' path) :
    Generates view' options text := by
  obtain ⟨config, loaded, generated⟩ := h
  refine ⟨config, FileView.Follows.config ?_ loaded, FileView.Follows.generate ?_ ?_ generated⟩
  · intro path given
    apply follows
    simp [Options.inputs, Option.mem_def.1 given]
  · apply follows
    simp [Options.inputs]
  · apply follows
    simp [Options.inputs]

theorem run_of_error {failure : Failure}
    (failed : (source fs.read options).outcome = .error failure) :
    run conduct fs options = (fs, .failed failure) := by
  rw [run, plan, failed]

theorem run_print (generated : Generates fs.read options text) (given : options.target = .print) :
    run conduct fs options = (fs, .printed text) := by
  rw [run, plan, source_eq_ok_iff.2 generated, given]

theorem run_check (generated : Generates fs.read options text)
    (given : options.target = .check out) :
    run conduct fs options = (fs, compare fs.read out text) := by
  rw [run, plan, source_eq_ok_iff.2 generated, given]

theorem run_write (generated : Generates fs.read options text)
    (given : options.target = .write out) :
    run conduct fs options =
      ((conduct.writeAtomic fs out text).1,
        .ofWrite out (conduct.writeAtomic fs out text).2.outcome) := by
  rw [run, plan, source_eq_ok_iff.2 generated, given]

/-- A run whose text is not to be had fails. -/
theorem generates_of_answer {answer : Bool}
    (answered : (run conduct fs options).2.answer = .ok answer) :
    ∃ text, Generates fs.read options text := by
  cases made : (source fs.read options).outcome with
  | ok text => exact ⟨text, source_eq_ok_iff.1 made⟩
  | error failure =>
    rw [run_of_error made] at answered
    cases answered

theorem Result.answer_ofWrite (written : Except LoadError Unit) :
    (Result.ofWrite out written).answer = .ok true ↔ written = .ok () := by
  cases written <;> simp [ofWrite, answer]

theorem run_unchanged
    (h : (run conduct fs options).2.answer ≠ .ok true ∨ ∀ out, options.target ≠ .write out) :
    (run conduct fs options).1 = fs := by
  cases made : (source fs.read options).outcome with
  | error failure => rw [run_of_error made]
  | ok text =>
    rw [source_eq_ok_iff] at made
    cases given : options.target with
    | print => rw [run_print made given]
    | check out => rw [run_check made given]
    | write out =>
      have unanswered := h.resolve_right fun other => other out given
      rw [run_write made given, ne_eq, Result.answer_ofWrite] at unanswered
      rw [run_write made given]
      cases written : (conduct.writeAtomic fs out text).2.outcome with
      | ok => exact absurd written unanswered
      | error => exact Conduct.writeAtomic_error written

theorem run_replaces (given : options.target = .write out)
    (answered : (run conduct fs options).2.answer = .ok true) :
    ∃ text place, Generates fs.read options text ∧ fs.locate out = .ok place ∧
      Replaced fs (run conduct fs options).1 place text.toUTF8 := by
  obtain ⟨text, generated⟩ := generates_of_answer answered
  rw [run_write generated given, Result.answer_ofWrite] at answered
  obtain ⟨target, place, -, fits, same⟩ := Conduct.writeAtomic_ok answered
  rw [run_write generated given, same]
  exact ⟨text, place, generated, fits.locate, fits.replaced _⟩

theorem answer_compare (answer : Bool) :
    (compare view out text).answer = .ok answer ↔ view.isUpToDate out text = .ok answer := by
  rw [compare]
  split <;> simp_all [Result.answer]

theorem check_answers_iff (given : options.target = .check out) (answer : Bool) :
    (run conduct fs options).2.answer = .ok answer ↔
      ∃ text, Generates fs.read options text ∧
        FileView.isUpToDate fs.read out text = .ok answer := by
  constructor
  · intro answered
    obtain ⟨text, generated⟩ := generates_of_answer answered
    rw [run_check generated given, answer_compare] at answered
    exact ⟨text, generated, answered⟩
  · rintro ⟨text, generated, compared⟩
    rw [run_check generated given, answer_compare, compared]

/-- The same command with checking. -/
def Options.checking (options : Options) (out : String) : Options :=
  { options with target := .check out }

/-- What a run has written is up to date, unless that changed what it was made from. -/
theorem check_of_replaced {after : FileSystem} {place : Place}
    (generated : Generates fs.read options text) (located : fs.locate out = .ok place)
    (replaced : Replaced fs after place text.toUTF8)
    (apart : ∀ path ∈ options.inputs, fs.locate path ≠ fs.locate out) :
    run conduct after (options.checking out) = (after, .upToDate out) := by
  have again : Generates after.read (options.checking out) text := by
    apply generated.of_follows
    intro path input text given
    exact replaced.read_elsewhere (located ▸ apart path input) given
  rw [run_check again rfl, compare, FileView.isUpToDate_eq_true_iff.2]
  exact replaced.readBytes_here located

/-- A run that writes succeeds exactly if there is a text, nothing is refused and the output file may
be put at its path. -/
theorem write_answers_iff (given : options.target = .write out) :
    (run conduct fs options).2.answer = .ok true ↔
      (∃ text, Generates fs.read options text) ∧ conduct.Allows fs out ∧
        ∃ target place, fs.Fits out target place := by
  constructor
  · intro answered
    obtain ⟨text, generated⟩ := generates_of_answer answered
    rw [run_write generated given, Result.answer_ofWrite, Conduct.writeAtomic_eq_ok_iff] at answered
    exact ⟨⟨text, generated⟩, answered⟩
  · rintro ⟨⟨text, generated⟩, possible⟩
    rw [run_write generated given, Result.answer_ofWrite]
    exact Conduct.writeAtomic_eq_ok_iff.2 possible

/-- A run touches nothing but the output file, and that only to write it with success, whatever the
system refuses: it then holds exactly the generated text. A check tells whether the output file holds
that text; it is so after a run that wrote it, if the output file is none of the files that the run
read. -/
theorem output_alone_written (conduct : Conduct) (fs : FileSystem) (options : Options) :
    ((run conduct fs options).2.answer ≠ .ok true ∨ (∀ out, options.target ≠ .write out) →
      (run conduct fs options).1 = fs) ∧
    (∀ out, options.target = .write out →
      ((run conduct fs options).2.answer = .ok true ↔
        (∃ text, Generates fs.read options text) ∧ conduct.Allows fs out ∧
          ∃ target place, fs.Fits out target place) ∧
      ((run conduct fs options).2.answer = .ok true →
        ∃ text place, Generates fs.read options text ∧ fs.locate out = .ok place ∧
          Replaced fs (run conduct fs options).1 place text.toUTF8 ∧
          (run conduct fs options).1.readBytes out = .ok text.toUTF8 ∧
          ((∀ path ∈ options.inputs, fs.locate path ≠ fs.locate out) →
            ∀ later, run later (run conduct fs options).1 (options.checking out) =
              ((run conduct fs options).1, .upToDate out)))) ∧
    ∀ out, options.target = .check out →
      ((run conduct fs options).2.answer = .ok true ↔
        ∃ text, Generates fs.read options text ∧ fs.readBytes out = .ok text.toUTF8) ∧
      ((run conduct fs options).2.answer = .ok false ↔
        ∃ text, Generates fs.read options text ∧
          (fs.Missing out ∨ ∃ other, other ≠ text ∧ fs.readBytes out = .ok other.toUTF8)) := by
  refine ⟨run_unchanged, ?_, ?_⟩
  · intro out given
    refine ⟨write_answers_iff given, fun answered => ?_⟩
    obtain ⟨text, place, generated, located, replaced⟩ := run_replaces given answered
    exact ⟨text, place, generated, located, replaced, replaced.readBytes_here located,
      fun apart later => check_of_replaced generated located replaced apart⟩
  · intro out given
    simp only [check_answers_iff given, FileView.isUpToDate_eq_true_iff,
      FileView.isUpToDate_eq_false_iff, readBytes_eq_notFound_iff, and_self]

namespace Sample

def itemsText : String := "items = [\"Clay\", \"Brick\"]\n"

def recipesText : String := "[recipes.Brick]\nrequirements = [[\"Clay\", 2]]\ntime = 1\n"

/-- A data directory, the output file of an earlier run and the working directory, side by side. -/
def workshop : FileSystem :=
  ⟨⟨["workshop", "tools"]⟩, [("workshop", .directory [("tools", .directory []),
    ("data.rs", .file "// old\n".toUTF8), ("data", .directory
      [("items.toml", .file itemsText.toUTF8), ("recipes.toml", .file recipesText.toUTF8)])])]⟩

/-- The data directory alone. -/
def texts : FileView
  | "/workshop/data/items.toml" => .ok itemsText
  | "/workshop/data/recipes.toml" => .ok recipesText
  | _ => .error .notFound

def writing : Options := ⟨"/workshop/data", none, .write "../data.rs"⟩

/-- No file may be made. -/
def guarded : Conduct := { Conduct.usual with create := some (.other "Permission denied") }

theorem locate_items : workshop.locate "/workshop/data/items.toml" =
    .ok ⟨["workshop", "data", "items.toml"]⟩ := by
  rw [locate_eq_ok_iff, Path.accept_eq_ok_iff]
  exact ⟨⟨by decide +kernel, by decide +kernel, by decide⟩, by decide +kernel⟩

theorem locate_recipes : workshop.locate "/workshop/data/recipes.toml" =
    .ok ⟨["workshop", "data", "recipes.toml"]⟩ := by
  rw [locate_eq_ok_iff, Path.accept_eq_ok_iff]
  exact ⟨⟨by decide +kernel, by decide +kernel, by decide⟩, by decide +kernel⟩

theorem workshop_follows (path : String) : FileView.Follows texts workshop.read path := by
  intro text given
  rw [read_eq_ok_iff, readBytes_eq_ok_iff]
  unfold texts at given
  split at given
  · cases given
    exact ⟨_, locate_items, rfl⟩
  · cases given
    exact ⟨_, locate_recipes, rfl⟩
  · cases given

theorem workshop_generates : ∃ text, Generates workshop.read writing text := by
  have made : (source texts writing).outcome.toOption.isSome = true := by decide +kernel
  obtain ⟨text, same⟩ := Option.isSome_iff_exists.1 made
  rw [toOption_eq_some_iff, source_eq_ok_iff] at same
  exact ⟨text, same.of_follows fun path _ => workshop_follows path⟩

theorem workshop_fits : workshop.Fits "../data.rs" ⟨⟨["workshop"]⟩, "data.rs", false⟩
    ⟨["workshop", "data.rs"]⟩ := by
  refine ⟨?_, by decide, rfl, by decide, ?_⟩
  · rw [target_eq_ok_iff, Path.accept_eq_ok_iff]
    exact ⟨⟨["workshop"]⟩, _, ⟨by decide +kernel, by decide +kernel, by decide⟩, by decide +kernel,
      rfl, by decide +kernel⟩
  · intro blocked
    cases blocked

theorem workshop_allows : Conduct.usual.Allows workshop "../data.rs" := by
  have above : Path.directoryOf "../data.rs" = ".." := by
    simp [Path.directoryOf, Path.parent?, Path.dropTrailing]
  have whole : workshop.temporaryPath ".." = "/workshop/tools/../.tmp000000" := by decide +kernel
  refine ⟨rfl, rfl, rfl, ?_⟩
  rw [above, whole, Path.accept_eq_ok_iff]
  exact ⟨by decide +kernel, by decide +kernel, by decide⟩

end Sample

open Sample in
theorem output_alone_written_workshop :
    (run .usual workshop writing).2.answer = .ok true ∧
    run .usual (run .usual workshop writing).1 (writing.checking "../data.rs") =
      ((run .usual workshop writing).1, .upToDate "../data.rs") ∧
    (run .usual workshop (writing.checking "../data.rs")).1 = workshop ∧
    (run guarded workshop writing).1 = workshop := by
  have unread : ∀ path ∈ writing.inputs, workshop.locate path ≠ workshop.locate "../data.rs" := by
    have inputs : writing.inputs =
        ["/workshop/data/items.toml", "/workshop/data/recipes.toml"] := by decide +kernel
    rw [inputs, workshop_fits.locate]
    simp [locate_items, locate_recipes]
  obtain ⟨-, written, -⟩ := output_alone_written .usual workshop writing
  obtain ⟨answers, effect⟩ := written _ rfl
  have answered := answers.2 ⟨workshop_generates, workshop_allows, _, _, workshop_fits⟩
  obtain ⟨_, _, _, _, _, _, checked⟩ := effect answered
  refine ⟨answered, checked unread .usual, ?_, ?_⟩
  · exact (output_alone_written .usual workshop (writing.checking "../data.rs")).1 (.inr nofun)
  · obtain ⟨unchanged, refused, -⟩ := output_alone_written guarded workshop writing
    refine unchanged (.inl fun answered => ?_)
    cases ((refused _ rfl).1.1 answered).2.1.create

end Command

end Craftbook
