import Craftbook.Binary64.Rounding
import Craftbook.Binary64.Basic
import Craftbook.Binary64.Decimal
import Craftbook.Text.Blank
import Craftbook.Text.Quoted
import Craftbook.Error.Compile
import Craftbook.Item.Kind
import Craftbook.Recipe.Time
import Craftbook.Log.Event
import Craftbook.Log.Traced
import Craftbook.Config.Basic
import Craftbook.Item.Namespace
import Craftbook.Recipe.Book
import Craftbook.Recipe.CompiledSet
import Craftbook.Pass
import Craftbook.Toml.Moment
import Craftbook.Toml.Quoted
import Craftbook.Toml.Value
import Craftbook.Toml.Document
import Craftbook.Schema.Config
import Craftbook.Schema.Items
import Craftbook.Schema.Recipes
import Craftbook.Files.Path
import Craftbook.Files.System
import Craftbook.Command.Options
import Craftbook.Command.Run
import Craftbook.Main
import Craftbook.Proofs.Check
import Craftbook.Proofs.Recipe.Slots
import Craftbook.Proofs.Recipe.CompiledSet
import Craftbook.Proofs.Recipe.Acceptance
import Craftbook.Proofs.Pass.Outcome
import Craftbook.Proofs.Text.Reading
import Craftbook.Proofs.Item.Path
import Craftbook.Proofs.Source.Lookup
import Craftbook.Proofs.Source.Reading
import Craftbook.Proofs.Config.Validation
import Craftbook.Proofs.Source.ReadBack
import Craftbook.Proofs.Source.Declarations
import Craftbook.Proofs.Recipe.Editing
import Craftbook.Proofs.Source.Ordinals
import Craftbook.Proofs.Recipe.Time
import Craftbook.Proofs.Source.Times
import Craftbook.Proofs.Toml.Draft
import Craftbook.Proofs.Recipe.Loading
import Craftbook.Proofs.Binary64.Arithmetic
import Craftbook.Proofs.Recipe.Divisor
import Craftbook.Proofs.Pass.Independence
import Craftbook.Proofs.Pass.Kinds
import Craftbook.Proofs.Source.Names
import Craftbook.Proofs.Recipe.Written
import Craftbook.Proofs.Alike
import Craftbook.Proofs.Pass.Growth
import Craftbook.Proofs.Recipe.Refusal
import Craftbook.Proofs.Recipe.Respacing
import Craftbook.Proofs.Recipe.Surplus
import Craftbook.Proofs.Command.Effect
import Craftbook.Proofs.Recipe.Exact
import Craftbook.Proofs.Recipe.Drift
import Craftbook.Proofs.Recipe.Saturation
import Craftbook.Proofs.Recipe.Candidate
import Craftbook.Proofs.Recipe.Monotone
import Craftbook.Proofs.Recipe.Refinement
import Craftbook.Proofs.Item.Grammar
import Craftbook.Proofs.Config.Fault
import Craftbook.Proofs.Recipe.SlotTable
import Craftbook.Proofs.Source.Imports
import Craftbook.Proofs.Config.Written
import Craftbook.Proofs.Source.TagImports
import Craftbook.Proofs.Item.Insertion
import Craftbook.Proofs.Recipe.Book
import Craftbook.Proofs.Pass.Log
