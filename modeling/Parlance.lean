import Parlance.Catalog.Basic
import Parlance.Catalog.Document
import Parlance.Catalog.Loading
import Parlance.Catalog.Store
import Parlance.Catalog.Suggestions
import Parlance.Console.Arguments
import Parlance.Console.CatalogFile
import Parlance.Console.Check
import Parlance.Console.Command
import Parlance.Console.Coverage
import Parlance.Console.Eval
import Parlance.Console.Excerpt
import Parlance.Console.Files
import Parlance.Console.Outcome
import Parlance.Console.Path
import Parlance.Console.Table
import Parlance.Dict
import Parlance.Formatter.Builtin
import Parlance.Formatter.Options
import Parlance.Formatter.Registry
import Parlance.Formatter.Script
import Parlance.Json.Basic
import Parlance.Json.Canonical
import Parlance.Json.Fault
import Parlance.Json.Literal
import Parlance.Json.Reader
import Parlance.Json.Writer
import Parlance.Locale.Default
import Parlance.Locale.Fallback
import Parlance.Locale.Tag
import Parlance.Main
import Parlance.Message.Description
import Parlance.Message.Value
import Parlance.Number.Basic
import Parlance.Number.Rendering
import Parlance.Number.Spec
import Parlance.Pattern.Basic
import Parlance.Pattern.Builder
import Parlance.Pattern.Wire
import Parlance.Real.Binary64
import Parlance.Real.Fixed
import Parlance.Real.Power
import Parlance.Real.Reading
import Parlance.Real.Rounding
import Parlance.Real.Shortest
import Parlance.Text.Blank
import Parlance.Text.CodePoints
import Parlance.Text.Columns
import Parlance.Text.EditDistance
import Parlance.Text.Emoji
import Parlance.Text.Extending
import Parlance.Text.Ignorable
import Parlance.Text.Joining
import Parlance.Text.Property
import Parlance.Text.Quoted
import Parlance.Text.Unprintable
import Parlance.Text.Wide
import Parlance.Text.Width
import Parlance.Translator.Basic
import Parlance.Translator.Error
import Parlance.Translator.Rendering
import Parlance.Translator.Run
import Parlance.Proofs.Message.Measure
import Parlance.Proofs.Rendering.Contract
import Parlance.Proofs.Formatter.Candid
import Parlance.Proofs.Rendering.Failure
import Parlance.Proofs.Rendering.CallStack
import Parlance.Proofs.Rendering.Frames
import Parlance.Proofs.Evaluation.Basic
import Parlance.Proofs.Evaluation.Agreement
import Parlance.Proofs.Evaluation.Translation
import Parlance.Proofs.Evaluation.Acyclic
import Parlance.Proofs.Formatter.History
import Parlance.Proofs.Rendering.Scanning
import Parlance.Proofs.Rendering.Memory
import Parlance.Proofs.Catalog.Contents
import Parlance.Proofs.Evaluation.Substitution
import Parlance.Proofs.Evaluation.Locality
import Parlance.Proofs.Dict.Members
import Parlance.Proofs.Json.Reading
import Parlance.Proofs.Catalog.Document
import Parlance.Proofs.Catalog.Editing
import Parlance.Proofs.Catalog.Store
import Parlance.Proofs.Catalog.Loading
import Parlance.Proofs.Catalog.Writes
import Parlance.Proofs.Pattern.Wire
import Parlance.Proofs.Json.Writing
import Parlance.Proofs.Pattern.RoundTrip
import Parlance.Proofs.Evaluation.Limit
import Parlance.Proofs.Evaluation.Scoping
import Parlance.Proofs.Pattern.Rejection
import Parlance.Proofs.Evaluation.Plural
import Parlance.Proofs.Text.EditDistance
import Parlance.Proofs.Catalog.Suggestions
import Parlance.Proofs.Catalog.Lookup
import Parlance.Proofs.Console.Loading
import Parlance.Proofs.Console.Coverage
import Parlance.Proofs.Console.Eval
import Parlance.Proofs.Locale.Chain
import Parlance.Proofs.Number.Fixed
import Parlance.Proofs.Rendering.Lifetime
import Parlance.Proofs.Catalog.Builtins
import Parlance.Proofs.Rendering.Plain
import Parlance.Proofs.Number.Grammar
import Parlance.Proofs.Number.Tag
import Parlance.Proofs.Evaluation.Counting
import Parlance.Proofs.Evaluation.Listing
import Parlance.Proofs.Number.Composition
import Parlance.Proofs.Number.Integer
import Parlance.Proofs.Number.Double
import Parlance.Proofs.Evaluation.Checking
import Parlance.Proofs.Message.Equality
import Parlance.Proofs.Locale.Normal
import Parlance.Proofs.Console.Figures
import Parlance.Proofs.Console.Places
import Parlance.Proofs.Console.DefaultLocale
import Parlance.Proofs.Catalog.Names
import Parlance.Proofs.Console.KeyLabels
