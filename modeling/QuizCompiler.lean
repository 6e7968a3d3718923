import QuizCompiler.CommandLine.Arguments
import QuizCompiler.CommandLine.LogFilter
import QuizCompiler.CommandLine.Program
import QuizCompiler.Data.Datum
import QuizCompiler.Data.Decode
import QuizCompiler.Decimal.Binary64
import QuizCompiler.Decimal.Shortest
import QuizCompiler.Files.Path
import QuizCompiler.Files.System
import QuizCompiler.Files.Tree
import QuizCompiler.Json.Data
import QuizCompiler.Json.Number
import QuizCompiler.Json.Printer
import QuizCompiler.Json.Reader
import QuizCompiler.Json.Value
import QuizCompiler.Main
import QuizCompiler.Markdown.Block
import QuizCompiler.Markdown.Content
import QuizCompiler.Markdown.Entity
import QuizCompiler.Markdown.Event
import QuizCompiler.Markdown.Inline
import QuizCompiler.Markdown.Line
import QuizCompiler.Markdown.Marker
import QuizCompiler.Markdown.RawHtml
import QuizCompiler.Markdown.Reference
import QuizCompiler.Markdown.Render
import QuizCompiler.Markdown.Structure
import QuizCompiler.Markdown.Table
import QuizCompiler.Quiz.Assembly
import QuizCompiler.Quiz.Block
import QuizCompiler.Quiz.Compilation
import QuizCompiler.Quiz.Config
import QuizCompiler.Quiz.Document
import QuizCompiler.Quiz.Draft
import QuizCompiler.Quiz.Error
import QuizCompiler.Quiz.Exchange
import QuizCompiler.Quiz.Name
import QuizCompiler.Quiz.Notice
import QuizCompiler.Quiz.Question
import QuizCompiler.Quiz.Source
import QuizCompiler.Random.Draw
import QuizCompiler.Random.Seeded
import QuizCompiler.Random.Uuid
import QuizCompiler.Text.Blank
import QuizCompiler.Text.CaseFold
import QuizCompiler.Text.Digit
import QuizCompiler.Text.Escape
import QuizCompiler.Text.Punctuation
import QuizCompiler.Text.Quoted
import QuizCompiler.Text.Table
import QuizCompiler.Toml.Excerpt
import QuizCompiler.Toml.Reader
import QuizCompiler.Toml.Scalar
import QuizCompiler.Toml.Scan
import QuizCompiler.Toml.Tree
import QuizCompiler.Proofs.Pages
import QuizCompiler.Proofs.Sections
import QuizCompiler.Proofs.Trimming
import QuizCompiler.Proofs.Validation
import QuizCompiler.Proofs.Compilation
import QuizCompiler.Proofs.Nesting
import QuizCompiler.Proofs.PlainText
import QuizCompiler.Proofs.PlainLines
import QuizCompiler.Proofs.Convention
import QuizCompiler.Proofs.Drawing
import QuizCompiler.Proofs.Grammar
import QuizCompiler.Proofs.Names
import QuizCompiler.Proofs.Printing
import QuizCompiler.Proofs.Reading
import QuizCompiler.Proofs.Trees
import QuizCompiler.Proofs.WrittenDocuments
import QuizCompiler.Proofs.Siblings
import QuizCompiler.Proofs.Atomicity
import QuizCompiler.Proofs.Changes
import QuizCompiler.Proofs.Edits
import QuizCompiler.Proofs.Partition
import QuizCompiler.Proofs.Warnings
import QuizCompiler.Proofs.Rewording
import QuizCompiler.Proofs.Agreement
import QuizCompiler.Proofs.Grouping
import QuizCompiler.Proofs.Independence
import QuizCompiler.Proofs.Indices
import QuizCompiler.Proofs.Options
import QuizCompiler.Proofs.PageOrder
import QuizCompiler.Proofs.Supplies
import QuizCompiler.Proofs.ListTrees
import QuizCompiler.Proofs.Items
import QuizCompiler.Proofs.Checks
import QuizCompiler.Proofs.Describing
import QuizCompiler.Proofs.NamesInTurn
import QuizCompiler.Proofs.LastWrites
import QuizCompiler.Proofs.HeadingLevels
import QuizCompiler.Proofs.Supplements
import QuizCompiler.Proofs.LooseLists
import QuizCompiler.Proofs.Configurations
import QuizCompiler.Proofs.Deletions
import QuizCompiler.Proofs.Identifiers
import QuizCompiler.Proofs.Escaping
