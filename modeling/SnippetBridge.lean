import SnippetBridge.Binary64.Basic
import SnippetBridge.Binary64.Rounding
import SnippetBridge.Binary64.Shortest
import SnippetBridge.Binary64.Text
import SnippetBridge.Command.Arguments
import SnippetBridge.Command.Basic
import SnippetBridge.Command.Run
import SnippetBridge.DottedPath
import SnippetBridge.Entries
import SnippetBridge.Host.Description
import SnippetBridge.Host.Heap
import SnippetBridge.Host.Leaf
import SnippetBridge.Json.Basic
import SnippetBridge.Json.Decoding
import SnippetBridge.Json.Printer
import SnippetBridge.Json.Reader
import SnippetBridge.Main
import SnippetBridge.Proofs.Host.Reachability
import SnippetBridge.Proofs.Rhai.Circularity
import SnippetBridge.Rhai.Literal
import SnippetBridge.Rhai.Options
import SnippetBridge.Rhai.Options.Json
import SnippetBridge.Rhai.Options.Toml
import SnippetBridge.Rhai.Walk
import SnippetBridge.Snippet.Basic
import SnippetBridge.Snippet.Declared
import SnippetBridge.Snippet.Json
import SnippetBridge.Snippet.Reader
import SnippetBridge.Text.Alphabetic
import SnippetBridge.Text.Block
import SnippetBridge.Text.Digit
import SnippetBridge.Text.Inspected
import SnippetBridge.Text.Numeric
import SnippetBridge.Text.Quoted
import SnippetBridge.Text.Ranges
import SnippetBridge.Text.Scan
import SnippetBridge.Text.Unprintable
import SnippetBridge.Toml.Basic
import SnippetBridge.Toml.Number
import SnippetBridge.Toml.Reader
import SnippetBridge.Toml.Text
import SnippetBridge.TypeScript.Character
import SnippetBridge.TypeScript.Escape
import SnippetBridge.TypeScript.Grammar
import SnippetBridge.TypeScript.Grammar.Basic
import SnippetBridge.TypeScript.Grammar.Binding
import SnippetBridge.TypeScript.Grammar.Class
import SnippetBridge.TypeScript.Grammar.Declaration
import SnippetBridge.TypeScript.Grammar.Expression
import SnippetBridge.TypeScript.Grammar.Statement
import SnippetBridge.TypeScript.Grammar.Type
import SnippetBridge.TypeScript.Kind
import SnippetBridge.TypeScript.Node
import SnippetBridge.TypeScript.Numeral
import SnippetBridge.TypeScript.Rule
import SnippetBridge.TypeScript.Snippet
import SnippetBridge.TypeScript.Source
import SnippetBridge.TypeScript.Token
import SnippetBridge.Value.Basic
import SnippetBridge.Value.Equality
import SnippetBridge.Value.Json
import SnippetBridge.Value.Text
import SnippetBridge.Proofs.Binary64.Rounding
import SnippetBridge.Proofs.Entries
import SnippetBridge.Proofs.Value.WellFormed
import SnippetBridge.Proofs.Binary64.Shortest
import SnippetBridge.Proofs.Binary64.Text
import SnippetBridge.Proofs.Value.Normal
import SnippetBridge.Proofs.Json.Number
import SnippetBridge.Proofs.Json.Quoted
import SnippetBridge.Proofs.Json.Spelling
import SnippetBridge.Proofs.Json.Reading
import SnippetBridge.Proofs.Rhai.Recognized
import SnippetBridge.Proofs.Snippet.Declared
import SnippetBridge.Proofs.Value.Decidable
import SnippetBridge.Proofs.Command.Pipeline
import SnippetBridge.Proofs.DottedPath
import SnippetBridge.Proofs.Text.Block
import SnippetBridge.Proofs.Value.Visible
import SnippetBridge.Proofs.Rhai.Literal
import SnippetBridge.Proofs.Rhai.Unambiguous
import SnippetBridge.Proofs.Text.Quoted
import SnippetBridge.Proofs.Rhai.BareKeys
import SnippetBridge.Proofs.Host.Unfolding
import SnippetBridge.Proofs.Rhai.Sharing
import SnippetBridge.Proofs.Value.Reached
import SnippetBridge.Proofs.Snippet.References
import SnippetBridge.Proofs.Value.Equality
import SnippetBridge.Proofs.Json.Equality
import SnippetBridge.Proofs.Rhai.Equality
import SnippetBridge.Proofs.Json.Nesting
import SnippetBridge.Proofs.Value.Text
import SnippetBridge.Proofs.Snippet.Variables
import SnippetBridge.Proofs.Value.Merge
import SnippetBridge.Proofs.Binary64.Integer
import SnippetBridge.Proofs.Json.Widening
import SnippetBridge.Proofs.Snippet.Tagged
import SnippetBridge.Proofs.TypeScript.Readable
import SnippetBridge.Proofs.TypeScript.Shape
import SnippetBridge.Proofs.TypeScript.Comments
import SnippetBridge.Proofs.TypeScript.Spelling
import SnippetBridge.Proofs.TypeScript.Quoted
import SnippetBridge.Proofs.TypeScript.Holes
import SnippetBridge.Proofs.TypeScript.Place
import SnippetBridge.Proofs.TypeScript.Sugar
import SnippetBridge.Proofs.Json.Canonical
import SnippetBridge.Proofs.Snippet.Defaults
import SnippetBridge.Proofs.TypeScript.Chain
import SnippetBridge.Proofs.Text.Indented
import SnippetBridge.Proofs.Rhai.Layout
import SnippetBridge.Proofs.Command.Rendering
import SnippetBridge.Proofs.Rhai.Strings
import SnippetBridge.Proofs.Binary64.Monotone
import SnippetBridge.Proofs.Binary64.Least
import SnippetBridge.Proofs.TypeScript.NumberNames
import SnippetBridge.Proofs.Value.Parts
import SnippetBridge.Proofs.Snippet.Contents
import SnippetBridge.Proofs.Snippet.Authored
import SnippetBridge.Proofs.Binary64.Nearest
import SnippetBridge.Proofs.TypeScript.Integers
import SnippetBridge.Proofs.TypeScript.Brackets
import SnippetBridge.Proofs.Text.ByteOrder
import SnippetBridge.Proofs.Rhai.Ancestors
import SnippetBridge.Proofs.Snippet.Paths
import SnippetBridge.Proofs.Rhai.SortedKeys
