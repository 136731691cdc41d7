import Highlighter.Command.Arguments
import Highlighter.Command.Error
import Highlighter.Command.Report
import Highlighter.Command.Run
import Highlighter.Command.Usage
import Highlighter.Files.Path
import Highlighter.Files.Tree
import Highlighter.Grammar.Basic
import Highlighter.Grammar.Compile
import Highlighter.Grammar.Error
import Highlighter.Grammar.Include
import Highlighter.Grammar.Lint
import Highlighter.Grammar.Reachable
import Highlighter.Grammar.Words
import Highlighter.Json.Error
import Highlighter.Json.Number
import Highlighter.Json.Reader
import Highlighter.Json.Text
import Highlighter.Json.Writer
import Highlighter.Lexer.Emission
import Highlighter.Lexer.Stack
import Highlighter.Lexer.Step
import Highlighter.Lexer.Stream
import Highlighter.Lexer.Table
import Highlighter.Main
import Highlighter.Number.Binary64
import Highlighter.Options.Basic
import Highlighter.Options.Json
import Highlighter.Output.Format
import Highlighter.Output.Html
import Highlighter.Output.Json
import Highlighter.Output.Raw
import Highlighter.Output.Terminal
import Highlighter.Regex.Analysis
import Highlighter.Regex.Bracket
import Highlighter.Regex.CharSet
import Highlighter.Regex.Escape
import Highlighter.Regex.Flags
import Highlighter.Regex.Match
import Highlighter.Regex.Parser
import Highlighter.Regex.Pattern
import Highlighter.Regex.Place
import Highlighter.Regex.PropertyName
import Highlighter.Regex.Reader
import Highlighter.Regex.Simplify
import Highlighter.Registry.Basic
import Highlighter.Registry.Builtin
import Highlighter.Registry.Confidence
import Highlighter.Registry.Glob
import Highlighter.Registry.Language
import Highlighter.Shadow.Grammar
import Highlighter.Shadow.Language
import Highlighter.Shadow.Table
import Highlighter.Style.Color
import Highlighter.Style.Json
import Highlighter.Style.Theme
import Highlighter.Text.Digits
import Highlighter.Text.Quoted
import Highlighter.Text.Trim
import Highlighter.Token.Basic
import Highlighter.Token.Json
import Highlighter.Token.Kind
import Highlighter.Unicode.BinaryProperty
import Highlighter.Unicode.Category
import Highlighter.Unicode.CharClass
import Highlighter.Unicode.Fold
import Highlighter.Unicode.Runs
import Highlighter.Unicode.Script
import Highlighter.Proofs.Lexer.Lossless
import Highlighter.Proofs.Checks
import Highlighter.Proofs.Regex.Paths
import Highlighter.Proofs.Grammar.Includes
import Highlighter.Proofs.Grammar.Compile
import Highlighter.Proofs.Bytewise.Machine
import Highlighter.Proofs.Bytewise.Text
import Highlighter.Proofs.Bytewise.Agreement
import Highlighter.Proofs.Lexer.Steps
import Highlighter.Proofs.Bytewise.Safety
import Highlighter.Proofs.Grammar.Trails
import Highlighter.Proofs.Grammar.Flattening
import Highlighter.Proofs.Bytewise.Frames
import Highlighter.Proofs.Grammar.Actions
import Highlighter.Proofs.Bytewise.Deeds
import Highlighter.Proofs.Bytewise.Findings
import Highlighter.Proofs.Bytewise.Steering
import Highlighter.Proofs.Bytewise.Nesting
import Highlighter.Proofs.Lexer.Rows
import Highlighter.Proofs.Shadow.Rules
import Highlighter.Proofs.Lexer.Placed
import Highlighter.Proofs.Shadow.Lexemes
import Highlighter.Proofs.Shadow.Signatures
import Highlighter.Proofs.Lexer.Evaluation
import Highlighter.Proofs.Shadow.Kinds
import Highlighter.Proofs.Shadow.Methods
import Highlighter.Proofs.Shadow.Reserved
import Highlighter.Proofs.Output.Html
import Highlighter.Proofs.Command.Highlight
import Highlighter.Proofs.Grammar.Culprits
import Highlighter.Proofs.Shadow.Identifiers
import Highlighter.Proofs.Bytewise.Fallbacks
import Highlighter.Proofs.Bytewise.Groups
import Highlighter.Proofs.Regex.Backtracking
import Highlighter.Proofs.Regex.Choices
import Highlighter.Proofs.Lexer.Firing
import Highlighter.Proofs.Shadow.Comments
import Highlighter.Proofs.Shadow.Strings
import Highlighter.Proofs.Shadow.Numerals
import Highlighter.Proofs.Shadow.Numbers
import Highlighter.Proofs.Regex.Completeness
import Highlighter.Proofs.Regex.Reading
import Highlighter.Proofs.Grammar.Words
import Highlighter.Proofs.Shadow.Decorators
import Highlighter.Proofs.Shadow.Errors
import Highlighter.Proofs.Shadow.NameStates
import Highlighter.Proofs.Options.NormalForm
import Highlighter.Proofs.Grammar.Unreachable
import Highlighter.Proofs.Grammar.Repeats
import Highlighter.Proofs.Regex.Consumption
import Highlighter.Proofs.Regex.Narrowing
import Highlighter.Proofs.Regex.Length
import Highlighter.Proofs.Regex.Simplification
import Highlighter.Proofs.Bytewise.Shadowing
import Highlighter.Proofs.Options.Assignments
import Highlighter.Proofs.Text.Quoted
import Highlighter.Proofs.Output.Raw
import Highlighter.Proofs.Json.ReadBack
import Highlighter.Proofs.Json.Value
import Highlighter.Proofs.Output.Json
import Highlighter.Proofs.Shadow.Interpreter
import Highlighter.Proofs.Registry.Globs
import Highlighter.Proofs.Bytewise.Consuming
import Highlighter.Proofs.Json.Fields
import Highlighter.Proofs.Configuration
import Highlighter.Proofs.Options.LineEnds
