import StoryWorld.Character
import StoryWorld.Clock
import StoryWorld.CommandLine.Help
import StoryWorld.CommandLine.Number
import StoryWorld.CommandLine.Run
import StoryWorld.CommandLine.Usage
import StoryWorld.Condition
import StoryWorld.Condition.Reader
import StoryWorld.Conversion
import StoryWorld.Conversion.Character
import StoryWorld.Conversion.Node
import StoryWorld.Conversion.QuestLine
import StoryWorld.Diagnostic
import StoryWorld.Diagnostic.Report
import StoryWorld.Entries
import StoryWorld.EvalError
import StoryWorld.Expr
import StoryWorld.FileTree
import StoryWorld.FileTree.Discovery
import StoryWorld.Handle
import StoryWorld.Integer
import StoryWorld.Key
import StoryWorld.Layout
import StoryWorld.Loader
import StoryWorld.Loader.Directory
import StoryWorld.Main
import StoryWorld.Node
import StoryWorld.Operator
import StoryWorld.Operator.Apply
import StoryWorld.QuestLine
import StoryWorld.Registry
import StoryWorld.Rule
import StoryWorld.Scope
import StoryWorld.Span
import StoryWorld.SystemError
import StoryWorld.Table
import StoryWorld.Text.Blank
import StoryWorld.Text.Combining
import StoryWorld.Text.Emoji
import StoryWorld.Text.Ignorable
import StoryWorld.Text.Joining
import StoryWorld.Text.Letter
import StoryWorld.Text.Line
import StoryWorld.Text.Quoted
import StoryWorld.Text.Shaping
import StoryWorld.Text.Split
import StoryWorld.Text.Terminal
import StoryWorld.Text.Unprintable
import StoryWorld.Text.Width
import StoryWorld.Text.Width.Unicode15
import StoryWorld.Text.Width.Unicode18
import StoryWorld.Token
import StoryWorld.Token.LineReader
import StoryWorld.Token.Scanner
import StoryWorld.Tree
import StoryWorld.Tree.Json
import StoryWorld.Tree.Printer
import StoryWorld.Tree.Reader
import StoryWorld.Unexpected
import StoryWorld.Value
import StoryWorld.Warning
import StoryWorld.World
import StoryWorld.World.Link
import StoryWorld.World.Visible
import StoryWorld.Proofs.CommandLine.Arguments
import StoryWorld.Proofs.CommandLine.Attr
import StoryWorld.Proofs.CommandLine.Check
import StoryWorld.Proofs.Condition.Faults
import StoryWorld.Proofs.Condition.Grammar
import StoryWorld.Proofs.Condition.Reading
import StoryWorld.Proofs.Condition.RoundTrip
import StoryWorld.Proofs.Condition.Steps
import StoryWorld.Proofs.Conversion.Characters
import StoryWorld.Proofs.Conversion.DeclaredNodes
import StoryWorld.Proofs.Conversion.Headings
import StoryWorld.Proofs.Conversion.Offences
import StoryWorld.Proofs.Conversion.Places
import StoryWorld.Proofs.Conversion.Positions
import StoryWorld.Proofs.Conversion.QuestLines
import StoryWorld.Proofs.Conversion.Respelling
import StoryWorld.Proofs.Conversion.Results
import StoryWorld.Proofs.Conversion.WrittenRules
import StoryWorld.Proofs.DecimalText
import StoryWorld.Proofs.Entries
import StoryWorld.Proofs.Expr.Arithmetic
import StoryWorld.Proofs.Expr.Names
import StoryWorld.Proofs.Expr.Numbers
import StoryWorld.Proofs.Expr.TextOperands
import StoryWorld.Proofs.FileTree.Discovery
import StoryWorld.Proofs.Key
import StoryWorld.Proofs.Loader.Directory
import StoryWorld.Proofs.Loader.Joining
import StoryWorld.Proofs.Loader.Layout
import StoryWorld.Proofs.Loader.Located
import StoryWorld.Proofs.Loader.NodeNames
import StoryWorld.Proofs.Loader.Rejection
import StoryWorld.Proofs.Operator.Results
import StoryWorld.Proofs.QuestLine.Runs
import StoryWorld.Proofs.Rule.Assignments
import StoryWorld.Proofs.Rule.Candidates
import StoryWorld.Proofs.Rule.CapStability
import StoryWorld.Proofs.Rule.Confinement
import StoryWorld.Proofs.Rule.PassBound
import StoryWorld.Proofs.Rule.Passes
import StoryWorld.Proofs.Rule.Questions
import StoryWorld.Proofs.Rule.Similarity
import StoryWorld.Proofs.Rule.Spellings
import StoryWorld.Proofs.Rule.Wrapping
import StoryWorld.Proofs.Token.Joining
import StoryWorld.Proofs.Token.LineReading
import StoryWorld.Proofs.Token.Partition
import StoryWorld.Proofs.Token.Ranges
import StoryWorld.Proofs.Token.Scanning
import StoryWorld.Proofs.Token.Slices
import StoryWorld.Proofs.Token.Spelling
import StoryWorld.Proofs.Token.Utf8Lines
import StoryWorld.Proofs.Tree.Faults
import StoryWorld.Proofs.Tree.Grammar
import StoryWorld.Proofs.Tree.Nesting
import StoryWorld.Proofs.Tree.Positions
import StoryWorld.Proofs.Tree.Reading
import StoryWorld.Proofs.Tree.RoundTrip
import StoryWorld.Proofs.Tree.Slices
import StoryWorld.Proofs.Tree.Spans
import StoryWorld.Proofs.Tree.Steps
import StoryWorld.Proofs.Tree.Texts
import StoryWorld.Proofs.Value.Equality
import StoryWorld.Proofs.Value.Numeric
import StoryWorld.Proofs.Value.Typing
import StoryWorld.Proofs.World.History
import StoryWorld.Proofs.World.Linking
import StoryWorld.Proofs.World.Operations
import StoryWorld.Proofs.World.Order
import StoryWorld.Proofs.World.QuestSteps
import StoryWorld.Proofs.World.References
import StoryWorld.Proofs.World.Registry
import StoryWorld.Proofs.World.Relinking
import StoryWorld.Proofs.World.Representation
import StoryWorld.Proofs.World.Roster
import StoryWorld.Proofs.World.Visibility
import StoryWorld.Proofs.World.Attributes
import StoryWorld.Proofs.Token.ReadingAhead
import StoryWorld.Proofs.Token.BrokenLines
import StoryWorld.Proofs.Token.Printing
import StoryWorld.Proofs.Clock
import StoryWorld.Proofs.Declarations
import StoryWorld.Proofs.Token.OpenQuotes
import StoryWorld.Proofs.Value.Retyping
