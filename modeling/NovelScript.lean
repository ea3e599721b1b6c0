import NovelScript.Decimal.Binary64
import NovelScript.Decimal.Power
import NovelScript.Decimal.Nearest
import NovelScript.Decimal.Shortest
import NovelScript.Decimal.Style
import NovelScript.Text.Utf8
import NovelScript.Text.ShiftJisIndex
import NovelScript.Text.ShiftJis
import NovelScript.Text.GbkIndex
import NovelScript.Text.Gbk
import NovelScript.Text.Encoding
import NovelScript.Text.Blank
import NovelScript.Text.Invisible
import NovelScript.Text.Quoted
import NovelScript.Json.Value
import NovelScript.Json.Printer
import NovelScript.Json.Fault
import NovelScript.Json.Lexeme
import NovelScript.Json.Number
import NovelScript.Json.Reader
import NovelScript.Json.Record
import NovelScript.Options
import NovelScript.Variable.Basic
import NovelScript.Variable.Table
import NovelScript.Variable.Json
import NovelScript.Expr.Operator
import NovelScript.Expr.Node
import NovelScript.Expr.Text
import NovelScript.Expr.Tree
import NovelScript.Wire.LittleEndian
import NovelScript.Wire.Opcode
import NovelScript.Wire.Token
import NovelScript.Wire.Decoder
import NovelScript.Expression.Assignment
import NovelScript.Expression.Report
import NovelScript.Expression.Error
import NovelScript.Reduction.Step
import NovelScript.Reduction.Run
import NovelScript.Expression.Basic
import NovelScript.Expression.Json
import NovelScript.Script.Compiled
import NovelScript.Script.Labels
import NovelScript.Script.Nesting
import NovelScript.Script.Basic
import NovelScript.Script.Text
import NovelScript.Script.Json
import NovelScript.Project.Path
import NovelScript.Project.CommonDirectory
import NovelScript.Project.Basic
import NovelScript.Project.Globals
import NovelScript.CommandLine.Hex
import NovelScript.CommandLine.Arguments
import NovelScript.CommandLine.Store
import NovelScript.CommandLine.Plan
import NovelScript.Main
import NovelScript.Proofs.Reduction.Stacks
import NovelScript.Proofs.Reduction.Rules
import NovelScript.Proofs.Reduction.Rollback
import NovelScript.Proofs.Reduction.Runs
import NovelScript.Proofs.Reduction.Leaves
import NovelScript.Proofs.Reduction.Locality
import NovelScript.Proofs.Reduction.StandIn
import NovelScript.Proofs.Reduction.Trees
import NovelScript.Proofs.Reduction.Insertion
import NovelScript.Proofs.Source.Reader
import NovelScript.Proofs.Source.RoundTrip
import NovelScript.Proofs.Source.Unambiguous
import NovelScript.Proofs.Text.Utf8
import NovelScript.Proofs.Wire.Tokens
import NovelScript.Proofs.Wire.Tiles
import NovelScript.Proofs.Wire.Written
import NovelScript.Proofs.Decimal.Finite
import NovelScript.Proofs.Decimal.Rounding
import NovelScript.Proofs.Decimal.ReadBack
import NovelScript.Proofs.Json.Form
import NovelScript.Proofs.Tree.Pieces
import NovelScript.Proofs.Tree.Resolved
import NovelScript.Proofs.Tree.Agreement
import NovelScript.Proofs.Renaming.Nodes
import NovelScript.Proofs.Renaming.Tokens
import NovelScript.Proofs.Expression.Loading
import NovelScript.Proofs.Renaming.Outcomes
import NovelScript.Proofs.Expression.Independence
import NovelScript.Proofs.Script.Alone
import NovelScript.Proofs.Text.Split
import NovelScript.Proofs.Project.Paths
import NovelScript.Proofs.Project.Parents
import NovelScript.Proofs.Project.CommonDirectory
import NovelScript.Proofs.CommandLine.Directories
import NovelScript.Proofs.CommandLine.Deliveries
import NovelScript.Proofs.Project.Outputs
import NovelScript.Proofs.Project.Containment
import NovelScript.Proofs.Json.Lexemes
import NovelScript.Proofs.Json.Layout
import NovelScript.Proofs.Json.Loops
import NovelScript.Proofs.Json.Acceptance
import NovelScript.Proofs.Json.Yields
import NovelScript.Proofs.Json.Depth
import NovelScript.Proofs.Variable.RoundTrip
import NovelScript.Proofs.Variable.Restated
import NovelScript.Proofs.Project.Globals
import NovelScript.Proofs.Expression.Calls
import NovelScript.Proofs.Script.Indentation
import NovelScript.Proofs.Text.Lines
import NovelScript.Proofs.Wire.Grammar
import NovelScript.Proofs.Script.Lines
import NovelScript.Proofs.Script.Labels
import NovelScript.Proofs.Variable.LastWins
import NovelScript.Proofs.Json.OneLine
import NovelScript.Proofs.Project.Declarations
import NovelScript.Proofs.CommandLine.Hex
import NovelScript.Proofs.Wire.Calls
