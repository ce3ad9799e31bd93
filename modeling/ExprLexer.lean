import ExprLexer.Command
import ExprLexer.Cursor.Basic
import ExprLexer.Cursor.Move
import ExprLexer.Fault
import ExprLexer.Grammar
import ExprLexer.Kind
import ExprLexer.LexError
import ExprLexer.Lexer
import ExprLexer.Location
import ExprLexer.Main
import ExprLexer.Proofs.Alphabet
import ExprLexer.Proofs.CharClass
import ExprLexer.Proofs.Front
import ExprLexer.Proofs.Lexeme
import ExprLexer.Scanner.Pull
import ExprLexer.Scanner.Script
import ExprLexer.Scanner.Workspace
import ExprLexer.Text.Alphabetic
import ExprLexer.Text.CodeRange
import ExprLexer.Text.Extender
import ExprLexer.Text.Hidden
import ExprLexer.Text.Numeric
import ExprLexer.Text.Quoted
import ExprLexer.Token
import ExprLexer.Proofs.Reading
import ExprLexer.Proofs.Pull
import ExprLexer.Proofs.Mode
import ExprLexer.Proofs.NextToken
import ExprLexer.Proofs.Layout
import ExprLexer.Proofs.Stream
import ExprLexer.Proofs.Language
import ExprLexer.Proofs.Extension
import ExprLexer.Proofs.Concatenation
import ExprLexer.Proofs.Slice
import ExprLexer.Proofs.Restart
import ExprLexer.Proofs.Tiling
import ExprLexer.Proofs.Session
import ExprLexer.Proofs.Trace
import ExprLexer.Proofs.TrueLocation
import ExprLexer.Proofs.Progress
import ExprLexer.Proofs.Answers
import ExprLexer.Proofs.Eager
import ExprLexer.Proofs.Usage
import ExprLexer.Proofs.Conservation
import ExprLexer.Proofs.Halting
import ExprLexer.Proofs.LongestMatch
import ExprLexer.Proofs.LineEnds
import ExprLexer.Proofs.Reports
import ExprLexer.Proofs.ByteCursor
import ExprLexer.Proofs.Offsets
import ExprLexer.Proofs.Budget
import ExprLexer.Proofs.QuoteParity
import ExprLexer.Proofs.LeadingMark
import ExprLexer.Proofs.Pushback
import ExprLexer.Proofs.Messages
import ExprLexer.Proofs.Records
import ExprLexer.Proofs.Runs
