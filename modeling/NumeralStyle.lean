import NumeralStyle.CharClass.Digit
import NumeralStyle.CharClass.Identifier
import NumeralStyle.CharClass.Letter
import NumeralStyle.CharClass.Printable
import NumeralStyle.Check.Grouping
import NumeralStyle.Check.Spelling
import NumeralStyle.CommandLine.Arguments
import NumeralStyle.CommandLine.Flag
import NumeralStyle.CommandLine.Misuse
import NumeralStyle.CommandLine.Run
import NumeralStyle.CommandLine.Usage
import NumeralStyle.CommandLine.Word
import NumeralStyle.Config
import NumeralStyle.Crash
import NumeralStyle.Display.Findings
import NumeralStyle.Display.Snippet
import NumeralStyle.Editor.Address
import NumeralStyle.Editor.Diagnostic
import NumeralStyle.Editor.QuickFix
import NumeralStyle.Editor.Session
import NumeralStyle.Files.Path
import NumeralStyle.Files.Source
import NumeralStyle.Files.Tree
import NumeralStyle.Finding.Basic
import NumeralStyle.Finding.Kind
import NumeralStyle.Finding.Level
import NumeralStyle.Literal.Basic
import NumeralStyle.Literal.Description
import NumeralStyle.Literal.Parse
import NumeralStyle.Literal.Radix
import NumeralStyle.Literal.Suffix
import NumeralStyle.Main
import NumeralStyle.Number.Binary64
import NumeralStyle.Proofs.CharClass.Ascii
import NumeralStyle.Proofs.Check.Advice
import NumeralStyle.Proofs.Check.Canonical
import NumeralStyle.Proofs.Check.Fixes
import NumeralStyle.Proofs.Check.Following
import NumeralStyle.Proofs.Check.LeadingZeros
import NumeralStyle.Proofs.Check.Placement
import NumeralStyle.Proofs.Check.Recased
import NumeralStyle.Proofs.Check.Regroup
import NumeralStyle.Proofs.Check.Replacing
import NumeralStyle.Proofs.Check.Reported
import NumeralStyle.Proofs.Check.Respelled
import NumeralStyle.Proofs.Check.Separated
import NumeralStyle.Proofs.Check.Tails
import NumeralStyle.Proofs.Check.Verdict
import NumeralStyle.Proofs.CommandLine.Combined
import NumeralStyle.Proofs.CommandLine.Configured
import NumeralStyle.Proofs.CommandLine.Precedence
import NumeralStyle.Proofs.CommandLine.Printed
import NumeralStyle.Proofs.Display.Underlined
import NumeralStyle.Proofs.Editor.Applying
import NumeralStyle.Proofs.Editor.Places
import NumeralStyle.Proofs.Editor.Published
import NumeralStyle.Proofs.Editor.Selected
import NumeralStyle.Proofs.Editor.Sessions
import NumeralStyle.Proofs.Literal.Grammar
import NumeralStyle.Proofs.Literal.Groups
import NumeralStyle.Proofs.Literal.Known
import NumeralStyle.Proofs.Literal.Pieces
import NumeralStyle.Proofs.Literal.Reading
import NumeralStyle.Proofs.Literal.Reassembly
import NumeralStyle.Proofs.Literal.Suffix
import NumeralStyle.Proofs.Literal.Tail
import NumeralStyle.Proofs.Literal.Value
import NumeralStyle.Proofs.Source.Alike
import NumeralStyle.Proofs.Source.Beyond
import NumeralStyle.Proofs.Source.Borders
import NumeralStyle.Proofs.Source.Chained
import NumeralStyle.Proofs.Source.Fits
import NumeralStyle.Proofs.Source.Joined
import NumeralStyle.Proofs.Source.LineEnd
import NumeralStyle.Proofs.Source.Lines
import NumeralStyle.Proofs.Source.Moved
import NumeralStyle.Proofs.Source.Munch
import NumeralStyle.Proofs.Source.Place
import NumeralStyle.Proofs.Source.Reached
import NumeralStyle.Proofs.Source.Replaced
import NumeralStyle.Proofs.Source.Resumed
import NumeralStyle.Proofs.Source.Scanned
import NumeralStyle.Proofs.Source.Skipped
import NumeralStyle.Proofs.Source.Stopped
import NumeralStyle.Proofs.Source.Tokens
import NumeralStyle.Proofs.Text.Column
import NumeralStyle.Proofs.Text.Edits
import NumeralStyle.Proofs.Text.LineEnds
import NumeralStyle.Proofs.Text.OneLine
import NumeralStyle.Proofs.Text.Runs
import NumeralStyle.Report
import NumeralStyle.Settings
import NumeralStyle.Source.Cursor
import NumeralStyle.Source.Lexeme
import NumeralStyle.Source.Position
import NumeralStyle.Source.Scan
import NumeralStyle.Text
import NumeralStyle.Text.Hexadecimal
import NumeralStyle.Text.Integer
import NumeralStyle.Text.Lines
import NumeralStyle.Text.Oversize
import NumeralStyle.Text.Quoted
import NumeralStyle.Text.Stretches
import NumeralStyle.Text.Utf8
import NumeralStyle.Toml.Document
import NumeralStyle.Toml.Fault
import NumeralStyle.Toml.Lexical
import NumeralStyle.Toml.Parse
import NumeralStyle.Toml.Scalar
import NumeralStyle.Value
import NumeralStyle.Widths
