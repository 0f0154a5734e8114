-- SUMMARY: A lexer for a small Lisp with its command and editor diagnostics, and the theory of what they do.
import LispLex.Editor
import LispLex.File.Tree
import LispLex.Main
import LispLex.Proofs.Pattern.Prefix
import LispLex.Proofs.Position
import LispLex.Proofs.Cursor
import LispLex.Proofs.Run.Equations
import LispLex.Proofs.Run.Decomposition
import LispLex.Proofs.Run.Located
import LispLex.Proofs.Pattern.Greedy
import LispLex.Proofs.Token.Scanner
import LispLex.Proofs.Token.Number
import LispLex.Proofs.Token.WellFormed
import LispLex.Proofs.Token.Stop
import LispLex.Proofs.Run.RoundTrip
import LispLex.Proofs.Run.Offence
import LispLex.Proofs.Run.LineGrammar
import LispLex.Proofs.Run.Step
import LispLex.Proofs.Rule.Table
import LispLex.Proofs.Rule.Names
import LispLex.Proofs.Rule.Standard
import LispLex.Proofs.Run.Extension
import LispLex.Proofs.Run.Rounds
import LispLex.Proofs.Run.Ceiling
import LispLex.Proofs.Run.Relocation
import LispLex.Proofs.Run.Resumption
import LispLex.Proofs.Run.LineByLine
import LispLex.Proofs.Run.Boundary
import LispLex.Proofs.Run.Respelling
import LispLex.Proofs.Run.CarriageReturns
import LispLex.Proofs.Run.PairedReturns
import LispLex.Proofs.Text.BrokenLines
import LispLex.Proofs.Text.FeedLines
import LispLex.Proofs.Text.Utf8
import LispLex.Proofs.Text.Digits
import LispLex.Proofs.Text.Quoted
import LispLex.Proofs.Report.ShownLine
import LispLex.Proofs.File.Frame
import LispLex.Proofs.Toml.Shown
import LispLex.Proofs.Command.Checks
import LispLex.Proofs.Command.Merging
import LispLex.Proofs.Command.Settings
import LispLex.Proofs.Command.OneRun
import LispLex.Proofs.Command.Launch
import LispLex.Proofs.Command.Ending
import LispLex.Proofs.Command.Output
import LispLex.Proofs.Command.Watch
import LispLex.Proofs.Command.Freshness
import LispLex.Proofs.Editor.Diagnosis
import LispLex.Proofs.Editor.Agreement
import LispLex.Proofs.Editor.CodeUnits
import LispLex.Proofs.Listing.Plain
import LispLex.Proofs.Json.Reader
import LispLex.Proofs.Json.Scalars
import LispLex.Proofs.Json.RoundTrip
import LispLex.Proofs.Listing.Structured
import LispLex.Proofs.Token.Extraction
import LispLex.Proofs.Report.Carets
import LispLex.Proofs.Run.Snippet
import LispLex.Proofs.Run.Unwritable
import LispLex.Proofs.Run.Values
