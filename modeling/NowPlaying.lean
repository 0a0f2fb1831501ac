import NowPlaying.Main
import NowPlaying.Proofs.NameMap
import NowPlaying.Proofs.Number.Digits
import NowPlaying.Proofs.Template.Spelling
import NowPlaying.Proofs.Template.Concatenation
import NowPlaying.Proofs.Template.Names
import NowPlaying.Proofs.Template.ReadableNames
import NowPlaying.Proofs.Template.Description
import NowPlaying.Proofs.Template.FirstViolation
import NowPlaying.Proofs.Template.Completion
import NowPlaying.Proofs.Template.LiteralText
import NowPlaying.Proofs.Alias.Configured
import NowPlaying.Proofs.Toml.Text
import NowPlaying.Proofs.Toml.Line
import NowPlaying.Proofs.Config.RoundTrip
import NowPlaying.Proofs.Config.Validation
import NowPlaying.Proofs.CommandLine.Stages
import NowPlaying.Proofs.CommandLine.Presets
import NowPlaying.Proofs.CommandLine.UnusedAliases
import NowPlaying.Proofs.Config.Rules
import NowPlaying.Proofs.Number.Integer
import NowPlaying.Proofs.Duration
import NowPlaying.Proofs.Number.Magnitude
import NowPlaying.Proofs.Number.Decimal
import NowPlaying.Proofs.Number.Numeral
import NowPlaying.Proofs.Assignment.Inference
import NowPlaying.Proofs.Number.Shortest
import NowPlaying.Proofs.Number.Layout
import NowPlaying.Proofs.Assignment.RoundTrip
import NowPlaying.Proofs.Number.Fixed
import NowPlaying.Proofs.Query.Position
import NowPlaying.Proofs.Context.Writes
import NowPlaying.Proofs.Context.Runs
import NowPlaying.Proofs.Query.Metadata
import NowPlaying.Proofs.Json.Scalars
import NowPlaying.Proofs.Json.Grammar
import NowPlaying.Proofs.Json.Members
import NowPlaying.Proofs.Json.Values
import NowPlaying.Proofs.CommandLine.Entries
import NowPlaying.Proofs.Text.Folding
import NowPlaying.Proofs.Registry
import NowPlaying.Proofs.Text.Quoted
import NowPlaying.Proofs.Template.Listing
import NowPlaying.Proofs.Report.Place
import NowPlaying.Proofs.Report.Drawing
import NowPlaying.Proofs.Report.Faults
