import FindingsDigest.Catalogue
import FindingsDigest.Digest
import FindingsDigest.Distinct
import FindingsDigest.FileTree
import FindingsDigest.Log
import FindingsDigest.Main
import FindingsDigest.Memory
import FindingsDigest.Options
import FindingsDigest.Options.Help
import FindingsDigest.Page
import FindingsDigest.Page.Sink
import FindingsDigest.Path
import FindingsDigest.Record
import FindingsDigest.Run
import FindingsDigest.Settings
import FindingsDigest.Settings.Search
import FindingsDigest.Text.Lines
import FindingsDigest.Text.Quoted
import FindingsDigest.Text.Unshown
import FindingsDigest.Toml.Document
import FindingsDigest.Toml.Expression
import FindingsDigest.Toml.Moment
import FindingsDigest.Toml.Number
import FindingsDigest.Toml.Space
import FindingsDigest.Toml.Table
import FindingsDigest.Toml.Text
import FindingsDigest.Toml.Value
import FindingsDigest.Proofs.Distinct
import FindingsDigest.Proofs.Lines
import FindingsDigest.Proofs.Record
import FindingsDigest.Proofs.Catalogue
import FindingsDigest.Proofs.Digest
import FindingsDigest.Proofs.Page
import FindingsDigest.Proofs.Run
import FindingsDigest.Proofs.LineEndings
import FindingsDigest.Proofs.Continuation
import FindingsDigest.Proofs.Desk
import FindingsDigest.Proofs.Equality
import FindingsDigest.Proofs.NormalForm
import FindingsDigest.Proofs.Sink
import FindingsDigest.Proofs.Colors
import FindingsDigest.Proofs.ReadBack
import FindingsDigest.Proofs.Path
import FindingsDigest.Proofs.FileTree
import FindingsDigest.Proofs.SettingsSearch
import FindingsDigest.Proofs.Options
import FindingsDigest.Proofs.Output
import FindingsDigest.Proofs.Log
import FindingsDigest.Proofs.BrokenSettings
import FindingsDigest.Proofs.Verbosity
import FindingsDigest.Proofs.Memory
import FindingsDigest.Proofs.Rearrangement
import FindingsDigest.Proofs.Replacement
import FindingsDigest.Proofs.Digits
import FindingsDigest.Proofs.Quoted
import FindingsDigest.Proofs.Cut
import FindingsDigest.Proofs.Alignment
import FindingsDigest.Proofs.Bindings
import FindingsDigest.Proofs.CommandLine
import FindingsDigest.Proofs.Positions
import FindingsDigest.Proofs.WayUp
import FindingsDigest.Proofs.Spellings
