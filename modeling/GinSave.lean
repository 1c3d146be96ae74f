import GinSave.App.Commands
import GinSave.App.Completion
import GinSave.App.Tree
import GinSave.Archive.Container
import GinSave.Archive.EmbeddedPath
import GinSave.Archive.Extract
import GinSave.Archive.Layout
import GinSave.Archive.Packing
import GinSave.Cli.Help
import GinSave.Cli.Parser
import GinSave.Cli.Run
import GinSave.Cli.Spec
import GinSave.Cli.Suggest
import GinSave.Cli.TextWrap
import GinSave.Codec.Bytes
import GinSave.Codec.Lz4
import GinSave.Codec.Xxh64
import GinSave.Codec.Zstd.Bits
import GinSave.Codec.Zstd.Error
import GinSave.Codec.Zstd.Frame
import GinSave.Codec.Zstd.Fse
import GinSave.Codec.Zstd.Huffman
import GinSave.Codec.Zstd.Literals
import GinSave.Codec.Zstd.Sequences
import GinSave.Config.Settings
import GinSave.Console.Cells
import GinSave.Console.Emoji
import GinSave.Console.EmojiCodes
import GinSave.Console.Markup
import GinSave.Console.Print
import GinSave.Fault
import GinSave.Json.Reader
import GinSave.Json.Value
import GinSave.Main
import GinSave.Number.Binary64
import GinSave.Number.Fixed
import GinSave.Number.Literal
import GinSave.Number.Shortest
import GinSave.Proofs.Archive.Readers
import GinSave.Proofs.Cli.Frame
import GinSave.Proofs.Config.Loadable
import GinSave.Proofs.Config.Runs
import GinSave.Proofs.Config.Persist
import GinSave.Proofs.Json.Quoted
import GinSave.Proofs.Json.Short
import GinSave.Proofs.Number.Decimal
import GinSave.Proofs.Save.Codec
import GinSave.Proofs.Save.Conforms
import GinSave.Proofs.Save.Fits
import GinSave.Proofs.Save.Layout
import GinSave.Proofs.Save.RoundTrip
import GinSave.Proofs.Save.Shaped
import GinSave.Proofs.Save.TextOrder
import GinSave.Proofs.Save.Tags
import GinSave.Proofs.Save.Ranges
import GinSave.Proofs.Save.Values
import GinSave.Proofs.Save.Walk
import GinSave.Proofs.Store.Frame
import GinSave.Proofs.Store.Keeps
import GinSave.Proofs.Text.Cut
import GinSave.Proofs.Text.Lines
import GinSave.Save.Assign
import GinSave.Save.Check
import GinSave.Save.Document
import GinSave.Save.Line
import GinSave.Save.Node
import GinSave.Save.Schema
import GinSave.Save.Stage
import GinSave.Save.Tagged
import GinSave.Save.Writer
import GinSave.Store.Basic
import GinSave.Store.Path
import GinSave.Store.World
import GinSave.Text.Alnum
import GinSave.Text.Blank
import GinSave.Text.Digit
import GinSave.Text.Lower
import GinSave.Text.Printable
import GinSave.Text.Quoted
import GinSave.Text.RangeTable
import GinSave.Text.Split
import GinSave.Text.Utf8
import GinSave.Proofs.Archive.Extraction
import GinSave.Proofs.Save.Total
import GinSave.Proofs.Json.ReadBack
import GinSave.Proofs.Archive.Refusal
import GinSave.Proofs.Save.Slots
import GinSave.Proofs.Save.Commute
import GinSave.Save.Session
import GinSave.Proofs.Save.History
import GinSave.Proofs.Store.Suffixes
import GinSave.Proofs.Archive.PathStop
import GinSave.Proofs.Store.Changes
import GinSave.Proofs.Archive.Layout
import GinSave.Proofs.Save.Headers
