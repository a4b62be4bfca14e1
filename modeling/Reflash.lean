import Reflash.Archive.Basic
import Reflash.Archive.Bzip2
import Reflash.Archive.Bzip2.Scatter
import Reflash.Archive.Expansion
import Reflash.Archive.Inflate
import Reflash.Archive.Lzma
import Reflash.Archive.Lzma.Chunks
import Reflash.Archive.Packing
import Reflash.Archive.PrefixCode
import Reflash.Archive.RangeCode
import Reflash.Archive.Xz
import Reflash.Archive.Zip
import Reflash.Archive.Zip.Directory
import Reflash.Archive.Zip.Listing
import Reflash.Archive.Zstd
import Reflash.Archive.Zstd.Literals
import Reflash.Archive.Zstd.Sequences
import Reflash.Archive.Zstd.States
import Reflash.Bytes
import Reflash.Command.Answer
import Reflash.Command.Arguments
import Reflash.Command.Completion
import Reflash.Command.Error
import Reflash.Command.Invocation
import Reflash.Command.Menu
import Reflash.Command.Run
import Reflash.Command.Terminal
import Reflash.Container.Basic
import Reflash.Container.Checksums
import Reflash.Container.Manifest
import Reflash.Container.Parse
import Reflash.Crypto.Certificate
import Reflash.Crypto.Chain
import Reflash.Crypto.Der
import Reflash.Crypto.Der.Decoder
import Reflash.Crypto.Der.Fault
import Reflash.Crypto.Error
import Reflash.Crypto.KeyInfo
import Reflash.Crypto.Keys
import Reflash.Crypto.Modular
import Reflash.Crypto.P256
import Reflash.Crypto.Rsa
import Reflash.Crypto.Sample
import Reflash.Device.Admin
import Reflash.Device.Connection
import Reflash.Device.Error
import Reflash.Device.Model
import Reflash.Device.Session
import Reflash.Device.Status
import Reflash.Dfu.Fault
import Reflash.Dfu.Packet
import Reflash.Dialogue
import Reflash.Document.Field
import Reflash.Document.Image
import Reflash.Document.Log
import Reflash.Document.Outcome
import Reflash.Document.Script
import Reflash.Document.Value
import Reflash.Expectation
import Reflash.Files
import Reflash.Hash.Checksum
import Reflash.Hash.Sha256
import Reflash.Image.Cursor
import Reflash.Image.Error
import Reflash.Image.FileName
import Reflash.Image.Manifest
import Reflash.Image.Package
import Reflash.Image.Sb2
import Reflash.Image.Sb2.CertificateBlock
import Reflash.Image.Sb2.Header
import Reflash.Image.Trust
import Reflash.Image.Validate
import Reflash.Json.Basic
import Reflash.Json.Decoder
import Reflash.Json.Decoder.Literal
import Reflash.Json.Decoder.Number
import Reflash.Json.Decoder.Record
import Reflash.Json.Decoder.Value
import Reflash.Json.Fault
import Reflash.Json.Printer
import Reflash.Json.Reader
import Reflash.Json.Token
import Reflash.Main
import Reflash.Pattern.Automaton
import Reflash.Pattern.Basic
import Reflash.Pattern.Bracket
import Reflash.Pattern.Escape
import Reflash.Pattern.Extent
import Reflash.Pattern.Meaning
import Reflash.Pattern.Parser
import Reflash.Pattern.Reading
import Reflash.Pattern.Simplify
import Reflash.Pattern.Syntax
import Reflash.Primitives
import Reflash.Proofs.Device.Reply
import Reflash.Proofs.Dialogue.Course
import Reflash.Proofs.Update.Record
import Reflash.Proofs.Update.Step
import Reflash.Proofs.Version
import Reflash.Release.Basic
import Reflash.Release.Download
import Reflash.Release.Server
import Reflash.Scripted.Device
import Reflash.Scripted.Double
import Reflash.Scripted.Folder
import Reflash.Scripted.Scenario
import Reflash.Scripted.World
import Reflash.Severity
import Reflash.Summary
import Reflash.Text.Decimal
import Reflash.Text.Hex
import Reflash.Text.Lines
import Reflash.Text.Quoted
import Reflash.Text.Shortest
import Reflash.Text.Utf8
import Reflash.Unicode.Binary
import Reflash.Unicode.Boundary
import Reflash.Unicode.Category
import Reflash.Unicode.CodeSet
import Reflash.Unicode.Folding
import Reflash.Unicode.Property
import Reflash.Unicode.Script
import Reflash.Update.Config
import Reflash.Update.Error
import Reflash.Update.Migration
import Reflash.Update.Policy
import Reflash.Update.Question
import Reflash.Update.Retry
import Reflash.Update.Run
import Reflash.Update.State
import Reflash.Update.Warning
import Reflash.Version.Basic
import Reflash.Version.Order
import Reflash.Version.Text
import Reflash.Wire.Fault
import Reflash.Wire.Field
import Reflash.Proofs.Update.Planning
import Reflash.Proofs.Update.Transition
import Reflash.Proofs.Update.Installation
import Reflash.Proofs.Update.Course
import Reflash.Proofs.Update.Acts
import Reflash.Proofs.Update.Written
import Reflash.Proofs.Update.FlashGate
import Reflash.Proofs.Update.Consent
import Reflash.Proofs.Update.MigrationChoice
import Reflash.Proofs.Update.FailureReport
import Reflash.Proofs.Image.Cursor
import Reflash.Proofs.Image.Sb2.CertificateBlock
import Reflash.Proofs.Image.Sb2.Authentic
import Reflash.Proofs.Result
import Reflash.Proofs.Image.Sb2.TableLength
import Reflash.Proofs.Image.Package
import Reflash.Proofs.Image.Signer
import Reflash.Proofs.Container.Checksums
import Reflash.Proofs.Container.Verified
import Reflash.Proofs.Bytes
import Reflash.Proofs.Lists
import Reflash.Proofs.Update.States
import Reflash.Proofs.Update.RebootAnswer
import Reflash.Proofs.Update.Success
import Reflash.Proofs.Dialogue.CutShort
import Reflash.Proofs.Update.IgnoredWarnings
import Reflash.Proofs.Dialogue.Asks
import Reflash.Proofs.Dialogue.Detour
import Reflash.Proofs.Update.Stages
import Reflash.Proofs.Update.Offers
import Reflash.Proofs.Update.ReleasePolicy
import Reflash.Proofs.Update.SourceChoice
import Reflash.Proofs.Device.Session
import Reflash.Proofs.Update.Closing
import Reflash.Proofs.Update.Verdict
import Reflash.Proofs.Command.Check
import Reflash.Proofs.Crypto.Chain
import Reflash.Proofs.Image.Verdict
import Reflash.Proofs.Update.Reconnect
import Reflash.Proofs.Command.Endings
import Reflash.Proofs.Command.Documents
import Reflash.Proofs.Version.Precedence
import Reflash.Proofs.Text.Decimal
import Reflash.Proofs.Version.Equality
import Reflash.Proofs.Update.Migration
import Reflash.Proofs.Version.Grammar
import Reflash.Proofs.Version.Selection
import Reflash.Proofs.Version.Display
import Reflash.Proofs.Version.Semantic
import Reflash.Proofs.Wire.Field
import Reflash.Proofs.Dfu.Packet
import Reflash.Proofs.Image.Malformed
import Reflash.Proofs.Image.Fields
import Reflash.Proofs.Image.Sb2.Header
import Reflash.Proofs.Version.Packed
import Reflash.Proofs.Device.VersionReply
import Reflash.Proofs.Image.FileName
import Reflash.Proofs.Release.Download
import Reflash.Proofs.Image.Cursor.Requests
