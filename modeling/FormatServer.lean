import FormatServer.Command
import FormatServer.Config.Files
import FormatServer.Data.Basic
import FormatServer.Data.Decoding
import FormatServer.Data.Word
import FormatServer.Disk.Basic
import FormatServer.Disk.Environment
import FormatServer.Disk.Place
import FormatServer.Engine.Backend
import FormatServer.Engine.Failure
import FormatServer.Engine.FileInfo
import FormatServer.Engine.Installed
import FormatServer.Engine.Lookup
import FormatServer.Engine.Options
import FormatServer.Engine.Program
import FormatServer.Engine.Version
import FormatServer.Json.Numeral
import FormatServer.Json.Printer
import FormatServer.Json.Tree
import FormatServer.Json.Value
import FormatServer.Language.Builtin
import FormatServer.Language.Map
import FormatServer.Language.Table
import FormatServer.Main
import FormatServer.Path.Basic
import FormatServer.Path.Normal
import FormatServer.Pipeline.Execution
import FormatServer.Pipeline.Format
import FormatServer.Pipeline.Services
import FormatServer.Proofs.Command.Agreement
import FormatServer.Proofs.Command.Inference
import FormatServer.Proofs.Command.Invocation
import FormatServer.Proofs.Command.Output
import FormatServer.Proofs.Config.Discovery
import FormatServer.Proofs.Disk.Files
import FormatServer.Proofs.Disk.Spelling
import FormatServer.Proofs.Engine.Arguments
import FormatServer.Proofs.Engine.Asking
import FormatServer.Proofs.Engine.CommandLine
import FormatServer.Proofs.Engine.History
import FormatServer.Proofs.Engine.Installed
import FormatServer.Proofs.Engine.Lookup
import FormatServer.Proofs.Engine.Priority
import FormatServer.Proofs.Engine.Version
import FormatServer.Proofs.Language.Enabled
import FormatServer.Proofs.Language.Inference
import FormatServer.Proofs.Language.Lookup
import FormatServer.Proofs.Language.Overlay
import FormatServer.Proofs.Language.Parsers
import FormatServer.Proofs.Language.Sources
import FormatServer.Proofs.Path.Ancestors
import FormatServer.Proofs.Path.Nesting
import FormatServer.Proofs.Path.Normal
import FormatServer.Proofs.Path.Parents
import FormatServer.Proofs.Pipeline.Congruence
import FormatServer.Proofs.Pipeline.Gates
import FormatServer.Proofs.Pipeline.Heedless
import FormatServer.Proofs.Pipeline.OneFolder
import FormatServer.Proofs.Pipeline.Publication
import FormatServer.Proofs.Pipeline.Ranges
import FormatServer.Proofs.Pipeline.Record
import FormatServer.Proofs.Pipeline.Reminders
import FormatServer.Proofs.Pipeline.RequiredConfig
import FormatServer.Proofs.Pipeline.Sharing
import FormatServer.Proofs.Selector.Agreement
import FormatServer.Proofs.Selector.Scope
import FormatServer.Proofs.Server.Acceptance
import FormatServer.Proofs.Server.DocumentVersions
import FormatServer.Proofs.Server.Edits
import FormatServer.Proofs.Server.FolderEvents
import FormatServer.Proofs.Server.FolderIsolation
import FormatServer.Proofs.Server.LanguagePrecedence
import FormatServer.Proofs.Server.Loading
import FormatServer.Proofs.Server.Overtaking
import FormatServer.Proofs.Server.Reachable
import FormatServer.Proofs.Server.Staleness
import FormatServer.Proofs.Server.StatusOrder
import FormatServer.Proofs.Server.Turns
import FormatServer.Proofs.Server.WrappedSettings
import FormatServer.Proofs.Settings.BrokenFolders
import FormatServer.Proofs.Settings.BrokenSources
import FormatServer.Proofs.Settings.Folders
import FormatServer.Proofs.Settings.Layering
import FormatServer.Proofs.Settings.Merging
import FormatServer.Proofs.Text.Application
import FormatServer.Proofs.Text.Blank
import FormatServer.Proofs.Text.Encoding
import FormatServer.Proofs.Text.Index
import FormatServer.Proofs.Text.Offsets
import FormatServer.Proofs.Url.FileUrl
import FormatServer.Proofs.Workspace.Innermost
import FormatServer.Report
import FormatServer.Request
import FormatServer.Selector
import FormatServer.Server.Answer
import FormatServer.Server.Capability
import FormatServer.Server.Documents
import FormatServer.Server.Incoming
import FormatServer.Server.Message
import FormatServer.Server.Registrar
import FormatServer.Server.Session
import FormatServer.Server.Shape
import FormatServer.Server.SharedRegistrar
import FormatServer.Server.SharedSession
import FormatServer.Server.Wire
import FormatServer.Settings.Layer
import FormatServer.Settings.Resolved
import FormatServer.Settings.Sources
import FormatServer.Settings.Style
import FormatServer.Text.Blank
import FormatServer.Text.Edit
import FormatServer.Text.Index
import FormatServer.Text.Line
import FormatServer.Text.Scalar
import FormatServer.Text.Utf8
import FormatServer.Toml.Document
import FormatServer.Toml.Scalar
import FormatServer.Toml.Statement
import FormatServer.Toml.Text
import FormatServer.Unicode.CombiningClass
import FormatServer.Unicode.Composition
import FormatServer.Unicode.Direction
import FormatServer.Unicode.Joining
import FormatServer.Unicode.Mark
import FormatServer.Unicode.Normal
import FormatServer.Unicode.Table
import FormatServer.Uri
import FormatServer.Url.Basic
import FormatServer.Url.Domain
import FormatServer.Url.DomainMapping
import FormatServer.Url.Host
import FormatServer.Url.Parser
import FormatServer.Url.Percent
import FormatServer.Url.Punycode
import FormatServer.Workspace
