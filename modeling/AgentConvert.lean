import AgentConvert.Lib.Lines
import AgentConvert.Lib.Text
import AgentConvert.Lib.Parsec
import AgentConvert.Lib.Fallible
import AgentConvert.Lib.AncestorWalk
import AgentConvert.Lib.RootedList
import AgentConvert.Lib.Utf8
import AgentConvert.Lib.Decimal
import AgentConvert.Lib.FilePrograms
import AgentConvert.Json.Value
import AgentConvert.Json.Parser
import AgentConvert.Json.RawScan
import AgentConvert.Json.Access
import AgentConvert.Json.Ordered
import AgentConvert.Json.Number
import AgentConvert.Json.RoundTrip
import AgentConvert.Loom.Temporal
import AgentConvert.Loom.Core
import AgentConvert.Loom.RawValues
import AgentConvert.Loom.SourceVersion
import AgentConvert.Loom.WellFormed
import AgentConvert.Loom.Turns
import AgentConvert.CursorAgent.Historical
import AgentConvert.CursorAgent.Import
import AgentConvert.CursorAgent.WellFormed
import AgentConvert.CursorAgent.Export
import AgentConvert.CursorAgent.Archive
import AgentConvert.CursorAgent.RoundTrip
import AgentConvert.CursorAgent.Exportable
import AgentConvert.Pi.Fields
import AgentConvert.Pi.Carriers
import AgentConvert.Pi.Historical
import AgentConvert.Pi.Entry
import AgentConvert.Pi.Import
import AgentConvert.Pi.Links
import AgentConvert.Pi.Tree
import AgentConvert.Pi.Records
import AgentConvert.Pi.Prefix
import AgentConvert.Pi.WellFormed
import AgentConvert.CodexCli.Carriers
import AgentConvert.CodexCli.Session
import AgentConvert.ClaudeCode.Historical
import AgentConvert.ClaudeCode.Carriers
import AgentConvert.ClaudeCode.Schema
import AgentConvert.ClaudeCode.Events
import AgentConvert.ClaudeCode.Graph
import AgentConvert.ClaudeCode.Import
import AgentConvert.ClaudeCode.LinkFree
import AgentConvert.ClaudeCode.Resolve
import AgentConvert.ClaudeCode.Prefix
import AgentConvert.Viewer.ReadPrefix
import AgentConvert.Viewer.Harness
import AgentConvert.Viewer.Session
import AgentConvert.Viewer.Preview
import AgentConvert.Viewer.Catalog
import AgentConvert.Viewer.Conversation
import AgentConvert.Viewer.Cache
import AgentConvert.Wire.Format
import AgentConvert.Wire.RoundTrip
import AgentConvert.Wire.Text
import AgentConvert.Subagents.Stitch
import AgentConvert.Subagents.WellFormed
import AgentConvert.Subagents.Checked
import AgentConvert.Subagents.Metadata
import AgentConvert.Cli.Publication
import AgentConvert.Cli.Places
import AgentConvert.Cli.Atomicity
