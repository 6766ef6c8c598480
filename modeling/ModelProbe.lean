import ModelProbe.Answer
import ModelProbe.Answer.Denial
import ModelProbe.Answer.Locate
import ModelProbe.Answer.Stream
import ModelProbe.Catalog
import ModelProbe.Catalog.Builtin
import ModelProbe.Catalog.Draft
import ModelProbe.Catalog.Entry
import ModelProbe.Catalog.Source
import ModelProbe.Client
import ModelProbe.Client.Repeated
import ModelProbe.CommandLine.Arguments
import ModelProbe.CommandLine.Options
import ModelProbe.CommandLine.Report
import ModelProbe.CommandLine.Run
import ModelProbe.Duration
import ModelProbe.Failure
import ModelProbe.Host
import ModelProbe.Host.Address
import ModelProbe.Host.Direction
import ModelProbe.Host.Domain
import ModelProbe.Host.Joining
import ModelProbe.Host.Mapping
import ModelProbe.Host.Punycode
import ModelProbe.Json.Number
import ModelProbe.Json.Reader
import ModelProbe.Json.Value
import ModelProbe.Json.Writer
import ModelProbe.Main
import ModelProbe.Number.Binary64
import ModelProbe.Number.Decimal
import ModelProbe.Number.Shortest
import ModelProbe.Pattern.CharSet
import ModelProbe.Pattern.Property
import ModelProbe.Pattern.Reader
import ModelProbe.Pattern.Search
import ModelProbe.Pattern.Size
import ModelProbe.Pattern.Tree
import ModelProbe.Proofs.Answer.Decode
import ModelProbe.Proofs.Answer.Head
import ModelProbe.Proofs.Answer.Text
import ModelProbe.Proofs.Client.Repeated
import ModelProbe.Proofs.Json.Extent
import ModelProbe.Proofs.Json.Locate
import ModelProbe.Proofs.Json.NumberExtent
import ModelProbe.Proofs.Shell.Word
import ModelProbe.Proofs.SortedMap
import ModelProbe.Proofs.Text.Replacing
import ModelProbe.Proofs.Text.Trimming
import ModelProbe.Protocol
import ModelProbe.Request
import ModelProbe.Setting
import ModelProbe.Setting.Convert
import ModelProbe.Setting.KeyPath
import ModelProbe.Setting.Source
import ModelProbe.Settings
import ModelProbe.Shell.Format
import ModelProbe.Shell.Launcher
import ModelProbe.Shell.Run
import ModelProbe.Shell.Script
import ModelProbe.Shell.Word
import ModelProbe.SortedMap
import ModelProbe.Status
import ModelProbe.Target
import ModelProbe.Template
import ModelProbe.Text.BinaryProperty
import ModelProbe.Text.Blank
import ModelProbe.Text.CaseFold
import ModelProbe.Text.Category
import ModelProbe.Text.CodeRanges
import ModelProbe.Text.Composed
import ModelProbe.Text.Digits
import ModelProbe.Text.LowerCase
import ModelProbe.Text.Printable
import ModelProbe.Text.Quoted
import ModelProbe.Text.Script
import ModelProbe.Text.Search
import ModelProbe.Text.Utf8
import ModelProbe.Text.WordClass
import ModelProbe.Toml.Document
import ModelProbe.Toml.Reader
import ModelProbe.Toml.Scalar
import ModelProbe.Transport
import ModelProbe.Transport.Http
import ModelProbe.Transport.Program
import ModelProbe.Url
import ModelProbe.Verdict
import ModelProbe.Workspace
import ModelProbe.Yaml.Reader
import ModelProbe.Yaml.Scalar
import ModelProbe.Proofs.Request.Description
import ModelProbe.Proofs.Client.Masking
import ModelProbe.Proofs.Answer.Streaming
import ModelProbe.Proofs.Answer.Denial
import ModelProbe.Proofs.Answer.Status
import ModelProbe.Proofs.Catalog.Merge
import ModelProbe.Proofs.Catalog.Draft
import ModelProbe.Proofs.Setting.Layer
import ModelProbe.Proofs.Toml.Document
import ModelProbe.Proofs.Toml.Text
import ModelProbe.Proofs.Catalog.Source
import ModelProbe.Proofs.Catalog.Stack
import ModelProbe.Proofs.Catalog.Reachable
import ModelProbe.Proofs.Template.Segments
import ModelProbe.Proofs.Template.Unresolved
import ModelProbe.Proofs.Template.Passes
import ModelProbe.Proofs.Shell.Split
import ModelProbe.Proofs.Json.Strings
import ModelProbe.Proofs.Template.JsonText
import ModelProbe.Proofs.Host.Text
import ModelProbe.Proofs.Url.Place
import ModelProbe.Proofs.Target.Advertised
import ModelProbe.Proofs.Client.Account
import ModelProbe.Proofs.Client.Operations
import ModelProbe.Proofs.CommandLine.Unsent
import ModelProbe.Proofs.Json.Row
import ModelProbe.Proofs.Transport.CurlCall
import ModelProbe.Proofs.Answer.Origin
import ModelProbe.Proofs.Json.Ordered
import ModelProbe.Proofs.Json.Shallowest
import ModelProbe.Proofs.Client.Bearer
import ModelProbe.Proofs.CommandLine.Iterations
import ModelProbe.Proofs.Setting.Defaults
import ModelProbe.Proofs.Settings.Leaves
import ModelProbe.Proofs.Settings.Variables
import ModelProbe.Proofs.Answer.Documents
import ModelProbe.Proofs.Answer.Completion
import ModelProbe.Proofs.Answer.Reason
import ModelProbe.Proofs.Pattern.Extent
import ModelProbe.Proofs.Pattern.ClassExtent
import ModelProbe.Proofs.Pattern.Token
import ModelProbe.Proofs.Pattern.Run
import ModelProbe.Proofs.Pattern.Gap
import ModelProbe.Proofs.Expectation.ModelName
import ModelProbe.Proofs.Pattern.Spans
import ModelProbe.Proofs.Pattern.Counted
import ModelProbe.Proofs.Catalog.Listing
import ModelProbe.Proofs.Target.Authority
import ModelProbe.Proofs.Answer.HeaderName
import ModelProbe.Proofs.Shell.Pasted
import ModelProbe.Proofs.Status.Resource
