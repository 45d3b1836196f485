import BeanMeter.Agent.AttributeValue
import BeanMeter.Agent.Challenge
import BeanMeter.Agent.Connection
import BeanMeter.Agent.Endpoint
import BeanMeter.Agent.Exchange
import BeanMeter.Agent.Pem
import BeanMeter.Agent.ReadResults
import BeanMeter.Agent.Response
import BeanMeter.Agent.Script
import BeanMeter.Agent.ServiceAddress
import BeanMeter.Agent.SessionManager
import BeanMeter.Collection.SortedMap
import BeanMeter.CommandLine.Arguments
import BeanMeter.CommandLine.LogFilter
import BeanMeter.CommandLine.LogLine
import BeanMeter.CommandLine.Program
import BeanMeter.CommandLine.Report
import BeanMeter.CommandLine.Startup
import BeanMeter.CommandLine.Usage
import BeanMeter.Config.Checked
import BeanMeter.Config.Error
import BeanMeter.Config.Exporter
import BeanMeter.Config.Key
import BeanMeter.Config.PropertySet
import BeanMeter.Config.Raw
import BeanMeter.Emission.Emission
import BeanMeter.Emission.LogEvent
import BeanMeter.Exposition.Format
import BeanMeter.Exposition.Routes
import BeanMeter.Exposition.Sample
import BeanMeter.Exposition.SeriesStore
import BeanMeter.Failure
import BeanMeter.Host.Files
import BeanMeter.Host.HttpMessage
import BeanMeter.Host.Listening
import BeanMeter.Host.Moment
import BeanMeter.Json.Document
import BeanMeter.Json.Number
import BeanMeter.Json.Printer
import BeanMeter.Json.Record
import BeanMeter.Json.Token
import BeanMeter.Json.Value
import BeanMeter.Main
import BeanMeter.Mapping.Builtin
import BeanMeter.Mapping.Builtin.Documents
import BeanMeter.Mapping.Builtin.Messaging
import BeanMeter.Mapping.Builtin.Platform
import BeanMeter.Mapping.Builtin.Rule
import BeanMeter.Mapping.Builtin.Storage
import BeanMeter.Mapping.Builtin.WebServers
import BeanMeter.Mapping.Catalog
import BeanMeter.Mapping.Catalog.Document
import BeanMeter.Mapping.LabelSource
import BeanMeter.Mapping.Observation
import BeanMeter.Mapping.Registry
import BeanMeter.Metrics.Histogram
import BeanMeter.Metrics.ScrapeStats
import BeanMeter.Naming.Glob
import BeanMeter.Naming.NamePattern
import BeanMeter.Naming.ObjectName
import BeanMeter.Net.DomainName
import BeanMeter.Net.IpAddress
import BeanMeter.Net.Punycode
import BeanMeter.Net.Url
import BeanMeter.Number.Binary64
import BeanMeter.Number.Notation
import BeanMeter.Number.Reading
import BeanMeter.Number.Shortest
import BeanMeter.Proofs.Agent.Admission
import BeanMeter.Proofs.Agent.Authorization
import BeanMeter.Proofs.Agent.Decoding
import BeanMeter.Proofs.Agent.Deliveries
import BeanMeter.Proofs.Agent.Dialogue
import BeanMeter.Proofs.Agent.Opening
import BeanMeter.Proofs.Agent.SessionLife
import BeanMeter.Proofs.Agent.Turn
import BeanMeter.Proofs.CommandLine.Switches
import BeanMeter.Proofs.CommandLine.Validation
import BeanMeter.Proofs.Config.TargetList
import BeanMeter.Proofs.Mapping.Acceptance
import BeanMeter.Proofs.Mapping.Counting
import BeanMeter.Proofs.Mapping.DocumentOrder
import BeanMeter.Proofs.Mapping.Loading
import BeanMeter.Proofs.Mapping.ReadPlan
import BeanMeter.Proofs.Mapping.Uniqueness
import BeanMeter.Proofs.Scheduling.Accounting
import BeanMeter.Proofs.Scheduling.LifeCycle
import BeanMeter.Proofs.Scheduling.Move
import BeanMeter.Proofs.Scheduling.Reconnection
import BeanMeter.Proofs.Scheduling.TickEmission
import BeanMeter.Proofs.Scheduling.TickLog
import BeanMeter.Scheduling.Rehearsal
import BeanMeter.Scheduling.Scheduler
import BeanMeter.Text.Base64
import BeanMeter.Text.Blank
import BeanMeter.Text.Composition
import BeanMeter.Text.Invisible
import BeanMeter.Text.LowerCase
import BeanMeter.Text.LowerCase.Table
import BeanMeter.Text.Quoted
import BeanMeter.Text.Split
import BeanMeter.Text.Utf8
import BeanMeter.Version
import BeanMeter.Yaml.Cursor
import BeanMeter.Yaml.Folding
import BeanMeter.Yaml.Layout
import BeanMeter.Yaml.Node
import BeanMeter.Yaml.Printer
import BeanMeter.Yaml.Scalar
import BeanMeter.Yaml.Token
import BeanMeter.Proofs.Mapping.BuiltinCatalogs
import BeanMeter.Proofs.Mapping.BuiltinDocuments
import BeanMeter.Proofs.Config.WrittenProperties
import BeanMeter.Proofs.Exposition.Lines
import BeanMeter.Proofs.Exposition.RoundTrip
import BeanMeter.Proofs.CommandLine.Certificates
import BeanMeter.Proofs.CommandLine.Confidentiality
import BeanMeter.Proofs.Exposition.Conflation
import BeanMeter.Proofs.Exposition.Retention
import BeanMeter.Proofs.Naming.ConcretePatterns
import BeanMeter.Proofs.Config.Rules
import BeanMeter.Proofs.Config.FoldedLines
import BeanMeter.Proofs.Agent.EndpointUrl
import BeanMeter.Proofs.Config.CharacterCodes
import BeanMeter.Proofs.Agent.WrittenPort
import BeanMeter.Proofs.Mapping.Placeholders
import BeanMeter.Proofs.Agent.Independence
import BeanMeter.Proofs.Agent.SingleAttribute
import BeanMeter.Proofs.Agent.CertificateFiles
import BeanMeter.Proofs.Agent.ChallengeAnswers
import BeanMeter.Proofs.Mapping.DocumentFaults
import BeanMeter.Proofs.Exposition.SampleLines
import BeanMeter.Proofs.Exposition.WholeNumbers
import BeanMeter.Proofs.Agent.OfferedRealm
import BeanMeter.Proofs.Mapping.LabelRegex
import BeanMeter.Proofs.Mapping.LabelRoundTrip
import BeanMeter.Proofs.Metrics.Buckets
import BeanMeter.Proofs.Naming.GlobRegex
import BeanMeter.Proofs.Agent.CallbackHandling
