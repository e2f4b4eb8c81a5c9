import FirewallExporter.Config.Basic
import FirewallExporter.Config.Document
import FirewallExporter.Config.Timeout
import FirewallExporter.Decimal
import FirewallExporter.Device.Dialogue
import FirewallExporter.Device.Reply
import FirewallExporter.Device.Script
import FirewallExporter.Duration
import FirewallExporter.Exporter.Plan
import FirewallExporter.Exporter.Router
import FirewallExporter.Exporter.Target
import FirewallExporter.Firmware.Capability
import FirewallExporter.Firmware.Version
import FirewallExporter.Http.Address
import FirewallExporter.Http.Authority
import FirewallExporter.Http.Client
import FirewallExporter.Http.Devices
import FirewallExporter.Http.Form
import FirewallExporter.Http.Framing
import FirewallExporter.Http.Head
import FirewallExporter.Http.Network
import FirewallExporter.Http.Uri
import FirewallExporter.Http.Wire
import FirewallExporter.Json
import FirewallExporter.Json.Number
import FirewallExporter.Json.Reader
import FirewallExporter.Json.Shape
import FirewallExporter.Json.Writer
import FirewallExporter.Metric.Exposition
import FirewallExporter.Metric.Offer
import FirewallExporter.Metric.Sample
import FirewallExporter.Probe.Catalogue
import FirewallExporter.Probe.Category
import FirewallExporter.Probe.CentralManagement
import FirewallExporter.Probe.Correlation
import FirewallExporter.Probe.Discovery
import FirewallExporter.Probe.DnsLatency
import FirewallExporter.Probe.NtpStatus
import FirewallExporter.Probe.Performance
import FirewallExporter.Probe.Sandbox
import FirewallExporter.Probe.Sensors
import FirewallExporter.Probe.SwitchHealth
import FirewallExporter.Probe.SwitchPorts
import FirewallExporter.Probe.Transceivers
import FirewallExporter.Scrape
import FirewallExporter.Text.Blank
import FirewallExporter.Text.Natural
import FirewallExporter.Text.Quoted
import FirewallExporter.Text.Reader
import FirewallExporter.Text.Unprintable
import FirewallExporter.Text.Utf8
import FirewallExporter.Toml
import FirewallExporter.Toml.Document
import FirewallExporter.Toml.Reader
import FirewallExporter.Toml.Scalar
import FirewallExporter.Toml.Text
import FirewallExporter.Proofs.Lists
import FirewallExporter.Proofs.Metric.Rows
import FirewallExporter.Proofs.Firmware.Ranges
import FirewallExporter.Proofs.Exposition.Reader
import FirewallExporter.Proofs.Exposition.Groups
import FirewallExporter.Proofs.Device.Runs
import FirewallExporter.Proofs.Probe.Families
import FirewallExporter.Proofs.Exposition.RoundTrip
import FirewallExporter.Proofs.Scrape.Interleaving
import FirewallExporter.Proofs.Json.Ordered
import FirewallExporter.Proofs.Json.Records
import FirewallExporter.Proofs.Probe.Correlation
import FirewallExporter.Proofs.Text.ByteOrder
import FirewallExporter.Proofs.Probe.SwitchRecords
import FirewallExporter.Proofs.Probe.SwitchPorts
import FirewallExporter.Proofs.Probe.InlineCounters
import FirewallExporter.Proofs.Probe.Endpoints
import FirewallExporter.Proofs.Exporter.Discovery
import FirewallExporter.Proofs.Device.Queries
import FirewallExporter.Proofs.Metric.Emission
import FirewallExporter.Proofs.Probe.Outcomes
import FirewallExporter.Proofs.Json.Nulls
import FirewallExporter.Proofs.Json.Order
import FirewallExporter.Proofs.Probe.NullMembers
import FirewallExporter.Proofs.Http.Form
import FirewallExporter.Proofs.Config.Plans
import FirewallExporter.Proofs.Exporter.Directory
import FirewallExporter.Proofs.Exporter.Configured
import FirewallExporter.Proofs.Scrape.Termination
import FirewallExporter.Proofs.Exporter.Hosts
import FirewallExporter.Proofs.Exporter.Routing
import FirewallExporter.Proofs.Exporter.Sessions
import FirewallExporter.Proofs.Text.Trim
import FirewallExporter.Proofs.Firmware.Grammar
import FirewallExporter.Proofs.Exposition.Blocks
import FirewallExporter.Proofs.Scrape.Coherence
import FirewallExporter.Proofs.Json.Extensions
import FirewallExporter.Proofs.Probe.PartialBodies
import FirewallExporter.Proofs.Firmware.PatchLevels
import FirewallExporter.Proofs.Probe.SwitchHealth
import FirewallExporter.Proofs.Probe.Performance
import FirewallExporter.Proofs.Metric.Zeros
import FirewallExporter.Proofs.Probe.Sensors
import FirewallExporter.Proofs.Json.Frames
import FirewallExporter.Proofs.Probe.Blocks
import FirewallExporter.Proofs.Probe.NtpStatus
import FirewallExporter.Proofs.Probe.Recordwise
import FirewallExporter.Proofs.Config.Faults
import FirewallExporter.Proofs.Config.Timeouts
import FirewallExporter.Proofs.Probe.Selection
import FirewallExporter.Proofs.Firmware.Resolution
import FirewallExporter.Proofs.Probe.Categories
import FirewallExporter.Proofs.Probe.Words
import FirewallExporter.Proofs.Http.Authorities
import FirewallExporter.Proofs.Http.Uris
import FirewallExporter.Proofs.Http.Requests
import FirewallExporter.Proofs.Http.Exchanges
import FirewallExporter.Proofs.Metric.Offers
