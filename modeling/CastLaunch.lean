import CastLaunch.Bridge
import CastLaunch.Call
import CastLaunch.Catalog
import CastLaunch.CommandLine.Arguments
import CastLaunch.CommandLine.Help
import CastLaunch.CommandLine.Mark
import CastLaunch.CommandLine.Opt
import CastLaunch.CommandLine.Overrides
import CastLaunch.CommandLine.PortOptions
import CastLaunch.Config
import CastLaunch.ConfigError
import CastLaunch.Count
import CastLaunch.Cycle.Failure
import CastLaunch.Cycle.Plan
import CastLaunch.Cycle.Start
import CastLaunch.Cycle.Stop
import CastLaunch.Decimal.Shortest
import CastLaunch.Discovery.Address
import CastLaunch.Discovery.Advertiser
import CastLaunch.Discovery.Service
import CastLaunch.Execution
import CastLaunch.FactorySet
import CastLaunch.FileTree
import CastLaunch.Geometry
import CastLaunch.Identifier
import CastLaunch.Launch
import CastLaunch.Lifecycle.Controller
import CastLaunch.Lifecycle.Events
import CastLaunch.Lifecycle.Run
import CastLaunch.Limits
import CastLaunch.Log
import CastLaunch.Logging.Setup
import CastLaunch.Logging.Template
import CastLaunch.Main
import CastLaunch.Media
import CastLaunch.Orientation
import CastLaunch.PortGroup
import CastLaunch.Provision
import CastLaunch.Session
import CastLaunch.Settings.File
import CastLaunch.Settings.Sections
import CastLaunch.ShapeError
import CastLaunch.Sink
import CastLaunch.Text.Blank
import CastLaunch.Text.Digit
import CastLaunch.Text.Lines
import CastLaunch.Text.Numeral
import CastLaunch.Text.Printable
import CastLaunch.Text.Quoted
import CastLaunch.Text.Uppercase
import CastLaunch.Text.Utf8
import CastLaunch.Value
import CastLaunch.Yaml.Cursor
import CastLaunch.Yaml.Load
import CastLaunch.Yaml.Node
import CastLaunch.Yaml.Quoted
import CastLaunch.Yaml.Scalar
import CastLaunch.Yaml.Token
import CastLaunch.Yaml.Unquoted
import CastLaunch.Proofs.Execution
import CastLaunch.Proofs.Cycle.Release
import CastLaunch.Proofs.Cycle.Steps
import CastLaunch.Proofs.Cycle.Teardown
import CastLaunch.Proofs.Cycle.Rollback
import CastLaunch.Proofs.Discovery.Records
import CastLaunch.Proofs.Discovery.Ledger
import CastLaunch.Proofs.Cycle.Answers
import CastLaunch.Proofs.Cycle.Course
import CastLaunch.Proofs.Session.Routing
import CastLaunch.Proofs.Cycle.Interleaving
import CastLaunch.Proofs.Cycle.Living
import CastLaunch.Proofs.Lifecycle.Settle
import CastLaunch.Proofs.Lifecycle.Period
import CastLaunch.Proofs.Lifecycle.Lap
import CastLaunch.Proofs.Lifecycle.Laps
import CastLaunch.Proofs.Lifecycle.Stops
import CastLaunch.Proofs.Lifecycle.Latest
import CastLaunch.Proofs.Lifecycle.Requests
import CastLaunch.Proofs.Lifecycle.Afresh
import CastLaunch.Proofs.Lifecycle.History
import CastLaunch.Proofs.Session.Idle
import CastLaunch.Proofs.Session.Reports
import CastLaunch.Proofs.Configuration.Agreement
import CastLaunch.Proofs.Configuration.Refusals
import CastLaunch.Proofs.Configuration.Options
import CastLaunch.Proofs.Configuration.Written
import CastLaunch.Proofs.Configuration.Saved
import CastLaunch.Proofs.CommandLine.Occurrences
import CastLaunch.Proofs.Launch.ExitStatus
import CastLaunch.Proofs.Text.Utf8
import CastLaunch.Proofs.Yaml.Nested
import CastLaunch.Proofs.Yaml.Digits
import CastLaunch.Proofs.Configuration.Numbers
import CastLaunch.Proofs.Identifier.Sources
import CastLaunch.Proofs.Identifier.Reading
import CastLaunch.Proofs.Configuration.PortLists
import CastLaunch.Proofs.CommandLine.Transports
import CastLaunch.Proofs.CommandLine.Overriding
import CastLaunch.Proofs.Cycle.Advertised
import CastLaunch.Proofs.Configuration.Geometries
import CastLaunch.Proofs.Text.Trim
import CastLaunch.Proofs.Identifier.Forms
import CastLaunch.Proofs.Discovery.Names
import CastLaunch.Proofs.Launch.FactoryPaths
import CastLaunch.Proofs.Configuration.Shapes
import CastLaunch.Proofs.Identifier.Choice
import CastLaunch.Proofs.Launch.Renderers
import CastLaunch.Proofs.Cycle.Forwarding
