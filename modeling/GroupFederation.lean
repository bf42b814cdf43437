import GroupFederation.Aggregation.Engine
import GroupFederation.Decimal.Shortest
import GroupFederation.Group
import GroupFederation.Group.Json
import GroupFederation.Http.Canned
import GroupFederation.Http.Client
import GroupFederation.Http.Headers
import GroupFederation.Http.Url
import GroupFederation.Json.Printer
import GroupFederation.Json.Reader
import GroupFederation.Metrics.Exposition
import GroupFederation.Metrics.Report
import GroupFederation.Metrics.Tally
import GroupFederation.Proofs.Aggregation.ConfigurationOrder
import GroupFederation.Proofs.Aggregation.Conservation
import GroupFederation.Proofs.Aggregation.Decomposition
import GroupFederation.Proofs.Aggregation.Duration
import GroupFederation.Proofs.Aggregation.FanOut
import GroupFederation.Proofs.Aggregation.FirstAnswer
import GroupFederation.Proofs.Aggregation.GroupLookup
import GroupFederation.Proofs.Aggregation.Inquiry
import GroupFederation.Proofs.Aggregation.Listing
import GroupFederation.Proofs.Aggregation.MemberListing
import GroupFederation.Proofs.Aggregation.Merge
import GroupFederation.Proofs.Aggregation.Operations
import GroupFederation.Proofs.Aggregation.Redaction
import GroupFederation.Proofs.Grammar
import GroupFederation.Proofs.Group.Json
import GroupFederation.Proofs.Http.Address
import GroupFederation.Proofs.Http.Redaction
import GroupFederation.Proofs.Json.Reading
import GroupFederation.Proofs.Json.Writing
import GroupFederation.Proofs.Naming
import GroupFederation.Proofs.Provider.Acceptance
import GroupFederation.Proofs.Provider.CollectionLookup
import GroupFederation.Proofs.Provider.Envelope
import GroupFederation.Proofs.Provider.FailedCall
import GroupFederation.Proofs.Provider.LenientList
import GroupFederation.Proofs.Provider.ListedNames
import GroupFederation.Proofs.Provider.Lookup
import GroupFederation.Proofs.Provider.NormalForm
import GroupFederation.Proofs.Provider.OwnNames
import GroupFederation.Proofs.Provider.Redaction
import GroupFederation.Proofs.Provider.RegistryGroups
import GroupFederation.Proofs.Provider.RegistryLookup
import GroupFederation.Proofs.Provider.Routing
import GroupFederation.Proofs.Provider.Target
import GroupFederation.Proofs.Service.Admission
import GroupFederation.Proofs.Service.Authorization
import GroupFederation.Proofs.Service.EndpointAgreement
import GroupFederation.Proofs.Service.Envelope
import GroupFederation.Proofs.Service.Exit
import GroupFederation.Proofs.Service.Guards
import GroupFederation.Proofs.Service.Isolation
import GroupFederation.Proofs.Service.RequestCounts
import GroupFederation.Proofs.Service.RequestSeries
import GroupFederation.Proofs.Service.Retention
import GroupFederation.Proofs.Service.Secrecy
import GroupFederation.Proofs.Service.Statuses
import GroupFederation.Proofs.Settings.Precedence
import GroupFederation.Proofs.Settings.Variables
import GroupFederation.Proofs.Soap.Answer
import GroupFederation.Proofs.Soap.Equivalence
import GroupFederation.Proofs.Soap.Fault
import GroupFederation.Proofs.Soap.Incomplete
import GroupFederation.Proofs.Soap.Passage
import GroupFederation.Proofs.Soap.Rendering
import GroupFederation.Proofs.Soap.Request
import GroupFederation.Proofs.Soap.Walk
import GroupFederation.Proofs.Text.Segment
import GroupFederation.Proofs.Token.Accounting
import GroupFederation.Proofs.Token.Course
import GroupFederation.Proofs.Token.Decision
import GroupFederation.Proofs.Token.Evaluation
import GroupFederation.Proofs.Token.History
import GroupFederation.Proofs.Token.Introspection
import GroupFederation.Proofs.Token.Loss
import GroupFederation.Proofs.Token.Provenance
import GroupFederation.Proofs.Token.Recall
import GroupFederation.Proofs.Token.Redaction
import GroupFederation.Proofs.Token.Renewal
import GroupFederation.Proofs.Token.Retention
import GroupFederation.Proofs.Token.Sweeping
import GroupFederation.Proofs.Token.TimedMap
import GroupFederation.Proofs.Token.Together
import GroupFederation.Proofs.Token.Traffic
import GroupFederation.Proofs.Token.Transition
import GroupFederation.Proofs.Token.Transparency
import GroupFederation.Proofs.Trace.Injection
import GroupFederation.Proofs.Trace.Position
import GroupFederation.Proofs.Trace.State
import GroupFederation.Proofs.Xml.CharacterData
import GroupFederation.Proofs.Xml.Document
import GroupFederation.Proofs.Xml.Nesting
import GroupFederation.Proofs.Xml.Passage
import GroupFederation.Proofs.Xml.Tree
import GroupFederation.Provider.Build
import GroupFederation.Provider.Config
import GroupFederation.Provider.Failure
import GroupFederation.Provider.Fake
import GroupFederation.Provider.Routing
import GroupFederation.Service.Access
import GroupFederation.Service.Error
import GroupFederation.Service.RequestId
import GroupFederation.Service.Router
import GroupFederation.Settings.Basic
import GroupFederation.Settings.Dotenv
import GroupFederation.Settings.Environment
import GroupFederation.Settings.Load
import GroupFederation.Settings.Path
import GroupFederation.Settings.Value
import GroupFederation.Soap.Envelope
import GroupFederation.Soap.Results
import GroupFederation.Startup
import GroupFederation.Text.Base64
import GroupFederation.Text.Blank
import GroupFederation.Text.Charset
import GroupFederation.Text.Percent
import GroupFederation.Text.Quoted
import GroupFederation.Token.Chain
import GroupFederation.Token.Introspection
import GroupFederation.Token.Verdict
import GroupFederation.Trace.Context
import GroupFederation.Trace.State
import GroupFederation.Urn
