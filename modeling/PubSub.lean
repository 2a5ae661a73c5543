import PubSub.Agent.Lifecycle
import PubSub.Agent.Procedure
import PubSub.Agent.Service
import PubSub.Broker.History
import PubSub.Broker.Tables
import PubSub.Config.Document
import PubSub.MessagePack.Grammar
import PubSub.MessagePack.Reader
import PubSub.Network.Journal
import PubSub.Network.Ledger
import PubSub.Network.Round
import PubSub.Payload.Kind
import PubSub.Proofs.Agent.Conduct
import PubSub.Proofs.Agent.Connecting
import PubSub.Proofs.Agent.Creation
import PubSub.Proofs.Agent.Links
import PubSub.Proofs.Agent.Logging
import PubSub.Proofs.Agent.Operations
import PubSub.Proofs.Agent.Procedure
import PubSub.Proofs.Agent.Registry
import PubSub.Proofs.Agent.Resubscription
import PubSub.Proofs.Agent.Service
import PubSub.Proofs.Agent.Standing
import PubSub.Proofs.Agent.Terms
import PubSub.Proofs.Broker.Growth
import PubSub.Proofs.Broker.History
import PubSub.Proofs.Broker.Liveness
import PubSub.Proofs.Broker.Subscriptions
import PubSub.Proofs.Broker.Tables
import PubSub.Proofs.Config.Overlay
import PubSub.Proofs.Config.Reading
import PubSub.Proofs.Config.Writing
import PubSub.Proofs.Isolation.Agent
import PubSub.Proofs.Isolation.Broker
import PubSub.Proofs.Isolation.Builder
import PubSub.Proofs.Isolation.Handling
import PubSub.Proofs.Isolation.Journal
import PubSub.Proofs.Isolation.Labels
import PubSub.Proofs.Isolation.Leaving
import PubSub.Proofs.Isolation.Network
import PubSub.Proofs.Isolation.Party
import PubSub.Proofs.Isolation.Requests
import PubSub.Proofs.Isolation.Session
import PubSub.Proofs.Isolation.Steps
import PubSub.Proofs.Lifecycle.Attempts
import PubSub.Proofs.Lifecycle.Effect
import PubSub.Proofs.Lifecycle.Handles
import PubSub.Proofs.Lifecycle.Operations
import PubSub.Proofs.MessagePack.Header
import PubSub.Proofs.MessagePack.Item
import PubSub.Proofs.MessagePack.Record
import PubSub.Proofs.Network.Conduct
import PubSub.Proofs.Network.Delivery
import PubSub.Proofs.Network.Flow
import PubSub.Proofs.Network.Journal
import PubSub.Proofs.Network.Ledger
import PubSub.Proofs.Network.Links
import PubSub.Proofs.Network.Quiet
import PubSub.Proofs.Network.Round
import PubSub.Proofs.Network.Settling
import PubSub.Proofs.Network.Steady
import PubSub.Proofs.Network.Ticks
import PubSub.Proofs.Network.Tuning
import PubSub.Proofs.Network.Upholding
import PubSub.Proofs.Network.View
import PubSub.Proofs.Payload.Fields
import PubSub.Proofs.Payload.RoundTrip
import PubSub.Proofs.Payload.Tolerance
import PubSub.Proofs.Secrecy.Agent
import PubSub.Proofs.Secrecy.Network
import PubSub.Proofs.Secrecy.Redaction
import PubSub.Proofs.Secrecy.Session
import PubSub.Proofs.Secrecy.Steps
import PubSub.Proofs.Session.Conduct
import PubSub.Proofs.Session.Connectedness
import PubSub.Proofs.Session.Connecting
import PubSub.Proofs.Session.Connections
import PubSub.Proofs.Session.Creation
import PubSub.Proofs.Session.Delivery
import PubSub.Proofs.Session.Dispatching
import PubSub.Proofs.Session.Offers
import PubSub.Proofs.Session.Order
import PubSub.Proofs.Session.Payloads
import PubSub.Proofs.Session.Prediction
import PubSub.Proofs.Session.Publishing
import PubSub.Proofs.Session.Reachable
import PubSub.Proofs.Session.Refusals
import PubSub.Proofs.Session.Registry
import PubSub.Proofs.Session.Resubscription
import PubSub.Proofs.Session.Retention
import PubSub.Proofs.Session.Silence
import PubSub.Proofs.Session.Subscriptions
import PubSub.Proofs.Session.Traffic
import PubSub.Proofs.Session.Upholding
import PubSub.Proofs.Session.Use
import PubSub.Proofs.Session.View
import PubSub.Proofs.Toml.Lines
import PubSub.Proofs.Toml.Locality
import PubSub.Proofs.Toml.Tables
import PubSub.Proofs.Toml.Values
import PubSub.Proofs.Toml.Writing
import PubSub.Proofs.Topic.Acceptance
import PubSub.Proofs.Topic.Address
import PubSub.Proofs.Topic.Canonical
import PubSub.Proofs.Topic.Coverage
import PubSub.Proofs.Topic.Filter
import PubSub.Proofs.Topic.Grammar
import PubSub.Proofs.Topic.Text
import PubSub.Proofs.Transport.Calls
import PubSub.Session.Basic
import PubSub.Session.Traffic
import PubSub.Topic.Address
import PubSub.Topic.Filter
import PubSub.Topic.Pattern
