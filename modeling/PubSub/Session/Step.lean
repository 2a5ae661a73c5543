import PubSub.Config.Document
import PubSub.Network.Background
import PubSub.Session.Report
/-!
# Session steps

What can be asked of a session, and what it answers. A session knows its agents, channels, raw clients and waits for
messages by labels, which the steps choose.
-/

namespace PubSub

/-- How a new agent reaches the broker. -/
inductive TransportChoice where
  | scripted
  | plain
  | missing
  deriving DecidableEq

structure AgentRequest where
  agent : String
  role : String
  instanceId : Option String
  /-- The text of a configuration file. -/
  document : Option String
  /-- Broker options in the place of the configured ones. -/
  broker : Option BrokerOptions
  overrides : BrokerOverrides
  autoConnect : Option Bool
  clientId : Option String
  transport : TransportChoice

/-- A description of a new channel, with the level of its guarantee as a number still to be checked. -/
structure ChannelRequest where
  agent : String
  label : String
  kind : PayloadKind
  name : String
  options : ChannelOptions
  qos : Option Nat

inductive Request where
  | build (request : AgentRequest)
  | inspectBuilder (request : AgentRequest)
  | describe (agent : String)
  | inspectAgent (agent : String)
  | connect (agent : String) (overrides : BrokerOverrides)
  | startConnect (agent ticket : String) (overrides : BrokerOverrides)
  | disconnect (agent : String)
  /-- Lets go of an agent, where things can be done in the background or not. -/
  | dropAgent (agent : String) (background : Bool)
  | publishRaw (agent : String) (message : Message) (qos : Option Nat) (retain : Bool)
  | script (transport : String) (change : ScriptChange)
  | release (transport : String) (number : Nat)
  | createSender (request : ChannelRequest)
  | describeSender (sender : String)
  | inspectSender (sender : String)
  | send (sender : String) (value : (kind : PayloadKind) → kind.Value)
  | sendRaw (sender : String) (payload : Bytes)
  | createReceiver (request : ChannelRequest)
  | subscribe (agent receiver : String)
  | describeReceiver (receiver : String)
  | inspectReceiver (receiver : String)
  | accepts (receiver : String) (topics : List String)
  | register (receiver : String) (callback : Callback)
  | dropReceiver (receiver : String)
  | next (receiver label : String)
  | poll (label : String)
  | dropNext (label : String)
  | publish (topic : String) (payload : Except Error Bytes) (retain : Bool) (times : Nat)
  | setAvailable (available : Bool)
  | requireCredentials (credentials : Credentials)
  | silenceAll
  | report (clients topics : List String)
  | inspectBroker
  | rawConnect (raw : String) (clientId : String) (options : BrokerOptions)
  | rawSubscribe (raw pattern : String) (qos : Option Nat)
  | rawPublish (raw : String) (message : Message) (retain : Bool)
  | rawClose (raw : String)
  | rawLive (raw : String)
  | rawReceive (raw : String) (sorted : Bool)
  | rawDrop (raw : String)

/-- A request together with what is to happen around it. -/
structure Step where
  request : Request
  watched : Option String
  /-- Whether the background work is done before the step ends. -/
  settles : Bool
  /-- Whether the reports of callbacks are sorted by topic. -/
  sorted : Bool

/-- What a label was expected to name. -/
inductive Subject where
  | agent
  | sender
  | receiver
  | raw
  | next
  deriving DecidableEq

inductive Refusal where
  | unknown (subject : Subject)
  | failed (error : Error)
  | transport (error : BrokerError)

/-- What a wait for a message has come to. -/
inductive Poll where
  | pending
  | ready (delivery : Delivery)
  /-- The receiver is gone, and no message will come. -/
  | gone

inductive Answer where
  | done
  | flag (value : Bool)
  | flags (values : List Bool)
  | count (value : Nat)
  | text (value : String)
  | agent (agent : Agent)
  | sender (sender : Sender)
  | receiver (receiver : Receiver)
  /-- A created or found sender, and the labels that stood for it already. -/
  | createdSender (known : List String) (sender : Sender)
  /-- A created or found receiver, and the labels that stood for it already. -/
  | createdReceiver (known : List String) (receiver : Receiver)
  | poll (poll : Poll)
  /-- Live connections, routed messages, retained payloads and filters. -/
  | report (connections published : Nat) (retained : List (Option Bytes)) (filters : List (List String))
  | link (live : Bool) (text : String)
  | received (messages : List Message) (closed : Bool)

/-- What can be seen of a step. -/
structure Outcome where
  answer : Except Refusal Answer
  /-- State and connectedness of the watched agent, if there is one. -/
  status : Option (ConnectionState × Bool)
  report : Report

end PubSub
