import PubSub.Connection.State
/-!
# Errors

The causes for which an operation of the library is refused, and the one wording of each. A cause holds the names and
topics it speaks about, so a caller can tell apart what the wording joins.
-/

namespace PubSub

/-- The part of an address that a literal level was wanted for. -/
inductive AddressPart where
  | channelName
  | role
  | instanceId
  | senderRole
  | senderInstance
  | receiverRole
  | receiverInstance
  deriving DecidableEq

def AddressPart.text : AddressPart → String
  | channelName => "channel name"
  | role => "role"
  | instanceId => "instance id"
  | senderRole => "sender role"
  | senderInstance => "sender instance id"
  | receiverRole => "receiver role"
  | receiverInstance => "receiver instance id"

/-- Why a text is no name, topic or receiver pattern. -/
inductive AddressFault where
  | emptyLevel (part : AddressPart)
  | slash (part : AddressPart)
  | wildcard (part : AddressPart)
  /-- A topic has two or three levels. -/
  | levelCount (found : Nat)
  /-- `#` shares its level with other characters or is not the last level. -/
  | misplacedMultiLevel
  /-- `+` shares its level with other characters. -/
  | partialSingleLevel
  | noChannelName
  | wildcardChannelName
  | emptyChannelName
  | described (reason : String)
  deriving DecidableEq

def AddressFault.message : AddressFault → String
  | emptyLevel part => part.text ++ " must not be empty"
  | slash part => part.text ++ " must not contain '/'"
  | wildcard part => part.text ++ " must not contain wildcards"
  | levelCount found => "expected 2 or 3 segments, found " ++ toString found
  | misplacedMultiLevel => "'#' must be a whole segment and the last one"
  | partialSingleLevel => "'+' must be a whole segment"
  | noChannelName => "no channel-name segment"
  | wildcardChannelName => "channel-name segment must not be a wildcard"
  | emptyChannelName => "channel-name segment is empty"
  | described reason => reason

inductive ConfigFault where
  /-- The level of a delivery guarantee is a byte above 2. -/
  | invalidQoS (level : Nat)
  /-- An agent was built without a transport. -/
  | noTransport
  /-- The text is no configuration document, for a reason that has no fixed wording. -/
  | malformed
  /-- The file is missing or not text. -/
  | unreadable
  | described (reason : String)
  deriving DecidableEq

def ConfigFault.message : ConfigFault → String
  | invalidQoS level => "invalid QoS level " ++ toString level
  | noTransport =>
    "no transport configured: supply one with AgentBuilder::transport or enable the `mqtt` feature"
  | malformed => "malformed document"
  | unreadable => "unreadable file"
  | described reason => reason

/-- The causes for which an operation is refused. -/
inductive Error where
  /-- The transport failed to connect, or the connect was abandoned. -/
  | connection (reason : String)
  | subscription (topic reason : String)
  /-- A name, topic or pattern, verbatim, is no address. -/
  | malformedAddress (address : String) (fault : AddressFault)
  /-- The operation needs the connection that the agent is meant to keep. -/
  | notConnected (operation : String)
  | publishWithoutConnection (topic : String)
  | publish (topic reason : String)
  | encode (reason : String)
  | decode (reason : String)
  /-- A channel of the name exists and carries another kind of payload. -/
  | channelTypeMismatch (name : String)
  /-- The operation is not possible in the state that the connection is in. -/
  | invalidState (state : ConnectionState) (operation : String)
  | config (fault : ConfigFault)
  deriving DecidableEq

def Error.message : Error → String
  | connection reason => "Connection error: " ++ reason
  | subscription topic reason => "Subscription to \"" ++ topic ++ "\" failed: " ++ reason
  | malformedAddress address fault => "Malformed address \"" ++ address ++ "\": " ++ fault.message
  | notConnected operation =>
    "Cannot " ++ operation ++ ": agent is not connected and auto-connect is enabled"
  | publishWithoutConnection topic => "Cannot publish on \"" ++ topic ++ "\": not connected"
  | publish topic reason => "Publish on \"" ++ topic ++ "\" failed: " ++ reason
  | encode reason => "Encode error: " ++ reason
  | decode reason => "Decode error: " ++ reason
  | channelTypeMismatch name =>
    "Channel \"" ++ name ++ "\" already exists with a different payload type"
  | invalidState state operation => "Cannot " ++ operation ++ " while " ++ state.text
  | config fault => "Configuration error: " ++ fault.message

end PubSub
