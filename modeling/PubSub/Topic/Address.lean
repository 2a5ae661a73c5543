import PubSub.Error
import PubSub.Topic.Levels
/-!
# Addresses

A channel is bound to a topic of the form `role/channelName/instanceId`. A sender takes role and instance from its
options first and from its agent second, and has no instance level if neither names one. A receiver takes them from
its options first and else listens to every role and to every instance. The levels that an address is built from are
checked, so that the text of an address can be cut into the same levels again.
-/

namespace PubSub

/-- Accepts a text that can stand as one literal level: not empty, without slash and without wildcard. -/
def literalLevel (part : AddressPart) (level : String) : Except Error Unit :=
  if level.isEmpty then throw (.malformedAddress level (.emptyLevel part))
  else if level.toList.contains '/' then throw (.malformedAddress level (.slash part))
  else if Topic.hasWildcard level then throw (.malformedAddress level (.wildcard part))
  else pure ()

def validChannelName (name : String) : Except Error Unit :=
  literalLevel .channelName name

/-- Who an agent is: a role, and an instance or group where there are several agents of the role. -/
structure Identity where
  role : String
  instanceId : Option String
  deriving DecidableEq

/-- An identity of two literal levels, the role checked first. -/
def Identity.new (role : String) (instanceId : Option String) : Except Error Identity := do
  literalLevel .role role
  if let some level := instanceId then literalLevel .instanceId level
  pure ⟨role, instanceId⟩

/-- A topic of two or three levels, taken apart. -/
structure TopicAddress where
  role : String
  channelName : String
  instanceId : Option String
  deriving DecidableEq

namespace TopicAddress

/-- The topic that a sender publishes on. -/
def forSender (channelName : String) (identity : Identity) (role instanceId : Option String) :
    Except Error TopicAddress := do
  validChannelName channelName
  let role := role.getD identity.role
  literalLevel .senderRole role
  let instanceId := instanceId <|> identity.instanceId
  if let some level := instanceId then literalLevel .senderInstance level
  pure ⟨role, channelName, instanceId⟩

/-- The pattern that a receiver subscribes with. -/
def forReceiver (channelName : String) (role instanceId : Option String) : Except Error TopicAddress := do
  validChannelName channelName
  let role := role.getD Topic.singleLevel
  unless role == Topic.singleLevel do literalLevel .receiverRole role
  let instanceId := instanceId.getD Topic.multiLevel
  unless instanceId == Topic.singleLevel || instanceId == Topic.multiLevel do
    literalLevel .receiverInstance instanceId
  pure ⟨role, channelName, some instanceId⟩

/-- A topic of two or three levels, each level taken as it is. -/
def parse (topic : String) : Except Error TopicAddress :=
  match Topic.levels topic with
  | [role, channelName] => pure ⟨role, channelName, none⟩
  | [role, channelName, instanceId] => pure ⟨role, channelName, some instanceId⟩
  | levels => throw (.malformedAddress topic (.levelCount levels.length))

def levels (address : TopicAddress) : List String :=
  address.role :: address.channelName :: address.instanceId.toList

def text (address : TopicAddress) : String :=
  Topic.join address.levels

/-- Whether role or instance is a wildcard, so that the address stands for several topics. -/
def isPattern (address : TopicAddress) : Bool :=
  Topic.hasWildcard address.role || address.instanceId.any Topic.hasWildcard

end TopicAddress

end PubSub
