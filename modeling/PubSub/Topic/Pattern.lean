import PubSub.Error
import PubSub.Topic.Levels
/-!
# Receiver patterns

Subscriptions at a broker overlap, so an agent decides for itself which receivers a message belongs to. A pattern `#`
takes every topic. A pattern without wildcards takes the identical topic only, unless it has two levels: those name
role and channel and leave the instance open. Every other pattern names its channel literally; role and instance are
each either a literal level or open, and a pattern that names no instance leaves it open. Wildcards count in the
pattern only, a topic is taken literally.
-/

namespace PubSub

/-- What a pattern wants of one level of a topic. -/
inductive LevelPattern where
  | any
  | literal (level : String)
  deriving DecidableEq

namespace LevelPattern

/-- A level without wildcards stands for itself; a wildcard, or no level at all, leaves the level open. -/
def ofLevel : Option String → LevelPattern
  | none => any
  | some level => if Topic.hasWildcard level then any else literal level

/-- Whether a level of a topic, or its absence, is what the pattern wants. -/
def accepts : LevelPattern → Option String → Bool
  | any, _ => true
  | literal level, incoming => incoming == some level

end LevelPattern

inductive PatternShape where
  | all
  | exact
  | channel (role : LevelPattern) (name : String) (instanceId : LevelPattern)
  deriving DecidableEq

/-- A receiver pattern: the text it is subscribed with, and what the text was found to mean. -/
structure TopicPattern where
  text : String
  shape : PatternShape
  deriving DecidableEq

namespace TopicPattern

/-- The first misplaced wildcard, looking from the first level to the last. -/
def wildcardFault : List String → Option AddressFault
  | [] => none
  | level :: rest =>
    if level.toList.contains '#' && (level != Topic.multiLevel || !rest.isEmpty) then some .misplacedMultiLevel
    else if level.toList.contains '+' && level != Topic.singleLevel then some .partialSingleLevel
    else wildcardFault rest

/-- The level that names the channel of a pattern which leaves role or instance open. -/
def channelLevel : Option String → Except AddressFault String
  | none => throw .noChannelName
  | some name =>
    if Topic.hasWildcard name then throw .wildcardChannelName
    else if name.isEmpty then throw .emptyChannelName
    else pure name

def shapeOf (text : String) : Except AddressFault PatternShape :=
  let levels := Topic.levels text
  if text == Topic.multiLevel then pure .all
  else match wildcardFault levels with
    | some fault => throw fault
    | none =>
      if !Topic.hasWildcard text && levels.length != 2 then pure .exact
      else do
        let name ← channelLevel levels[1]?
        pure (.channel (.ofLevel levels[0]?) name (.ofLevel levels[2]?))

/-- A pattern, refused with its text when a wildcard is misplaced or no level names the channel. -/
def parse (text : String) : Except Error TopicPattern :=
  match shapeOf text with
  | .ok shape => pure ⟨text, shape⟩
  | .error fault => throw (.malformedAddress text fault)

/-- Whether a message on the topic belongs to receivers of the pattern. -/
def accepts (pattern : TopicPattern) (topic : String) : Bool :=
  match pattern.shape with
  | .all => true
  | .exact => pattern.text == topic
  | .channel role name instanceId =>
    Topic.channelName? topic == some name && role.accepts (Topic.role? topic) &&
      instanceId.accepts (Topic.instanceId? topic)

/-- The channel that the pattern is bound to, if it is bound to one. -/
def channelName? (pattern : TopicPattern) : Option String :=
  match pattern.shape with
  | .channel _ name _ => some name
  | _ => none

end TopicPattern

end PubSub
