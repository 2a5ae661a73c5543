import PubSub.Topic.Levels
/-!
# Broker filters

A broker compares a subscription's filter with a topic level by level: `+` stands for one level whatever it is, and a
level `#` ends the comparison successfully, also when no level of the topic is left.
-/

namespace PubSub.Filter

def matchLevels : List String → List String → Bool
  | [], topic => topic.isEmpty
  | level :: _, [] => level == Topic.multiLevel
  | level :: filter, actual :: topic =>
    level == Topic.multiLevel || ((level == Topic.singleLevel || level == actual) && matchLevels filter topic)

/-- Whether messages on the topic go to subscribers of the filter. -/
def accepts (filter topic : String) : Bool :=
  matchLevels (Topic.levels filter) (Topic.levels topic)

end PubSub.Filter
