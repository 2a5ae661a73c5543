import PubSub.Transport.Medium
/-!
# Reports

What could be observed during a step, told apart by kind: the calls on each scripted transport, the events of each
agent's callbacks, the connects that came to their end, and how many warnings and failures went to the log. Each list
is in the order of observation, except that events can be sorted by topic where that order is left open.
-/

namespace PubSub

/-- The topic that an event is sorted by. -/
def Event.topic? : Event → Option String
  | ran _ delivery => some delivery.topic
  | counted _ _ => none

/-- Whether an event may stand before another in the order by topic, where events without a topic come first. -/
def Event.precedes (a b : Event) : Bool :=
  match a.topic?, b.topic? with
  | none, _ => true
  | some _, none => false
  | some a, some b => a ≤ b

/-- What could be observed during a step. -/
structure Report where
  calls : List (String × List Call)
  events : List (String × List Event)
  completed : List (String × Except Error Unit)
  warnings : Nat
  failures : Nat

namespace Report

/-- Entries under each label, the labels in the order of their first entry. -/
def grouped {α : Type} (entries : List (String × α)) : List (String × List α) :=
  (entries.map Prod.fst).eraseDups.map fun label ↦
    (label, (entries.filter fun entry ↦ entry.1 == label).map Prod.snd)

def call? : Observation → Option (String × Call)
  | .call transport call => some (transport, call)
  | _ => none

def event? : Observation → Option (String × Event)
  | .event agent event => some (agent, event)
  | _ => none

def completed? : Observation → Option (String × Except Error Unit)
  | .completed ticket result => some (ticket, result)
  | _ => none

def isWarning : Observation → Bool
  | .warning => true
  | _ => false

def isFailure : Observation → Bool
  | .failure => true
  | _ => false

/-- The report of observations, the events of each agent sorted by topic or not. -/
def ofObservations (sorted : Bool) (observations : List Observation) : Report where
  calls := grouped (observations.filterMap call?)
  events := (grouped (observations.filterMap event?)).map fun (agent, events) ↦
    (agent, if sorted then events.mergeSort Event.precedes else events)
  completed := observations.filterMap completed?
  warnings := observations.countP isWarning
  failures := observations.countP isFailure

end Report

end PubSub
