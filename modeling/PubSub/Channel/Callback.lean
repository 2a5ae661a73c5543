import PubSub.Payload.Kind
/-!
# Callbacks

What a receiver does with a message that is delivered to it. A scripted handler reports the delivery and then acts:
it may register further callbacks, publish, cut the connections of the broker, or fail. A handler of the other sort
hands the delivery to somebody who waits for the next message. A callback that stays runs for every delivery, the
other sort for one only.
-/

namespace PubSub

/-- A message that a receiver has decoded. An empty message has no payload. -/
structure Delivery where
  topic : String
  payload : Option Payload
  deriving DecidableEq

/-- A receiver, by its agent and its place in the order in which the agent created its receivers. -/
structure ReceiverId where
  agent : Nat
  index : Nat
  deriving DecidableEq

mutual

inductive Action where
  /-- Reports how many callbacks the receiver has. -/
  | count
  /-- Registers a callback, on the receiver itself or on another one. -/
  | register (target : Option ReceiverId) (once : Bool) (handler : Handler)
  /-- Publishes on the broker, from outside any agent. -/
  | publish (topic : String) (payload : Bytes) (retain : Bool)
  | silenceAll
  | fail
  /-- Fails if the payload passes the test. -/
  | failIf (test : Option Payload → Bool)

/-- What runs when a message is delivered. -/
inductive Handler where
  | scripted (label : String) (actions : List Action)
  /-- Hands the delivery to the holder of a ticket. -/
  | reply (ticket : Nat)

end

/-- A registered handler. -/
structure Callback where
  /-- Whether the callback is gone after one delivery. -/
  once : Bool
  handler : Handler

/-- What a scripted handler reports. -/
inductive Event where
  | ran (label : String) (delivery : Delivery)
  | counted (label : String) (callbacks : Nat)
  deriving DecidableEq

end PubSub
