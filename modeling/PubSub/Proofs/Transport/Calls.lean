import PubSub.Session.Report
/-!
# The calls on transports

What the scripted transports have recorded so far, the oldest first. Every operation of a transport adds the one call
that it is, whatever comes of it, and the broker and the log add none. A plain transport keeps no record.
-/

namespace PubSub

/-- What a transport records of a call. -/
def Transport.recorded (transport : Transport) (call : Call) : List (String × Call) :=
  match transport with
  | .plain => []
  | .scripted label => [(label, call)]

namespace Medium

variable (medium : Medium) (transport : Transport)

/-- The calls on scripted transports, with the labels of the transports. -/
def calls (medium : Medium) : List (String × Call) :=
  medium.observations.filterMap Report.call?

@[simp] theorem calls_warn : medium.warn.calls = medium.calls := by
  simp [calls, warn, observe, Report.call?]

@[simp] theorem calls_fail : medium.fail.calls = medium.calls := by
  simp [calls, fail, observe, Report.call?]

@[simp] theorem calls_setScript (label : String) (script : Script) :
    (medium.setScript label script).calls = medium.calls := rfl

@[simp] theorem calls_withBroker (broker : Broker) : ({ medium with broker } : Medium).calls = medium.calls := rfl

@[simp] theorem calls_record (call : Call) :
    (medium.record transport call).calls = medium.calls ++ transport.recorded call := by
  cases transport with
  | plain => simp [record, Transport.recorded]
  | scripted label => simp [record, calls, observe, Transport.recorded, Report.call?]

@[simp] theorem calls_settleRequest (request : Except TransportError Broker) :
    (medium.settleRequest request).1.calls = medium.calls := by
  cases request <;> rfl

@[simp] theorem calls_requestConnect (options : BrokerOptions) (clientId : ClientId) :
    (medium.requestConnect transport options clientId).calls =
      medium.calls ++ transport.recorded (.connect options clientId) := by
  cases transport with
  | plain => simp [requestConnect, Transport.recorded]
  | scripted label =>
    have observed : (medium.observe (.call label (.connect options clientId))).calls =
        medium.calls ++ [(label, .connect options clientId)] := by
      simp [calls, observe, Report.call?]
    exact observed

@[simp] theorem calls_subscribe (connection : ConnectionId) (pattern : String) (qos : QoS) :
    (medium.subscribe transport connection pattern qos).1.calls =
      medium.calls ++ transport.recorded (.subscribe pattern qos) := by
  simp [subscribe]

@[simp] theorem calls_publish (connection : ConnectionId) (message : Message) (options : PublishOptions) :
    (medium.publish transport connection message options).1.calls =
      medium.calls ++ transport.recorded (.publish message options) := by
  simp [publish]

@[simp] theorem calls_close (connection : ConnectionId) :
    (medium.close transport connection).1.calls = medium.calls ++ transport.recorded .close := by
  simp [close]

end Medium

end PubSub
