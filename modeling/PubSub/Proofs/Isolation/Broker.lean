import PubSub.Broker.Basic
import PubSub.Proofs.Isolation.Keeping
/-!
# A broker without some of its connections

A broker does the same for a connection whether others are there or not. What happens to connections that are left out
does not show in what is left of the broker.
-/

namespace PubSub

/-- Which agents, connections and waits for a message are kept. -/
structure Selection where
  agents : Choice
  connections : Choice
  waits : Choice

variable {selection : Selection} {broker after : Broker} {connection : ConnectionId}

/-- A made-up name tells the place of its agent. -/
def ClientId.reduced (selection : Selection) : ClientId → ClientId
  | given name => given name
  | generated serial => generated (selection.agents.place serial)

/-- The record of a connection, with the name that its agent has once others are left out. -/
def Client.reduced (selection : Selection) (client : Client) : Client :=
  { client with clientId := client.clientId.reduced selection }

/-- The refusal, for a connection that has moved. -/
def BrokerError.reduced (selection : Selection) : BrokerError → BrokerError
  | notLive connection => notLive (selection.connections.place connection)
  | error => error

namespace Broker

/-- The broker without the connections that are left out. -/
def reduced (selection : Selection) (broker : Broker) : Broker :=
  { broker with clients := (selection.connections.keep broker.clients).map (Client.reduced selection) }

/-! ## Connections that are kept -/

section Kept

variable (kept : selection.connections connection)

include kept

theorem getElem?_reduced : (broker.reduced selection).clients[selection.connections.place connection]? =
    broker.clients[connection]?.map (Client.reduced selection) := by
  rw [reduced, List.getElem?_map, Choice.getElem?_keep kept]

theorem isLive_reduced :
    (broker.reduced selection).isLive (selection.connections.place connection) = broker.isLive connection := by
  rw [isLive, getElem?_reduced kept, Option.any_map]
  rfl

theorem isClosed_reduced :
    (broker.reduced selection).isClosed (selection.connections.place connection) = broker.isClosed connection := by
  rw [isClosed, getElem?_reduced kept, Option.all_map]
  rfl

theorem inbox_reduced :
    (broker.reduced selection).inbox (selection.connections.place connection) = broker.inbox connection := by
  rw [inbox, getElem?_reduced kept, Option.map_map]
  rfl

theorem reduced_modifyClient {change : Client → Client}
    (same : ∀ client, (change client).reduced selection = change (client.reduced selection)) :
    (broker.modifyClient connection change).reduced selection =
      (broker.reduced selection).modifyClient (selection.connections.place connection) change := by
  simp only [reduced, modifyClient, Choice.keep_modify kept]
  congr 1
  refine List.ext_getElem? fun index ↦ ?_
  simp only [List.getElem?_map, List.getElem?_modify]
  split <;> simp [Function.comp_def, same]

theorem reduced_close : (broker.close connection).reduced selection =
    (broker.reduced selection).close (selection.connections.place connection) := by
  apply reduced_modifyClient kept
  exact fun _ ↦ rfl

theorem reduced_emptyInbox : (broker.emptyInbox connection).reduced selection =
    (broker.reduced selection).emptyInbox (selection.connections.place connection) := by
  apply reduced_modifyClient kept
  exact fun _ ↦ rfl

theorem subscribe_reduced (filter : String) (qos : QoS) :
    (broker.reduced selection).subscribe (selection.connections.place connection) filter qos =
      ((broker.subscribe connection filter qos).map (reduced selection)).mapError (BrokerError.reduced selection) := by
  unfold subscribe
  rw [isLive_reduced kept]
  split
  · refine congrArg Except.ok (reduced_modifyClient kept ?_).symm
    exact fun _ ↦ rfl
  · rfl

theorem take?_reduced : (broker.reduced selection).take? (selection.connections.place connection) =
    (broker.take? connection).map fun taken ↦ (taken.1, taken.2.reduced selection) := by
  unfold take?
  rw [getElem?_reduced kept]
  rcases broker.clients[connection]? with _ | ⟨clientId, status, subscriptions, _ | ⟨message, rest⟩⟩
  · rfl
  · rfl
  · refine congrArg (fun broker ↦ some (message, broker)) (reduced_modifyClient kept ?_).symm
    exact fun _ ↦ rfl

end Kept

/-! ## All connections -/

theorem reduced_route (message : Message) (retain : Bool) :
    (broker.route message retain).reduced selection = (broker.reduced selection).route message retain := by
  have same (client : Client) :
      (client.offer message).reduced selection = (client.reduced selection).offer message := by
    have wants : (client.reduced selection).wants message.topic = client.wants message.topic := rfl
    have status : (client.reduced selection).status = client.status := rfl
    unfold Client.offer
    rw [wants, status]
    split <;> rfl
  simp only [reduced, route, Choice.keep_map, List.map_map, Function.comp_def, same]

theorem reduced_silenceAll : broker.silenceAll.reduced selection = (broker.reduced selection).silenceAll := by
  simp only [reduced, silenceAll, Choice.keep_map, List.map_map]
  congr 2
  funext client
  cases h : client.status <;> simp [Client.reduced, h]

theorem publish_reduced (kept : selection.connections connection) (message : Message) (retain : Bool) :
    (broker.reduced selection).publish (selection.connections.place connection) message retain =
      ((broker.publish connection message retain).map (reduced selection)).mapError
        (BrokerError.reduced selection) := by
  unfold publish
  rw [isLive_reduced kept]
  split
  · exact congrArg Except.ok (reduced_route message retain).symm
  · rfl

theorem connect_reduced {options : BrokerOptions} {clientId : ClientId}
    (kept : ∀ after connection, broker.connect options clientId = .ok (after, connection) →
      selection.connections connection) :
    (broker.reduced selection).connect options (clientId.reduced selection) =
      (broker.connect options clientId).map fun accepted ↦
        (accepted.1.reduced selection, selection.connections.place accepted.2) := by
  have available : (broker.reduced selection).available = broker.available := rfl
  have credentials : (broker.reduced selection).credentials = broker.credentials := rfl
  unfold connect at kept ⊢
  rw [available, credentials]
  split
  · rfl
  · rename_i reachable
    rw [if_neg reachable] at kept
    split
    · rename_i known
      rw [if_pos known] at kept
      have new : selection.connections broker.clients.length := kept _ _ rfl
      simp [reduced, Choice.keep_concat, new, Choice.length_keep, Client.reduced, pure, Except.pure, Except.map]
    · rfl

/-! ## Connections that are left out -/

section LeftOut

variable (left : selection.connections connection = false)

include left

theorem reduced_modifyClient_of_left_out (change : Client → Client) :
    (broker.modifyClient connection change).reduced selection = broker.reduced selection := by
  simp only [reduced, modifyClient, Choice.keep_modify_of_left_out left]

theorem reduced_close_of_left_out : (broker.close connection).reduced selection = broker.reduced selection :=
  reduced_modifyClient_of_left_out left _

theorem reduced_of_subscribe {filter : String} {qos : QoS} (h : broker.subscribe connection filter qos = .ok after) :
    after.reduced selection = broker.reduced selection := by
  unfold subscribe at h
  split at h
  · obtain rfl := Except.ok.inj h
    exact reduced_modifyClient_of_left_out left _
  · cases h

theorem reduced_of_take? {message : Message} (h : broker.take? connection = some (message, after)) :
    after.reduced selection = broker.reduced selection := by
  unfold take? at h
  split at h
  · obtain ⟨-, rfl⟩ := Prod.mk.inj (Option.some.inj h)
    exact reduced_modifyClient_of_left_out left _
  · cases h

end LeftOut

end Broker

end PubSub
