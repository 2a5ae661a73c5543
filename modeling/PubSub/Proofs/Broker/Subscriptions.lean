import Mathlib.Data.List.Dedup
import PubSub.Proofs.Broker.History
/-!
# The filters of a connection

A connection holds each of its filters once, with the guarantee that it asked for last, in the order in which it last
asked. One operation at a time the list follows the subscriptions of the connection and nothing else, so that it can be
read off the history of the broker.
-/

namespace PubSub.Broker

variable {broker before after : Broker} {connection : ConnectionId} {client : Client} {operation : Operation}

/-! ## Lists of subscriptions -/

/-- The filters that are left are those that were subscribed to, each in the place of its last subscription. -/
theorem map_filter_lastOfEach (subscriptions : List Subscription) :
    (lastOfEach subscriptions).map Subscription.filter = (subscriptions.map Subscription.filter).dedup := by
  induction subscriptions with
  | nil => rfl
  | cons first later ih =>
    rw [lastOfEach, List.map_cons]
    split
    · rename_i again
      rw [List.dedup_cons_of_mem again, ih]
    · rename_i once
      rw [List.dedup_cons_of_notMem once, List.map_cons, ih]

/-- One more subscription takes the place of the one to its filter, and comes last. -/
theorem lastOfEach_concat (subscriptions : List Subscription) (last : Subscription) :
    lastOfEach (subscriptions ++ [last]) =
      (lastOfEach subscriptions).filter (fun other ↦ other.filter != last.filter) ++ [last] := by
  induction subscriptions with
  | nil => rfl
  | cons first later ih =>
    rw [List.cons_append, lastOfEach, lastOfEach, ih]
    by_cases again : first.filter ∈ later.map Subscription.filter
    · have still : first.filter ∈ (later ++ [last]).map Subscription.filter := by simp [again]
      rw [if_pos again, if_pos still]
    · rw [if_neg again]
      by_cases same : first.filter = last.filter
      · simp [same]
      · simp [again, same]

/-! ## What operations do -/

theorem subscriptionsOn_connect {options : BrokerOptions} {clientId : ClientId} {accepted : ConnectionId}
    (h : before.connect options clientId = .ok (after, accepted)) (connection : ConnectionId) :
    after.subscriptionsOn connection = before.subscriptionsOn connection := by
  unfold connect at h
  split at h
  · cases h
  · split at h
    · obtain ⟨rfl, -⟩ := Prod.mk.inj (Except.ok.inj h)
      simp only [subscriptionsOn, getElem?_concat]
      split
      · rename_i new
        rw [new, List.getElem?_eq_none (Nat.le_refl _)]
        rfl
      · rfl
    · cases h

theorem subscriptionsOn_subscribe {handle : ConnectionId} {filter : String} {qos : QoS}
    (h : before.subscribe handle filter qos = .ok after) (connection : ConnectionId) :
    after.subscriptionsOn connection =
      if handle = connection then
        (before.subscriptionsOn connection).filter (fun other ↦ other.filter != filter) ++ [⟨filter, qos⟩]
      else before.subscriptionsOn connection := by
  unfold subscribe at h
  split at h
  · rename_i live
    obtain ⟨client, hclient, -⟩ := isLive_iff.1 live
    obtain rfl := Except.ok.inj h
    rw [subscriptionsOn_modifyClient]
    split
    · rename_i own
      subst own
      rw [subscriptionsOn_of_getElem? hclient, hclient]
      rfl
    · rfl
  · cases h

/-- An operation changes the filters of a connection only by subscribing it. -/
theorem subscriptionsOn_of_perform (h : before.perform operation = .ok after) (connection : ConnectionId) :
    after.subscriptionsOn connection =
      match Event.subscription? connection ⟨operation, true⟩ with
      | some last => (before.subscriptionsOn connection).filter (fun other ↦ other.filter != last.filter) ++ [last]
      | none => before.subscriptionsOn connection := by
  cases operation with
  | connect options clientId =>
    simp only [perform] at h
    cases connects : before.connect options clientId with
    | error error => simp [connects, Except.map] at h
    | ok accepted =>
      rw [connects] at h
      obtain rfl : accepted.1 = after := Except.ok.inj h
      exact subscriptionsOn_connect connects connection
  | subscribe handle filter qos =>
    rw [subscriptionsOn_subscribe h, Event.subscription?]
    split <;> rfl
  | publishOn handle message retain =>
    obtain rfl := eq_route_of_publish h
    exact before.subscriptionsOn_route message retain connection
  | publish message retain =>
    obtain rfl := Except.ok.inj h
    exact before.subscriptionsOn_route message retain connection
  | finish handle =>
    obtain rfl := Except.ok.inj h
    exact before.subscriptionsOn_close handle connection
  | drop handle =>
    obtain rfl := Except.ok.inj h
    exact before.subscriptionsOn_close handle connection
  | silenceAll =>
    obtain rfl := Except.ok.inj h
    exact before.subscriptionsOn_silenceAll connection
  | setAvailable available =>
    obtain rfl := Except.ok.inj h
    rfl
  | requireCredentials credentials =>
    obtain rfl := Except.ok.inj h
    rfl

/-! ## What the history tells of the filters -/

theorem subscriptionsAfter_append (events : List Event) (event : Event) (connection : ConnectionId) :
    subscriptionsAfter (events ++ [event]) connection =
      match event.subscription? connection with
      | some last =>
        (subscriptionsAfter events connection).filter (fun other ↦ other.filter != last.filter) ++ [last]
      | none => subscriptionsAfter events connection := by
  simp only [subscriptionsAfter, List.filterMap_append, List.filterMap_cons, List.filterMap_nil]
  cases event.subscription? connection with
  | none => simp
  | some last => simp [lastOfEach_concat]

namespace Account

variable {account : Account}

/-- A turn keeps that the broker has the filters that the history tells. -/
theorem subscriptionsOn_turn
    (told : ∀ connection, account.broker.subscriptionsOn connection = subscriptionsAfter account.events connection)
    (turn : Turn) (connection : ConnectionId) : (account.turn turn).broker.subscriptionsOn connection =
      subscriptionsAfter (account.turn turn).events connection := by
  cases turn with
  | ask operation =>
    simp only [Account.turn, ask]
    cases h : account.broker.perform operation with
    | ok after =>
      simp only [subscriptionsAfter_append, ← told]
      exact subscriptionsOn_of_perform h connection
    | error error =>
      -- What is refused is noted as such, and so tells of no subscription.
      have refused : Event.subscription? connection ⟨operation, false⟩ = none := by cases operation <;> rfl
      simp only [subscriptionsAfter_append, refused]
      exact told connection
  | take taken =>
    simp only [Account.turn, take]
    cases h : account.broker.take? taken with
    | none => exact told connection
    | some found => exact (subscriptionsOn_of_take? h connection).trans (told connection)

theorem subscriptionsOn_run (turns : List Turn) (connection : ConnectionId) :
    (fresh.run turns).broker.subscriptionsOn connection = subscriptionsAfter (fresh.run turns).events connection := by
  induction turns using List.reverseRecOn generalizing connection with
  | nil => rfl
  | append_singleton turns turn ih =>
    rw [run, List.foldl_append]
    exact subscriptionsOn_turn ih turn connection

/-- Only what a connection asks for itself tells of its filters. -/
theorem subscriptionsAfter_turn_of_ne {turn : Turn} (other : turn.handle? ≠ some connection) :
    subscriptionsAfter (account.turn turn).events connection = subscriptionsAfter account.events connection := by
  cases turn with
  | ask operation =>
    have silent (succeeded : Bool) : Event.subscription? connection ⟨operation, succeeded⟩ = none := by
      unfold Event.subscription?
      split
      · rename_i handle filter qos same
        obtain ⟨rfl, -⟩ := Event.mk.inj same
        exact if_neg fun own ↦ other (congrArg some own)
      · rfl
    simp only [Account.turn, ask]
    split <;> simp only [subscriptionsAfter_append, silent]
  | take taken =>
    simp only [Account.turn, take]
    split <;> rfl

theorem subscriptionsAfter_run_of_ne {turns : List Turn} (others : ∀ turn ∈ turns, turn.handle? ≠ some connection) :
    subscriptionsAfter (account.run turns).events connection = subscriptionsAfter account.events connection := by
  induction turns generalizing account with
  | nil => rfl
  | cons turn turns ih =>
    rw [List.forall_mem_cons] at others
    exact (ih others.2).trans (subscriptionsAfter_turn_of_ne others.1)

end Account

/-! ## Asking by name -/

/-- A list in which one place alone has a property. -/
theorem filter_eq_singleton {α : Type} {items : List α} {item : α} {place : Nat} {holds : α → Bool}
    (found : items[place]? = some item) (suits : holds item)
    (unique : ∀ (other : Nat) (candidate : α), items[other]? = some candidate → holds candidate → other = place) :
    items.filter holds = [item] := by
  induction items generalizing place with
  | nil => cases found
  | cons first rest ih =>
    cases place with
    | zero =>
      obtain rfl : first = item := by simpa using found
      have none : rest.filter holds = [] := by
        rw [List.filter_eq_nil_iff]
        intro candidate among held
        obtain ⟨other, there⟩ := List.mem_iff_getElem?.1 among
        exact Nat.succ_ne_zero other (unique (other + 1) candidate there held)
      rw [List.filter_cons_of_pos suits, none]
    | succ place =>
      have unlike : ¬holds first := fun held ↦ absurd (unique 0 first rfl held).symm (Nat.succ_ne_zero place)
      rw [List.filter_cons_of_neg unlike]
      exact ih found fun other candidate there held ↦ Nat.succ.inj (unique (other + 1) candidate there held)

/-- A name that one connection presents stands for the filters of that connection. -/
theorem subscriptionsOf_eq (found : broker.clients[connection]? = some client) (listed : client.status ≠ .closed)
    (unique : ∀ (other : ConnectionId) (candidate : Client), broker.clients[other]? = some candidate →
      candidate.status ≠ .closed → candidate.clientId = client.clientId → other = connection) :
    broker.subscriptionsOf client.clientId = client.subscriptions.map Subscription.filter := by
  have single : (broker.clients.filter fun candidate ↦
      candidate.clientId = client.clientId ∧ candidate.status ≠ .closed) = [client] := by
    refine filter_eq_singleton found (decide_eq_true ⟨rfl, listed⟩) fun other candidate there held ↦ ?_
    obtain ⟨same, there'⟩ := of_decide_eq_true held
    exact unique other candidate there there' same
  rw [subscriptionsOf, single, List.flatMap_singleton]

/-- Whatever is asked of a fresh broker, a connection holds no filter twice, and its filters are those that it was
subscribed to, each with the last guarantee that was asked for it and in the order of these last subscriptions. The
broker reports them in that order under a name that no other connection presents, and nothing that other connections
or outsiders do changes them. -/
theorem holds_last_subscriptions (turns : List Turn)
    (found : (Account.fresh.run turns).broker.clients[connection]? = some client) :
    (client.subscriptions.map Subscription.filter).Nodup ∧
      client.subscriptions =
        lastOfEach ((Account.fresh.run turns).events.filterMap (Event.subscription? connection)) ∧
      (client.status ≠ .closed →
        (∀ (other : ConnectionId) (candidate : Client),
          (Account.fresh.run turns).broker.clients[other]? = some candidate → candidate.status ≠ .closed →
            candidate.clientId = client.clientId → other = connection) →
        (Account.fresh.run turns).broker.subscriptionsOf client.clientId =
          client.subscriptions.map Subscription.filter) ∧
      ∀ more : List Turn, (∀ turn ∈ more, turn.handle? ≠ some connection) →
        (Account.fresh.run (turns ++ more)).broker.subscriptionsOn connection = client.subscriptions := by
  have told : client.subscriptions = subscriptionsAfter (Account.fresh.run turns).events connection :=
    (subscriptionsOn_of_getElem? found).symm.trans (Account.subscriptionsOn_run turns connection)
  refine ⟨?_, told, fun listed unique ↦ subscriptionsOf_eq found listed unique, fun more others ↦ ?_⟩
  · rw [told, subscriptionsAfter, map_filter_lastOfEach]
    exact List.nodup_dedup _
  · rw [Account.subscriptionsOn_run, Account.run, List.foldl_append, told]
    exact Account.subscriptionsAfter_run_of_ne others

/-- A filter that is asked for again moves behind the other, with the new guarantee. The other connection asks for the
same filter, and is cut with the first one. -/
theorem holds_last_subscriptions_repeated :
    let turns : List Turn := [.ask (.connect .tcp (.given "dash")), .ask (.subscribe 0 "+/speed/#" .atMostOnce),
      .ask (.connect .tcp (.given "car")), .ask (.subscribe 0 "car/#" .atLeastOnce),
      .ask (.subscribe 1 "+/speed/#" .atLeastOnce), .ask (.subscribe 0 "+/speed/#" .exactlyOnce)]
    let client : Client := ⟨.given "dash", .live, [⟨"car/#", .atLeastOnce⟩, ⟨"+/speed/#", .exactlyOnce⟩], []⟩
    let more : List Turn := [.ask (.subscribe 1 "car/#" .atMostOnce), .ask .silenceAll, .ask (.finish 1)]
    (Account.fresh.run turns).broker.clients[0]? = some client ∧
      client.subscriptions =
        lastOfEach ((Account.fresh.run turns).events.filterMap (Event.subscription? 0)) ∧
      (Account.fresh.run turns).broker.subscriptionsOf (.given "dash") = ["car/#", "+/speed/#"] ∧
      (Account.fresh.run (turns ++ more)).broker.subscriptionsOn 0 = client.subscriptions := by
  intro turns client more
  have found : (Account.fresh.run turns).broker.clients[0]? = some client := by decide +kernel
  obtain ⟨-, last, reported, kept⟩ := holds_last_subscriptions turns found
  refine ⟨found, last, reported (by decide) ?_, kept more (by decide)⟩
  rintro (_ | _ | other) candidate there - same
  · rfl
  · obtain rfl := Option.some.inj there
    exact absurd same (by decide)
  · cases there

end PubSub.Broker
