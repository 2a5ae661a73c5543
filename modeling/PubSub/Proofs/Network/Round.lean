import PubSub.Network.Round
import PubSub.Proofs.Network.Delivery
import PubSub.Proofs.Network.Ledger
/-!
# One round

A message is offered to the receivers of an agent whose pattern accepts it, once each and in the order of their
creation. Meanwhile their callbacks may register further ones on any receiver. Such a callback joins those that its
receiver has, so it runs in the same round if its receiver comes later, and is offered a message that it can read; on a
receiver that has been served, or is being served, it waits for the next message. Receivers meet in no other way: where
every callback registers on its own receiver only, each receiver does what it would do without the others.
-/

namespace PubSub

variable {network : Network} {id target : ReceiverId} {message : Message} {delivery : Delivery} {receiver : Receiver}
  {agent : Agent} {index place : Nat}

/-! ## What handlers register -/

namespace Registered

variable {registrations more : List Registered}

/-- The callbacks that a receiver gets. -/
def callbacksFor (id : ReceiverId) (registrations : List Registered) : List Callback :=
  (registrations.filter fun registration ↦ registration.target = id).map Registered.callback

/-- The callbacks that a receiver gets, with their numbers if the first registration has the number `first`. -/
def numberedFor (id : ReceiverId) (registrations : List Registered) (first : Nat) : List Marked :=
  ((registrations.zipIdx first).filter fun entry ↦ entry.1.target = id).map fun entry ↦
    (entry.1.callback, some entry.2)

@[simp]
theorem callbacksFor_nil (id : ReceiverId) : callbacksFor id [] = [] :=
  rfl

theorem callbacksFor_append (id : ReceiverId) (registrations more : List Registered) :
    callbacksFor id (registrations ++ more) = callbacksFor id registrations ++ callbacksFor id more := by
  simp [callbacksFor]

theorem callbacksFor_eq_nil (h : ∀ registration ∈ registrations, registration.target ≠ id) :
    callbacksFor id registrations = [] := by
  simpa [callbacksFor] using h

@[simp]
theorem numberedFor_nil (id : ReceiverId) (first : Nat) : numberedFor id [] first = [] :=
  rfl

theorem numberedFor_append (id : ReceiverId) (registrations more : List Registered) (first : Nat) :
    numberedFor id (registrations ++ more) first =
      numberedFor id registrations first ++ numberedFor id more (first + registrations.length) := by
  simp [numberedFor, List.zipIdx_append]

theorem map_fst_numberedFor (id : ReceiverId) (registrations : List Registered) (first : Nat) :
    (numberedFor id registrations first).map Prod.fst = callbacksFor id registrations := by
  induction registrations generalizing first with
  | nil => rfl
  | cons registration rest ih =>
    by_cases own : registration.target = id <;> simp_all [numberedFor, callbacksFor]

theorem mem_numberedFor_iff {callback : Callback} {number : Nat} :
    (callback, some number) ∈ numberedFor id registrations 0 ↔
      ∃ source, registrations[number]? = some ⟨source, id, callback⟩ := by
  simp only [numberedFor, List.mem_map, List.mem_filter, List.mem_zipIdx_iff_getElem?, decide_eq_true_eq,
    Prod.mk.injEq, Option.some.injEq]
  constructor
  · rintro ⟨⟨registration, _⟩, ⟨hplace, rfl⟩, rfl, rfl⟩
    exact ⟨registration.source, hplace⟩
  · rintro ⟨source, hplace⟩
    exact ⟨(⟨source, id, callback⟩, number), ⟨hplace, rfl⟩, rfl, rfl⟩

theorem nodup_numberedFor (id : ReceiverId) (registrations : List Registered) (first : Nat) :
    ((numberedFor id registrations first).filterMap Prod.snd).Nodup := by
  have numbers : (numberedFor id registrations first).filterMap Prod.snd =
      ((registrations.zipIdx first).filter fun entry ↦ entry.1.target = id).map Prod.snd := by
    unfold numberedFor
    rw [List.filterMap_map]
    exact congrFun List.filterMap_eq_map _
  have all : ((registrations.zipIdx first).map Prod.snd).Nodup := by
    rw [List.zipIdx_map_snd]
    exact List.nodup_range'
  rw [numbers]
  exact all.sublist (List.filter_sublist.map Prod.snd)

end Registered

open Registered

/-- The receiver with further callbacks. -/
def Receiver.gaining (receiver : Receiver) (callbacks : List Callback) : Receiver :=
  { receiver with callbacks := receiver.callbacks ++ callbacks }

namespace Network

theorem receiver?_act (network : Network) (id : ReceiverId) (label : String) (delivery : Delivery) (action : Action)
    (target : ReceiverId) : (network.act id label delivery action).1.receiver? target =
      (network.receiver? target).map fun receiver ↦
        receiver.gaining (callbacksFor target (action.registrations id)) := by
  have same (after : Network) (h : after.receiver? target = network.receiver? target) :
      after.receiver? target = (network.receiver? target).map fun receiver ↦ receiver.gaining [] := by
    simp [h, Receiver.gaining]
  cases action with
  | register other once handler =>
    refine (network.receiver?_modifyReceiver _ target _).trans ?_
    by_cases own : other.getD id = target
    · simp [own, Action.registrations, callbacksFor, Receiver.gaining, Receiver.register]
    · simp [own, Action.registrations, callbacksFor, Receiver.gaining]
  | publish topic payload retain => exact same _ (network.receiver?_onMedium _ _)
  | silenceAll => exact same _ (network.receiver?_onMedium _ _)
  | count => exact same _ rfl
  | fail => exact same _ rfl
  | failIf test => exact same _ rfl

theorem act_snd (network : Network) (id : ReceiverId) (label : String) (delivery : Delivery) (action : Action) :
    (network.act id label delivery action).2 = action.fails delivery := by
  cases action <;> rfl

theorem map_gaining (callbacks more : List Callback) (found : Option Receiver) :
    (found.map fun receiver ↦ receiver.gaining callbacks).map (fun receiver ↦ receiver.gaining more) =
      found.map fun receiver ↦ receiver.gaining (callbacks ++ more) := by
  cases found <;> simp [Receiver.gaining]

theorem receiver?_actAll (network : Network) (id : ReceiverId) (label : String) (delivery : Delivery)
    (actions : List Action) (target : ReceiverId) :
    (network.actAll id label delivery actions).1.receiver? target =
      (network.receiver? target).map fun receiver ↦
        receiver.gaining (callbacksFor target (Handler.registrations.go id delivery actions)) := by
  induction actions generalizing network with
  | nil => simp [actAll, Handler.registrations.go, Receiver.gaining]
  | cons action rest ih =>
    have first := network.receiver?_act id label delivery action target
    have fails := network.act_snd id label delivery action
    unfold actAll Handler.registrations.go
    split
    · rename_i h
      rw [h] at first fails
      rw [first, ← fails, if_pos rfl, List.append_nil]
    · rename_i after h
      rw [h] at first fails
      rw [ih, first, map_gaining, ← callbacksFor_append, ← fails, if_neg Bool.false_ne_true]

theorem receiver?_runHandler (network : Network) (id : ReceiverId) (delivery : Delivery) (handler : Handler)
    (target : ReceiverId) : (network.runHandler id delivery handler).receiver? target =
      (network.receiver? target).map fun receiver ↦
        receiver.gaining (callbacksFor target (handler.registrations id delivery)) := by
  cases handler with
  | reply ticket =>
    have same : (network.runHandler id delivery (.reply ticket)).receiver? target = network.receiver? target := rfl
    simp [same, Handler.registrations, Receiver.gaining]
  | scripted label actions =>
    have acted := (network.observe (.event (network.labelOf id.agent) (.ran label delivery))).receiver?_actAll
      id label delivery actions target
    unfold runHandler
    simp only
    split
    · rename_i h
      rw [h] at acted
      exact acted
    · rename_i h
      rw [h] at acted
      exact acted

end Network

/-- What the callbacks of a receiver register when they run on a delivery. -/
def Registered.all (id : ReceiverId) (delivery : Delivery) (callbacks : List Callback) : List Registered :=
  callbacks.flatMap fun callback ↦ callback.handler.registrations id delivery

theorem Network.receiver?_foldl_runHandler (network : Network) (id : ReceiverId) (delivery : Delivery)
    (callbacks : List Callback) (target : ReceiverId) :
    (callbacks.foldl (fun network callback ↦ network.runHandler id delivery callback.handler) network).receiver?
        target =
      (network.receiver? target).map fun receiver ↦
        receiver.gaining (callbacksFor target (Registered.all id delivery callbacks)) := by
  induction callbacks generalizing network with
  | nil => simp [Registered.all, Receiver.gaining]
  | cons callback rest ih =>
    rw [List.foldl_cons, ih, receiver?_runHandler, map_gaining, ← callbacksFor_append]
    rfl

namespace Receiver

/-- What the callbacks of a receiver register when a message is offered to it. -/
def registers (receiver : Receiver) (id : ReceiverId) (message : Message) : List Registered :=
  match receiver.read? message with
  | none => []
  | some delivery => Registered.all id delivery receiver.callbacks

/-- Whether a callback outlasts the offer of a message. -/
def keeps (receiver : Receiver) (message : Message) (callback : Callback) : Bool :=
  (receiver.read? message).isNone || !callback.once

end Receiver

/-- A message that is offered to a receiver takes away the callbacks of that receiver which it has used up, and adds
what is registered meanwhile. -/
theorem Network.receiver?_offer (h : network.receiver? id = some receiver) (message : Message) (target : ReceiverId) :
    (network.offer message id).receiver? target = (network.receiver? target).map fun other ↦
      { other with callbacks :=
          (if id = target then receiver.callbacks.filter (receiver.keeps message) else other.callbacks) ++
            callbacksFor target (receiver.registers id message) } := by
  unfold offer Receiver.registers
  rw [h]
  cases hread : receiver.read? message with
  | none =>
    have all : receiver.callbacks.filter (receiver.keeps message) = receiver.callbacks :=
      List.filter_eq_self.2 fun _ _ ↦ by simp [Receiver.keeps, hread]
    have same : (network.observe .failure).receiver? target = network.receiver? target := rfl
    simp only [hread, all, callbacksFor_nil, List.append_nil, same]
    split
    · rename_i own
      rw [← own, h, Option.map_some]
    · exact Option.map_id'.symm
  | some delivery =>
    have kept : (receiver.keeps message) = fun callback ↦ !callback.once := by
      funext callback
      simp [Receiver.keeps, hread]
    simp only [hread, kept, deliver]
    rw [receiver?_modifyReceiver, receiver?_foldl_runHandler, receiver?_modifyReceiver]
    split
    · rw [Option.map_map, Option.map_map]
      rfl
    · rfl

theorem Receiver.filterMap_run?_occurrences (receiver : Receiver) (id : ReceiverId) (message : Message)
    (callbacks : List Callback) : (receiver.occurrences id message callbacks).filterMap Occurrence.run? =
      if (receiver.read? message).isSome then callbacks.map fun callback ↦ (id, callback) else [] := by
  unfold occurrences
  rw [List.filterMap_cons_none rfl]
  cases receiver.read? message with
  | none => rfl
  | some delivery =>
    refine List.filterMap_map.trans ?_
    exact congrFun List.filterMap_eq_map callbacks

theorem Receiver.filterMap_offer?_occurrences (receiver : Receiver) (id : ReceiverId) (message : Message)
    (callbacks : List Callback) :
    (receiver.occurrences id message callbacks).filterMap Occurrence.offer? = [(id, message)] := by
  have first : Occurrence.offer? (.offered id message callbacks) = some (id, message) := rfl
  unfold occurrences
  rw [List.filterMap_cons_some first, List.cons_inj_right]
  cases receiver.read? message with
  | none => rfl
  | some delivery => exact List.filterMap_eq_nil_iff.2 (by simp [Occurrence.offer?])

/-- A message is offered to each of the places, in their order. -/
theorem Journal.offers_offerEach {journal : Journal} {places : List Nat}
    (h : ∀ place ∈ places, (journal.network.receiver? ⟨index, place⟩).isSome) (message : Message) :
    (journal.offerEach index message places).entries.filterMap Occurrence.offer? =
      journal.entries.filterMap Occurrence.offer? ++ places.map fun place ↦ (⟨index, place⟩, message) := by
  induction places generalizing journal with
  | nil => simp [offerEach]
  | cons place rest ih =>
    obtain ⟨receiver, hreceiver⟩ := Option.isSome_iff_exists.1 (h place List.mem_cons_self)
    have there : ∀ other ∈ rest, ((journal.offer message ⟨index, place⟩).network.receiver? ⟨index, other⟩).isSome := by
      intro other hother
      rw [network_offer, Network.receiver?_offer hreceiver, Option.isSome_map]
      exact h other (List.mem_cons_of_mem place hother)
    rw [offerEach, List.foldl_cons]
    refine (ih there).trans ?_
    rw [entries_offer hreceiver, List.filterMap_append, Receiver.filterMap_offer?_occurrences]
    simp

/-- A message that is dispatched is offered to the receivers of the agent that accept it. -/
theorem Journal.offers_dispatch {journal : Journal} (hagent : journal.network.agents[index]? = some agent)
    (message : Message) : (journal.dispatch index agent message).entries.filterMap Occurrence.offer? =
      journal.entries.filterMap Occurrence.offer? ++
        (agent.offered message.topic).map fun place ↦ (⟨index, place⟩, message) := by
  refine offers_offerEach (fun place hplace ↦ ?_) message
  obtain ⟨receiver, hreceiver, -⟩ := mem_offered_iff.1 hplace
  exact Option.isSome_iff_exists.2 ⟨receiver, Network.receiver?_eq_some_iff.2 ⟨agent, hagent, hreceiver⟩⟩

/-! ## Offers of a round -/

namespace Round

variable {round : Round}

theorem foldl_enter_eq (round : Round) (registrations : List Registered) :
    registrations.foldl enter round = { round with
      present := fun id ↦ round.present id ++ numberedFor id registrations round.registrations.length
      registrations := round.registrations ++ registrations } := by
  induction registrations generalizing round with
  | nil => simp
  | cons registration rest ih =>
    rw [List.foldl_cons, ih]
    unfold enter setPresent
    simp only [List.length_append, List.length_singleton, List.append_assoc, List.singleton_append, Round.mk.injEq,
      true_and, and_true]
    funext id
    by_cases own : registration.target = id <;> simp [own, numberedFor]

theorem foldl_runCallback_eq (round : Round) (id : ReceiverId) (delivery : Delivery) (entries : List Marked) :
    entries.foldl (fun round entry ↦ round.runCallback id delivery entry) round =
      { journal := (entries.map Prod.fst).foldl (fun journal callback ↦ journal.runCallback id delivery callback)
          round.journal
        present := fun target ↦ round.present target ++
          numberedFor target (Registered.all id delivery (entries.map Prod.fst)) round.registrations.length
        registrations := round.registrations ++ Registered.all id delivery (entries.map Prod.fst)
        runs := round.runs ++ entries.map fun entry ↦ (id, entry) } := by
  induction entries generalizing round with
  | nil => simp [Registered.all]
  | cons entry rest ih =>
    rw [List.foldl_cons, ih, runCallback, foldl_enter_eq]
    simp [Registered.all, numberedFor_append, List.append_assoc]

/-- What an offer comes to in a round that knows the callbacks of the receiver. -/
theorem offer_eq (h : round.journal.network.receiver? id = some receiver)
    (known : receiver.callbacks = (round.present id).map Prod.fst) (message : Message) :
    round.offer message id =
      { journal := round.journal.offer message id
        present := fun target ↦
          (if id = target then (round.present id).filter fun entry ↦ receiver.keeps message entry.1
            else round.present target) ++
          numberedFor target (receiver.registers id message) round.registrations.length
        registrations := round.registrations ++ receiver.registers id message
        runs := round.runs ++
          if (receiver.read? message).isSome then (round.present id).map fun entry ↦ (id, entry) else [] } := by
  unfold offer Journal.offer Receiver.registers
  rw [h]
  cases hread : receiver.read? message with
  | none =>
    have same : round.present = fun target ↦ if id = target then round.present id else round.present target := by
      funext target
      split
      · rename_i own
        rw [own]
      · rfl
    simp [hread, Receiver.keeps, onNetwork, ← same]
  | some delivery =>
    have kept : ((round.present id).filter fun entry ↦ !entry.1.once).map Prod.fst =
        ((round.present id).map Prod.fst).filter fun callback ↦ !callback.once := by
      rw [List.filter_map]
      rfl
    simp only [hread, deliver, Journal.deliver, known, kept]
    rw [foldl_runCallback_eq]
    simp only [Round.mk.injEq, setPresent, onNetwork, Receiver.keeps, hread, Option.isNone_some, Bool.false_or,
      Option.isSome_some, if_true, true_and, and_true]
    funext target
    split
    · rename_i own
      rw [own]
      rfl
    · rfl

/-- The round knows the callbacks that receivers have. -/
def Knows (round : Round) : Prop :=
  ∀ id receiver, round.journal.network.receiver? id = some receiver →
    receiver.callbacks = (round.present id).map Prod.fst

theorem Knows.offer (knows : round.Knows) (h : round.journal.network.receiver? id = some receiver)
    (message : Message) : (round.offer message id).Knows := by
  intro target changed hchanged
  rw [offer_eq h (knows id receiver h)] at hchanged ⊢
  rw [Journal.network_offer, Network.receiver?_offer h] at hchanged
  obtain ⟨other, hother, rfl⟩ := Option.map_eq_some_iff.1 hchanged
  simp only [List.map_append, map_fst_numberedFor]
  split
  · rw [knows id receiver h, List.filter_map]
    rfl
  · rw [knows target other hother]

end Round

/-! ## What one offer preserves -/

/-- Whether there is a receiver whose pattern accepts the topic of a message. -/
def Network.Accepts (network : Network) (message : Message) (id : ReceiverId) : Prop :=
  ∃ receiver, network.receiver? id = some receiver ∧ receiver.pattern.accepts message.topic

/-- Whether a receiver that accepts a message has nothing to decode, or can decode it. -/
def Network.Takes (network : Network) (message : Message) (id : ReceiverId) : Prop :=
  ∃ receiver, network.receiver? id = some receiver ∧ receiver.pattern.accepts message.topic ∧
    (message.payload.isEmpty ∨ (receiver.kind.decode? message.payload).isSome)

theorem Network.accepts_iff (hagent : network.agents[index]? = some agent) :
    network.Accepts message ⟨index, place⟩ ↔ place ∈ agent.offered message.topic := by
  rw [Journal.mem_offered_iff]
  refine exists_congr fun receiver ↦ and_congr_left fun _ ↦ ?_
  rw [receiver?_eq_some_iff]
  constructor
  · rintro ⟨owner, howner, hplace⟩
    rwa [← Option.some.inj (howner.symm.trans hagent)]
  · exact fun hplace ↦ ⟨agent, hagent, hplace⟩

theorem Network.Takes.accepts (takes : network.Takes message id) : network.Accepts message id :=
  takes.imp fun _ h ↦ ⟨h.1, h.2.1⟩

theorem Network.receiver?_of_place (hagent : network.agents[index]? = some agent)
    (hplace : agent.receivers[place]? = some receiver) : network.receiver? ⟨index, place⟩ = some receiver :=
  receiver?_eq_some_iff.2 ⟨agent, hagent, hplace⟩

theorem Receiver.isSome_read?_iff (receiver : Receiver) (message : Message) : (receiver.read? message).isSome ↔
    message.payload.isEmpty ∨ (receiver.kind.decode? message.payload).isSome := by
  unfold read?
  split <;> simp_all

theorem Registered.source_of_mem_all {callbacks : List Callback} {registration : Registered}
    (h : registration ∈ Registered.all id delivery callbacks) : registration.source = id := by
  obtain ⟨callback, -, h⟩ := List.mem_flatMap.1 h
  cases hhandler : callback.handler with
  | reply ticket => simp [hhandler, Handler.registrations] at h
  | scripted label actions =>
    rw [hhandler, Handler.registrations] at h
    clear hhandler
    induction actions with
    | nil => cases h
    | cons action rest ih =>
      rw [Handler.registrations.go] at h
      rcases List.mem_append.1 h with h | h
      · cases action <;> simp_all [Action.registrations]
      · split at h
        · cases h
        · exact ih h

theorem Receiver.source_of_mem_registers {registration : Registered}
    (h : registration ∈ receiver.registers id message) : registration.source = id := by
  unfold registers at h
  split at h
  · cases h
  · exact Registered.source_of_mem_all h

/-- The places of the receivers before the one at the place `bound` whose pattern accepts a topic. -/
def Agent.offeredBelow (agent : Agent) (topic : String) (bound : Nat) : List Nat :=
  (List.range bound).filter fun place ↦ agent.receivers[place]?.any fun receiver ↦ receiver.pattern.accepts topic

theorem Agent.offeredBelow_succ (agent : Agent) (topic : String) (bound : Nat) :
    agent.offeredBelow topic (bound + 1) = agent.offeredBelow topic bound ++
      if agent.receivers[bound]?.any fun receiver ↦ receiver.pattern.accepts topic then [bound] else [] := by
  unfold offeredBelow
  rw [List.range_succ, List.filter_append]
  congr 1
  split <;> simp_all

namespace Round

variable {origin : Network} {bound : Nat} {round : Round}

/-- What holds of a round that began with the network `origin` and has come to the receivers of an agent before the one
at the place `bound`. -/
structure Served (origin : Network) (index : Nat) (agent : Agent) (message : Message) (bound : Nat) (round : Round) :
    Prop where
  journal : round.journal =
    Journal.offerEach ⟨origin, []⟩ index message (agent.offeredBelow message.topic bound)
  knows : round.Knows
  bare : ∀ id, (round.journal.network.receiver? id).map Receiver.bare = (origin.receiver? id).map Receiver.bare
  /-- A receiver still to come has the callbacks that it had and those that were registered on it. -/
  waiting : ∀ id, (id.agent = index → bound ≤ id.index) → round.present id =
    (origin.callbacksOf id).map (fun callback ↦ (callback, none)) ++ numberedFor id round.registrations 0
  sources : ∀ registration ∈ round.registrations, registration.source.agent = index ∧ registration.source.index < bound
  named : ∀ id callback number, (id, callback, some number) ∈ round.runs →
    ∃ source, round.registrations[number]? = some ⟨source, id, callback⟩
  ran : ∀ number registration, round.registrations[number]? = some registration →
    ((registration.target, registration.callback, some number) ∈ round.runs ↔
      registration.target.agent = index ∧ registration.target.index < bound ∧
        registration.source.index < registration.target.index ∧ origin.Takes message registration.target)
  once : (round.runs.filterMap fun run ↦ run.2.2).Nodup
  runs : round.journal.entries.filterMap Occurrence.run? = round.runs.map fun run ↦ (run.1, run.2.1)

theorem served_opened (origin : Network) (index : Nat) (agent : Agent) (message : Message) :
    Served origin index agent message 0 (opened origin) where
  journal := rfl
  knows id receiver h := by
    have found : origin.receiver? id = some receiver := h
    simp [opened, Network.callbacksOf, found, Function.comp_def]
  bare _ := rfl
  waiting _ _ := by simp [opened]
  sources := by simp [opened]
  named := by simp [opened]
  ran := by simp [opened]
  once := List.nodup_nil
  runs := rfl

namespace Served

theorem current (served : Served origin index agent message bound round) (h : origin.receiver? id = some receiver) :
    ∃ current, round.journal.network.receiver? id = some current ∧ current.bare = receiver.bare := by
  have same := served.bare id
  rw [h, Option.map_some] at same
  exact Option.map_eq_some_iff.1 same

/-- Nothing happens at a receiver that does not accept the message. -/
theorem pass (served : Served origin index agent message bound round) (hagent : origin.agents[index]? = some agent)
    (refuses : ¬(agent.receivers[bound]?.any fun receiver ↦ receiver.pattern.accepts message.topic)) :
    Served origin index agent message (bound + 1) round where
  journal := by
    rw [agent.offeredBelow_succ, if_neg refuses, List.append_nil]
    exact served.journal
  knows := served.knows
  bare := served.bare
  waiting id later := served.waiting id fun own ↦ Nat.le_of_succ_le (later own)
  sources registration h := ⟨(served.sources registration h).1, Nat.lt_succ_of_lt (served.sources registration h).2⟩
  named := served.named
  ran number registration h := by
    rw [served.ran number registration h]
    refine and_congr_right fun own ↦ and_congr_left fun ⟨_, receiver, hreceiver, accepts, _⟩ ↦ ?_
    refine ⟨Nat.lt_succ_of_lt, fun lt ↦ (Nat.lt_succ_iff_lt_or_eq.1 lt).resolve_right fun here ↦ refuses ?_⟩
    obtain ⟨owner, howner, hplace⟩ := Network.receiver?_eq_some_iff.1 hreceiver
    rw [own, hagent, Option.some.injEq] at howner
    rw [howner, ← here, hplace]
    exact accepts
  once := served.once
  runs := served.runs

theorem mem_present_iff (served : Served origin index agent message bound round) {callback : Callback} {number : Nat}
    (later : id.agent = index → bound ≤ id.index) : (callback, some number) ∈ round.present id ↔
      ∃ source, round.registrations[number]? = some ⟨source, id, callback⟩ := by
  rw [served.waiting id later, List.mem_append, mem_numberedFor_iff]
  simp

theorem numbers (served : Served origin index agent message bound round)
    (later : id.agent = index → bound ≤ id.index) :
    (round.present id).filterMap Prod.snd = (numberedFor id round.registrations 0).filterMap Prod.snd := by
  have none : ((origin.callbacksOf id).map fun callback ↦ ((callback, none) : Marked)).filterMap Prod.snd = [] :=
    List.filterMap_eq_nil_iff.2 (by simp)
  rw [served.waiting id later, List.filterMap_append, none, List.nil_append]

section Offer

variable (served : Served origin index agent message bound round) (hagent : origin.agents[index]? = some agent)
  (hplace : agent.receivers[bound]? = some receiver)

include served hagent hplace

/-- The offer is made to a receiver that reads as it did at the beginning, and whose callbacks the round knows. -/
theorem exists_current : ∃ current, round.journal.network.receiver? ⟨index, bound⟩ = some current ∧
    current.callbacks = (round.present ⟨index, bound⟩).map Prod.fst ∧
    current.read? message = receiver.read? message := by
  obtain ⟨current, hcurrent, same⟩ := served.current (Network.receiver?_of_place hagent hplace)
  refine ⟨current, hcurrent, served.knows _ _ hcurrent, ?_⟩
  rw [← current.read?_bare, same, receiver.read?_bare]

theorem registrations_offer : ∃ now, (round.offer message ⟨index, bound⟩).registrations = round.registrations ++ now ∧
    ∀ registration ∈ now, registration.source = ⟨index, bound⟩ := by
  obtain ⟨current, hcurrent, known, -⟩ := served.exists_current hagent hplace
  refine ⟨current.registers ⟨index, bound⟩ message, ?_, fun _ ↦ Receiver.source_of_mem_registers⟩
  rw [offer_eq hcurrent known]

theorem waiting_offer (later : id.agent = index → bound + 1 ≤ id.index) :
    (round.offer message ⟨index, bound⟩).present id =
      (origin.callbacksOf id).map (fun callback ↦ (callback, none)) ++
        numberedFor id (round.offer message ⟨index, bound⟩).registrations 0 := by
  obtain ⟨current, hcurrent, known, -⟩ := served.exists_current hagent hplace
  have other : (⟨index, bound⟩ : ReceiverId) ≠ id := by
    rintro rfl
    exact Nat.not_succ_le_self bound (later rfl)
  rw [offer_eq hcurrent known]
  simp only [if_neg other, numberedFor_append, Nat.zero_add]
  rw [served.waiting id fun own ↦ Nat.le_of_succ_le (later own), List.append_assoc]

theorem runs_offer : (round.offer message ⟨index, bound⟩).runs = round.runs ++
    if (receiver.read? message).isSome then (round.present ⟨index, bound⟩).map fun entry ↦ (⟨index, bound⟩, entry)
    else [] := by
  obtain ⟨current, hcurrent, known, readable⟩ := served.exists_current hagent hplace
  rw [offer_eq hcurrent known, readable]

theorem once_offer : ((round.offer message ⟨index, bound⟩).runs.filterMap fun run ↦ run.2.2).Nodup := by
  have waits : (⟨index, bound⟩ : ReceiverId).agent = index → bound ≤ (⟨index, bound⟩ : ReceiverId).index :=
    fun _ ↦ Nat.le_refl bound
  rw [served.runs_offer hagent hplace, List.filterMap_append]
  split
  · rw [List.filterMap_map]
    have now : (round.present ⟨index, bound⟩).filterMap Prod.snd =
        (numberedFor ⟨index, bound⟩ round.registrations 0).filterMap Prod.snd := served.numbers waits
    refine served.once.append (now ▸ nodup_numberedFor _ _ _) fun number earlier later ↦ ?_
    -- A number that has run belongs to a receiver that came before.
    obtain ⟨⟨id, callback, _⟩, hrun, rfl⟩ := List.mem_filterMap.1 earlier
    obtain ⟨⟨other, _⟩, hmem, rfl⟩ := List.mem_filterMap.1 later
    obtain ⟨source, hsource⟩ := served.named id callback number hrun
    obtain ⟨_, hnow⟩ := (served.mem_present_iff waits).1 hmem
    obtain ⟨-, rfl, -⟩ := Registered.mk.inj (Option.some.inj (hsource.symm.trans hnow))
    exact Nat.lt_irrefl bound ((served.ran number _ hsource).1 hrun).2.1
  · simpa using served.once

variable (accepts : receiver.pattern.accepts message.topic)

include accepts

/-- The callbacks that run are those that the receiver has. -/
theorem mem_runs_offer_iff {target : ReceiverId} {entry : Marked} :
    (target, entry) ∈ (round.offer message ⟨index, bound⟩).runs ↔
      (target, entry) ∈ round.runs ∨
        origin.Takes message target ∧ target = ⟨index, bound⟩ ∧ entry ∈ round.present target := by
  have takes : origin.Takes message ⟨index, bound⟩ ↔ (receiver.read? message).isSome := by
    have found := Network.receiver?_of_place hagent hplace
    rw [receiver.isSome_read?_iff]
    constructor
    · rintro ⟨other, hother, -, decodes⟩
      rwa [← Option.some.inj (hother.symm.trans found)]
    · exact fun decodes ↦ ⟨receiver, found, accepts, decodes⟩
  rw [served.runs_offer hagent hplace, List.mem_append]
  refine or_congr_right ?_
  split
  · rename_i reads
    rw [List.mem_map]
    constructor
    · rintro ⟨marked, hmem, same⟩
      obtain ⟨rfl, rfl⟩ := Prod.mk.inj same
      exact ⟨takes.2 reads, rfl, hmem⟩
    · rintro ⟨-, rfl, hmem⟩
      exact ⟨entry, hmem, rfl⟩
  · rename_i unread
    refine iff_of_false List.not_mem_nil ?_
    rintro ⟨taken, rfl, -⟩
    exact unread (takes.1 taken)

theorem exists_of_mem_runs_offer {target : ReceiverId} {callback : Callback} {number : Nat}
    (h : (target, callback, some number) ∈ (round.offer message ⟨index, bound⟩).runs) :
    ∃ source, round.registrations[number]? = some ⟨source, target, callback⟩ := by
  rcases (served.mem_runs_offer_iff hagent hplace accepts).1 h with earlier | ⟨-, rfl, now⟩
  · exact served.named target callback number earlier
  · exact (served.mem_present_iff fun _ ↦ Nat.le_refl bound).1 now

theorem ran_offer {number : Nat} {registration : Registered}
    (h : (round.offer message ⟨index, bound⟩).registrations[number]? = some registration) :
    (registration.target, registration.callback, some number) ∈ (round.offer message ⟨index, bound⟩).runs ↔
      registration.target.agent = index ∧ registration.target.index < bound + 1 ∧
        registration.source.index < registration.target.index ∧ origin.Takes message registration.target := by
  obtain ⟨now, registrations, sources⟩ := served.registrations_offer hagent hplace
  rw [registrations] at h
  rcases Nat.lt_or_ge number round.registrations.length with earlier | later
  · rw [List.getElem?_append_left earlier] at h
    rw [served.mem_runs_offer_iff hagent hplace accepts, served.ran number registration h]
    constructor
    · rintro (⟨own, lt, later, taken⟩ | ⟨taken, here, -⟩)
      · exact ⟨own, Nat.lt_succ_of_lt lt, later, taken⟩
      · refine ⟨congrArg ReceiverId.agent here, ?_, ?_, taken⟩
        · rw [here]
          exact Nat.lt_succ_self bound
        · rw [here]
          exact (served.sources registration (List.mem_of_getElem? h)).2
    · intro ⟨own, lt, later, taken⟩
      rcases Nat.lt_succ_iff_lt_or_eq.1 lt with lt | place
      · exact .inl ⟨own, lt, later, taken⟩
      · have here : registration.target = ⟨index, bound⟩ := by
          rw [← own, ← place]
        refine .inr ⟨taken, here, (served.mem_present_iff fun _ ↦ Nat.le_of_eq place.symm).2 ⟨_, h⟩⟩
  · -- What is registered now has a number that nothing has run with, and comes from this receiver.
    rw [List.getElem?_append_right later] at h
    have source := sources registration (List.mem_of_getElem? h)
    constructor
    · intro hmem
      obtain ⟨_, hold⟩ := served.exists_of_mem_runs_offer hagent hplace accepts hmem
      exact absurd (List.getElem?_eq_some_iff.1 hold).1 (Nat.not_lt.2 later)
    · rintro ⟨-, lt, after, -⟩
      rw [source] at after
      exact absurd lt (Nat.not_lt.2 after)

/-- A receiver that accepts the message is offered it. -/
theorem offer : Served origin index agent message (bound + 1) (round.offer message ⟨index, bound⟩) := by
  obtain ⟨current, hcurrent, known, readable⟩ := served.exists_current hagent hplace
  obtain ⟨now, registrations, sources⟩ := served.registrations_offer hagent hplace
  have journal : (round.offer message ⟨index, bound⟩).journal = round.journal.offer message ⟨index, bound⟩ := by
    rw [offer_eq hcurrent known]
  constructor
  case journal =>
    have accepted : agent.receivers[bound]?.any fun receiver ↦ receiver.pattern.accepts message.topic := by
      rw [hplace]
      exact accepts
    rw [journal, served.journal, agent.offeredBelow_succ, if_pos accepted]
    simp [Journal.offerEach]
  case knows => exact served.knows.offer hcurrent message
  case bare =>
    intro target
    rw [journal, Journal.network_offer, Network.receiver?_offer hcurrent, Option.map_map, ← served.bare target]
    rfl
  case waiting => exact fun _ ↦ served.waiting_offer hagent hplace
  case sources =>
    intro registration h
    rw [registrations] at h
    rcases List.mem_append.1 h with earlier | now
    · exact ⟨(served.sources registration earlier).1, Nat.lt_succ_of_lt (served.sources registration earlier).2⟩
    · rw [sources registration now]
      exact ⟨rfl, Nat.lt_succ_self bound⟩
  case named =>
    intro target callback number h
    obtain ⟨source, hsource⟩ := served.exists_of_mem_runs_offer hagent hplace accepts h
    have lt := (List.getElem?_eq_some_iff.1 hsource).1
    exact ⟨source, by rw [registrations, List.getElem?_append_left lt, hsource]⟩
  case ran => exact fun _ _ ↦ served.ran_offer hagent hplace accepts
  case once => exact served.once_offer hagent hplace
  case runs =>
    rw [journal, Journal.entries_offer hcurrent, List.filterMap_append, served.runs,
      Receiver.filterMap_run?_occurrences, served.runs_offer hagent hplace, List.map_append, readable, known]
    split <;> simp

end Offer

end Served

/-! ## Receivers that do not meet -/

/-- What holds besides as long as callbacks register on their own receiver only: a receiver that was offered the message
is as if it were the only one, and all others are as they were. -/
structure Apart (origin : Network) (index : Nat) (message : Message) (bound : Nat) (journal : Journal) : Prop where
  alone : ∀ id, id.agent = index → id.index < bound → origin.Accepts message id →
    journal.entriesOf id = ((⟨origin, []⟩ : Journal).offer message id).entriesOf id ∧
      journal.network.receiver? id = (origin.offer message id).receiver? id
  spared : ∀ id, ¬(id.agent = index ∧ id.index < bound ∧ origin.Accepts message id) →
    journal.entriesOf id = [] ∧ journal.network.receiver? id = origin.receiver? id

namespace Apart

variable {journal : Journal}

theorem start (origin : Network) (index : Nat) (message : Message) : Apart origin index message 0 ⟨origin, []⟩ where
  alone _ _ lt := absurd lt (Nat.not_lt_zero _)
  spared _ _ := ⟨rfl, rfl⟩

theorem pass (apart : Apart origin index message bound journal) (refuses : ¬origin.Accepts message ⟨index, bound⟩) :
    Apart origin index message (bound + 1) journal := by
  have earlier (id : ReceiverId) (own : id.agent = index) (lt : id.index < bound + 1)
      (accepts : origin.Accepts message id) : id.index < bound := by
    refine (Nat.lt_succ_iff_lt_or_eq.1 lt).resolve_right fun place ↦ refuses ?_
    rw [← own, ← place]
    exact accepts
  constructor
  case alone =>
    intro id own lt accepts
    exact apart.alone id own (earlier id own lt accepts) accepts
  case spared =>
    intro id others
    exact apart.spared id fun ⟨own, lt, accepts⟩ ↦ others ⟨own, Nat.lt_succ_of_lt lt, accepts⟩

theorem offer (apart : Apart origin index message bound journal)
    (found : origin.receiver? ⟨index, bound⟩ = some receiver) (accepts : receiver.pattern.accepts message.topic)
    (own : ∀ registration ∈ receiver.registers ⟨index, bound⟩ message, registration.target = ⟨index, bound⟩) :
    Apart origin index message (bound + 1) (journal.offer message ⟨index, bound⟩) := by
  obtain ⟨silent, same⟩ := apart.spared ⟨index, bound⟩ fun ⟨_, lt, _⟩ ↦ Nat.lt_irrefl bound lt
  have current : journal.network.receiver? ⟨index, bound⟩ = some receiver := same.trans found
  have others (id : ReceiverId) (other : ⟨index, bound⟩ ≠ id) :
      (journal.offer message ⟨index, bound⟩).entriesOf id = journal.entriesOf id ∧
        (journal.offer message ⟨index, bound⟩).network.receiver? id = journal.network.receiver? id := by
    have nothing : callbacksFor id (receiver.registers ⟨index, bound⟩ message) = [] :=
      callbacksFor_eq_nil fun registration h ↦ own registration h ▸ other
    rw [Journal.entriesOf_offer current, if_neg other, Journal.network_offer, Network.receiver?_offer current, nothing]
    simp [other]
  constructor
  case alone =>
    intro id sameAgent lt accepts
    by_cases here : ⟨index, bound⟩ = id
    · subst here
      rw [Journal.network_offer, Network.receiver?_offer current, Network.receiver?_offer found, same,
        Journal.entriesOf_offer current, silent, Journal.entriesOf_offer found]
      exact ⟨rfl, rfl⟩
    · have earlier : id.index < bound := by
        refine (Nat.lt_succ_iff_lt_or_eq.1 lt).resolve_right fun place ↦ here ?_
        rw [← sameAgent, ← place]
      rw [(others id here).1, (others id here).2]
      exact apart.alone id sameAgent earlier accepts
  case spared =>
    intro id none
    have other : ⟨index, bound⟩ ≠ id := by
      rintro rfl
      exact none ⟨rfl, Nat.lt_succ_self bound, receiver, found, accepts⟩
    rw [(others id other).1, (others id other).2]
    exact apart.spared id fun ⟨own, lt, accepts⟩ ↦ none ⟨own, Nat.lt_succ_of_lt lt, accepts⟩

end Apart

/-! ## The whole round -/

/-- From the beginning to the receiver at the place `bound`, by induction on the receivers visited. -/
theorem served_foldl (hagent : origin.agents[index]? = some agent) (message : Message)
    (inside : bound ≤ agent.receivers.length) :
    let state := (List.range bound).foldl (visit index agent message) (opened origin, 0)
    Served origin index agent message bound state.1 ∧ state.2 = (agent.offeredBelow message.topic bound).length ∧
      ((∀ registration ∈ state.1.registrations, registration.target = registration.source) →
        Apart origin index message bound state.1.journal) := by
  induction bound with
  | zero => exact ⟨served_opened origin index agent message, rfl, fun _ ↦ .start origin index message⟩
  | succ bound ih =>
    obtain ⟨served, matched, apart⟩ := ih (Nat.le_of_succ_le inside)
    have hplace := List.getElem?_eq_getElem inside
    have found := Network.receiver?_of_place hagent hplace
    simp only [List.range_succ, List.foldl_append, List.foldl_cons, List.foldl_nil]
    generalize (List.range bound).foldl (visit index agent message) (opened origin, 0) = state at *
    rw [visit, agent.offeredBelow_succ]
    split
    · rename_i accepted
      have accepts : agent.receivers[bound].pattern.accepts message.topic := by
        simpa [hplace] using accepted
      refine ⟨served.offer hagent hplace accepts, by simp [matched], fun own ↦ ?_⟩
      obtain ⟨current, hcurrent, -⟩ := served.current found
      rw [offer_eq hcurrent (served.knows _ _ hcurrent)] at own ⊢
      have apart := apart fun registration h ↦ own registration (List.mem_append_left _ h)
      obtain ⟨-, same⟩ := apart.spared ⟨index, bound⟩ fun ⟨_, lt, _⟩ ↦ Nat.lt_irrefl bound lt
      obtain rfl : current = agent.receivers[bound] := Option.some.inj (hcurrent.symm.trans (same.trans found))
      refine apart.offer found accepts fun registration h ↦ ?_
      rw [own registration (List.mem_append_right _ h), Receiver.source_of_mem_registers h]
    · rename_i refused
      refine ⟨served.pass hagent refused, by simp [matched], fun own ↦ (apart own).pass ?_⟩
      rintro ⟨receiver, hreceiver, accepts⟩
      obtain rfl : receiver = agent.receivers[bound] := Option.some.inj (hreceiver.symm.trans found)
      exact refused (by simpa [hplace] using accepts)

/-- What a round comes to that began with the network `origin`. -/
structure Complete (origin : Network) (index : Nat) (agent : Agent) (message : Message) (round : Round)
    (matched : Nat) : Prop where
  /-- The work is the network's own. -/
  network_eq : round.journal.network = origin.dispatch index agent message
  /-- The message is offered to the receivers of the agent that accept it, once each and in the order of their creation,
  and their number is told. -/
  offers : ∃ receivers : List ReceiverId,
    round.journal.entries.filterMap Occurrence.offer? = receivers.map (fun id ↦ (id, message)) ∧
    receivers.Pairwise (fun earlier later ↦ earlier.index < later.index) ∧
    (∀ id, id ∈ receivers ↔ id.agent = index ∧ origin.Accepts message id) ∧ matched = receivers.length
  /-- If callbacks register on their own receiver only, what happens to a receiver that accepts the message, and what it
  is left with, is the same as if it alone had been offered the message. -/
  alone : (∀ registration ∈ round.registrations, registration.target = registration.source) →
    ∀ id, id.agent = index → origin.Accepts message id →
      round.journal.entriesOf id = ((⟨origin, []⟩ : Journal).offer message id).entriesOf id ∧
      round.journal.network.receiver? id = (origin.offer message id).receiver? id
  /-- All others are as they were then. -/
  spared : (∀ registration ∈ round.registrations, registration.target = registration.source) →
    ∀ id, ¬(id.agent = index ∧ origin.Accepts message id) →
      round.journal.entriesOf id = [] ∧ round.journal.network.receiver? id = origin.receiver? id
  /-- The callbacks that the round knows are those that receivers have. -/
  knows : round.Knows
  /-- The runs that the round knows are those that took place. -/
  runs : round.journal.entries.filterMap Occurrence.run? = round.runs.map fun run ↦ (run.1, run.2.1)
  /-- A run with a number is a run of the callback that was registered under the number. -/
  named : ∀ id callback number, (id, callback, some number) ∈ round.runs →
    ∃ source, round.registrations[number]? = some ⟨source, id, callback⟩
  /-- None of them runs twice. -/
  once : (round.runs.filterMap fun run ↦ run.2.2).Nodup
  /-- What was registered in the round was registered by receivers of the agent. It has run in the round exactly if its
  receiver is one of the agent's, comes after the one that registered it, and takes the message. -/
  ran : ∀ number registration, round.registrations[number]? = some registration →
    registration.source.agent = index ∧
    ((registration.target, registration.callback, some number) ∈ round.runs ↔
      registration.target.agent = index ∧ registration.source.index < registration.target.index ∧
        origin.Takes message registration.target)

/-- What one round comes to, whatever the receivers of the agent are, whichever of them cannot decode the message and
whichever callbacks fail. -/
theorem complete_dispatch (hagent : origin.agents[index]? = some agent) (message : Message) :
    let (round, matched) := (opened origin).dispatch index agent message
    Complete origin index agent message round matched := by
  obtain ⟨served, matched, apart⟩ := served_foldl hagent message (Nat.le_refl agent.receivers.length)
  have inside {id : ReceiverId} (own : id.agent = index) (accepts : origin.Accepts message id) :
      id.index < agent.receivers.length := by
    subst own
    obtain ⟨receiver, hreceiver, -⟩ := Journal.mem_offered_iff.1 ((Network.accepts_iff hagent).1 accepts)
    exact (List.getElem?_eq_some_iff.1 hreceiver).1
  constructor
  case network_eq =>
    rw [← Journal.network_dispatch ⟨origin, []⟩]
    exact congrArg Journal.network served.journal
  case offers =>
    refine ⟨(agent.offered message.topic).map fun place ↦ ⟨index, place⟩, ?_, ?_, fun id ↦ ?_, ?_⟩
    · have journal := congrArg (fun journal ↦ journal.entries.filterMap Occurrence.offer?) served.journal
      refine journal.trans ((Journal.offers_dispatch hagent message).trans ?_)
      simp
    · rw [List.pairwise_map]
      exact List.pairwise_lt_range.filter _
    · rw [List.mem_map]
      constructor
      · rintro ⟨place, hplace, rfl⟩
        exact ⟨rfl, (Network.accepts_iff hagent).2 hplace⟩
      · rintro ⟨rfl, accepts⟩
        exact ⟨id.index, (Network.accepts_iff hagent).1 accepts, rfl⟩
    · rw [List.length_map]
      exact matched
  case alone => exact fun own id sameAgent accepts ↦ (apart own).alone id sameAgent (inside sameAgent accepts) accepts
  case spared =>
    exact fun own id others ↦ (apart own).spared id fun ⟨sameAgent, _, accepts⟩ ↦ others ⟨sameAgent, accepts⟩
  case knows => exact served.knows
  case runs => exact served.runs
  case named => exact served.named
  case once => exact served.once
  case ran =>
    intro number registration h
    refine ⟨(served.sources registration (List.mem_of_getElem? h)).1, (served.ran number registration h).trans ?_⟩
    refine and_congr_right fun own ↦ ⟨And.right, fun ⟨later, takes⟩ ↦ ⟨inside own takes.accepts, later, takes⟩⟩

/-- The first of three receivers registers a callback on each of them and then fails: only the one on the second receiver
runs at once, for the third receiver cannot decode the message. If it registers on itself only, it is left as it would
be without the others. -/
theorem complete_dispatch_nested : ∃ (far near : Network) (agent other : Agent) (message : Message),
    far.agents[0]? = some agent ∧ near.agents[0]? = some other ∧
    (let (round, matched) := (opened far).dispatch 0 agent message
     Complete far 0 agent message round matched ∧ matched = 3 ∧
     round.registrations.map Registered.target = [⟨0, 0⟩, ⟨0, 1⟩, ⟨0, 2⟩] ∧
     (round.runs.filterMap fun run ↦ run.2.2) = [1]) ∧
    let round := ((opened near).dispatch 0 other message).1
    round.registrations.length = 1 ∧
    round.journal.network.receiver? ⟨0, 0⟩ = (near.offer message ⟨0, 0⟩).receiver? ⟨0, 0⟩ := by
  let receiver (kind : PayloadKind) (callbacks : List Callback) : Receiver :=
    ⟨⟨"speed", "+/speed/#", .receiver⟩, kind, ⟨"+/speed/#", .channel .any "speed" .any⟩, .atLeastOnce, false, callbacks⟩
  let registering (targets : List (Option ReceiverId)) : Callback :=
    ⟨true, .scripted "first" (targets.map (fun target ↦ .register target false (.scripted "late" [])) ++ [.fail])⟩
  let agent (targets : List (Option ReceiverId)) : Agent :=
    ⟨"one", ⟨"car", none⟩, .plain, .tcp, .generated 0, ⟨.atLeastOnce, false⟩, false, .initial, [],
      [receiver .u32 [registering targets], receiver .u32 [], receiver .string []], none, true⟩
  let network (targets : List (Option ReceiverId)) : Network := { Network.fresh with agents := [agent targets] }
  have h (targets : List (Option ReceiverId)) : (network targets).agents[0]? = some (agent targets) := rfl
  let message : Message := ⟨"car/speed/1", [7]⟩
  refine ⟨network [none, some ⟨0, 1⟩, some ⟨0, 2⟩], network [none], _, _, message, h _, h _, ?_, ?_, ?_⟩
  · exact ⟨complete_dispatch (h _) message, by decide +kernel, by decide +kernel, by decide +kernel⟩
  · decide +kernel
  · refine ((complete_dispatch (h [none]) message).alone ?_ ⟨0, 0⟩ rfl ?_).2
    · decide +kernel
    · exact ⟨receiver .u32 [registering [none]], rfl, by decide +kernel⟩

end Round

end PubSub
