import PubSub.Network.Journal
/-!
# Keeping a journal

A journal is kept beside the work and has no part in it: without its entries, every operation is the one of the
network. What happens to one receiver is found in its own entries.
-/

namespace PubSub.Journal

variable {journal next : Journal} {id other : ReceiverId} {message : Message} {delivery : Delivery}

/-! ## The network of a journal -/

theorem network_deliver (journal : Journal) (id : ReceiverId) (delivery : Delivery) (callbacks : List Callback) :
    (journal.deliver id delivery callbacks).network = journal.network.deliver id delivery callbacks := by
  have all (callbacks : List Callback) (start : Journal) :
      (callbacks.foldl (fun journal callback ↦ journal.runCallback id delivery callback) start).network =
        callbacks.foldl (fun network callback ↦ network.runHandler id delivery callback.handler) start.network := by
    induction callbacks generalizing start with
    | nil => rfl
    | cons callback rest ih => exact ih _
  unfold deliver Network.deliver
  simp only [onNetwork]
  rw [all]

theorem network_offer (journal : Journal) (message : Message) (id : ReceiverId) :
    (journal.offer message id).network = journal.network.offer message id := by
  unfold offer Network.offer
  cases journal.network.receiver? id with
  | none => rfl
  | some receiver =>
    cases hread : receiver.read? message with
    | none =>
      simp only [hread]
      rfl
    | some delivery =>
      simp only [hread]
      rw [network_deliver]
      rfl

theorem network_dispatch (journal : Journal) (index : Nat) (agent : Agent) (message : Message) :
    (journal.dispatch index agent message).network = journal.network.dispatch index agent message := by
  unfold dispatch Network.dispatch
  induction agent.offered message.topic generalizing journal with
  | nil => rfl
  | cons place rest ih => rw [List.foldl_cons, ih, network_offer, List.foldl_cons]

theorem network_lookInside (journal : Journal) (index : Nat) (source : ConnectionId) (rest : List Task) :
    (journal.lookInside index source rest).network = journal.network.lookInside index source rest := by
  unfold lookInside
  split
  · rfl
  · rename_i agent h
    split
    · rename_i reads
      split
      · rfl
      · rename_i message broker taken
        rw [network_dispatch, Network.lookInside]
        simp only [h, reads, taken, if_true]
        rfl
    · rfl

theorem network_tick? (journal : Journal) : journal.tick?.map Journal.network = journal.network.tick? := by
  unfold tick?
  split
  · rename_i index source rest ready
    rw [Option.map_some, network_lookInside, Network.tick?, ready]
  · rw [Option.map_map]
    exact Option.map_id'

/-- Keeping a journal changes nothing of the work. -/
theorem network_run (journal : Journal) (steps : Nat) :
    (journal.run steps).network = journal.network.run steps := by
  induction steps generalizing journal with
  | zero => rfl
  | succ steps ih =>
    have htick := network_tick? journal
    unfold run Network.run
    cases hnext : journal.tick? with
    | none =>
      rw [hnext, Option.map_none] at htick
      rw [← htick]
    | some next =>
      rw [hnext, Option.map_some] at htick
      rw [← htick]
      exact ih next

/-! ## The entries of an offer -/

theorem receiver_of_mem_occurrences {receiver : Receiver} {callbacks : List Callback} {occurrence : Occurrence}
    (h : occurrence ∈ receiver.occurrences id message callbacks) : occurrence.receiver = id := by
  unfold Receiver.occurrences at h
  rcases List.mem_cons.1 h with rfl | h
  · rfl
  · split at h
    · cases h
    · obtain ⟨callback, -, rfl⟩ := List.mem_map.1 h
      rfl

theorem entries_foldl_runCallback (journal : Journal) (id : ReceiverId) (delivery : Delivery)
    (callbacks : List Callback) :
    (callbacks.foldl (fun journal callback ↦ journal.runCallback id delivery callback) journal).entries =
      journal.entries ++ callbacks.map fun callback ↦ .ran id callback delivery := by
  induction callbacks generalizing journal with
  | nil => simp
  | cons callback rest ih =>
    rw [List.foldl_cons, ih]
    simp [runCallback, note, onNetwork]

theorem entries_offer {receiver : Receiver} (h : journal.network.receiver? id = some receiver) (message : Message) :
    (journal.offer message id).entries = journal.entries ++ receiver.occurrences id message receiver.callbacks := by
  unfold offer Receiver.occurrences
  rw [h]
  cases hread : receiver.read? message with
  | none =>
    simp only [hread]
    rfl
  | some delivery =>
    simp only [hread, deliver]
    refine (entries_foldl_runCallback _ id delivery receiver.callbacks).trans ?_
    simp [note, onNetwork]

/-! ## The entries of a receiver -/

/-- A receiver that is offered a message gets what the offer brings, and no other receiver gets anything. -/
theorem entriesOf_offer {receiver : Receiver} (h : journal.network.receiver? id = some receiver)
    (message : Message) (other : ReceiverId) :
    (journal.offer message id).entriesOf other =
      if id = other then journal.entriesOf other ++ receiver.occurrences id message receiver.callbacks
      else journal.entriesOf other := by
  have own : ∀ occurrence ∈ receiver.occurrences id message receiver.callbacks, occurrence.receiver = id :=
    fun _ ↦ receiver_of_mem_occurrences
  unfold entriesOf
  rw [entries_offer h, List.filter_append]
  split
  · rename_i same
    rw [List.filter_eq_self.2 fun occurrence hmem ↦ decide_eq_true ((own occurrence hmem).trans same)]
  · rename_i different
    have none : (receiver.occurrences id message receiver.callbacks).filter
        (fun occurrence ↦ occurrence.receiver = other) = [] := by
      refine List.filter_eq_nil_iff.2 fun occurrence hmem ↦ ?_
      simpa [own occurrence hmem] using different
    rw [none, List.append_nil]

end PubSub.Journal
