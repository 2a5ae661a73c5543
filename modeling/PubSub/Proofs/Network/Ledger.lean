import PubSub.Network.Ledger
import PubSub.Proofs.Network.Quiet
import PubSub.Proofs.Network.Steady
/-!
# The law of callbacks

Between two passes over the callbacks of a receiver the callbacks are those that were registered and are still due, in
the order of their registration: the ones that stay, and those for one message that no pass has found yet. A pass runs
what is due when it begins, in that order, and nothing else. What is registered during a pass is due from the next one
on. None of this depends on whether callbacks fail.
-/

namespace PubSub

/-- What a request makes the receiver deliver, if it makes it deliver anything. -/
def Receiver.delivery? (receiver : Receiver) : ReceiverRequest → Option Delivery
  | .deliver message => receiver.read? message
  | _ => none

namespace Network

theorem receiver?_onMedium (network : Network) (operation : Medium → Medium) (id : ReceiverId) :
    (network.onMedium operation).receiver? id = network.receiver? id := by
  obtain ⟨ready, hwake, -⟩ := wake_eq { network with medium := operation network.medium }
  rw [onMedium, hwake]
  rfl

end Network

namespace Ledger

variable {ledger before after last : Ledger} {gained further : List Callback} {origin receiver : Receiver}

/-! ## Registrations -/

/-- From one ledger to a later one, when callbacks were registered meanwhile and no pass was made. -/
structure Gains (gained : List Callback) (before after : Ledger) : Prop where
  receiver_eq : after.receiver = before.receiver
  registered : after.registered = before.registered ++ gained
  present : after.present = before.present ++ gained.zipIdx before.registered.length
  passes : after.passes = before.passes
  receiver? : after.network.receiver? before.receiver =
    (before.network.receiver? before.receiver).map fun receiver ↦
      { receiver with callbacks := receiver.callbacks ++ gained }

theorem Gains.trans (first : Gains gained before after) (second : Gains further after last) :
    Gains (gained ++ further) before last where
  receiver_eq := second.receiver_eq.trans first.receiver_eq
  registered := by rw [second.registered, first.registered, List.append_assoc]
  present := by
    rw [second.present, first.present, first.registered, List.length_append, List.zipIdx_append, List.append_assoc]
  passes := second.passes.trans first.passes
  receiver? := by
    have later := second.receiver?
    rw [first.receiver_eq] at later
    rw [later, first.receiver?, Option.map_map]
    congr 1
    funext receiver
    simp

/-- Nothing is registered while the receiver stays as it is. -/
theorem gains_nil {network : Network}
    (same : network.receiver? ledger.receiver = ledger.network.receiver? ledger.receiver) :
    Gains [] ledger { ledger with network } where
  receiver_eq := rfl
  registered := (List.append_nil _).symm
  present := (List.append_nil _).symm
  passes := rfl
  receiver? := by simp [same]

theorem gains_enter {network : Network} {callback : Callback}
    (registers : network.receiver? ledger.receiver =
      (ledger.network.receiver? ledger.receiver).map fun receiver ↦ receiver.register callback) :
    Gains [callback] ledger { ledger.enter callback with network } where
  receiver_eq := rfl
  registered := rfl
  present := rfl
  passes := rfl
  receiver? := registers

theorem gains_act (ledger : Ledger) (label : String) (delivery : Delivery) (action : Action) :
    ∃ gained, Gains gained ledger (ledger.act label delivery action).1 := by
  cases action with
  | register target once handler =>
    have registers := ledger.network.receiver?_modifyReceiver (target.getD ledger.receiver) ledger.receiver
      fun receiver ↦ receiver.register ⟨once, handler⟩
    unfold act enterAction
    split at registers
    · rename_i own
      simp only [own, if_true]
      exact ⟨[⟨once, handler⟩], gains_enter (own ▸ registers)⟩
    · rename_i other
      simp only [other, if_false]
      exact ⟨[], gains_nil registers⟩
  | publish topic payload retain => exact ⟨[], gains_nil (ledger.network.receiver?_onMedium _ _)⟩
  | silenceAll => exact ⟨[], gains_nil (ledger.network.receiver?_onMedium _ _)⟩
  | count => exact ⟨[], gains_nil rfl⟩
  | fail => exact ⟨[], gains_nil rfl⟩
  | failIf test => exact ⟨[], gains_nil rfl⟩

theorem gains_actAll (ledger : Ledger) (label : String) (delivery : Delivery) (actions : List Action) :
    ∃ gained, Gains gained ledger (ledger.actAll label delivery actions).1 := by
  induction actions generalizing ledger with
  | nil => exact ⟨[], gains_nil rfl⟩
  | cons action rest ih =>
    obtain ⟨gained, first⟩ := ledger.gains_act label delivery action
    unfold actAll
    split
    · rename_i h
      rw [h] at first
      exact ⟨gained, first⟩
    · rename_i middle h
      rw [h] at first
      obtain ⟨further, second⟩ := ih middle
      exact ⟨gained ++ further, first.trans second⟩

theorem gains_runHandler (ledger : Ledger) (delivery : Delivery) (handler : Handler) :
    ∃ gained, Gains gained ledger (ledger.runHandler delivery handler) := by
  cases handler with
  | reply ticket => exact ⟨[], gains_nil rfl⟩
  | scripted label actions =>
    let observed := ledger.onNetwork fun network ↦
      network.observe (.event (network.labelOf ledger.receiver.agent) (.ran label delivery))
    have first : Gains [] ledger observed := gains_nil rfl
    obtain ⟨gained, acted⟩ := observed.gains_actAll label delivery actions
    have done := first.trans acted
    unfold runHandler
    simp only
    split
    · rename_i h
      rw [h] at done
      exact ⟨_, done⟩
    · rename_i failed h
      rw [h] at done
      exact ⟨_, done.trans (gains_nil rfl)⟩

theorem gains_runEach (ledger : Ledger) (delivery : Delivery) (entries : List Numbered) :
    ∃ gained, Gains gained ledger (ledger.runEach delivery entries).1 := by
  induction entries generalizing ledger with
  | nil => exact ⟨[], gains_nil rfl⟩
  | cons entry rest ih =>
    obtain ⟨gained, first⟩ := ledger.gains_runHandler delivery entry.1.handler
    obtain ⟨further, second⟩ := ih (ledger.runHandler delivery entry.1.handler)
    exact ⟨gained ++ further, first.trans second⟩

theorem numbers_runEach (ledger : Ledger) (delivery : Delivery) (entries : List Numbered) :
    (ledger.runEach delivery entries).2 = entries.map Prod.snd := by
  induction entries generalizing ledger with
  | nil => rfl
  | cons entry rest ih => exact congrArg (entry.2 :: ·) (ih _)

/-! ## The network of a ledger -/

theorem network_act (ledger : Ledger) (label : String) (delivery : Delivery) (action : Action) :
    ((ledger.act label delivery action).1.network, (ledger.act label delivery action).2) =
      ledger.network.act ledger.receiver label delivery action :=
  rfl

theorem network_actAll (ledger : Ledger) (label : String) (delivery : Delivery) (actions : List Action) :
    ((ledger.actAll label delivery actions).1.network, (ledger.actAll label delivery actions).2) =
      ledger.network.actAll ledger.receiver label delivery actions := by
  induction actions generalizing ledger with
  | nil => rfl
  | cons action rest ih =>
    have first := ledger.network_act label delivery action
    obtain ⟨gained, gains⟩ := ledger.gains_act label delivery action
    unfold actAll Network.actAll
    cases h : ledger.act label delivery action with
    | mk middle fails =>
      rw [h] at first gains
      rw [← first]
      cases fails with
      | true => rfl
      | false =>
        have later := ih middle
        rw [gains.receiver_eq] at later
        exact later

theorem network_runHandler (ledger : Ledger) (delivery : Delivery) (handler : Handler) :
    (ledger.runHandler delivery handler).network = ledger.network.runHandler ledger.receiver delivery handler := by
  cases handler with
  | reply ticket => rfl
  | scripted label actions =>
    have acted := (ledger.onNetwork fun network ↦
      network.observe (.event (network.labelOf ledger.receiver.agent) (.ran label delivery))).network_actAll
        label delivery actions
    unfold runHandler Network.runHandler
    simp only
    split
    · rename_i h
      rw [h] at acted
      simp only [onNetwork] at acted
      rw [← acted]
    · rename_i h
      rw [h] at acted
      simp only [onNetwork] at acted
      rw [← acted]
      rfl

theorem network_runEach (ledger : Ledger) (delivery : Delivery) (entries : List Numbered) :
    (ledger.runEach delivery entries).1.network = (entries.map Prod.fst).foldl
      (fun network callback ↦ network.runHandler ledger.receiver delivery callback.handler) ledger.network := by
  induction entries generalizing ledger with
  | nil => rfl
  | cons entry rest ih =>
    obtain ⟨gained, first⟩ := ledger.gains_runHandler delivery entry.1.handler
    have later := ih (ledger.runHandler delivery entry.1.handler)
    rw [first.receiver_eq, network_runHandler] at later
    exact later

/-! ## What is due -/

/-- The receiver has the callbacks that are due, and every pass ran what was due when it began. -/
structure Sound (origin : Receiver) (ledger : Ledger) : Prop where
  receiver? : ∃ receiver, ledger.network.receiver? ledger.receiver = some receiver ∧
    receiver.bare = origin.bare ∧ receiver.callbacks = ledger.present.map Prod.fst
  present : ledger.present = ledger.registered.zipIdx.filter (isDue ledger.passes)
  known_le : ∀ pass ∈ ledger.passes, pass.known ≤ ledger.registered.length
  ran : ∀ (place : Nat) (pass : Pass), ledger.passes[place]? = some pass →
    pass.ran = ((ledger.registered.take pass.known).zipIdx.filter (isDue (ledger.passes.take place))).map Prod.snd

theorem isDue_iff {passes : List Pass} {entry : Numbered} :
    isDue passes entry ↔ (entry.1.once → ∀ pass ∈ passes, pass.known ≤ entry.2) := by
  cases once : entry.1.once <;> simp [isDue, once]

theorem mem_zipIdx_iff {callbacks : List Callback} {entry : Numbered} :
    entry ∈ callbacks.zipIdx ↔ callbacks[entry.2]? = some entry.1 :=
  List.mem_zipIdx_iff_getElem?

theorem sound_opened {network : Network} {id : ReceiverId} (h : network.receiver? id = some receiver) :
    (opened network id).Sound receiver where
  receiver? := ⟨receiver, h, rfl, by simp [opened, h, List.zipIdx_map_fst]⟩
  present := (List.filter_eq_self.2 fun _ _ ↦ isDue_iff.2 fun _ _ h ↦ absurd h List.not_mem_nil).symm
  known_le := by simp [opened]
  ran := by simp [opened]

/-- What is registered between passes is due. -/
theorem Sound.gains (sound : ledger.Sound origin) (gains : Gains gained ledger after) : after.Sound origin where
  receiver? := by
    obtain ⟨receiver, h, bare, callbacks⟩ := sound.receiver?
    refine ⟨{ receiver with callbacks := receiver.callbacks ++ gained }, ?_, bare, ?_⟩
    · rw [gains.receiver_eq, gains.receiver?, h, Option.map_some]
    · rw [gains.present, List.map_append, List.zipIdx_map_fst, callbacks]
  present := by
    have due : ∀ entry ∈ gained.zipIdx ledger.registered.length, isDue ledger.passes entry := by
      intro entry hentry
      refine isDue_iff.2 fun _ pass hpass ↦ ?_
      have hle := (List.mem_zipIdx (x := entry.1) (i := entry.2) hentry).1
      exact Nat.le_trans (sound.known_le pass hpass) hle
    rw [gains.present, gains.registered, gains.passes, List.zipIdx_append, List.filter_append, sound.present,
      Nat.zero_add, List.filter_eq_self.2 due]
  known_le pass hpass := by
    rw [gains.passes] at hpass
    rw [gains.registered, List.length_append]
    exact Nat.le_add_right_of_le (sound.known_le pass hpass)
  ran place pass hpass := by
    rw [gains.passes] at hpass
    rw [gains.registered, gains.passes, List.take_append_of_le_length
      (sound.known_le pass (List.mem_of_getElem? hpass))]
    exact sound.ran place pass hpass

/-! ## Deliveries -/

/-- What a delivery leaves, said of the callbacks that were registered during the pass. -/
structure Delivers (delivery : Delivery) (gained : List Callback) (before after : Ledger) : Prop where
  receiver_eq : after.receiver = before.receiver
  registered : after.registered = before.registered ++ gained
  present : after.present =
    (before.present.filter fun entry ↦ !entry.1.once) ++ gained.zipIdx before.registered.length
  passes : after.passes = before.passes ++ [⟨before.registered.length, delivery, before.present.map Prod.snd⟩]
  receiver? : after.network.receiver? before.receiver =
    (before.network.receiver? before.receiver).map fun receiver ↦
      { receiver with callbacks := (before.present.filter fun entry ↦ !entry.1.once).map Prod.fst ++ gained }

theorem delivers_deliver (ledger : Ledger) (delivery : Delivery) :
    ∃ gained, Delivers delivery gained ledger (ledger.deliver delivery) := by
  let taken := { ledger with present := [] }.onNetwork fun network ↦
    network.modifyReceiver ledger.receiver fun receiver ↦ { receiver with callbacks := [] }
  obtain ⟨gained, run⟩ := taken.gains_runEach delivery ledger.present
  have sameReceiver : (taken.runEach delivery ledger.present).1.receiver = ledger.receiver := run.receiver_eq
  have passed : (taken.runEach delivery ledger.present).1.network.receiver? ledger.receiver =
      (ledger.network.receiver? ledger.receiver).map fun receiver ↦ { receiver with callbacks := gained } := by
    have emptied : taken.network.receiver? ledger.receiver =
        (ledger.network.receiver? ledger.receiver).map fun receiver ↦ { receiver with callbacks := [] } :=
      (ledger.network.receiver?_modifyReceiver _ _ _).trans (if_pos rfl)
    refine run.receiver?.trans ?_
    rw [show taken.receiver = ledger.receiver from rfl, emptied, Option.map_map]
    rfl
  refine ⟨gained, ?_, ?_, ?_, ?_, ?_⟩
  · exact sameReceiver
  · exact run.registered
  · exact congrArg (_ ++ ·) run.present
  · unfold deliver
    rw [← taken.numbers_runEach delivery ledger.present]
    exact congrArg (· ++ _) run.passes
  · refine (Network.receiver?_modifyReceiver _ _ _ _).trans ?_
    rw [if_pos sameReceiver]
    refine (congrArg _ passed).trans ?_
    rw [Option.map_map]
    rfl

theorem network_deliver (sound : ledger.Sound origin) (delivery : Delivery)
    (h : ledger.network.receiver? ledger.receiver = some receiver) :
    (ledger.deliver delivery).network = ledger.network.deliver ledger.receiver delivery receiver.callbacks := by
  obtain ⟨found, hfound, -, callbacks⟩ := sound.receiver?
  have same : found = receiver := Option.some.inj (hfound.symm.trans h)
  let taken := { ledger with present := [] }.onNetwork fun network ↦
    network.modifyReceiver ledger.receiver fun receiver ↦ { receiver with callbacks := [] }
  obtain ⟨gained, run⟩ := taken.gains_runEach delivery ledger.present
  have kept : (ledger.present.filter fun entry ↦ !entry.1.once).map Prod.fst =
      (ledger.present.map Prod.fst).filter fun callback ↦ !callback.once := by
    rw [List.filter_map]
    rfl
  have sameReceiver : (taken.runEach delivery ledger.present).1.receiver = ledger.receiver := run.receiver_eq
  unfold deliver Network.deliver
  simp only
  rw [← same, callbacks, kept, sameReceiver, network_runEach]
  rfl

/-- A pass leaves what stays, and what was registered meanwhile. -/
theorem Sound.delivers {delivery : Delivery} (sound : ledger.Sound origin)
    (delivers : Delivers delivery gained ledger after) : after.Sound origin where
  receiver? := by
    obtain ⟨receiver, h, bare, -⟩ := sound.receiver?
    have left := delivers.receiver?
    rw [h, Option.map_some, ← delivers.receiver_eq] at left
    refine ⟨_, left, bare, ?_⟩
    rw [delivers.present, List.map_append, List.zipIdx_map_fst]
  present := by
    let pass : Pass := ⟨ledger.registered.length, delivery, ledger.present.map Prod.snd⟩
    have stays : ∀ entry ∈ ledger.registered.zipIdx,
        isDue (ledger.passes ++ [pass]) entry = (!entry.1.once && isDue ledger.passes entry) := by
      intro entry hentry
      have hlt := (List.getElem?_eq_some_iff.1 (mem_zipIdx_iff.1 hentry)).1
      cases once : entry.1.once with
      | false => simp [isDue, once]
      | true => simp [isDue, once, pass, Nat.not_le.2 hlt]
    have waits : ∀ entry ∈ gained.zipIdx ledger.registered.length, isDue (ledger.passes ++ [pass]) entry := by
      intro entry hentry
      have hle := (List.mem_zipIdx (x := entry.1) (i := entry.2) hentry).1
      refine isDue_iff.2 fun _ other hother ↦ ?_
      rcases List.mem_append.1 hother with hother | hother
      · exact Nat.le_trans (sound.known_le other hother) hle
      · rw [List.mem_singleton.1 hother]
        exact hle
    have passes : after.passes = ledger.passes ++ [pass] := delivers.passes
    calc
      after.present
        = (ledger.present.filter fun entry ↦ !entry.1.once) ++ gained.zipIdx ledger.registered.length :=
          delivers.present
      _ = ledger.registered.zipIdx.filter (isDue (ledger.passes ++ [pass])) ++
            (gained.zipIdx ledger.registered.length).filter (isDue (ledger.passes ++ [pass])) := by
          rw [List.filter_eq_self.2 waits, List.filter_congr stays, sound.present, List.filter_filter]
      _ = after.registered.zipIdx.filter (isDue after.passes) := by
          rw [passes, delivers.registered, List.zipIdx_append, List.filter_append, Nat.zero_add]
  known_le pass hpass := by
    rw [delivers.registered, List.length_append]
    rw [delivers.passes] at hpass
    rcases List.mem_append.1 hpass with hpass | hpass
    · exact Nat.le_add_right_of_le (sound.known_le pass hpass)
    · rw [List.mem_singleton.1 hpass]
      exact Nat.le_add_right _ _
  ran place pass hpass := by
    rw [delivers.passes] at hpass ⊢
    rw [delivers.registered]
    rcases Nat.lt_trichotomy place ledger.passes.length with hlt | rfl | hgt
    · rw [List.getElem?_append_left hlt] at hpass
      rw [List.take_append_of_le_length (sound.known_le pass (List.mem_of_getElem? hpass)),
        List.take_append_of_le_length (Nat.le_of_lt hlt)]
      exact sound.ran place pass hpass
    · rw [List.getElem?_concat_length, Option.some.injEq] at hpass
      rw [← hpass, List.take_left, List.take_left, ← sound.present]
    · rw [List.getElem?_eq_none (by simp; omega)] at hpass
      cases hpass

/-! ## Requests -/

/-- A message that the receiver cannot read runs nothing and removes nothing. -/
theorem offer_of_unreadable {message : Message} (sound : ledger.Sound origin)
    (unreadable : origin.read? message = none) :
    ledger.offer message = ledger.onNetwork fun network ↦ network.observe .failure := by
  obtain ⟨receiver, h, bare, -⟩ := sound.receiver?
  have hread : receiver.read? message = none := by
    rw [← receiver.read?_bare, bare, origin.read?_bare, unreadable]
  unfold offer
  rw [h]
  simp only [hread]

theorem offer_of_readable {message : Message} {delivery : Delivery} (sound : ledger.Sound origin)
    (readable : origin.read? message = some delivery) : ledger.offer message = ledger.deliver delivery := by
  obtain ⟨receiver, h, bare, -⟩ := sound.receiver?
  have hread : receiver.read? message = some delivery := by
    rw [← receiver.read?_bare, bare, origin.read?_bare, readable]
  unfold offer
  rw [h]
  simp only [hread]

/-- What one request comes to: the work is the network's own, and a pass is made exactly for a message that the
receiver can read. -/
theorem Sound.serve (sound : ledger.Sound origin) (request : ReceiverRequest) :
    (ledger.serve request).Sound origin ∧
    (ledger.serve request).receiver = ledger.receiver ∧
    (ledger.serve request).network = ledger.network.serve ledger.receiver request ∧
    (ledger.serve request).passes.map Pass.delivery =
      ledger.passes.map Pass.delivery ++ (origin.delivery? request).toList := by
  cases request with
  | register callback =>
    have gains : Gains [callback] ledger (ledger.serve (.register callback)) :=
      gains_enter ((ledger.network.receiver?_modifyReceiver _ _ _).trans (if_pos rfl))
    exact ⟨sound.gains gains, rfl, rfl, (List.append_nil _).symm⟩
  | next =>
    have gains : Gains [⟨true, .reply ledger.network.replies.length⟩] ledger (ledger.serve .next) :=
      gains_enter ((ledger.network.receiver?_modifyReceiver _ _ _).trans (if_pos rfl))
    exact ⟨sound.gains gains, rfl, rfl, (List.append_nil _).symm⟩
  | deliver message =>
    obtain ⟨receiver, h, bare, -⟩ := sound.receiver?
    have hread : receiver.read? message = origin.read? message := by
      rw [← receiver.read?_bare, bare, origin.read?_bare]
    unfold Ledger.serve Network.serve Network.offer Receiver.delivery?
    rw [h]
    simp only [hread]
    cases hdelivery : origin.read? message with
    | none =>
      rw [offer_of_unreadable sound hdelivery]
      exact ⟨sound.gains (gains_nil rfl), rfl, rfl, (List.append_nil _).symm⟩
    | some delivery =>
      obtain ⟨gained, delivers⟩ := ledger.delivers_deliver delivery
      rw [offer_of_readable sound hdelivery]
      refine ⟨sound.delivers delivers, delivers.receiver_eq, network_deliver sound delivery h, ?_⟩
      rw [delivers.passes, List.map_append]
      rfl

/-- The same of a run. -/
theorem Sound.serveAll (sound : ledger.Sound origin) (requests : List ReceiverRequest) :
    (ledger.serveAll requests).Sound origin ∧
    (ledger.serveAll requests).receiver = ledger.receiver ∧
    (ledger.serveAll requests).network = ledger.network.serveAll ledger.receiver requests ∧
    (ledger.serveAll requests).passes.map Pass.delivery =
      ledger.passes.map Pass.delivery ++ requests.filterMap origin.delivery? := by
  induction requests generalizing ledger with
  | nil => exact ⟨sound, rfl, rfl, (List.append_nil _).symm⟩
  | cons request rest ih =>
    obtain ⟨first, receiver_eq, network, passes⟩ := sound.serve request
    obtain ⟨later, receiver_eq', network', passes'⟩ := ih first
    refine ⟨later, receiver_eq'.trans receiver_eq, ?_, ?_⟩
    · refine network'.trans ?_
      rw [receiver_eq, network]
      rfl
    · refine passes'.trans ?_
      rw [passes, List.append_assoc]
      congr 1
      cases h : origin.delivery? request <;> simp [h]

/-! ## The law -/

/-- Callbacks run in the order of their registration, none of them twice in a pass. -/
theorem Sound.pairwise_ran (sound : ledger.Sound origin) {place : Nat} {pass : Pass}
    (h : ledger.passes[place]? = some pass) : pass.ran.Pairwise (· < ·) := by
  have ordered : ((ledger.registered.take pass.known).zipIdx.map Prod.snd).Pairwise (· < ·) := by
    rw [List.zipIdx_map_snd]
    exact List.pairwise_lt_range'
  rw [sound.ran place pass h]
  exact ordered.sublist (List.filter_sublist.map Prod.snd)

/-- The callbacks that run in a pass are those registered before it that stay or that no earlier pass has found. -/
theorem Sound.mem_ran_iff (sound : ledger.Sound origin) {place number : Nat} {pass : Pass}
    (h : ledger.passes[place]? = some pass) :
    number ∈ pass.ran ↔ ∃ callback, ledger.registered[number]? = some callback ∧ number < pass.known ∧
      (callback.once → ∀ earlier ∈ ledger.passes.take place, earlier.known ≤ number) := by
  rw [sound.ran place pass h]
  simp only [List.mem_map, List.mem_filter, mem_zipIdx_iff, isDue_iff]
  constructor
  · rintro ⟨⟨callback, _⟩, ⟨hplace, due⟩, rfl⟩
    rw [List.getElem?_take, Option.ite_none_right_eq_some] at hplace
    exact ⟨callback, hplace.2, hplace.1, due⟩
  · intro ⟨callback, hplace, hlt, due⟩
    exact ⟨(callback, number), ⟨by rw [List.getElem?_take, if_pos hlt, hplace], due⟩, rfl⟩

/-- A callback for one message has run as soon as a pass has begun since it was registered. -/
theorem Sound.hasRun_iff (sound : ledger.Sound origin) {number : Nat} {callback : Callback}
    (h : ledger.registered[number]? = some callback) (once : callback.once) :
    ledger.hasRun number ↔ ¬isDue ledger.passes (callback, number) := by
  have due : isDue ledger.passes (callback, number) ↔ ∀ pass ∈ ledger.passes, pass.known ≤ number := by
    rw [isDue_iff]
    exact ⟨fun h ↦ h once, fun h _ ↦ h⟩
  have ran : ledger.hasRun number ↔ ∃ pass ∈ ledger.passes, number ∈ pass.ran := by
    simp [hasRun]
  rw [due, ran]
  constructor
  · intro ⟨pass, hpass, hran⟩ waits
    obtain ⟨place, hplace⟩ := List.getElem?_of_mem hpass
    obtain ⟨_, _, hlt, -⟩ := (sound.mem_ran_iff hplace).1 hran
    exact Nat.not_le.2 hlt (waits pass hpass)
  · intro found
    cases hfirst : ledger.passes.find? fun pass ↦ number < pass.known with
    | none =>
      refine absurd (fun pass hpass ↦ ?_) found
      simpa using List.find?_eq_none.1 hfirst pass hpass
    | some pass =>
      -- The first of the passes that have begun since is the one that runs it.
      obtain ⟨hlt, earlier, later, hpasses, hearlier⟩ := List.find?_eq_some_iff_append.1 hfirst
      have hplace : ledger.passes[earlier.length]? = some pass := by simp [hpasses]
      have htake : ledger.passes.take earlier.length = earlier := by simp [hpasses]
      refine ⟨pass, List.mem_of_getElem? hplace, (sound.mem_ran_iff hplace).2 ⟨callback, h, ?_, fun _ ↦ ?_⟩⟩
      · simpa using hlt
      · rw [htake]
        simpa using hearlier

/-- Between passes the receiver has the callbacks that stay and those for one message that have not run. -/
theorem Sound.present_eq (sound : ledger.Sound origin) :
    ledger.present = ledger.registered.zipIdx.filter fun entry ↦ !entry.1.once || !ledger.hasRun entry.2 := by
  rw [sound.present]
  apply List.filter_congr
  intro entry hentry
  have hplace := mem_zipIdx_iff.1 hentry
  cases once : entry.1.once with
  | false => simp [isDue, once]
  | true =>
    have := sound.hasRun_iff hplace once
    cases hrun : ledger.hasRun entry.2 <;> simp_all

theorem length_filter_stays_or_waits (entries : List Numbered) (waits : Numbered → Bool) :
    (entries.filter fun entry ↦ !entry.1.once || waits entry).length =
      entries.countP (fun entry ↦ !entry.1.once) + entries.countP fun entry ↦ entry.1.once && waits entry := by
  induction entries with
  | nil => rfl
  | cons entry rest ih =>
    rw [← List.countP_eq_length_filter] at ih ⊢
    simp only [List.countP_cons, ih]
    cases entry.1.once <;> cases waits entry <;> simp <;> omega

theorem countP_zipIdx (callbacks : List Callback) :
    callbacks.zipIdx.countP (fun entry ↦ !entry.1.once) = callbacks.countP fun callback ↦ !callback.once := by
  have h := List.countP_map (f := Prod.fst) (p := fun callback : Callback ↦ !callback.once) (l := callbacks.zipIdx)
  rw [List.zipIdx_map_fst] at h
  exact h.symm

/-- Whatever is asked of a receiver, and whichever of its callbacks fail: a pass is made for each message that the
receiver can read, a message that it cannot read does nothing, and in a pass the callbacks run, in the order of their
registration and once each, that were registered before it began, those for one message only if no pass had begun
since. In the end the receiver has the callbacks that stay and those for one message that have not run. -/
theorem callbacks_run_when_due {network : Network} {id : ReceiverId} {receiver : Receiver}
    (h : network.receiver? id = some receiver) (requests : List ReceiverRequest) :
    let ledger := (opened network id).serveAll requests
    ledger.network = network.serveAll id requests ∧
    ledger.passes.map Pass.delivery = requests.filterMap receiver.delivery? ∧
    (∀ message, receiver.read? message = none →
      ledger.offer message = ledger.onNetwork fun network ↦ network.observe .failure) ∧
    (∀ (place : Nat) (pass : Pass), ledger.passes[place]? = some pass →
      pass.ran.Pairwise (· < ·) ∧
      ∀ number, number ∈ pass.ran ↔ ∃ callback, ledger.registered[number]? = some callback ∧ number < pass.known ∧
        (callback.once → ∀ earlier ∈ ledger.passes.take place, earlier.known ≤ number)) ∧
    ∃ final, ledger.network.receiver? id = some final ∧
      final.callbacks = (ledger.registered.zipIdx.filter fun entry ↦
        !entry.1.once || !ledger.hasRun entry.2).map Prod.fst ∧
      final.callbacks.length = ledger.registered.countP (fun callback ↦ !callback.once) +
        ledger.registered.zipIdx.countP fun entry ↦ entry.1.once && !ledger.hasRun entry.2 := by
  intro ledger
  obtain ⟨sound, receiver_eq, work, passes⟩ := (sound_opened h).serveAll requests
  obtain ⟨final, hfinal, -, callbacks⟩ := sound.receiver?
  have left : final.callbacks = (ledger.registered.zipIdx.filter fun entry ↦
      !entry.1.once || !ledger.hasRun entry.2).map Prod.fst := by
    rw [callbacks, sound.present_eq]
  refine ⟨work, passes, fun _ ↦ offer_of_unreadable sound, ?_, final, ?_, left, ?_⟩
  · exact fun _ _ hpass ↦ ⟨sound.pairwise_ran hpass, fun _ ↦ sound.mem_ran_iff hpass⟩
  · rw [← hfinal, receiver_eq]
    rfl
  · rw [left, List.length_map, length_filter_stays_or_waits, countP_zipIdx]

/-- A callback that stays registers another one each time and then fails, somebody waits for the next message, and one
of three messages is no number. -/
theorem callbacks_run_when_due_nested : ∃ (network : Network) (receiver : Receiver),
    network.receiver? ⟨0, 0⟩ = some receiver ∧
    let requests : List ReceiverRequest := [
      .register ⟨false, .scripted "stays" [.register none true (.scripted "late" []), .fail]⟩, .next,
      .deliver ⟨"car/speed/1", [7]⟩, .deliver ⟨"car/speed/1", [0xc1]⟩, .deliver ⟨"car/speed/1", []⟩]
    ((opened network ⟨0, 0⟩).serveAll requests).passes.map Pass.ran = [[0, 1], [0, 2]] ∧
    ∃ final, (network.serveAll ⟨0, 0⟩ requests).receiver? ⟨0, 0⟩ = some final ∧ final.callbacks.length = 2 := by
  let receiver : Receiver :=
    ⟨⟨"speed", "+/speed/#", .receiver⟩, .u32, ⟨"+/speed/#", .channel .any "speed" .any⟩, .atLeastOnce, false, []⟩
  let agent : Agent :=
    ⟨"one", ⟨"car", none⟩, .plain, .tcp, .generated 0, ⟨.atLeastOnce, false⟩, false, .initial, [], [receiver], none,
      true⟩
  let network : Network := { Network.fresh with agents := [agent] }
  have h : network.receiver? ⟨0, 0⟩ = some receiver := rfl
  refine ⟨network, receiver, h, ?_⟩
  intro requests
  obtain ⟨work, -, -, -, final, hfinal, -, count⟩ := callbacks_run_when_due h requests
  refine ⟨by decide +kernel, final, work ▸ hfinal, count.trans ?_⟩
  decide +kernel

end Ledger

end PubSub
