import PubSub.Proofs.Isolation.Session
/-!
# A party makes no difference to others

Agents that share a broker and nothing else do not depend on each other. When the steps of a party that never publishes
are left out, every other step comes to the same, and so do all the other agents.
-/

namespace PubSub

/-! ## What is still to come -/

namespace Session

variable (session : Session) (request : Request)

theorem agents_le_handle : session.network.extent.agents ≤ (session.handle request).1.network.extent.agents := by
  refine Nat.le_of_not_lt fun less ↦ ?_
  obtain ⟨later, hlater, -⟩ := (conducts_handle session request).kept _ _ (List.getElem?_eq_getElem less)
  exact Nat.lt_irrefl _ (List.getElem?_eq_some_iff.1 hlater).1

theorem connections_le_handle :
    session.network.extent.connections ≤ (session.handle request).1.network.extent.connections :=
  (Proceeds.handle session request).changes.flows.length_le

theorem waits_le_handle : session.network.extent.waits ≤ (session.handle request).1.network.extent.waits :=
  (hushed_handle session request).replies.length_le

end Session

namespace Party

variable {party : Party} {choice : Choice} {count : Extent → Nat} {session : Session} {step : Step} {steps : List Step}
  {index : Nat}

theorem marks_cons : party.marks count session (step :: steps) index =
    if index < count (session.cleared.handle step.request).1.network.extent then !party.owns step.request
    else party.marks count (session.step step).1 steps index :=
  rfl

/-- A choice is right about all that is not yet there, if it tells who makes it in the steps to come. -/
def Foresees (party : Party) (choice : Choice) (count : Extent → Nat) (session : Session) (steps : List Step) : Prop :=
  ∀ index, count session.network.extent ≤ index → choice index = party.marks count session steps index

namespace Foresees

theorem eq_of_brought (foresees : party.Foresees choice count session (step :: steps))
    (new : count session.network.extent ≤ index)
    (brought : index < count (session.cleared.handle step.request).1.network.extent) :
    choice index = !party.owns step.request := by
  rw [foresees index new, marks_cons, if_pos brought]

theorem rest (foresees : party.Foresees choice count session (step :: steps))
    (grows : count session.network.extent ≤ count (session.cleared.handle step.request).1.network.extent)
    (same : (session.step step).1.network.extent = (session.cleared.handle step.request).1.network.extent) :
    party.Foresees choice count (session.step step).1 steps := by
  intro index new
  rw [same] at new
  rw [foresees index (Nat.le_trans grows new), marks_cons, if_neg (Nat.not_lt.2 new)]

end Foresees

end Party

namespace Session

variable {party : Party} {selection : Selection} {session rest : Session} {step : Step}
  {steps earlier later : List Step}

/-- A session and the one without the party, with the steps that are still to come. -/
structure Parts (party : Party) (selection : Selection) (session rest : Session) (steps : List Step) : Prop where
  reduces : session.Reduces party selection rest
  steady : rest.Steady
  idle : session.network.ready = []
  sequential : session.Sequential steps
  respects : ∀ step ∈ steps, party.Respects selection step.request
  agents : party.Foresees selection.agents Extent.agents session steps
  connections : party.Foresees selection.connections Extent.connections session steps
  waits : party.Foresees selection.waits Extent.waits session steps

theorem parts_fresh (sequential : fresh.Sequential steps)
    (respects : ∀ step ∈ steps, party.Respects (party.selection steps) step.request) :
    fresh.Parts party (party.selection steps) fresh steps where
  reduces := reduces_fresh party _
  steady := steady_fresh
  idle := rfl
  sequential
  respects
  agents _ _ := rfl
  connections _ _ := rfl
  waits _ _ := rfl

namespace Parts

/-- What a step makes is on the side of the step. -/
theorem brings (parts : session.Parts party selection rest (step :: steps)) :
    Brings selection (!party.owns step.request) session.cleared (session.cleared.handle step.request).1 where
  agents _ new brought := parts.agents.eq_of_brought new brought
  connections _ new brought := parts.connections.eq_of_brought new brought
  waits _ new brought := parts.waits.eq_of_brought new brought

theorem next (parts : session.Parts party selection rest (step :: steps)) {rest' : Session}
    (reduces : (session.step step).1.Reduces party selection rest') (steady : rest'.Steady) :
    (session.step step).1.Parts party selection rest' steps := by
  obtain ⟨settles, idle, sequential⟩ := parts.sequential
  have respects := parts.respects step List.mem_cons_self
  have same := parts.reduces.extent_step parts.steady respects parts.brings settles
  have agents := agents_le_handle session.cleared step.request
  have connections := connections_le_handle session.cleared step.request
  have waits := waits_le_handle session.cleared step.request
  exact {
    reduces
    steady
    idle
    sequential
    respects := fun step hstep ↦ parts.respects step (List.mem_cons_of_mem _ hstep)
    agents := parts.agents.rest agents same
    connections := parts.connections.rest connections same
    waits := parts.waits.rest waits same }

/-- One step keeps the two sessions apart by the party only. -/
theorem after_step (parts : session.Parts party selection rest (step :: steps)) :
    (session.step step).1.Parts party selection (rest.after (party.others selection [step])) steps := by
  have respects := parts.respects step List.mem_cons_self
  obtain ⟨settles, settled, -⟩ := parts.sequential
  cases side : party.owns step.request with
  | true =>
    have same : party.others selection [step] = [] := by simp [Party.others, side]
    rw [same]
    exact parts.next (parts.reduces.step_left_out parts.steady respects parts.brings settles settled side parts.idle).1
      parts.steady
  | false =>
    have same : party.others selection [step] = [step.reduced selection] := by simp [Party.others, side]
    rw [same]
    exact parts.next (parts.reduces.step_kept parts.steady respects parts.brings settles settled side).1
      (parts.steady.step _)

theorem after (parts : session.Parts party selection rest (earlier ++ later)) :
    (session.after earlier).Parts party selection (rest.after (party.others selection earlier)) later := by
  induction earlier generalizing session rest with
  | nil => exact parts
  | cons step earlier ih =>
    have apart : party.others selection (step :: earlier) =
        party.others selection [step] ++ party.others selection earlier := by
      rw [Party.others, Party.others, Party.others, ← List.map_append, ← List.filter_append]
      rfl
    have joined : rest.after (party.others selection [step] ++ party.others selection earlier) =
        (rest.after (party.others selection [step])).after (party.others selection earlier) := List.foldl_append
    rw [apart, joined]
    exact ih parts.after_step

theorem unaffected (parts : session.Parts party selection rest (step :: later)) :
    Unaffected party selection step session rest where
  agents := parts.after_step.reduces.toMatches
  answer kept shows raw := by
    have respects := parts.respects step List.mem_cons_self
    have brings := parts.brings
    rw [kept] at brings
    exact (parts.reduces.cleared.handle kept respects brings shows raw).answer
  shown kept shows := (parts.reduces.cleared.handle_of_showsBroker kept shows).2
  happenings kept :=
    have ⟨settles, settled, _⟩ := parts.sequential
    (parts.reduces.step_kept parts.steady (parts.respects step List.mem_cons_self) parts.brings settles settled kept).2
  quiet left :=
    have ⟨settles, settled, _⟩ := parts.sequential
    (parts.reduces.step_left_out parts.steady (parts.respects step List.mem_cons_self) parts.brings settles settled left
      parts.idle).2

end Parts

/-- A party that never publishes makes no difference to the other agents of a session: without its steps, each other
step has the same answer and brings the same to receivers, and leaves the other agents the same. -/
theorem unaffected_by_party (party : Party) {steps : List Step} (sequential : fresh.Sequential steps)
    (respects : ∀ step ∈ steps, party.Respects (party.selection steps) step.request)
    (split : steps = earlier ++ step :: later) :
    Unaffected party (party.selection steps) step (fresh.after earlier)
      (fresh.after (party.others (party.selection steps) earlier)) := by
  have parts := parts_fresh sequential respects
  have parts : fresh.Parts party (party.selection steps) fresh (earlier ++ step :: later) := split ▸ parts
  exact parts.after.unaffected

/-- The party is first on the broker and has a callback that fails. Without it, the receiver of the other agent gets
the same at another place. -/
theorem unaffected_by_party_failing :
    let step (request : Request) : Step := ⟨request, none, true, false⟩
    let build (label : String) : Step := step (.build ⟨label, label, none, none, none, .none, some true, none, .plain⟩)
    let channel (agent label : String) : ChannelRequest := ⟨agent, label, .u32, "speed", .none, none⟩
    let register (label : String) (actions : List Action) : Step :=
      step (.register label ⟨false, .scripted label actions⟩)
    let earlier : List Step := [build "other", build "agent", step (.createReceiver (channel "other" "failing")),
      step (.createReceiver (channel "agent" "receiver")), step (.createSender (channel "agent" "sender")),
      register "failing" [.fail], register "receiver" [.count]]
    let sent : Step := step (.sendRaw "sender" [7])
    let party : Party := ⟨(· == "other"), fun _ ↦ false, (· == "failing"), fun _ ↦ false⟩
    let selection := party.selection (earlier ++ [sent, step (.disconnect "other")])
    ((fresh.after earlier).happenings sent).map Occurrence.receiver = [⟨0, 0⟩, ⟨0, 0⟩, ⟨1, 0⟩, ⟨1, 0⟩] ∧
    ((fresh.after (party.others selection earlier)).happenings (sent.reduced selection)).map Occurrence.receiver =
      [⟨0, 0⟩, ⟨0, 0⟩] := by
  intro step build channel register earlier sent party selection
  have sequential : fresh.Sequential (earlier ++ [sent, step (.disconnect "other")]) := by decide +kernel
  have respects : ∀ next ∈ earlier ++ [sent, step (.disconnect "other")], party.Respects selection next.request := by
    simp [earlier, sent, step, build, channel, register, party, Party.Respects, Callback.Belongs, Handler.Belongs,
      Action.AllBelong, Action.Belongs]
  have unaffected := unaffected_by_party party sequential respects rfl
  refine ⟨by decide +kernel, ?_⟩
  rw [unaffected.happenings rfl]
  decide +kernel

/-- There are two ways in which others can tell of a party that never publishes: the text of an agent counts all the
connections of the broker, and a callback of the party can cut them. -/
theorem affected_by_party :
    let step (request : Request) : Step := ⟨request, none, true, false⟩
    let build (label : String) : Step := step (.build ⟨label, label, none, none, none, .none, some true, none, .plain⟩)
    let counted : List Step := [build "agent", build "other"]
    let cut : List Step := [build "agent", build "other",
      step (.createReceiver ⟨"other", "receiver", .u32, "speed", .none, none⟩),
      step (.register "receiver" ⟨false, .scripted "receiver" [.silenceAll]⟩)]
    let published : Step := step (.publish "agent/speed" (.ok [7]) false 1)
    let inspected : Step := step (.inspectAgent "agent")
    fresh.Sequential (counted ++ [inspected]) ∧ fresh.Sequential (cut ++ [published]) ∧
    (∃ text text', ((fresh.after counted).step inspected).2.answer = .ok (.text text) ∧
      ((fresh.after [build "agent"]).step inspected).2.answer = .ok (.text text') ∧ text ≠ text') ∧
    (fresh.after (cut ++ [published])).status "agent" = some (.connected, false) ∧
    (fresh.after [build "agent", published]).status "agent" = some (.connected, true) := by
  intro step build counted cut published inspected
  refine ⟨by decide +kernel, by decide +kernel, ⟨_, _, rfl, rfl, ?_⟩, by decide +kernel, by decide +kernel⟩
  decide +kernel

end Session

end PubSub
