import PubSub.Proofs.Isolation.Extent
import PubSub.Proofs.Isolation.Handling
import PubSub.Proofs.Isolation.Journal
import PubSub.Proofs.Session.Conduct
import PubSub.Proofs.Session.Silence
/-!
# Sessions while a party is left out

Step by step, the other agents of a session do what they do when the steps of a party are left out: they get the same
answers and the same messages, and they are the same but for the numbers of connections and waits. The agents,
connections and waits that a request makes are on the side of the request.
-/

namespace PubSub

/-- What happens to receivers while the background work of a step is done. -/
def Session.happenings (session : Session) (step : Step) : List Occurrence :=
  ((Journal.mk (session.cleared.handle step.request).1.network []).run Session.settleLimit).entries

/-- Steps come one after the other: the background work of each is done before the next. -/
def Session.Sequential (session : Session) : List Step → Prop
  | [] => True
  | step :: rest =>
    step.settles ∧ (session.step step).1.network.ready = [] ∧ (session.step step).1.Sequential rest

instance Session.decidableSequential (session : Session) : (steps : List Step) → Decidable (session.Sequential steps)
  | [] => inferInstanceAs (Decidable True)
  | step :: rest =>
    have := decidableSequential (session.step step).1 rest
    inferInstanceAs (Decidable (_ ∧ _ ∧ _))

def Step.reduced (selection : Selection) (step : Step) : Step :=
  { step with request := step.request.reduced selection }

namespace Party

variable {party : Party}

/-- Which of the things that are counted are made by requests of others, among those made in the steps. -/
def marks (party : Party) (count : Extent → Nat) (session : Session) : List Step → Choice
  | [] => fun _ ↦ true
  | step :: rest => fun index ↦
    if index < count (session.cleared.handle step.request).1.network.extent then !party.owns step.request
    else party.marks count (session.step step).1 rest index

/-- What is kept of the agents, connections and waits that steps make in a fresh session. -/
def selection (party : Party) (steps : List Step) : Selection where
  agents := party.marks Extent.agents .fresh steps
  connections := party.marks Extent.connections .fresh steps
  waits := party.marks Extent.waits .fresh steps

/-- The steps without those of the party. -/
def others (party : Party) (selection : Selection) (steps : List Step) : List Step :=
  (steps.filter fun step ↦ !party.owns step.request).map (Step.reduced selection)

end Party

namespace Session

/-- The other agents are the same in a session and in one without the party, and have the same labels. They are as
connected as there. -/
structure Matches (party : Party) (selection : Selection) (session rest : Session) : Prop where
  agents : rest.network.agents = (selection.agents.keep session.network.agents).map (Agent.reduced selection)
  connected (index : Nat) (agent : Agent) (h : session.network.agents[index]? = some agent)
    (kept : selection.agents index) :
    (agent.reduced selection).isConnected rest.network.medium = agent.isConnected session.network.medium
  labels (label : String) (kept : party.agents label = false) :
    rest.agents.get? label = (session.agents.get? label).map selection.agents.place
  status (label : String) (kept : party.agents label = false) : rest.status label = session.status label

/-- What a step comes to in a session and in one without the party, for the other agents. -/
structure Unaffected (party : Party) (selection : Selection) (step : Step) (session rest : Session) : Prop where
  agents : (session.step step).1.Matches party selection (rest.after (party.others selection [step]))
  /-- The request is answered the same. -/
  answer (kept : party.owns step.request = false) (shows : step.request.showsBroker = false)
    (raw : step.request.showsConnection = false) :
    (rest.step (step.reduced selection)).2.answer =
      reducedResult selection (Answer.reduced selection) (session.step step).2.answer
  /-- An answer that shows the broker shows it without the connections of the party. -/
  shown (kept : party.owns step.request = false) (shows : step.request.showsBroker) :
    (rest.step (step.reduced selection)).2.answer = ((session.shown selection).step step).2.answer
  /-- The same is brought to receivers. -/
  happenings (kept : party.owns step.request = false) : rest.happenings (step.reduced selection) =
    (session.happenings step).filterMap (Occurrence.reduced? selection)
  /-- Nothing is brought to receivers in a step that is left out. -/
  quiet (left : party.owns step.request) : (session.happenings step).filterMap (Occurrence.reduced? selection) = []

variable {party : Party} {selection : Selection} {session rest : Session} {step : Step} {steps : List Step}

namespace Reduces

theorem toMatches (reduces : session.Reduces party selection rest) : session.Matches party selection rest where
  agents := reduces.network.agents
  connected index agent h kept := Agent.isConnected_reduced (kept ▸ reduces.network.belongs index agent h)
    reduces.network.broker
  labels label kept := reduces.agents.get? kept
  status label kept := by
    unfold Session.status
    rw [reduces.findAgent kept]
    cases h : session.findAgent label with
    | error refusal => rfl
    | ok found =>
      have belongs := (reduces.belongs_of_findAgent true kept h).2
      have connected := Agent.isConnected_reduced belongs reduces.network.broker
      simp only [reducedResult, Except.map, Except.mapError, connected]
      rfl

theorem cleared (reduces : session.Reduces party selection rest) :
    session.cleared.Reduces party selection rest.cleared :=
  { reduces with network := { reduces.network with } }

theorem cleared_left_out (reduces : session.Reduces party selection rest) :
    session.cleared.Reduces party selection rest :=
  { reduces with network := { reduces.network with } }

/-- Background work that comes to its end brings the same to the others. -/
theorem settle (reduces : session.Reduces party selection rest) (steady : rest.Steady)
    (settled : (session.network.run settleLimit).ready = []) :
    (session.onNetwork (Network.run settleLimit)).Reduces party selection
        (rest.onNetwork (Network.run settleLimit)) ∧
      ((Journal.mk rest.network []).run settleLimit).entries =
        ((Journal.mk session.network []).run settleLimit).entries.filterMap (Occurrence.reduced? selection) := by
  have start : Journal.Reduces selection ⟨session.network, []⟩ ⟨rest.network, []⟩ := ⟨reduces.network, rfl⟩
  have settled' : ((Journal.mk session.network []).run settleLimit).network.ready = [] := by
    rw [Journal.network_run]
    exact settled
  have ran := start.run steady.network settled'
  have network := ran.network
  rw [Journal.network_run, Journal.network_run] at network
  exact ⟨{ reduces with network }, ran.entries⟩

end Reduces

theorem step_eq (settles : step.settles) : session.step step =
    ((session.cleared.handle step.request).1.onNetwork (Network.run settleLimit), (session.step step).2) := by
  unfold Session.step
  simp only [settles, if_true]
  rfl

/-! ## Single steps -/

namespace Reduces

variable (reduces : session.Reduces party selection rest) (steady : rest.Steady)
  (respects : party.Respects selection step.request)
  (brings : Brings selection (!party.owns step.request) session.cleared (session.cleared.handle step.request).1)

include reduces steady respects brings

theorem handled_left_out (left : party.owns step.request) :
    (session.cleared.handle step.request).1.Reduces party selection rest := by
  rw [left] at brings
  exact reduces.cleared_left_out.handle_left_out left respects steady.network.awake brings

omit steady in
theorem handled (kept : party.owns step.request = false) :
    (session.cleared.handle step.request).1.Reduces party selection
      (rest.cleared.handle (step.reduced selection).request).1 := by
  rw [kept] at brings
  cases shows : step.request.showsBroker with
  | true => exact (reduces.cleared.handle_of_showsBroker kept shows).1
  | false =>
    cases raw : step.request.showsConnection with
    | true => exact reduces.cleared.handle_of_showsConnection raw brings
    | false => exact (reduces.cleared.handle kept respects brings shows raw).session

theorem extent_step (settles : step.settles) :
    (session.step step).1.network.extent = (session.cleared.handle step.request).1.network.extent := by
  have alone : (session.cleared.handle step.request).1.network.attempts = [] := by
    cases side : party.owns step.request with
    | true => exact (reduces.handled_left_out steady respects brings side).network.alone.1
    | false => exact (reduces.handled respects brings side).network.alone.1
  rw [step_eq settles]
  exact Network.extent_run alone settleLimit

variable (settles : step.settles) (settled : (session.step step).1.network.ready = [])

include settles settled

theorem step_left_out (left : party.owns step.request) (idle : session.network.ready = []) :
    (session.step step).1.Reduces party selection rest ∧
      (session.happenings step).filterMap (Occurrence.reduced? selection) = [] := by
  rw [step_eq settles] at settled ⊢
  obtain ⟨ran, entries⟩ := (reduces.handled_left_out steady respects brings left).settle steady settled
  have still : rest.network.ready = [] := by
    rw [reduces.network.ready, idle]
    rfl
  have same : rest.onNetwork (Network.run settleLimit) = rest := by
    rw [Session.onNetwork, Network.run_of_tick?_eq_none (Network.tick?_eq_none_iff.2 still)]
  have nothing : (Journal.mk rest.network []).run settleLimit = ⟨rest.network, []⟩ :=
    Journal.run_of_settled still _
  rw [same] at ran
  rw [nothing] at entries
  exact ⟨ran, entries.symm⟩

theorem step_kept (kept : party.owns step.request = false) :
    (session.step step).1.Reduces party selection (rest.step (step.reduced selection)).1 ∧
      rest.happenings (step.reduced selection) =
        (session.happenings step).filterMap (Occurrence.reduced? selection) := by
  have settles' : (step.reduced selection).settles := settles
  rw [step_eq settles] at settled ⊢
  rw [step_eq settles']
  exact (reduces.handled respects brings kept).settle (steady.cleared.handle _) settled

end Reduces

end Session

end PubSub
