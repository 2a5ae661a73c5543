import PubSub.Proofs.Network.Journal
import PubSub.Proofs.Payload.RoundTrip
import PubSub.Session.Basic
/-!
# A payload arrives as it was sent

A sender publishes the written form of a value, and a receiver that expects the kind reads the value from it. So each
callback of the receiver runs on the value itself, also where the value is an option that holds nothing. An empty
message, which has no payload, is never what a sender makes of a value.
-/

namespace PubSub

open MessagePack

variable {kind : PayloadKind} {value : kind.Value} {bytes : Bytes}

namespace PayloadKind

theorem encode_of_isFixed (fixed : kind.isFixed) (value : kind.Value) :
    kind.encode value = .ok (pack value).encode := by
  cases kind with
  | dynamic => cases fixed
  | unencodable => cases fixed
  | _ => rfl

theorem decode?_encode (fixed : kind.isFixed) (short : kind.IsShort value) (rest : Bytes) :
    kind.decode? ((pack value).encode ++ rest) = some value := by
  have returns := returns fixed short
  exact (bind_of_eq_some (Item.decode?_encode returns.fits rest) _).trans returns.unpack

/-- Nothing is read where nothing was written. -/
theorem decode?_nil (kind : PayloadKind) : kind.decode? [] = none :=
  rfl

end PayloadKind

theorem Receiver.read?_of_decode? {receiver : Receiver} (same : receiver.kind = kind)
    (read : kind.decode? bytes = some value) (topic : String) :
    receiver.read? ⟨topic, bytes⟩ = some ⟨topic, some ⟨kind, value⟩⟩ := by
  have solid : bytes.isEmpty = false := by
    cases bytes with
    | nil =>
      rw [PayloadKind.decode?_nil] at read
      cases read
    | cons byte rest => rfl
  subst same
  unfold read?
  rw [solid, if_neg Bool.false_ne_true, read]
  rfl

/-- A sender publishes what its kind writes of the value. -/
theorem Session.handle_send {session : Session} {label : String} {agent : Agent} {sender : Sender}
    {values : (kind : PayloadKind) → kind.Value} (found : session.findSender label = .ok (agent, sender))
    (written : sender.kind.encode (values sender.kind) = .ok bytes) :
    session.handle (.send label values) =
      session.publishAs agent ⟨sender.definition.topic, bytes⟩ sender.options := by
  simp only [handle, found, bind, Except.bind, failing, written, Except.mapError]
  rfl

/-- The written form of a value is not empty, and is read as the value whatever follows it. It is what a sender of the
kind publishes, and if a receiver of the kind is offered it, each callback of the receiver runs on the value. -/
theorem payload_arrives_as_sent (fixed : kind.isFixed) (short : kind.IsShort value) :
    ∃ bytes, kind.encode value = .ok bytes ∧ bytes ≠ [] ∧ (∀ rest, kind.decode? (bytes ++ rest) = some value) ∧
      (∀ (session : Session) (label : String) (agent : Agent) (sender : Sender)
        (values : (kind : PayloadKind) → kind.Value), session.findSender label = .ok (agent, sender) →
        sender.kind = kind → values kind = value →
        session.handle (.send label values) =
          session.publishAs agent ⟨sender.definition.topic, bytes⟩ sender.options) ∧
      ∀ (journal : Journal) (id : ReceiverId) (receiver : Receiver) (topic : String),
        journal.network.receiver? id = some receiver → receiver.kind = kind →
        (journal.offer ⟨topic, bytes⟩ id).entriesOf id = journal.entriesOf id ++
          .offered id ⟨topic, bytes⟩ receiver.callbacks ::
            receiver.callbacks.map fun callback ↦ .ran id callback ⟨topic, some ⟨kind, value⟩⟩ := by
  have written := PayloadKind.encode_of_isFixed fixed value
  have read : kind.decode? (pack value).encode = some value := by
    have all := PayloadKind.decode?_encode fixed short []
    rwa [List.append_nil] at all
  refine ⟨(pack value).encode, written, ?_, PayloadKind.decode?_encode fixed short, ?_, ?_⟩
  · intro empty
    rw [empty, PayloadKind.decode?_nil] at read
    cases read
  · intro session label agent sender values found same given
    subst same given
    exact Session.handle_send found written
  · intro journal id receiver topic found same
    rw [Journal.entriesOf_offer found, if_pos rfl, Receiver.occurrences, Receiver.read?_of_decode? same read]

/-- An option that holds nothing arrives as such, and a move arrives with its coordinates. -/
theorem payload_arrives_as_sent_nothing :
    (∃ bytes, PayloadKind.maybe.encode none = .ok bytes ∧ bytes ≠ [] ∧
      PayloadKind.maybe.decode? (bytes ++ [0xc0, 7]) = some none) ∧
    ∃ bytes, PayloadKind.command.encode (.move (-33) 65536) = .ok bytes ∧
      PayloadKind.command.decode? (bytes ++ [0x81]) = some (.move (-33) 65536) := by
  obtain ⟨nothing, written, solid, read, -⟩ :=
    payload_arrives_as_sent (show PayloadKind.maybe.isFixed from rfl) (show PayloadKind.maybe.IsShort none from trivial)
  obtain ⟨move, written', -, read', -⟩ := payload_arrives_as_sent (show PayloadKind.command.isFixed from rfl)
    (show PayloadKind.command.IsShort (.move (-33) 65536) from trivial)
  exact ⟨⟨nothing, written, solid, read _⟩, ⟨move, written', read' _⟩⟩

end PubSub
